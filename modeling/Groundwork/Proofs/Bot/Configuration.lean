/-
What the bot reads before it can launch anything. There are four ways in which this can
end, and `Reading` tells each with the exchanges that lead to it: the configuration
could not be fetched, or not be loaded; the files could not be listed; or both are
there. Work that reads first ends with the reading or goes on with what was read
(`yields_reading_iff`).
-/
import Groundwork.Bot.Configuration
import Groundwork.Proofs.Config.Loaded
import Groundwork.Proofs.Launch.Fate

set_option autoImplicit false

namespace Groundwork.Bot

/-- How it can end that the configuration of a repository is read, and the files are listed
that a pull request to another one changes. -/
inductive Reading (source repo : Repository) (sha : String) (number : Nat) :
    List Service.Exchange → Except Failure (Config × List Change) → Prop
  | unfetched (failure : Failure) :
    Reading source repo sha number [⟨.fetchFile source Config.fileName sha, .error failure⟩]
      (.error (failure.within ("Failed to fetch " ++ Config.fileName)))
  | unloaded (bytes : ByteArray) (e : Config.Error) (hload : Config.load bytes = .error e) :
    Reading source repo sha number [⟨.fetchFile source Config.fileName sha, .ok bytes⟩]
      (.error ⟨"Failed to load " ++ Config.fileName, e.chain⟩)
  | unlisted (bytes : ByteArray) (c : Config) (hload : Config.load bytes = .ok c)
      (failure : Failure) :
    Reading source repo sha number
      [⟨.fetchFile source Config.fileName sha, .ok bytes⟩, ⟨.listFiles repo number, .error failure⟩]
      (.error (failure.within "Failed to list changed files"))
  | read (bytes : ByteArray) (c : Config) (hload : Config.load bytes = .ok c)
      (changes : List Change) :
    Reading source repo sha number
      [⟨.fetchFile source Config.fileName sha, .ok bytes⟩, ⟨.listFiles repo number, .ok changes⟩]
      (.ok (c, changes))

variable {source repo : Repository} {sha : String} {number : Nat} {log : List Service.Exchange}

/-- Reading only reads. -/
theorem Reading.call_cases {r : Except Failure (Config × List Change)}
    (h : Reading source repo sha number log r) {x : Service.Exchange} (hx : x ∈ log) :
    x.call = .fetchFile source Config.fileName sha ∨ x.call = .listFiles repo number := by
  cases h with
  | unfetched failure => exact .inl (List.mem_singleton.1 hx ▸ rfl)
  | unloaded bytes e hload => exact .inl (List.mem_singleton.1 hx ▸ rfl)
  | unlisted bytes c hload failure =>
    rcases List.mem_cons.1 hx with rfl | hx
    · exact .inl rfl
    · exact .inr (List.mem_singleton.1 hx ▸ rfl)
  | read bytes c hload changes =>
    rcases List.mem_cons.1 hx with rfl | hx
    · exact .inl rfl
    · exact .inr (List.mem_singleton.1 hx ▸ rfl)

theorem yields_loadConfig_ok_iff {c : Config} :
    (loadConfig source sha).run.Yields log (.ok c) ↔ ∃ bytes,
      log = [⟨.fetchFile source Config.fileName sha, .ok bytes⟩] ∧ Config.load bytes = .ok c := by
  unfold loadConfig Service.ask configOf
  rw [Attempt.yields_bind_iff]
  simp only [Attempt.yields_within_iff, Attempt.yields_ask_iff, Attempt.yields_known_iff]
  constructor
  · rintro (⟨f, hf, -⟩ | ⟨bytes, first, second, rfl, ⟨reply, hbytes, rfl⟩, rfl, hload⟩)
    · cases hf
    · cases reply with
      | error f => cases hbytes
      | ok b =>
        cases hbytes
        exact ⟨bytes, rfl, Config.mapError_eq_ok_iff.1 hload.symm⟩
  · rintro ⟨bytes, rfl, hload⟩
    exact .inr ⟨bytes, _, [], rfl, ⟨.ok bytes, rfl, rfl⟩, rfl, by rw [hload]; rfl⟩

theorem yields_loadConfig_error_iff {failure : Failure} :
    (loadConfig source sha).run.Yields log (.error failure) ↔
      (∃ f : Failure, log = [⟨.fetchFile source Config.fileName sha, .error f⟩] ∧
        failure = f.within ("Failed to fetch " ++ Config.fileName)) ∨
      ∃ bytes e, log = [⟨.fetchFile source Config.fileName sha, .ok bytes⟩] ∧
        Config.load bytes = .error e ∧ failure = ⟨"Failed to load " ++ Config.fileName, e.chain⟩ := by
  unfold loadConfig Service.ask configOf
  rw [Attempt.yields_bind_iff]
  simp only [Attempt.yields_within_iff, Attempt.yields_ask_iff, Attempt.yields_known_iff]
  constructor
  · rintro (⟨f, hf, reply, hreply, rfl⟩ | ⟨bytes, first, second, rfl, ⟨reply, hbytes, rfl⟩, rfl, hload⟩)
    · cases hf
      cases reply with
      | ok b => cases hreply
      | error g =>
        cases hreply
        exact .inl ⟨g, rfl, rfl⟩
    · cases reply with
      | error g => cases hbytes
      | ok b =>
        cases hbytes
        cases hc : Config.load bytes with
        | ok c =>
          rw [hc] at hload
          cases hload
        | error e =>
          rw [hc] at hload
          cases hload
          exact .inr ⟨bytes, e, rfl, hc, rfl⟩
  · rintro (⟨f, rfl, rfl⟩ | ⟨bytes, e, rfl, hload, rfl⟩)
    · exact .inl ⟨_, rfl, .error f, rfl, rfl⟩
    · exact .inr ⟨bytes, _, [], rfl, ⟨.ok bytes, rfl, rfl⟩, rfl, by rw [hload]; rfl⟩

theorem yields_changedFiles_iff {r : Except Failure (List Change)} :
    (changedFiles repo number).run.Yields log r ↔ ∃ reply : Except Failure (List Change),
      r = reply.mapError (·.within "Failed to list changed files") ∧
      log = [⟨.listFiles repo number, reply⟩] := by
  unfold changedFiles Service.ask
  rw [Attempt.yields_within_iff]
  simp only [Attempt.yields_ask_iff]

/-- Work that reads first either ends with the reading or goes on with what was read. -/
theorem yields_reading_iff {α : Type} {f : Config → List Change → Service.Work α}
    {r : Except Failure α} :
    (loadConfig source sha >>= fun c => changedFiles repo number >>= f c).run.Yields log r ↔
      (∃ failure, Reading source repo sha number log (.error failure) ∧ r = .error failure) ∨
      ∃ c changes first second, log = first ++ second ∧
        Reading source repo sha number first (.ok (c, changes)) ∧
        (f c changes).run.Yields second r := by
  rw [Attempt.yields_bind_iff]
  simp only [Attempt.yields_bind_iff, yields_loadConfig_error_iff, yields_loadConfig_ok_iff,
    yields_changedFiles_iff]
  constructor
  · rintro (⟨failure, rfl, ⟨g, rfl, rfl⟩ | ⟨bytes, e, rfl, hload, rfl⟩⟩ |
      ⟨c, first, second, rfl, ⟨bytes, rfl, hload⟩, hsecond⟩)
    · exact .inl ⟨_, .unfetched g, rfl⟩
    · exact .inl ⟨_, .unloaded bytes e hload, rfl⟩
    · rcases hsecond with ⟨failure, rfl, reply, hreply, rfl⟩ |
        ⟨changes, listed, last, rfl, ⟨reply, hreply, rfl⟩, hlast⟩
      · cases reply with
        | ok changes => cases hreply
        | error g =>
          cases hreply
          exact .inl ⟨_, .unlisted bytes c hload g, rfl⟩
      · cases reply with
        | error g => cases hreply
        | ok listed =>
          cases hreply
          exact .inr ⟨c, changes, _, last, rfl, .read bytes c hload changes, hlast⟩
  · rintro (⟨failure, hreading, rfl⟩ | ⟨c, changes, first, second, rfl, hreading, hsecond⟩)
    · cases hreading with
      | unfetched g => exact .inl ⟨_, rfl, .inl ⟨g, rfl, rfl⟩⟩
      | unloaded bytes e hload => exact .inl ⟨_, rfl, .inr ⟨bytes, e, rfl, hload, rfl⟩⟩
      | unlisted bytes c hload g =>
        exact .inr ⟨c, [_], [_], rfl, ⟨bytes, rfl, hload⟩, .inl ⟨_, rfl, .error g, rfl, rfl⟩⟩
    · cases hreading with
      | read bytes c hload changes =>
        exact .inr ⟨c, [_], _, rfl, ⟨bytes, rfl, hload⟩,
          .inr ⟨changes, [_], second, rfl, ⟨.ok changes, rfl, rfl⟩, hsecond⟩⟩

end Groundwork.Bot
