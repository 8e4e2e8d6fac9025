/-
Deliveries of events, where there is a secret to sign them with. A delivery gets through
exactly if its body is signed, is not too large and is what its kind asks for
(`eventOf_eq_ok_iff`). One that is not signed is turned away for something in its headers
or for its size (`eventOf_of_unsigned`). So whoever cannot sign learns nothing about a body
from the answer, and nothing is asked of the services.
-/
import Groundwork.Proofs.Config.Loaded
import Groundwork.Proofs.Signature.Digits
import Groundwork.Rehearsal.Session

set_option autoImplicit false

namespace Groundwork.Web

/-! ## What a delivery is turned away for -/

/-- The body of a delivery is signed. -/
def Signed (secret : String) (r : Request) : Prop :=
  ∃ text, r.header? "X-Hub-Signature-256" = some text ∧ Signature.Signs secret r.body text

/-- What a delivery is told that is not signed. The body has no part in it but by its size. -/
def unsignedText (r : Request) : String :=
  if r.header? "X-GitHub-Event" = none then "X-GitHub-Event header missing"
  else if r.isTooLarge then "error reading body"
  else match r.header? "X-Hub-Signature-256" with
    | none => "X-Hub-Signature-256 missing"
    | some text => (Signature.refusalOf text).message

variable {s : Settings} {secret : String} {r : Request}

theorem checkSignature_eq_ok_iff (hsecret : s.github.webhookSecret = some secret) :
    checkSignature s r = .ok () ↔ Signed secret r := by
  unfold checkSignature Signed
  rw [hsecret]
  cases r.header? "X-Hub-Signature-256" with
  | none => simp
  | some text => simp [Config.mapError_eq_ok_iff, Signature.verify_eq_ok_iff]

/-- The steps by which a delivery is read. -/
theorem eventOf_eq (s : Settings) (r : Request) : eventOf s r =
    match r.header? "X-GitHub-Event" with
    | none => .error "X-GitHub-Event header missing"
    | some kind =>
      if r.isTooLarge then .error "error reading body"
      else checkSignature s r >>= fun _ => (Event.parse kind r.body).mapError fun e =>
        "error parsing body: " ++ (Failure.ofChain e.chain).line := by
  unfold eventOf
  cases r.header? "X-GitHub-Event" with
  | none => rfl
  | some kind => cases r.isTooLarge <;> rfl

/-- What gets through is signed, and is parsed from the bytes that were signed. -/
theorem eventOf_eq_ok_iff (hsecret : s.github.webhookSecret = some secret) {e : Event} :
    eventOf s r = .ok e ↔ r.isTooLarge = false ∧ Signed secret r ∧
      ∃ kind, r.header? "X-GitHub-Event" = some kind ∧ Event.parse kind r.body = .ok e := by
  rw [← checkSignature_eq_ok_iff hsecret, eventOf_eq]
  cases r.header? "X-GitHub-Event" with
  | none => simp
  | some kind =>
    cases r.isTooLarge with
    | true => simp
    | false =>
      simp only [Bool.false_eq_true, if_false, Config.bind_eq_ok_iff, Config.mapError_eq_ok_iff,
        Option.some.injEq, exists_eq_left', true_and]
      constructor
      · rintro ⟨u, hsigned, hparse⟩
        exact ⟨hsigned, hparse⟩
      · rintro ⟨hsigned, hparse⟩
        exact ⟨(), hsigned, hparse⟩

theorem checkSignature_of_unsigned (hsecret : s.github.webhookSecret = some secret)
    (hunsigned : ¬ Signed secret r) : checkSignature s r = .error
      (match r.header? "X-Hub-Signature-256" with
        | none => "X-Hub-Signature-256 missing"
        | some text => (Signature.refusalOf text).message) := by
  unfold checkSignature
  rw [hsecret]
  cases htext : r.header? "X-Hub-Signature-256" with
  | none => rfl
  | some text =>
    have hnot : ¬ Signature.Signs secret r.body text := fun h => hunsigned ⟨text, htext, h⟩
    simp only [Signature.verify_of_not_signs hnot]
    rfl

/-- A delivery that is not signed is turned away before its body is parsed. -/
theorem eventOf_of_unsigned (hsecret : s.github.webhookSecret = some secret)
    (hunsigned : ¬ Signed secret r) : eventOf s r = .error (unsignedText r) := by
  rw [eventOf_eq, unsignedText]
  cases r.header? "X-GitHub-Event" with
  | none => rfl
  | some kind =>
    rw [if_neg (by simp), checkSignature_of_unsigned hsecret hunsigned]
    cases r.isTooLarge with
    | true => rfl
    | false => rfl

/-- Two deliveries with the same headers that are both too large, or neither, are told the
same. -/
theorem unsignedText_congr {q : Request} (hheaders : q.headers = r.headers)
    (hsize : q.isTooLarge = r.isTooLarge) : unsignedText q = unsignedText r := by
  have hheader (name : String) : q.header? name = r.header? name := by
    unfold Request.header?
    rw [hheaders]
  unfold unsignedText
  rw [hheader, hheader, hsize]

/-- All that a delivery can be told that is not signed. -/
def unsignedTexts : List String := [
  "X-GitHub-Event header missing", "error reading body", "X-Hub-Signature-256 missing",
  "X-Hub-Signature-256 sha256= prefix missing", "X-Hub-Signature-256 malformed",
  "signature mismatch"]

theorem unsignedText_mem (r : Request) : unsignedText r ∈ unsignedTexts := by
  unfold unsignedText
  split
  · decide
  split
  · decide
  split
  · decide
  · next text _ =>
    have herrors : ∀ e : Signature.Error, e.message ∈ unsignedTexts := by
      intro e
      cases e <;> decide
    exact herrors _

/-! ## At the route -/

theorem taskOf_of_webhookPath (hpath : r.path = "/api/github/webhook") :
    taskOf s .main r = if r.method = "POST" then webhook s r
      else .answer { status := 405, allow := some "POST" } := by
  have hroute : route? .main r.path = some .webhook := by
    rw [hpath]
    rfl
  unfold taskOf
  rw [hroute]
  by_cases hmethod : r.method = "POST"
  · rw [if_pos hmethod, hmethod]
    rfl
  · have hother : Route.webhook.methods.contains r.method = false := by
      simpa [Route.methods] using hmethod
    rw [if_neg hmethod]
    simp only [hother, Bool.false_eq_true, if_false]
    rfl

/-- A delivery gets through: it is answered with 200, or its event is handled. -/
def GetsThrough (s : Settings) (r : Request) : Prop :=
  (∃ e, taskOf s .main r = .handle e) ∨ ∃ a, taskOf s .main r = .answer a ∧ a.status = 200

theorem webhook_of_ok {e : Event} (h : eventOf s r = .ok e) :
    webhook s r = .handle e ∨ ∃ text, webhook s r = textAnswer 200 text := by
  unfold webhook
  rw [h]
  cases e with
  | pullRequest e => exact .inl rfl
  | comment e => exact .inl rfl
  | ping => exact .inr ⟨_, rfl⟩
  | other kind => exact .inr ⟨_, rfl⟩

theorem webhook_of_error {wrong : String} (h : eventOf s r = .error wrong) :
    webhook s r = textAnswer 400 wrong := by
  unfold webhook
  rw [h]

theorem getsThrough_iff (hpath : r.path = "/api/github/webhook") :
    GetsThrough s r ↔ r.method = "POST" ∧ ∃ e, eventOf s r = .ok e := by
  unfold GetsThrough
  rw [taskOf_of_webhookPath hpath]
  by_cases hmethod : r.method = "POST"
  · simp only [hmethod, if_true, true_and]
    cases hevent : eventOf s r with
    | error wrong =>
      rw [webhook_of_error hevent]
      simp [textAnswer]
    | ok e =>
      refine iff_of_true ?_ ⟨e, rfl⟩
      rcases webhook_of_ok hevent with htask | ⟨text, htask⟩
      · exact .inl ⟨e, htask⟩
      · exact .inr ⟨_, htask, rfl⟩
  · simp [hmethod]

/-- An event that is handled is the one that was read. -/
theorem eventOf_of_handle {e : Event} (h : webhook s r = .handle e) : eventOf s r = .ok e := by
  cases hevent : eventOf s r with
  | error wrong =>
    rw [webhook_of_error hevent] at h
    cases h
  | ok e' =>
    unfold webhook at h
    rw [hevent] at h
    cases e' <;> cases h <;> rfl

/-- A delivery that is not signed is answered at once. -/
theorem taskOf_of_unsigned (hsecret : s.github.webhookSecret = some secret)
    (hpath : r.path = "/api/github/webhook") (hunsigned : ¬ Signed secret r) :
    taskOf s .main r = if r.method = "POST" then textAnswer 400 (unsignedText r)
      else .answer { status := 405, allow := some "POST" } := by
  rw [taskOf_of_webhookPath hpath, webhook_of_error (eventOf_of_unsigned hsecret hunsigned)]

/-- **Signed before anything else.** Where there is a secret, the signatures that are
accepted are the name of the method with the 64 digits of the code of the body, and no
other texts. A delivery gets through exactly if it is posted, is not too large, is signed
so, and its body is what its kind asks for; the event that is handled is read from the
very body that is signed. One that is not signed is answered at once with one of a few
texts, which is the same for any other body that is not signed, and leaves the service and
all that was asked of others as they are. -/
theorem signed_before_all (hsecret : s.github.webhookSecret = some secret)
    (hpath : r.path = "/api/github/webhook") :
    (∀ message text, Signature.verify secret text message = .ok () ↔
      Signature.Signs secret message text) ∧
    (∀ message text, Signature.Signs secret message text → text.toList.length = 71) ∧
    (GetsThrough s r ↔ r.method = "POST" ∧ r.isTooLarge = false ∧ Signed secret r ∧
      ∃ kind e, r.header? "X-GitHub-Event" = some kind ∧ Event.parse kind r.body = .ok e) ∧
    (∀ e, taskOf s .main r = .handle e → Signed secret r ∧
      ∃ kind, r.header? "X-GitHub-Event" = some kind ∧ Event.parse kind r.body = .ok e) ∧
    (¬ Signed secret r → ∃ a, taskOf s .main r = .answer a ∧
      (a.status = 405 ∧ a.body = .empty ∨
        a.status = 400 ∧ ∃ text ∈ unsignedTexts, a.body = .text text) ∧
      (∀ x : Rehearsal.Session, x.settings = s → x.serve .main r = (x, a)) ∧
      ∀ q : Request, q.method = r.method → q.target = r.target → q.headers = r.headers →
        q.isTooLarge = r.isTooLarge → ¬ Signed secret q → taskOf s .main q = .answer a) := by
  refine ⟨fun _ _ => Signature.verify_eq_ok_iff, fun _ _ h => h.length_eq, ?_, ?_, ?_⟩
  · rw [getsThrough_iff hpath]
    simp only [eventOf_eq_ok_iff hsecret]
    constructor
    · rintro ⟨hmethod, e, hsize, hsigned, kind, hkind, hparse⟩
      exact ⟨hmethod, hsize, hsigned, kind, e, hkind, hparse⟩
    · rintro ⟨hmethod, hsize, hsigned, kind, e, hkind, hparse⟩
      exact ⟨hmethod, e, hsize, hsigned, kind, hkind, hparse⟩
  · intro e htask
    rw [taskOf_of_webhookPath hpath] at htask
    split at htask
    · exact ((eventOf_eq_ok_iff hsecret).1 (eventOf_of_handle htask)).2
    · cases htask
  · intro hunsigned
    have htask := taskOf_of_unsigned hsecret hpath hunsigned
    -- both answers are known now, and the rest is said of whichever it is
    obtain ⟨a, ha, hshape⟩ : ∃ a, taskOf s .main r = .answer a ∧
        (a.status = 405 ∧ a.body = .empty ∨
          a.status = 400 ∧ ∃ text ∈ unsignedTexts, a.body = .text text) := by
      rw [htask]
      split
      · exact ⟨_, rfl, .inr ⟨rfl, _, unsignedText_mem r, rfl⟩⟩
      · exact ⟨_, rfl, .inl ⟨rfl, rfl⟩⟩
    refine ⟨a, ha, hshape, ?_, ?_⟩
    · rintro x rfl
      unfold Rehearsal.Session.serve
      rw [ha]
    · intro q hmethod htarget hheaders hsize hq
      have hqpath : q.path = "/api/github/webhook" := by
        rw [← hpath]
        unfold Request.path
        rw [htarget]
      rw [taskOf_of_unsigned hsecret hqpath hq, hmethod, unsignedText_congr hheaders hsize, ← htask,
        ha]

/-! ## A delivery that gets through -/

/-- Settings with a secret. -/
def signingSettings : Settings where
  server := { port := 8080 }
  github := { token := "token", webhookSecret := some "secret" }
  scheduler := { url := "http://scheduler", namespaceName := "jobs" }

/-- The signature of an empty object, with large letters among its digits. -/
def pingSignature : String :=
  "sha256=" ++ String.ofList
    ((Hex.encode (Hmac.sign "secret".toUTF8 "\x7b\x7d".toUTF8)).map Char.toUpper)

/-- A ping that carries it. -/
def ping : Request where
  method := "POST"
  target := "/api/github/webhook"
  headers := [("X-GitHub-Event", "ping"), ("X-Hub-Signature-256", pingSignature)]
  body := "\x7b\x7d".toUTF8

theorem signs_pingSignature : Signature.Signs "secret" ping.body pingSignature := by
  have hcase : ∀ n : Fin 16, (Hex.digit n).toUpper.toLower = Hex.digit n := by decide
  refine ⟨_, rfl, ?_⟩
  rw [String.toList_ofList, List.map_map]
  refine (List.map_congr_left fun c hc => ?_).trans (List.map_id _)
  obtain ⟨n, rfl⟩ := Hex.of_mem_encode hc
  exact hcase n

/-- It can be read as a header. -/
theorem header?_ping : ping.header? "X-Hub-Signature-256" = some pingSignature := by
  have hdigits : ∀ n : Fin 16, Request.isHeaderChar (Hex.digit n).toUpper = true := by decide
  have hread : pingSignature.toList.all Request.isHeaderChar = true := by
    unfold pingSignature
    simp only [String.toList_append, String.toList_ofList, List.all_append, List.all_map]
    refine Bool.and_eq_true_iff.2 ⟨by decide, List.all_eq_true.2 fun c hc => ?_⟩
    obtain ⟨n, rfl⟩ := Hex.of_mem_encode hc
    exact hdigits n
  have hother : ("X-GitHub-Event".map Char.toLower == "X-Hub-Signature-256".map Char.toLower) =
      false := by decide +kernel
  unfold Request.header? ping
  rw [List.find?_cons_of_neg (by simpa using hother), List.find?_cons_of_pos (by simp), Option.map_some,
    Option.filter_some, if_pos hread]

/-- It is taken for what it is. -/
theorem signed_before_all_ping :
    signingSettings.github.webhookSecret = some "secret" ∧ ping.path = "/api/github/webhook" ∧
      GetsThrough signingSettings ping := by
  have hpath : ping.path = "/api/github/webhook" := by decide +kernel
  have hsize : ping.isTooLarge = false := by decide +kernel
  have hkind : ping.header? "X-GitHub-Event" = some "ping" := by decide +kernel
  have hsigned : Signed "secret" ping := ⟨pingSignature, header?_ping, signs_pingSignature⟩
  exact ⟨rfl, hpath, (signed_before_all rfl hpath).2.2.1.2 ⟨rfl, hsize, hsigned, _, .ping, hkind, rfl⟩⟩

end Groundwork.Web
