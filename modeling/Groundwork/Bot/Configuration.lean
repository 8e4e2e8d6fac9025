/-
What the bot needs before it can launch anything: the configuration of a repository
at a commit, and the files that a pull request changes.
-/
import Groundwork.Config
import Groundwork.Service

set_option autoImplicit false

namespace Groundwork.Bot

open Service (Work)

/-- The configuration in a file that was fetched. -/
def configOf (bytes : ByteArray) : Except Failure Config :=
  (Config.load bytes).mapError fun e => ⟨"Failed to load " ++ Config.fileName, e.chain⟩

/-- The configuration of a repository at a ref. -/
def loadConfig (repo : Repository) (ref : String) : Work Config := do
  let bytes ← (Service.ask (.fetchFile repo Config.fileName ref)).within
    ("Failed to fetch " ++ Config.fileName)
  ExceptT.mk (pure (configOf bytes))

/-- The files that a pull request changes. -/
def changedFiles (repo : Repository) (number : Nat) : Work (List Change) :=
  (Service.ask (.listFiles repo number)).within "Failed to list changed files"

end Groundwork.Bot
