/-
Pull requests: two branches, of which one is to be merged into the other.
-/
import Groundwork.Repository

set_option autoImplicit false

namespace Groundwork

/-- A branch, at one of its commits. -/
structure Branch where
  ref : String
  sha : String
  /-- The repository that it belongs to; there is none once a fork was deleted. -/
  repository : Option Repository := none
deriving DecidableEq, Repr

/-- A pull request. -/
structure PullRequest where
  url : String
  number : Nat
  head : Branch
  base : Branch
  /-- Where its comments are posted. -/
  commentsUrl : String
deriving DecidableEq, Repr

namespace PullRequest

/-- The repository that the changes come from, or else the one that they are for. -/
def source (p : PullRequest) : Option Repository :=
  p.head.repository.orElse fun _ => p.base.repository

/-- Where comments on a pull request are posted, if only its own address is known: they
belong to the issue with its number. -/
def defaultCommentsUrl (url : String) : String :=
  String.ofList (Text.replaceFirst "/pulls/".toList "/issues/".toList url.toList) ++ "/comments"

end PullRequest

end Groundwork
