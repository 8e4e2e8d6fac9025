/-
Proofs that a message comes from someone who knows a secret: the signatures of
events, and tokens.
-/
import Groundwork.Bytes.Hex
import Groundwork.Digest.Hmac

set_option autoImplicit false

namespace Groundwork.Signature

/-- Why a signature is refused. -/
inductive Error where
  /-- It does not start with the name of its method. -/
  | method
  /-- It is not made of hexadecimal digits. -/
  | malformed
  /-- It is that of another message, or made with another secret. -/
  | mismatch
deriving DecidableEq, Repr

/-- What is said about it. -/
def Error.message : Error → String
  | method => "X-Hub-Signature-256 sha256= prefix missing"
  | malformed => "X-Hub-Signature-256 malformed"
  | mismatch => "signature mismatch"

/-- What a signature starts with. -/
def method : List Char := "sha256=".toList

/-- Checks the signature of a message. -/
def verify (secret : String) (signature : String) (message : ByteArray) : Except Error Unit :=
  let cs := signature.toList
  if !method.isPrefixOf cs then .error .method
  else match Hex.decode? (cs.drop method.length) with
    | none => .error .malformed
    | some code =>
      -- A code of another length is none for any message.
      if code = Hmac.sign secret.toUTF8 message then .ok () else .error .mismatch

/-- Whether a token is the expected one. The two are compared by their codes, so that
the time taken tells nothing about them. -/
def sameToken (expected given : String) : Bool :=
  Hmac.sign expected.toUTF8 expected.toUTF8 == Hmac.sign expected.toUTF8 given.toUTF8

/-- A token is the same as itself. -/
theorem sameToken_self (token : String) : sameToken token token = true := by
  simp [sameToken]

end Groundwork.Signature
