/-
HMAC-SHA256: digests of messages that only those who know a key can make.
-/
import Groundwork.Digest.Sha256

set_option autoImplicit false

namespace Groundwork.Hmac

/-- A key as a block of 64 bytes; a longer one is replaced by its digest. -/
def keyBlock (key : ByteArray) : List UInt8 :=
  let bytes := if 64 < key.size then Sha256.digest key else key.data.toList
  bytes ++ List.replicate (64 - bytes.length) 0

/-- The authentication code of a message under a key, 32 bytes. -/
def sign (key message : ByteArray) : List UInt8 :=
  let block := keyBlock key
  let inner := Sha256.digest ((⟨(block.map (· ^^^ 0x36)).toArray⟩ : ByteArray) ++ message)
  Sha256.digest ⟨(block.map (· ^^^ 0x5c) ++ inner).toArray⟩

/-- An authentication code has 32 bytes. -/
theorem length_sign (key message : ByteArray) : (sign key message).length = 32 := rfl

end Groundwork.Hmac
