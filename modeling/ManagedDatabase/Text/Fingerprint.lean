/-
Fingerprints of texts: one number of 64 bits for all bytes of a text, into which the bytes go one
after the other. There are more texts than fingerprints, so different texts may have the same one.
-/
import ManagedDatabase.Text.Bytes

namespace ManagedDatabase.Text

/-- A fingerprint after one more byte. -/
def absorb (h : UInt64) (b : UInt8) : UInt64 := (h ^^^ b.toUInt64) * 0x100000001b3

/-- The fingerprint of some bytes (64-bit FNV-1a). -/
def fingerprint (bytes : List UInt8) : UInt64 := bytes.foldl absorb 0xcbf29ce484222325

theorem fingerprint_append (bytes later : List UInt8) :
    fingerprint (bytes ++ later) = later.foldl absorb (fingerprint bytes) := List.foldl_append

example : fingerprint (encodeUtf8 "foo" ++ encodeUtf8 "bar") = 0x85944171f73967e8 := by
  decide +kernel

end ManagedDatabase.Text
