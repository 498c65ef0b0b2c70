/-
Texts as bytes: UTF-8 both ways. `decodeUtf8` accepts exactly the UTF-8 encodings of texts, so
overlong forms, surrogates and cut sequences are refused; `readUtf8` reads any bytes and puts a
replacement character where they are not UTF-8.
-/
namespace ManagedDatabase.Text

/-- The UTF-8 bytes of a text. -/
def encodeUtf8 (s : String) : List UInt8 :=
  s.toByteArray.data.toList

/-- The text whose UTF-8 bytes are given, if there is one. -/
def decodeUtf8 (bytes : List UInt8) : Option String :=
  String.fromUTF8? ⟨bytes.toArray⟩

/-- The start of a character of several bytes: its bits so far, how many bytes are missing, and the
least and greatest byte that may come next. -/
structure Partial where
  bits : Nat
  missing : Nat
  low : Nat
  high : Nat

/-- The start that a first byte makes, if it is one of several. -/
def Partial.ofLead? (b : Nat) : Option Partial :=
  if 0xC2 ≤ b && b ≤ 0xDF then some ⟨b - 0xC0, 1, 0x80, 0xBF⟩
  else if b = 0xE0 then some ⟨0, 2, 0xA0, 0xBF⟩
  else if b = 0xED then some ⟨0xD, 2, 0x80, 0x9F⟩
  else if 0xE1 ≤ b && b ≤ 0xEF then some ⟨b - 0xE0, 2, 0x80, 0xBF⟩
  else if b = 0xF0 then some ⟨0, 3, 0x90, 0xBF⟩
  else if 0xF1 ≤ b && b ≤ 0xF3 then some ⟨b - 0xF0, 3, 0x80, 0xBF⟩
  else if b = 0xF4 then some ⟨4, 3, 0x80, 0x8F⟩
  else none

/-- The character that stands for bytes that are not UTF-8. -/
def replacement : Char := '\ufffd'

/-- What a byte gives at the start of a character: characters, and the start of one. -/
def readLead (b : Nat) : List Char × Option Partial :=
  if b < 0x80 then ([Char.ofNat b], none)
  else
    match Partial.ofLead? b with
    | some p => ([], some p)
    | none => ([replacement], none)

/-- The characters in some bytes after the start of one. Where a character breaks off, all of its
bytes together are replaced. -/
def readPartial : Option Partial → List Nat → List Char
  | none, [] => []
  | some _, [] => [replacement]
  | none, b :: bs =>
    let (cs, next) := readLead b
    cs ++ readPartial next bs
  | some p, b :: bs =>
    if p.low ≤ b && b ≤ p.high then
      let bits := 64 * p.bits + (b - 0x80)
      if p.missing = 1 then Char.ofNat bits :: readPartial none bs
      else readPartial (some ⟨bits, p.missing - 1, 0x80, 0xBF⟩) bs
    else
      let (cs, next) := readLead b
      replacement :: cs ++ readPartial next bs

/-- The text in some bytes. -/
def readUtf8 (bytes : List UInt8) : String :=
  String.ofList (readPartial none (bytes.map UInt8.toNat))

end ManagedDatabase.Text
