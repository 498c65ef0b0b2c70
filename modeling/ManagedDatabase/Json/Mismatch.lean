/-
Why a document is not of the expected kind, and the words for it. What was found is described by
its kind, a scalar also by its value; a number with fraction has the layout that it has in a
document.
-/
import ManagedDatabase.Json.Printer
import ManagedDatabase.Text.Escaped

namespace ManagedDatabase.Json

/-- Why a document cannot be read as the expected thing. -/
inductive Mismatch
  /-- Another kind of document. -/
  | kind (found expected : String)
  /-- The right kind of document with an impossible value. -/
  | value (found expected : String)
  /-- A name that is none of the known ones. -/
  | variant (found : String) (known : List String)
  /-- More items than there are fields. -/
  | length (found : Nat)
  /-- A text that does not denote a value of the field. -/
  | unreadable (reason : String)
  deriving DecidableEq, Repr

/-- A name in grave accents. -/
def ticked (s : String) : String := "`" ++ s ++ "`"

def Mismatch.message : Mismatch → String
  | .kind found expected => "invalid type: " ++ found ++ ", expected " ++ expected
  | .value found expected => "invalid value: " ++ found ++ ", expected " ++ expected
  | .variant found known =>
    "unknown variant " ++ ticked found ++ ", expected " ++ " or ".intercalate (known.map ticked)
  | .length found => "invalid length " ++ toString found ++ ", expected fewer elements in array"
  | .unreadable reason => reason

/-- A document described by its kind, a scalar with its value. -/
def describe : Json → String
  | .null => "null"
  | .bool b => "boolean " ++ ticked (if b then "true" else "false")
  | .whole n => "integer " ++ ticked (toString n)
  | .double negative x => "floating point " ++ ticked (compact (.double negative x))
  | .text s => "string " ++ Text.escaped s
  | .array _ => "sequence"
  | .object _ => "map"
  | .illegible => "illegible"

/-- The mismatch of a document of another kind. -/
def unexpected (j : Json) (expected : String) : Mismatch := .kind (describe j) expected

/-- A text. -/
def asText : Json → Except Mismatch String
  | .text s => .ok s
  | j => .error (unexpected j "a string")

/-- A natural number below 2^64. -/
def asUInt64 : Json → Except Mismatch Nat
  | .whole n =>
    if 0 ≤ n then .ok n.toNat else .error (.value (describe (.whole n)) "u64")
  | j => .error (unexpected j "u64")

end ManagedDatabase.Json
