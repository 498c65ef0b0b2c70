/-
Documents in JavaScript Object Notation. An object keeps its members in the order written, a
repeated key included, because a reader may have to refuse repetitions; `member?` takes the last
one, and `normal` sorts the members and keeps the last of each key.

Numbers are whole, between -2^63 and 2^64 - 1, or binary floating point numbers: `3` and `3.0`
are different documents.

A document may hold parts that are well formed and denote nothing, which matters only to those who
read them: half a surrogate pair in a text, a number too large for a double, an object with such a
key. They are all the same `illegible` part.
-/
import ManagedDatabase.Decimal.Shortest

namespace ManagedDatabase

inductive Json
  | null
  | bool (value : Bool)
  | whole (value : Int)
  | double (negative : Bool) (magnitude : Binary64)
  | text (value : String)
  | array (items : List Json)
  | object (members : List (String × Json))
  | illegible

namespace Json

/-- The values under a key of an object, in the order written. -/
def valuesAt (key : String) : Json → List Json
  | .object members => (members.filter fun m => m.1 == key).map (·.2)
  | _ => []

/-- The value of a key that may be missing; none at all if the key is repeated. -/
def sole? (key : String) (j : Json) : Option (Option Json) :=
  match j.valuesAt key with
  | [] => some none
  | [value] => some (some value)
  | _ => none

/-- The value of a key of an object, the last one written. -/
def member? (key : String) : Json → Option Json
  | .object members => (members.reverse.find? fun m => m.1 == key).map (·.2)
  | _ => none

/-- The value of a key, unless it is missing or null. -/
def present? (key : String) (j : Json) : Option Json :=
  match j.member? key with
  | some .null => none
  | found => found

def isNull : Json → Bool
  | .null => true
  | _ => false

def text? : Json → Option String
  | .text s => some s
  | _ => none

def whole? : Json → Option Int
  | .whole n => some n
  | _ => none

/-- The items of an array; nothing else has items. -/
def items : Json → List Json
  | .array items => items
  | _ => []

/-- The members of an object; nothing else has members. -/
def members : Json → List (String × Json)
  | .object members => members
  | _ => []

/-- The text under a key, if there is one. -/
def textAt? (key : String) (j : Json) : Option String := (j.member? key).bind text?

/-- The whole number under a key, if there is one. -/
def wholeAt? (key : String) (j : Json) : Option Int := (j.member? key).bind whole?

/-- Members in ascending order of their keys, with one more; a present key gets the new value. -/
def putMember (key : String) (value : Json) : List (String × Json) → List (String × Json)
  | [] => [(key, value)]
  | (k, v) :: rest =>
    if key < k then (key, value) :: (k, v) :: rest
    else if k < key then (k, v) :: putMember key value rest
    else (key, value) :: rest

/-- The nesting that readers follow: at most 127 arrays and objects in one another. -/
def nestingLimit : Nat := 127

mutual

/-- Whether all of a document can be read, where it may be nested to some depth. -/
def isLegible : Nat → Json → Bool
  | _, .illegible => false
  | 0, .array _ | 0, .object _ => false
  | n + 1, .array items => areLegible n items
  | n + 1, .object members => areMembersLegible n members
  | _, _ => true

def areLegible : Nat → List Json → Bool
  | _, [] => true
  | n, j :: js => isLegible n j && areLegible n js

def areMembersLegible : Nat → List (String × Json) → Bool
  | _, [] => true
  | n, (_, j) :: ms => isLegible n j && areMembersLegible n ms

end

mutual

/-- The document with the members of every object sorted, the last of each key kept. -/
def normal : Json → Json
  | .array items => .array (normalItems items)
  | .object members => .object ((normalMembers members).foldl (fun ms m => putMember m.1 m.2 ms) [])
  | j => j

def normalItems : List Json → List Json
  | [] => []
  | j :: js => normal j :: normalItems js

def normalMembers : List (String × Json) → List (String × Json)
  | [] => []
  | (k, j) :: ms => (k, normal j) :: normalMembers ms

end

/-- An optional value, null if there is none. -/
def ofOption {α : Type} (f : α → Json) : Option α → Json
  | some a => f a
  | none => .null

/-- A member that is left out if there is no value. -/
def optional {α : Type} (key : String) (f : α → Json) : Option α → List (String × Json)
  | some a => [(key, f a)]
  | none => []

/-- An object of texts. -/
def ofTexts (members : List (String × String)) : Json :=
  .object (members.map fun m => (m.1, .text m.2))

end Json
end ManagedDatabase
