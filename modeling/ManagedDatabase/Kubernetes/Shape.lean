/-
The shapes of Kubernetes objects, as far as a client insists on them. A member that an object's
shape does not know is passed over, legible or not; one that is null counts as missing, and nothing
is required unless it is marked so; but what is there must have its shape, however little the
program cares for it.
-/
import ManagedDatabase.Json.Basic
import ManagedDatabase.Moment
import ManagedDatabase.Text.Base64

namespace ManagedDatabase.Kubernetes

inductive Shape
  /-- Whatever is passed over. -/
  | anything
  /-- Whatever can be read. -/
  | document
  | text
  | flag
  /-- A signed number of some bits. -/
  | whole (bits : Nat)
  /-- A date and time. -/
  | time
  | wholeOrText
  /-- Bytes in base64; null stands for no bytes. -/
  | bytes
  /-- One text and no other; not even null. -/
  | exactly (value : String)
  | list (item : Shape)
  | table (value : Shape)
  | record (required : List String) (fields : List (String × Shape))

namespace Shape

/-- Whether a number fits into some bits with sign. -/
def fits (bits : Nat) (n : Int) : Bool :=
  let bound : Int := Nat.pow 2 (bits - 1)
  n < bound && -bound ≤ n

/-- Whether null stands for a missing value. -/
def nullable : Shape → Bool
  | exactly _ => false
  | _ => true

mutual

/-- Whether a document that may be nested to some depth has a shape. -/
def admits : Nat → Json → Shape → Bool
  | _, _, anything => true
  | n, j, document => j.isLegible n
  | _, .text _, text => true
  | _, .bool _, flag => true
  | _, .whole k, whole bits => fits bits k
  | _, .text s, time => Moment.isText s
  | _, .whole k, wholeOrText => fits 32 k
  | _, .text _, wholeOrText => true
  | _, .text s, bytes => (Text.Base64.decode s.toList).isSome
  | _, .null, bytes => true
  | _, .text s, exactly value => s = value
  | n + 1, .array items, list item => admitsItems n items item
  | n + 1, .object members, table value => admitsValues n members value
  | n + 1, .object members, record required fields =>
    required.all (fun key => members.any fun m => m.1 == key && !m.2.isNull)
      && admitsMembers n members fields
  | _, _, _ => false

def admitsItems : Nat → List Json → Shape → Bool
  | _, [], _ => true
  | n, j :: js, item => admits n j item && admitsItems n js item

def admitsValues : Nat → List (String × Json) → Shape → Bool
  | _, [], _ => true
  | n, (_, j) :: ms, value => admits n j value && admitsValues n ms value

def admitsMembers : Nat → List (String × Json) → List (String × Shape) → Bool
  | _, [], _ => true
  | n, (key, j) :: ms, fields =>
    (match fields.lookup key with
      | none => true
      | some shape => (j.isNull && shape.nullable) || admits n j shape)
        && admitsMembers n ms fields

end

/-- Whether a document has a shape. -/
def accepts (shape : Shape) (j : Json) : Bool := admits Json.nestingLimit j shape

/-- Several fields of one shape. -/
def each (shape : Shape) (keys : List String) : List (String × Shape) := keys.map (·, shape)

/-- A record that requires nothing. -/
def fields (fs : List (String × Shape)) : Shape := record [] fs

/-- A record of texts. -/
def textFields (keys : List String) : Shape := fields (each text keys)

def texts : Shape := list text

def textTable : Shape := table text

end Shape
end ManagedDatabase.Kubernetes
