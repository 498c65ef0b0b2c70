/-
Outlines: values under names and in lists, laid out line by line as a YAML document in block style.
Parts of a named part are indented, items of a list are marked with a dash. Values are written as
they are, so they must be such that they need no quotes.
-/
namespace ManagedDatabase

inductive Outline
  | value (text : String)
  | fields (members : List (String × Outline))
  | items (members : List Outline)

namespace Outline

/-- Lines below their first one, as an item of a list. -/
def dashed : List String → List String
  | [] => []
  | first :: rest => ("- " ++ first) :: rest.map ("  " ++ ·)

mutual

/-- The lines of an outline. -/
def lines : Outline → List String
  | value text => [text]
  | fields members => fieldLines members
  | items members => itemLines members

def fieldLines : List (String × Outline) → List String
  | [] => []
  | (name, value text) :: rest => (name ++ ": " ++ text) :: fieldLines rest
  | (name, fields members) :: rest =>
    (name ++ ":") :: (fieldLines members).map ("  " ++ ·) ++ fieldLines rest
  | (name, items members) :: rest => (name ++ ":") :: itemLines members ++ fieldLines rest

def itemLines : List Outline → List String
  | [] => []
  | o :: rest => dashed (lines o) ++ itemLines rest

end

/-- The whole document. -/
def text (o : Outline) : String := String.join (o.lines.map (· ++ "\n"))

/-- A list of values. -/
def values (texts : List String) : Outline := items (texts.map value)

end Outline
end ManagedDatabase
