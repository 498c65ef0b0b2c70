/-
Values as a log line shows them in full: a name with its parts behind it, in parentheses or, where they
have names of their own, in braces. Lists stand in brackets and tables in braces without a name.
-/
namespace ManagedDatabase.Text

/-- A name with parts in parentheses. -/
def shownTuple (name : String) (parts : List String) : String :=
  name ++ "(" ++ String.intercalate ", " parts ++ ")"

/-- Parts with their names. -/
def shownParts (parts : List (String × String)) : String :=
  String.intercalate ", " (parts.map fun p => p.1 ++ ": " ++ p.2)

/-- A name with named parts in braces. -/
def shownRecord (name : String) (parts : List (String × String)) : String :=
  name ++ " \x7b " ++ shownParts parts ++ " \x7d"

def shownList (items : List String) : String := "[" ++ String.intercalate ", " items ++ "]"

def shownTable (entries : List (String × String)) : String := "\x7b" ++ shownParts entries ++ "\x7d"

end ManagedDatabase.Text
