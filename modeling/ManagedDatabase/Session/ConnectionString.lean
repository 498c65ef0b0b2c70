/-
Connection strings, in the form that each engine's own tools read. PostgreSQL takes pairs of key and
value, a value bare or in single quotes with backslashes before quotes and backslashes; MySQL takes
user, password, address and database between fixed separators.
-/
import ManagedDatabase.Session.Basic
import ManagedDatabase.Text.Blank
import ManagedDatabase.Text.Replaced

namespace ManagedDatabase.Session

/-- Whether a value may stand bare: it is not empty and has no blank, quote or backslash. -/
def isBareValue (value : List Char) : Bool :=
  !value.isEmpty && value.all fun c => !(Text.isBlank c || c == '\x27' || c == '\\')

/-- A text with a backslash before every quote and backslash. -/
def backslashed : List Char → List Char
  | [] => []
  | c :: cs => if c == '\x27' || c == '\\' then '\\' :: c :: backslashed cs else c :: backslashed cs

/-- The one pass over a text does what two do, the backslashes first and then the quotes. -/
theorem backslashed_eq_replaced (value : List Char) : backslashed value =
    Text.replaced '\x27' ['\\', '\x27'] (Text.replaced '\\' ['\\', '\\'] value) := by
  induction value with
  | nil => rfl
  | cons c cs ih =>
    rw [Text.replaced_cons, Text.replaced_append, backslashed, ih]
    by_cases quote : c = '\x27'
    · simp [quote, Text.replaced_cons]
    · by_cases backslash : c = '\\' <;> simp [quote, backslash, Text.replaced_cons]

/-- A value of a pair. -/
def pairValue (value : List Char) : List Char :=
  if isBareValue value then value else '\x27' :: (backslashed value ++ ['\x27'])

/-- The pairs of a PostgreSQL connection string. -/
def pairs (s : Session) (endpoint database : String) : List (String × String) := [
  ("host", endpoint), ("port", toString (s.portAt endpoint)), ("user", s.credentials.username),
  ("password", s.credentials.password), ("dbname", s.effectiveDatabase database)]

/-- One pair. -/
def pairText (p : String × String) : List Char := p.1.toList ++ '=' :: pairValue p.2.toList

def postgresString (s : Session) (endpoint database : String) : List Char :=
  [' '].intercalate ((s.pairs endpoint database).map pairText)

def mysqlString (s : Session) (endpoint database : String) : List Char :=
  s.credentials.username.toList ++ ':' :: s.credentials.password.toList ++ "@tcp(".toList
    ++ endpoint.toList ++ ':' :: (toString (s.portAt endpoint)).toList ++ ")/".toList
    ++ (s.effectiveDatabase database).toList

/-- How to reach a database on an endpoint; the empty name means the administrative database. -/
def connectionString (s : Session) (endpoint database : String) : String :=
  String.ofList <|
    match s.engine with
    | .postgresql => s.postgresString endpoint database
    | .mysql => s.mysqlString endpoint database

end ManagedDatabase.Session
