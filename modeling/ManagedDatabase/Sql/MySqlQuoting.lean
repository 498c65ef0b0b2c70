/-
Names and texts inside MySQL statements. A name stands between grave accents, where an accent is
written twice and a backslash means nothing. A text stands in single quotes, where a quote and a
backslash are written twice. A user is scoped to connections from the server's own host.
-/
import ManagedDatabase.Sql.Doubling
import ManagedDatabase.Text.Replaced

namespace ManagedDatabase.Sql.MySql

/-- The quote of names. -/
def accent : Char := '\x60'

/-- A name as it stands in a statement. -/
def identifier (name : List Char) : List Char :=
  accent :: (doubled (· == accent) name ++ [accent])

/-- A text as it stands in a statement. -/
def literal (value : List Char) : List Char :=
  '\x27' :: (doubled (fun c => c == '\x27' || c == '\\') value ++ ['\x27'])

/-- The one pass over a text does what two do, the backslashes first and then the quotes. -/
theorem literal_eq_replaced (value : List Char) :
    literal value = '\x27' ::
      (Text.replaced '\x27' ['\x27', '\x27'] (Text.replaced '\\' ['\\', '\\'] value) ++ ['\x27']) := by
  suffices doubled (fun c => c == '\x27' || c == '\\') value =
      Text.replaced '\x27' ['\x27', '\x27'] (Text.replaced '\\' ['\\', '\\'] value) by
    rw [literal, this]
  induction value with
  | nil => rfl
  | cons c cs ih =>
    rw [Text.replaced_cons, Text.replaced_append, doubled, ih]
    by_cases quote : c = '\x27'
    · simp [quote, Text.replaced_cons]
    · by_cases backslash : c = '\\' <;> simp [quote, backslash, Text.replaced_cons]

/-- A user as it stands in a statement. -/
def account (name : List Char) : List Char := literal name ++ "@'localhost'".toList

end ManagedDatabase.Sql.MySql
