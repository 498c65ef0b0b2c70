/-
Doubling, the way in which SQL lets a quote stand inside quotes: each of some characters is written
twice, all others once.
-/
namespace ManagedDatabase.Sql

/-- A text with the characters of a kind written twice. -/
def doubled (special : Char → Bool) : List Char → List Char
  | [] => []
  | c :: cs => if special c then c :: c :: doubled special cs else c :: doubled special cs

end ManagedDatabase.Sql
