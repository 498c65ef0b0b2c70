/-
Replacing a character of a text by others wherever it stands.
-/
namespace ManagedDatabase.Text

/-- A text with other characters in place of one. -/
def replaced (c : Char) (others : List Char) (text : List Char) : List Char :=
  text.flatMap fun d => if d = c then others else [d]

@[simp] theorem replaced_nil {c : Char} {others : List Char} : replaced c others [] = [] := rfl

theorem replaced_cons {c d : Char} {others text : List Char} :
    replaced c others (d :: text) = (if d = c then others else [d]) ++ replaced c others text := rfl

theorem replaced_append {c : Char} {others s t : List Char} :
    replaced c others (s ++ t) = replaced c others s ++ replaced c others t :=
  List.flatMap_append

end ManagedDatabase.Text
