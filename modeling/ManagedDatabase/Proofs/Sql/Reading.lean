/-
How a server reads a statement, as far as it has to: from the left, fixed text by fixed text and
token by token. A template says which fixed texts a statement has and where a name or a password
stands between them as one token; reading a text by a template gives the values of these tokens, and
nothing if any character is left over or out of place.

Doubling is undone by `readQuoted`, which stops at the quote that ends the token whatever follows
(`readQuoted_doubled`). `Lexicon.read_render` carries this over to whole statements: where each token
alone is read back, in front of anything that can follow it, so is the statement.
-/
import ManagedDatabase.Session.Operation

namespace ManagedDatabase.Sql

/-- What a token stands for, and what follows the token. -/
abbrev Reader := List Char → Option (List Char × List Char)

/-- The text inside quotes, where the opening quote is behind. A special character stands for itself
where it is written twice; alone the quote ends the text, and no other special character stands
alone. -/
def readQuoted (quote : Char) (special : Char → Bool) : Reader
  | [] => none
  | [c] => if c = quote then some ([], []) else none
  | c :: d :: cs =>
    if special c then
      if d = c then (readQuoted quote special cs).map fun r => (c :: r.1, r.2)
      else if c = quote then some ([], d :: cs) else none
    else (readQuoted quote special (d :: cs)).map fun r => (c :: r.1, r.2)

theorem readQuoted_plain {quote c : Char} {special : Char → Bool} (hq : special quote = true)
    (hc : special c = false) (cs : List Char) : readQuoted quote special (c :: cs) =
      (readQuoted quote special cs).map fun r => (c :: r.1, r.2) := by
  have hne : c ≠ quote := fun h => by simp [h, hq] at hc
  cases cs <;> simp [readQuoted, hne, hc]

theorem readQuoted_doubled {quote : Char} {special : Char → Bool} (hq : special quote = true)
    {rest : List Char} (hr : rest.head? ≠ some quote) (s : List Char) :
    readQuoted quote special (doubled special s ++ quote :: rest) = some (s, rest) := by
  induction s with
  | nil =>
    cases rest with
    | nil => simp [doubled, readQuoted]
    | cons d rest =>
      have hd : d ≠ quote := by simpa using hr
      simp [doubled, readQuoted, hq, hd]
  | cons c s ih =>
    by_cases hc : special c = true
    · simp [doubled, hc, readQuoted, ih]
    · have hc : special c = false := by simpa using hc
      simp only [doubled, hc, Bool.false_eq_true, if_false, List.cons_append]
      rw [readQuoted_plain hq hc, ih]
      rfl

/-- What is read behind a fixed text. -/
def behind {α : Type} (text : String) (read : List Char → Option α) (cs : List Char) : Option α :=
  if text.toList.isPrefixOf cs then read (cs.drop text.toList.length) else none

theorem behind_append {α : Type} (text : String) (read : List Char → Option α) (cs : List Char) :
    behind text read (text.toList ++ cs) = read cs := by
  have h : text.toList.isPrefixOf (text.toList ++ cs) = true :=
    List.isPrefixOf_iff_prefix.2 (List.prefix_append _ _)
  simp only [behind, h, if_true, List.drop_left]

/-- A token as it is written. -/
def lexeme (r : Reader) (cs : List Char) : Option (List Char) :=
  (r cs).map fun t => cs.take (cs.length - t.2.length)

theorem lexeme_append {r : Reader} {token rest value : List Char}
    (h : r (token ++ rest) = some (value, rest)) : lexeme r (token ++ rest) = some token := by
  simp only [lexeme, h, Option.map_some, List.length_append, Nat.add_sub_cancel, List.take_left]

theorem doubled_congr {p q : Char → Bool} : ∀ {s : List Char}, (∀ c ∈ s, p c = q c) →
    doubled p s = doubled q s
  | [], _ => rfl
  | c :: s, h => by
    simp only [doubled, h c (by simp), doubled_congr fun d hd => h d (List.mem_cons_of_mem _ hd)]

/-! ## Templates -/

/-- The two kinds of token that a value is written as. -/
inductive Token
  | identifier
  | literal
  deriving DecidableEq

/-- What comes from outside: the name of a database, user or table, and a password. -/
inductive Argument
  | name
  | password
  deriving DecidableEq

inductive Piece
  | fixed (text : String)
  /-- A token that stands for an argument. -/
  | hole (token : Token) (argument : Argument)
  deriving DecidableEq

abbrev Template := List Piece

namespace Template

/-- The values in the holes, in order. -/
def values (value : Argument → String) (t : Template) : List String :=
  t.filterMap fun
    | .fixed _ => none
    | .hole _ a => some (value a)

/-- Whether an argument stands in a hole. -/
def uses (t : Template) (a : Argument) : Bool :=
  t.any fun
    | .fixed _ => false
    | .hole _ b => b = a

/-- The text of a statement whose tokens are written in some way. -/
def render (write : Token → List Char → List Char) (value : Argument → String) (t : Template) :
    List Char :=
  t.flatMap fun
    | .fixed text => text.toList
    | .hole token a => write token (value a).toList

/-- Whether a character can go on no token: a blank, or the mark before a host. -/
def isStop (c : Char) : Bool := c = ' ' || c = '@'

/-- Whether a text ends or goes on with what can go on no token. -/
def stops : List Char → Bool
  | [] => true
  | c :: _ => isStop c

theorem head?_ne_of_stops {rest : List Char} {c : Char} (h : stops rest = true)
    (hc : isStop c = false) : rest.head? ≠ some c := by
  rintro he
  cases rest with
  | nil => cases he
  | cons d rest =>
    obtain rfl : d = c := by simpa using he
    simp [stops, hc] at h

/-- Whether every hole is at the end or in front of a fixed text that can go on no token. -/
def separated : Template → Bool
  | [] => true
  | .fixed _ :: rest => separated rest
  | .hole _ _ :: [] => true
  | .hole _ _ :: .fixed text :: rest => text.toList.head?.any isStop && separated rest
  | .hole _ _ :: .hole _ _ :: _ => false

theorem separated_tail {p : Piece} {t : Template} (h : separated (p :: t) = true) :
    separated t = true := by
  cases p with
  | fixed text => exact h
  | hole token a =>
    cases t with
    | nil => rfl
    | cons q t =>
      cases q with
      | fixed text =>
        simp only [separated, Bool.and_eq_true] at h
        exact h.2
      | hole _ _ => cases h

/-- What is written behind a hole goes on with nothing that could belong to the token. -/
theorem stops_render {token : Token} {a : Argument} {t : Template}
    (h : separated (.hole token a :: t) = true) (write : Token → List Char → List Char)
    (value : Argument → String) : stops (t.render write value) = true := by
  cases t with
  | nil => rfl
  | cons p t =>
    cases p with
    | fixed text =>
      simp only [separated, Bool.and_eq_true] at h
      show stops (text.toList ++ render write value t) = true
      cases hc : text.toList with
      | nil => simp [hc] at h
      | cons c cs => simpa [stops, hc] using h.1
    | hole _ _ => cases h

theorem eq_of_values_eq {v w : Argument → String} {a : Argument} :
    ∀ {t : Template}, t.values v = t.values w → t.uses a = true → v a = w a
  | [], _, h => by simp [uses] at h
  | .fixed _ :: t, hv, h => eq_of_values_eq (t := t) hv (by simpa [uses] using h)
  | .hole _ b :: t, hv, h => by
    simp only [values, List.filterMap_cons, List.cons.injEq] at hv
    by_cases hb : b = a
    · exact hb ▸ hv.1
    · exact eq_of_values_eq (t := t) hv.2 (by simpa [uses, hb] using h)

end Template

/-- How a server reads the two kinds of token. -/
structure Lexicon where
  identifier : Reader
  literal : Reader

namespace Lexicon

def reader (l : Lexicon) : Token → Reader
  | .identifier => l.identifier
  | .literal => l.literal

/-- The values of the tokens in the holes of a template, if a text is of that form. -/
def read (l : Lexicon) : Template → List Char → Option (List String)
  | [], [] => some []
  | [], _ :: _ => none
  | .fixed text :: t, cs =>
    if text.toList.isPrefixOf cs then l.read t (cs.drop text.toList.length) else none
  | .hole token _ :: t, cs =>
    match l.reader token cs with
    | none => none
    | some (value, cs) => (l.read t cs).map (String.ofList value :: ·)

theorem read_fixed (l : Lexicon) (text : String) (t : Template) (cs : List Char) :
    l.read (.fixed text :: t) (text.toList ++ cs) = l.read t cs :=
  behind_append text (l.read t) cs

theorem read_hole_none {l : Lexicon} {token : Token} {cs : List Char} (h : l.reader token cs = none)
    (a : Argument) (t : Template) : l.read (.hole token a :: t) cs = none := by
  simp only [read, h]

/-- A written statement is read back if each of its tokens is, wherever the token can stand. -/
theorem read_render {l : Lexicon} {write : Token → List Char → List Char}
    {value : Argument → String} :
    ∀ {t : Template}, t.separated = true →
      (∀ token a rest, .hole token a ∈ t → Template.stops rest = true →
        l.reader token (write token (value a).toList ++ rest) = some ((value a).toList, rest)) →
      l.read t (t.render write value) = some (t.values value)
  | [], _, _ => rfl
  | .fixed text :: t, hs, h => by
    show l.read _ (text.toList ++ Template.render write value t) = _
    rw [read_fixed, read_render (t := t) hs fun token a rest hm => h token a rest (by simp [hm])]
    rfl
  | .hole token a :: t, hs, h => by
    have token_read := h token a _ (by simp) (Template.stops_render hs write value)
    have rest_read := read_render (t := t) (Template.separated_tail hs)
      fun token a rest hm => h token a rest (by simp [hm])
    show l.read _ (write token (value a).toList ++ Template.render write value t) = _
    simp only [read, token_read, rest_read, String.ofList_toList, Option.map_some]
    rfl

end Lexicon

/-! ## Changes -/

/-- What a statement does to databases and users. -/
inductive Change
  | createDatabase
  | dropDatabase
  | createUser
  | dropUser
  | alterUser
  | grant
  deriving DecidableEq

namespace Change

def all : List Change := [createDatabase, dropDatabase, createUser, dropUser, alterUser, grant]

/-- The words that a statement of that kind begins with. -/
def words : Change → String
  | createDatabase => "CREATE DATABASE "
  | dropDatabase => "DROP DATABASE "
  | createUser => "CREATE USER "
  | dropUser => "DROP USER "
  | alterUser => "ALTER USER "
  | grant => "GRANT ALL PRIVILEGES ON *.* TO "

/-- Which change a statement is, and what is read behind its words. -/
def read {α : Type} (reader : Change → List Char → Option α) (cs : List Char) :
    Option (Change × α) :=
  all.findSome? fun change => (behind change.words (reader change) cs).map (change, ·)

theorem behind_words {α : Type} {c d : Change} (h : d ≠ c) (reader : List Char → Option α)
    (cs : List Char) : behind d.words reader (c.words.toList ++ cs) = none := by
  cases c <;> cases d <;> first
    | rfl
    | exact absurd rfl h

theorem findSome?_eq_of_others {α β : Type} {f : α → Option β} {a : α}
    (h : ∀ b, b ≠ a → f b = none) : ∀ {l : List α}, a ∈ l → l.findSome? f = f a
  | b :: l, hl => by
    rw [List.findSome?_cons]
    by_cases hb : b = a
    · subst hb
      cases hf : f b with
      | some v => rfl
      | none =>
        refine List.findSome?_eq_none_iff.2 fun c _ => ?_
        by_cases hc : c = b
        · rw [hc, hf]
        · exact h c hc
    · rw [h b hb]
      exact findSome?_eq_of_others h ((List.mem_cons.1 hl).resolve_left (Ne.symm hb))

theorem read_words {α : Type} (reader : Change → List Char → Option α) (c : Change)
    (cs : List Char) : read reader (c.words.toList ++ cs) = (reader c cs).map (c, ·) := by
  have others : ∀ d, d ≠ c →
      (behind d.words (reader d) (c.words.toList ++ cs)).map (d, ·) = none := fun d hd => by
    rw [behind_words hd]
    rfl
  have mem : c ∈ all := by cases c <;> decide
  show all.findSome? _ = _
  rw [findSome?_eq_of_others others mem, behind_append]

end Change
end ManagedDatabase.Sql

namespace ManagedDatabase.Operation

/-- The name of the database, user or table that an operation is about. -/
def name : Operation → String
  | createDatabase name | dropDatabase name | createUser name _ | deleteUser name
  | editUser name _ | createTable name | writeRecord _ name | readRecord _ name => name
  | listDatabases | listUsers => ""

/-- The password that an operation sets. -/
def password : Operation → String
  | createUser _ password | editUser _ password => password
  | _ => ""

/-- The arguments of an operation; what it does not have is the empty text. -/
def value (op : Operation) : Sql.Argument → String
  | .name => op.name
  | .password => op.password

/-- The texts that an operation sends to servers of an engine. -/
def texts (e : Engine) (op : Operation) : List String :=
  (op.statements e).map (Sql.Statement.text e)

theorem toList_text {e : Engine} {op : Operation} {templates : List Sql.Template}
    {write : Sql.Token → List Char → List Char}
    (h : op.texts e = templates.map fun t => String.ofList (t.render write op.value)) {i : Nat}
    {t : Sql.Template} {x : String} (ht : templates[i]? = some t) (hx : (op.texts e)[i]? = some x) :
    x.toList = t.render write op.value := by
  rw [h, List.getElem?_map, ht, Option.map_some, Option.some.injEq] at hx
  rw [← hx, String.toList_ofList]

end ManagedDatabase.Operation
