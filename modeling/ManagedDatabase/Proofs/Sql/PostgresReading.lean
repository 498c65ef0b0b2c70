/-
PostgreSQL reads the statements of the program as they are meant. An identifier is a word, folded to
lower case and none of the reserved ones, or stands in double quotes; a literal stands in single
quotes, with the mark for escapes in front if backslashes are to be read in pairs.

Both quotings are read back in front of anything that can follow a token
(`readIdentifier_identifier`, `readLiteral_literal`), and so is every statement
(`postgres_statements_read_back`). A name that is empty leaves no identifier behind: what stands in
its place is the end, a parenthesis or a reserved word.
-/
import ManagedDatabase.Proofs.Sql.Reading

namespace ManagedDatabase.Sql.Postgres

/-! ## The lexical rules -/

/-- Whether a character can stand in a word. -/
def isWordChar (c : Char) : Bool := c.isAlphanum || c = '_' || c = '$' || 128 ≤ c.toNat

/-- Whether a word is an identifier: it starts with no digit or dollar and is not reserved. -/
def isIdentifier : List Char → Bool
  | [] => false
  | c :: cs =>
    (c.isAlpha || c = '_' || 128 ≤ c.toNat) && !keywords.contains (String.ofList (c :: cs))

/-- A word: as many characters as can stand in one, folded to lower case. -/
def readWord : Reader := fun cs =>
  let word := (cs.takeWhile isWordChar).map Char.toLower
  if isIdentifier word then some (word, cs.dropWhile isWordChar) else none

/-- An identifier, with blanks before it or without; in quotes it must not be empty. -/
def readIdentifier : Reader := fun cs =>
  match cs.dropWhile (· = ' ') with
  | [] => none
  | c :: cs =>
    if c = '\x22' then (readQuoted '\x22' (· == '\x22') cs).filter fun r => !r.1.isEmpty
    else readWord (c :: cs)

/-- A literal; without the mark for escapes a backslash is a character like any other. -/
def readLiteral : Reader
  | '\x27' :: cs => readQuoted '\x27' (· == '\x27') cs
  | 'E' :: '\x27' :: cs => readQuoted '\x27' (fun c => c == '\x27' || c == '\\') cs
  | _ => none

def lexicon : Lexicon := ⟨readIdentifier, readLiteral⟩

/-! ## Words -/

theorem startsWord_eq (c : Char) : startsWord c = (c.isLower || c = '_') := rfl

theorem inWord_eq (c : Char) : inWord c = (c.isLower || c = '_' || c.isDigit) := rfl

theorem isAlpha_eq (c : Char) : c.isAlpha = (c.isUpper || c.isLower) := rfl

theorem isWordChar_of_inWord {c : Char} (h : inWord c = true) : isWordChar c = true := by
  have alphanum : c.isAlphanum = (c.isAlpha || c.isDigit) := rfl
  simp only [inWord_eq, Bool.or_eq_true] at h
  simp only [isWordChar, alphanum, isAlpha_eq, Bool.or_eq_true]
  rcases h with (h | h) | h <;> simp [h]

theorem toLower_of_inWord {c : Char} (h : inWord c = true) : c.toLower = c := by
  have upper : ¬ (c.val ≥ 'A'.val ∧ c.val ≤ 'Z'.val) := by
    simp only [inWord, startsWord, Bool.or_eq_true, Bool.and_eq_true, decide_eq_true_eq,
      Char.le_def, UInt32.le_iff_toNat_le] at h
    simp only [ge_iff_le, UInt32.le_iff_toNat_le]
    have hA : 'A'.val.toNat = 65 := rfl
    have hZ : 'Z'.val.toNat = 90 := rfl
    have ha : 'a'.val.toNat = 97 := rfl
    have h9 : '9'.val.toNat = 57 := rfl
    rcases h with (h | rfl) | h
    · omega
    · decide
    · omega
  exact dif_neg upper

theorem isWordChar_of_isStop {c : Char} (h : Template.isStop c = true) : isWordChar c = false := by
  simp only [Template.isStop, Bool.or_eq_true, decide_eq_true_eq] at h
  rcases h with rfl | rfl <;> decide

theorem takeWhile_of_stops {rest : List Char} (h : Template.stops rest = true) :
    rest.takeWhile isWordChar = [] ∧ rest.dropWhile isWordChar = rest := by
  cases rest with
  | nil => exact ⟨rfl, rfl⟩
  | cons c rest => simp [isWordChar_of_isStop h]

/-- What stands bare consists of word characters and is an identifier. -/
theorem isBare_spec {c : Char} {cs : List Char} (h : isBare (c :: cs) = true) :
    (∀ d ∈ c :: cs, inWord d = true) ∧ startsWord c = true ∧ isIdentifier (c :: cs) = true := by
  simp only [isBare, Bool.and_eq_true, List.all_eq_true] at h
  obtain ⟨⟨hc, hs⟩, hk⟩ := h
  refine ⟨fun d hd => ?_, hc, ?_⟩
  · rcases List.mem_cons.1 hd with rfl | hd
    · simp [inWord, hc]
    · exact hs d hd
  · rw [startsWord_eq] at hc
    simp only [isIdentifier, isAlpha_eq, hk, Bool.and_true]
    simp only [Bool.or_eq_true] at hc
    rcases hc with hc | hc <;> simp [hc]

theorem readWord_bare {name rest : List Char} (hb : isBare name = true) (hn : name ≠ [])
    (hr : Template.stops rest = true) : readWord (name ++ rest) = some (name, rest) := by
  obtain ⟨c, cs, rfl⟩ := List.exists_cons_of_ne_nil hn
  obtain ⟨word, -, identifier⟩ := isBare_spec hb
  obtain ⟨taken, left⟩ := takeWhile_of_stops hr
  have all : ∀ d ∈ c :: cs, isWordChar d = true := fun d hd => isWordChar_of_inWord (word d hd)
  have folded : (c :: cs).map Char.toLower = c :: cs :=
    List.map_congr_left (fun d hd => toLower_of_inWord (word d hd)) |>.trans (List.map_id _)
  simp only [readWord, List.takeWhile_append_of_pos all, List.dropWhile_append_of_pos all, taken,
    left, List.append_nil, folded, identifier, if_true]

/-! ## Tokens -/

theorem dropBlanks {c : Char} (h : c ≠ ' ') (cs : List Char) :
    (c :: cs).dropWhile (· = ' ') = c :: cs := by
  simp [h]

theorem readIdentifier_identifier {name rest : List Char} (hn : name ≠ [])
    (hr : Template.stops rest = true) :
    readIdentifier (identifier name ++ rest) = some (name, rest) := by
  unfold identifier
  split
  · next hb =>
    have read := readWord_bare hb hn hr
    obtain ⟨c, cs, rfl⟩ := List.exists_cons_of_ne_nil hn
    have start : startsWord c = true := (isBare_spec hb).2.1
    have blank : c ≠ ' ' := by rintro rfl; revert start; decide
    have quote : c ≠ '\x22' := by rintro rfl; revert start; decide
    simp only [readIdentifier, List.cons_append, dropBlanks blank, if_neg quote]
    exact read
  · next hb =>
    have read : readQuoted '\x22' (· == '\x22') (doubled (· == '\x22') name ++ '\x22' :: rest) =
        some (name, rest) := readQuoted_doubled rfl (Template.head?_ne_of_stops hr rfl) name
    simp only [readIdentifier, List.cons_append, List.append_assoc,
      dropBlanks (show '\x22' ≠ ' ' by decide), if_true, List.nil_append, read]
    simp [hn]

/-- An empty name is no identifier, so what follows it would have to be one. -/
theorem readIdentifier_name {rest : List Char} (hr : Template.stops rest = true)
    (hn : readIdentifier rest = none) (name : String) :
    (readIdentifier (identifier name.toList ++ rest)).map Prod.fst =
      if name = "" then none else some name.toList := by
  by_cases empty : name = ""
  · subst empty
    show (readIdentifier rest).map Prod.fst = none
    rw [hn]
    rfl
  · rw [if_neg empty, readIdentifier_identifier (by simpa using empty) hr]
    rfl

theorem readLiteral_literal {value rest : List Char} (hr : Template.stops rest = true) :
    readLiteral (literal value ++ rest) = some (value, rest) := by
  unfold literal
  simp only
  split
  · next hb =>
    simp only [List.cons_append, List.append_assoc, readLiteral, List.nil_append]
    exact readQuoted_doubled rfl (Template.head?_ne_of_stops hr rfl) value
  · next hb =>
    -- without backslashes only the quotes are doubled
    have quotes : doubled (fun c => c == '\x27' || c == '\\') value = doubled (· == '\x27') value := by
      refine doubled_congr fun c hc => ?_
      have : c ≠ '\\' := by rintro rfl; simp [hc] at hb
      simp [this]
    simp only [List.cons_append, List.append_assoc, readLiteral, List.nil_append, quotes]
    exact readQuoted_doubled rfl (Template.head?_ne_of_stops hr rfl) value

/-! ## Statements -/

/-- What the statements of an operation look like. -/
def templates : Operation → List Template
  | .createDatabase _ => [[.fixed "CREATE DATABASE ", .hole .identifier .name]]
  | .dropDatabase _ => [[.fixed "DROP DATABASE ", .hole .identifier .name]]
  | .listDatabases => [[.fixed "SELECT datname::text FROM pg_database WHERE datistemplate = false"]]
  | .createUser _ _ => [
    [.fixed "CREATE USER ", .hole .identifier .name, .fixed " WITH ENCRYPTED PASSWORD ",
      .hole .literal .password],
    [.fixed "ALTER USER ", .hole .identifier .name, .fixed " WITH SUPERUSER"]]
  | .deleteUser _ => [[.fixed "DROP USER ", .hole .identifier .name]]
  | .editUser _ _ => [
    [.fixed "ALTER USER ", .hole .identifier .name, .fixed " WITH PASSWORD ",
      .hole .literal .password]]
  | .listUsers => [[.fixed "SELECT usename::text FROM pg_catalog.pg_user"]]
  | .createTable _ => [
    [.fixed "CREATE TABLE IF NOT EXISTS ", .hole .identifier .name,
      .fixed " (id bigserial PRIMARY KEY)"]]
  | .writeRecord _ _ => [
    [.fixed "INSERT INTO ", .hole .identifier .name, .fixed " DEFAULT VALUES RETURNING id"]]
  | .readRecord _ _ => [
    [.fixed "SELECT id FROM ", .hole .identifier .name, .fixed " ORDER BY id DESC LIMIT 1"]]

def write : Token → List Char → List Char
  | .identifier => identifier
  | .literal => literal

theorem texts_eq (op : Operation) : op.texts .postgresql =
    (templates op).map fun t => String.ofList (t.render write op.value) := by
  cases op <;>
    simp only [templates, Template.render, write, Operation.value, Operation.name,
      Operation.password, List.map_cons, List.map_nil, List.flatMap_cons, List.flatMap_nil,
      List.append_nil, ← List.append_assoc] <;>
    rfl

theorem separated_templates (op : Operation) : (templates op).all Template.separated = true := by
  cases op <;> rfl

theorem readIdentifier_reserved (word : List Char) {text : String} {tail : List Char}
    (ht : text.toList = ' ' :: (word ++ ' ' :: tail)) (hw : word.all isWordChar = true)
    (hr : isIdentifier (word.map Char.toLower) = false) (hn : word ≠ []) (cs : List Char) :
    readIdentifier (text.toList ++ cs) = none := by
  obtain ⟨c, word, rfl⟩ := List.exists_cons_of_ne_nil hn
  have all : ∀ d ∈ c :: word, isWordChar d = true := List.all_eq_true.1 hw
  have blank : c ≠ ' ' := by rintro rfl; exact absurd (all ' ' (by simp)) (by decide)
  have quote : c ≠ '\x22' := by rintro rfl; exact absurd (all '\x22' (by simp)) (by decide)
  have taken : (c :: (word ++ ' ' :: (tail ++ cs))).takeWhile isWordChar = c :: word := by
    rw [← List.cons_append, List.takeWhile_append_of_pos all]
    simp [show isWordChar ' ' = false by decide]
  rw [ht]
  simp only [readIdentifier, List.cons_append, List.append_assoc, List.dropWhile_cons,
    decide_true, if_true, blank, decide_false, Bool.false_eq_true, if_false, if_neg quote, readWord,
    taken, hr]

theorem readIdentifier_behind_name {op : Operation} {text : String} {t : Template}
    (ht : .fixed text :: .hole .identifier .name :: t ∈ templates op) (value : Argument → String) :
    readIdentifier (t.render write value) = none := by
  cases op with
  | createDatabase _ | dropDatabase _ | deleteUser _ | createTable _ =>
    cases List.mem_singleton.1 ht
    rfl
  | listDatabases | listUsers => cases List.mem_singleton.1 ht
  | createUser _ _ =>
    simp only [templates, List.mem_cons, List.not_mem_nil, or_false] at ht
    rcases ht with h | h
    · cases h
      exact readIdentifier_reserved "WITH".toList rfl rfl rfl (by decide) _
    · cases h
      exact readIdentifier_reserved "WITH".toList rfl rfl rfl (by decide) _
  | editUser _ _ =>
    cases List.mem_singleton.1 ht
    exact readIdentifier_reserved "WITH".toList rfl rfl rfl (by decide) _
  | writeRecord _ _ =>
    cases List.mem_singleton.1 ht
    exact readIdentifier_reserved "DEFAULT".toList rfl rfl rfl (by decide) _
  | readRecord _ _ =>
    cases List.mem_singleton.1 ht
    exact readIdentifier_reserved "ORDER".toList rfl rfl rfl (by decide) _

theorem template_of_named {op : Operation} {t : Template} (ht : t ∈ templates op)
    (hu : t.uses .name = true) :
    ∃ text rest, t = .fixed text :: .hole .identifier .name :: rest := by
  cases op with
  | listDatabases | listUsers =>
    obtain rfl := List.mem_singleton.1 ht
    cases hu
  | createUser _ _ =>
    simp only [templates, List.mem_cons, List.not_mem_nil, or_false] at ht
    rcases ht with rfl | rfl <;> exact ⟨_, _, rfl⟩
  | _ =>
    obtain rfl := List.mem_singleton.1 ht
    exact ⟨_, _, rfl⟩

theorem read_empty {op : Operation} (hn : op.name = "") {t : Template} (ht : t ∈ templates op)
    (hu : t.uses .name = true) : lexicon.read t (t.render write op.value) = none := by
  obtain ⟨text, rest, rfl⟩ := template_of_named ht hu
  show lexicon.read _ (text.toList ++
    (identifier op.name.toList ++ Template.render write op.value rest)) = none
  rw [Lexicon.read_fixed, hn]
  have none_there : lexicon.reader .identifier (Template.render write op.value rest) = none :=
    readIdentifier_behind_name ht op.value
  exact Lexicon.read_hole_none none_there _ _

theorem argument_of_identifier {op : Operation} {t : Template} (ht : t ∈ templates op) {a : Argument}
    (ha : .hole .identifier a ∈ t) : a = .name := by
  have all : (templates op).all (fun t => t.all fun p => p != .hole .identifier .password) = true := by
    cases op <;> rfl
  cases a with
  | name => rfl
  | password => simpa using List.all_eq_true.1 (List.all_eq_true.1 all t ht) _ ha

theorem read_written {op : Operation} {t : Template} (ht : t ∈ templates op)
    (hn : t.uses .name = true → op.name ≠ "") :
    lexicon.read t (t.render write op.value) = some (t.values op.value) := by
  refine Lexicon.read_render (List.all_eq_true.1 (separated_templates op) t ht) ?_
  intro token a rest ha hr
  cases token with
  | identifier =>
    obtain rfl := argument_of_identifier ht ha
    have used : t.uses .name = true := List.any_eq_true.2 ⟨_, ha, by simp⟩
    exact readIdentifier_identifier (by simpa [Operation.value] using hn used) hr
  | literal => exact readLiteral_literal hr

theorem name_eq_of_text_eq {op op' : Operation} {i : Nat} {t : Template} {x : String}
    (same : templates op' = templates op) (ht : (templates op)[i]? = some t)
    (hx : (op.texts .postgresql)[i]? = some x) (hx' : (op'.texts .postgresql)[i]? = some x)
    (hu : t.uses .name = true) : op'.name = op.name := by
  have mem := List.mem_of_getElem? ht
  have text := Operation.toList_text (texts_eq op) ht hx
  rw [Operation.toList_text (texts_eq op') (same ▸ ht) hx'] at text
  by_cases hn : op.name = "" <;> by_cases hn' : op'.name = ""
  · rw [hn, hn']
  · have read := read_empty hn mem hu
    rw [← text, read_written (same ▸ mem) fun _ => hn'] at read
    cases read
  · have read := read_empty hn' (same ▸ mem) hu
    rw [text, read_written mem fun _ => hn] at read
    cases read
  · have read := read_written (same ▸ mem) fun _ => hn'
    rw [text, read_written mem fun _ => hn, Option.some.injEq] at read
    exact Template.eq_of_values_eq read.symm hu

/-- **PostgreSQL reads back what is sent.** Every statement of an operation has its template, and
read by it yields exactly the arguments of the operation, each from one token, with nothing left
over. Only where the name is empty it is missing, and then the statement cannot be read. So a
statement of some form that names something tells the name. -/
theorem postgres_statements_read_back (op : Operation) :
    (op.texts .postgresql).length = (templates op).length ∧
    ∀ (i : Nat) (t : Template) (x : String),
      (templates op)[i]? = some t → (op.texts .postgresql)[i]? = some x →
      ((t.uses .name = true → op.name ≠ "") →
        lexicon.read t x.toList = some (t.values op.value)) ∧
      (t.uses .name = true → op.name = "" → lexicon.read t x.toList = none) ∧
      ∀ op', templates op' = templates op → (op'.texts .postgresql)[i]? = some x →
        t.uses .name = true → op'.name = op.name := by
  refine ⟨by rw [texts_eq, List.length_map], fun i t x ht hx => ⟨fun hn => ?_, fun hu hn => ?_, ?_⟩⟩
  · rw [Operation.toList_text (texts_eq op) ht hx]
    exact read_written (List.mem_of_getElem? ht) hn
  · rw [Operation.toList_text (texts_eq op) ht hx]
    exact read_empty hn (List.mem_of_getElem? ht) hu
  · exact fun op' same hx' hu => name_eq_of_text_eq same ht hx hx' hu

/-- A name that tries to end its statement and a password with a quote and a backslash. -/
theorem hostile_user_reads_back :
    lexicon.read
      [.fixed "CREATE USER ", .hole .identifier .name, .fixed " WITH ENCRYPTED PASSWORD ",
        .hole .literal .password]
      ("CREATE USER \x22Robert\x22\x22; DROP TABLE students; --\x22 WITH ENCRYPTED PASSWORD "
        ++ "E\x27it\x27\x27s\\\\\x27").toList =
      some ["Robert\x22; DROP TABLE students; --", "it\x27s\\"] :=
  ((postgres_statements_read_back
    (.createUser "Robert\x22; DROP TABLE students; --" "it\x27s\\")).2 0 _ _ rfl
    (by decide +kernel)).1 (fun _ => by decide)

end ManagedDatabase.Sql.Postgres
