/-
MySQL reads the statements of the program as they are meant, whatever the names and passwords are. An
identifier stands between grave accents, where a backslash is a character like any other; a literal
stands in single quotes, where quotes and backslashes are read in pairs.

No name is too odd, not even the empty one, so `mysql_statements_read_back` has no condition. A user
is the same account, letter by letter, where it is created, granted rights, changed and dropped.
-/
import ManagedDatabase.Proofs.Sql.Reading

namespace ManagedDatabase.Sql.MySql

/-! ## The lexical rules -/

def readIdentifier : Reader
  | '\x60' :: cs => readQuoted '\x60' (· == '\x60') cs
  | _ => none

def readLiteral : Reader
  | '\x27' :: cs => readQuoted '\x27' (fun c => c == '\x27' || c == '\\') cs
  | _ => none

def lexicon : Lexicon := ⟨readIdentifier, readLiteral⟩

/-- A user: a literal scoped to the server's own host. -/
def readAccount : Reader := fun cs =>
  match readLiteral cs with
  | some (user, cs) => (behind "@'localhost'" some cs).map fun rest => (user, rest)
  | none => none

/-- The account in a statement on a user, letter by letter. -/
def accountText (cs : List Char) : Option (List Char) :=
  (Change.read (fun _ => lexeme readAccount) cs).map Prod.snd

theorem readIdentifier_identifier {rest : List Char} (hr : Template.stops rest = true)
    (name : List Char) : readIdentifier (identifier name ++ rest) = some (name, rest) := by
  simp only [identifier, accent, List.cons_append, List.append_assoc, List.nil_append, readIdentifier]
  exact readQuoted_doubled rfl (Template.head?_ne_of_stops hr rfl) name

theorem readLiteral_literal {rest : List Char} (hr : Template.stops rest = true)
    (value : List Char) : readLiteral (literal value ++ rest) = some (value, rest) := by
  simp only [literal, List.cons_append, List.append_assoc, List.nil_append, readLiteral]
  exact readQuoted_doubled rfl (Template.head?_ne_of_stops hr rfl) value

theorem readAccount_account (name rest : List Char) :
    readAccount (account name ++ rest) = some (name, rest) := by
  have host : Template.stops ("@'localhost'".toList ++ rest) = true := rfl
  simp only [readAccount, account, List.append_assoc, readLiteral_literal host, behind_append,
    Option.map_some]

theorem accountText_account (c : Change) (name rest : List Char) :
    accountText (c.words.toList ++ (account name ++ rest)) = some (account name) := by
  rw [accountText, Change.read_words, lexeme_append (readAccount_account name rest)]
  rfl

/-! ## Statements -/

/-- What the statements of an operation look like. -/
def templates : Operation → List Template
  | .createDatabase _ => [[.fixed "CREATE DATABASE ", .hole .identifier .name]]
  | .dropDatabase _ => [[.fixed "DROP DATABASE ", .hole .identifier .name]]
  | .listDatabases => [
    [.fixed "SELECT CONVERT(schema_name USING utf8mb4) FROM information_schema.schemata"]]
  | .createUser _ _ => [
    [.fixed "CREATE USER ", .hole .literal .name, .fixed "@'localhost'", .fixed " IDENTIFIED BY ",
      .hole .literal .password],
    [.fixed "GRANT ALL PRIVILEGES ON *.* TO ", .hole .literal .name, .fixed "@'localhost'"],
    [.fixed "FLUSH PRIVILEGES"]]
  | .deleteUser _ => [[.fixed "DROP USER ", .hole .literal .name, .fixed "@'localhost'"]]
  | .editUser _ _ => [
    [.fixed "ALTER USER ", .hole .literal .name, .fixed "@'localhost'", .fixed " IDENTIFIED BY ",
      .hole .literal .password],
    [.fixed "FLUSH PRIVILEGES"]]
  | .listUsers => [[.fixed "SELECT DISTINCT CONVERT(user USING utf8mb4) FROM mysql.user"]]
  | .createTable _ => [
    [.fixed "CREATE TABLE IF NOT EXISTS ", .hole .identifier .name,
      .fixed " (id BIGINT AUTO_INCREMENT PRIMARY KEY)"]]
  | .writeRecord _ _ => [[.fixed "INSERT INTO ", .hole .identifier .name, .fixed " VALUES ()"]]
  | .readRecord _ _ => [
    [.fixed "SELECT id FROM ", .hole .identifier .name, .fixed " ORDER BY id DESC LIMIT 1"]]

def write : Token → List Char → List Char
  | .identifier => identifier
  | .literal => literal

theorem account_append (name rest : List Char) :
    literal name ++ ("@'localhost'".toList ++ rest) = account name ++ rest :=
  (List.append_assoc _ _ _).symm

theorem texts_eq (op : Operation) : op.texts .mysql =
    (templates op).map fun t => String.ofList (t.render write op.value) := by
  cases op <;>
    simp only [templates, Template.render, write, Operation.value, Operation.name,
      Operation.password, List.map_cons, List.map_nil, List.flatMap_cons, List.flatMap_nil,
      account_append] <;>
    simp only [List.append_nil, ← List.append_assoc] <;>
    rfl

theorem separated_templates (op : Operation) : (templates op).all Template.separated = true := by
  cases op <;> rfl

theorem read_written {op : Operation} {t : Template} (ht : t ∈ templates op)
    (value : Argument → String) :
    lexicon.read t (t.render write value) = some (t.values value) := by
  refine Lexicon.read_render (List.all_eq_true.1 (separated_templates op) t ht) ?_
  intro token a rest _ hr
  cases token with
  | identifier => exact readIdentifier_identifier hr _
  | literal => exact readLiteral_literal hr _

theorem value_of_unused {op : Operation} {a : Argument}
    (h : ∀ t ∈ templates op, t.uses a = false) : op.value a = "" := by
  cases op <;> cases a <;> first
    | rfl
    | exact absurd (h _ (List.mem_cons_self ..)) (by decide)

theorem value_eq_of_texts_eq {op op' : Operation} (same : templates op' = templates op)
    (h : op'.texts .mysql = op.texts .mysql) : op'.value = op.value := by
  rw [texts_eq, texts_eq, same, List.map_inj_left] at h
  funext a
  by_cases used : ∃ t ∈ templates op, t.uses a = true
  · obtain ⟨t, ht, hu⟩ := used
    have read := read_written ht op'.value
    rw [String.ofList_injective (h t ht), read_written ht, Option.some.injEq] at read
    exact (Template.eq_of_values_eq read hu).symm
  · have unused : ∀ t ∈ templates op, t.uses a = false := fun t ht =>
      Bool.eq_false_iff.2 fun hu => used ⟨t, ht, hu⟩
    rw [value_of_unused unused, value_of_unused (same ▸ unused)]

theorem account_template {op : Operation} {t : Template} (ht : t ∈ templates op)
    (hn : .hole .literal .name ∈ t) : ∃ (c : Change) (rest : Template),
      t = .fixed c.words :: .hole .literal .name :: .fixed "@'localhost'" :: rest := by
  cases op <;> simp only [templates, List.mem_cons, List.not_mem_nil, or_false] at ht
  case createUser =>
    rcases ht with rfl | rfl | rfl
    · exact ⟨.createUser, _, rfl⟩
    · exact ⟨.grant, _, rfl⟩
    · exact absurd hn (by decide)
  case editUser =>
    rcases ht with rfl | rfl
    · exact ⟨.alterUser, _, rfl⟩
    · exact absurd hn (by decide)
  case deleteUser =>
    subst ht
    exact ⟨.dropUser, _, rfl⟩
  all_goals
    subst ht
    exact absurd hn (by decide)

theorem accountText_written {op : Operation} {t : Template} (ht : t ∈ templates op)
    (hn : .hole .literal .name ∈ t) :
    accountText (t.render write op.value) = some (account op.name.toList) := by
  obtain ⟨c, rest, rfl⟩ := account_template ht hn
  show accountText (c.words.toList ++ (literal op.name.toList ++
    ("@'localhost'".toList ++ Template.render write op.value rest))) = _
  rw [account_append, accountText_account]

/-- **MySQL reads back what is sent.** Every statement of an operation has its template, and read by
it yields exactly the arguments of the operation, each from one token, with nothing left over. The
account of a user is the same letters in every statement on it, and operations of one form with
other arguments send other statements. -/
theorem mysql_statements_read_back (op : Operation) :
    (op.texts .mysql).length = (templates op).length ∧
    (∀ (i : Nat) (t : Template) (x : String),
      (templates op)[i]? = some t → (op.texts .mysql)[i]? = some x →
      lexicon.read t x.toList = some (t.values op.value) ∧
      (.hole .literal .name ∈ t → accountText x.toList = some (account op.name.toList))) ∧
    ∀ op', templates op' = templates op → op'.texts .mysql = op.texts .mysql →
      op'.value = op.value := by
  refine ⟨by rw [texts_eq, List.length_map], fun i t x ht hx => ?_, fun op' => value_eq_of_texts_eq⟩
  rw [Operation.toList_text (texts_eq op) ht hx]
  have mem := List.mem_of_getElem? ht
  exact ⟨read_written mem op.value, accountText_written mem⟩

/-- A name with a backslash in front of a quote and a password that ends with a backslash. -/
theorem backslashed_user_reads_back :
    lexicon.read
      [.fixed "CREATE USER ", .hole .literal .name, .fixed "@'localhost'", .fixed " IDENTIFIED BY ",
        .hole .literal .password]
      "CREATE USER 'O\\\\''Brien'@'localhost' IDENTIFIED BY '\\\\'".toList =
      some ["O\\'Brien", "\\"] :=
  ((mysql_statements_read_back (.createUser "O\\'Brien" "\\")).2.1 0 _ _ rfl
    (by decide +kernel)).1

end ManagedDatabase.Sql.MySql
