/-
Which password a statement sets, and of which user, as a server reads it. Of the statements of the
program only one kind sets the password of a user that is there, and of it the server reads exactly
the name and the password that were given (`passwordSet?_setPassword`).

Without a name there is no statement for PostgreSQL. Here it is read as one for the empty name, so that
nothing has to be asked of names.
-/
import ManagedDatabase.Proofs.Sql.MySqlReading
import ManagedDatabase.Proofs.Sql.PostgresReading

namespace ManagedDatabase.Sql

def lexiconOf : Engine → Lexicon
  | .postgresql => Postgres.lexicon
  | .mysql => MySql.lexicon

/-- The forms of the statements that set a password; where no name is read, it is the empty one. -/
def passwordForms : Engine → List Template
  | .postgresql => [
    [.fixed "ALTER USER ", .hole .identifier .name, .fixed " WITH PASSWORD ",
      .hole .literal .password],
    [.fixed "ALTER USER ", .fixed " WITH PASSWORD ", .hole .literal .password]]
  | .mysql => [
    [.fixed "ALTER USER ", .hole .literal .name, .fixed "@'localhost'", .fixed " IDENTIFIED BY ",
      .hole .literal .password]]

/-- Whose password a statement sets, and to what. -/
def passwordSet? (e : Engine) (text : String) : Option (String × String) :=
  (passwordForms e).findSome? fun form =>
    match (lexiconOf e).read form text.toList with
    | some [name, password] => some (name, password)
    | some [password] => some ("", password)
    | _ => none

theorem passwordSet?_postgres (name password : String) :
    passwordSet? .postgresql ((Statement.setPassword name password).text .postgresql) =
      some (name, password) := by
  let op := Operation.editUser name password
  have form : [.fixed "ALTER USER ", .hole .identifier .name, .fixed " WITH PASSWORD ",
      .hole .literal .password] ∈ Postgres.templates op := List.mem_singleton.2 rfl
  have first : (op.texts .postgresql)[0]? = some ((Statement.setPassword name password).text _) := rfl
  have written := Operation.toList_text (Postgres.texts_eq op) rfl first
  simp only [passwordSet?, passwordForms, lexiconOf, List.findSome?_cons, List.findSome?_nil, written]
  by_cases empty : name = ""
  · -- without a name the first form is written like the second
    have bare : Postgres.identifier op.name.toList = [] := by
      rw [show op.name = "" from empty]
      rfl
    have same : Template.render Postgres.write op.value
          [.fixed "ALTER USER ", .hole .identifier .name, .fixed " WITH PASSWORD ",
            .hole .literal .password] =
        Template.render Postgres.write op.value
          [.fixed "ALTER USER ", .fixed " WITH PASSWORD ", .hole .literal .password] := by
      show _ ++ (Postgres.identifier op.name.toList ++ _) = _
      rw [bare]
      rfl
    have unread := Postgres.read_empty (show op.name = "" from empty) form rfl
    have read : Postgres.lexicon.read
        [.fixed "ALTER USER ", .fixed " WITH PASSWORD ", .hole .literal .password]
        (Template.render Postgres.write op.value
          [.fixed "ALTER USER ", .fixed " WITH PASSWORD ", .hole .literal .password]) =
        some [password] := by
      refine Lexicon.read_render rfl fun token a rest hole stops => ?_
      cases token with
      | identifier => exact absurd hole (by simp)
      | literal => exact Postgres.readLiteral_literal stops
    rw [unread, same, read, empty]
  · rw [Postgres.read_written form fun _ => empty]
    rfl

theorem passwordSet?_mysql (name password : String) :
    passwordSet? .mysql ((Statement.setPassword name password).text .mysql) = some (name, password) := by
  let op := Operation.editUser name password
  have form : [.fixed "ALTER USER ", .hole .literal .name, .fixed "@'localhost'",
      .fixed " IDENTIFIED BY ", .hole .literal .password] ∈ MySql.templates op :=
    List.mem_cons_self ..
  have first : (op.texts .mysql)[0]? = some ((Statement.setPassword name password).text _) := rfl
  have written := Operation.toList_text (MySql.texts_eq op) rfl first
  simp only [passwordSet?, passwordForms, lexiconOf, List.findSome?_cons, List.findSome?_nil, written]
  rw [MySql.read_written form]
  rfl

theorem passwordSet?_setPassword (e : Engine) (name password : String) :
    passwordSet? e ((Statement.setPassword name password).text e) = some (name, password) := by
  cases e with
  | postgresql => exact passwordSet?_postgres name password
  | mysql => exact passwordSet?_mysql name password

theorem passwordSet?_flushPrivileges (e : Engine) :
    passwordSet? e (Statement.flushPrivileges.text e) = none := by
  cases e <;> rfl

end ManagedDatabase.Sql
