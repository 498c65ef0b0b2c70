/-
Which database or user a statement changes, as a server reads it: behind the words of the statement
stands one token, and what the token denotes is the target. That need not be the name as it was
given, since PostgreSQL folds bare words; `targetOf_text` says that it is, for every statement of the
program. Only an empty name leaves a PostgreSQL statement without a target.
-/
import ManagedDatabase.Proofs.Sql.MySqlReading
import ManagedDatabase.Proofs.Sql.PostgresReading

namespace ManagedDatabase.Sql

/-- How a server reads what a change is made to. -/
def targetReader : Engine → Change → Reader
  | .postgresql, _ => Postgres.readIdentifier
  | .mysql, .createDatabase | .mysql, .dropDatabase => MySql.readIdentifier
  | .mysql, _ => MySql.readAccount

/-- What a statement changes, and which database or user. -/
def targetOf (e : Engine) (text : String) : Option (Change × String) :=
  (Change.read (targetReader e) text.toList).map fun r => (r.1, String.ofList r.2.1)

theorem targetOf_words (e : Engine) (c : Change) (cs : List Char) :
    targetOf e (String.ofList (c.words.toList ++ cs)) =
      ((targetReader e c cs).map Prod.fst).map fun target => (c, String.ofList target) := by
  simp only [targetOf, String.toList_ofList, Change.read_words, Option.map_map]
  rfl

namespace Statement

/-- The database, user or table of a statement. -/
def name : Statement → String
  | createDatabase name | dropDatabase name | createUser name _ | grantAll name | dropUser name
  | setPassword name _ | createTable name | insertRow name | selectLast name => name
  | listDatabases | flushPrivileges | listUsers => ""

/-- What a statement is meant to change, if it is a database or user. -/
def change? (e : Engine) : Statement → Option Change
  | createDatabase _ => some .createDatabase
  | dropDatabase _ => some .dropDatabase
  | createUser _ _ => some .createUser
  | grantAll _ =>
    match e with
    | .postgresql => some .alterUser
    | .mysql => some .grant
  | dropUser _ => some .dropUser
  | setPassword _ _ => some .alterUser
  | listDatabases | flushPrivileges | listUsers | createTable _ | insertRow _ | selectLast _ => none

end Statement

theorem targetOf_none {e : Engine} {s : Statement} (cs : List Char)
    (hs : s.text e = String.ofList cs) (hr : Change.read (targetReader e) cs = none) :
    targetOf e (s.text e) = none := by
  rw [hs, targetOf, String.toList_ofList, hr]
  rfl

theorem targetOf_postgres {s : Statement} (c : Change) (rest : List Char)
    (hs : s.text .postgresql =
      String.ofList (c.words.toList ++ (Postgres.identifier s.name.toList ++ rest)))
    (hr : Template.stops rest = true) (hn : Postgres.readIdentifier rest = none) :
    targetOf .postgresql (s.text .postgresql) = if s.name = "" then none else some (c, s.name) := by
  rw [hs, targetOf_words]
  show Option.map _ (Option.map Prod.fst (Postgres.readIdentifier _)) = _
  rw [Postgres.readIdentifier_name hr hn]
  split
  · rfl
  · rw [Option.map_some, String.ofList_toList]

/-- PostgreSQL finds the target that is meant, under exactly the name that was given. -/
theorem targetOf_postgres_text (s : Statement) : targetOf .postgresql (s.text .postgresql) =
    if s.name = "" then none else (s.change? .postgresql).map (·, s.name) := by
  cases s with
  | createDatabase _ =>
    refine targetOf_postgres .createDatabase [] ?_ rfl rfl
    rw [List.append_nil]
    rfl
  | dropDatabase _ =>
    refine targetOf_postgres .dropDatabase [] ?_ rfl rfl
    rw [List.append_nil]
    rfl
  | dropUser _ =>
    refine targetOf_postgres .dropUser [] ?_ rfl rfl
    rw [List.append_nil]
    rfl
  | createUser _ password =>
    refine targetOf_postgres .createUser
      (" WITH ENCRYPTED PASSWORD ".toList ++ Postgres.literal password.toList) ?_ rfl ?_
    · simp only [← List.append_assoc]
      rfl
    · exact Postgres.readIdentifier_reserved "WITH".toList rfl rfl rfl (by decide) _
  | grantAll _ =>
    refine targetOf_postgres .alterUser " WITH SUPERUSER".toList ?_ rfl rfl
    rw [← List.append_assoc]
    rfl
  | setPassword _ password =>
    refine targetOf_postgres .alterUser
      (" WITH PASSWORD ".toList ++ Postgres.literal password.toList) ?_ rfl ?_
    · simp only [← List.append_assoc]
      rfl
    · exact Postgres.readIdentifier_reserved "WITH".toList rfl rfl rfl (by decide) _
  | listDatabases | flushPrivileges | listUsers | createTable _ | insertRow _ | selectLast _ =>
    rw [targetOf_none _ rfl rfl]
    exact (ite_self none).symm

theorem targetOf_mysql {s : Statement} (c : Change) (token rest : List Char)
    (hs : s.text .mysql = String.ofList (c.words.toList ++ (token ++ rest)))
    (hr : targetReader .mysql c (token ++ rest) = some (s.name.toList, rest)) :
    targetOf .mysql (s.text .mysql) = some (c, s.name) := by
  rw [hs, targetOf_words, hr]
  simp only [Option.map_some, String.ofList_toList]

theorem targetOf_mysql_text (s : Statement) :
    targetOf .mysql (s.text .mysql) = (s.change? .mysql).map (·, s.name) := by
  cases s with
  | createDatabase name =>
    refine targetOf_mysql .createDatabase (MySql.identifier name.toList) [] ?_ ?_
    · rw [List.append_nil]
      rfl
    · exact MySql.readIdentifier_identifier rfl _
  | dropDatabase name =>
    refine targetOf_mysql .dropDatabase (MySql.identifier name.toList) [] ?_ ?_
    · rw [List.append_nil]
      rfl
    · exact MySql.readIdentifier_identifier rfl _
  | createUser name password =>
    refine targetOf_mysql .createUser (MySql.account name.toList)
      (" IDENTIFIED BY ".toList ++ MySql.literal password.toList) ?_ (MySql.readAccount_account _ _)
    simp only [← List.append_assoc]
    rfl
  | grantAll name =>
    refine targetOf_mysql .grant (MySql.account name.toList) [] ?_ (MySql.readAccount_account _ _)
    rw [List.append_nil]
    rfl
  | dropUser name =>
    refine targetOf_mysql .dropUser (MySql.account name.toList) [] ?_ (MySql.readAccount_account _ _)
    rw [List.append_nil]
    rfl
  | setPassword name password =>
    refine targetOf_mysql .alterUser (MySql.account name.toList)
      (" IDENTIFIED BY ".toList ++ MySql.literal password.toList) ?_ (MySql.readAccount_account _ _)
    simp only [← List.append_assoc]
    rfl
  | listDatabases | flushPrivileges | listUsers | createTable _ | insertRow _ | selectLast _ =>
    exact targetOf_none _ rfl rfl

/-- **The target of a statement is its name.** Whatever the name is, no engine reads another one. -/
theorem targetOf_text (e : Engine) (s : Statement) : targetOf e (s.text e) =
    if e = .postgresql ∧ s.name = "" then none else (s.change? e).map (·, s.name) := by
  cases e with
  | postgresql => simp only [targetOf_postgres_text, true_and]
  | mysql => simp only [targetOf_mysql_text, reduceCtorEq, false_and, if_false]

end ManagedDatabase.Sql
