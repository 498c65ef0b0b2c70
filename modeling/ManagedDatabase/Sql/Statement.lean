/-
The SQL statements that the program sends, as what they mean and as the text in each engine's
language. A statement is one of a dozen sentences with names and a password in fixed places; all
that comes from outside passes through the quoting of the engine.
-/
import ManagedDatabase.Engine
import ManagedDatabase.Sql.MySqlQuoting
import ManagedDatabase.Sql.PostgresQuoting

namespace ManagedDatabase.Sql

inductive Statement
  | createDatabase (name : String)
  | dropDatabase (name : String)
  | listDatabases
  | createUser (name password : String)
  /-- Every right on the server. -/
  | grantAll (name : String)
  /-- Make changed rights count at once. -/
  | flushPrivileges
  | dropUser (name : String)
  | setPassword (name password : String)
  | listUsers
  /-- A table of numbered rows, unless it is there. -/
  | createTable (table : String)
  | insertRow (table : String)
  /-- The highest row number. -/
  | selectLast (table : String)
  deriving DecidableEq, Repr

namespace Statement

/-- The text for PostgreSQL. -/
def postgresText : Statement → List Char
  | createDatabase name => "CREATE DATABASE ".toList ++ Postgres.identifier name.toList
  | dropDatabase name => "DROP DATABASE ".toList ++ Postgres.identifier name.toList
  | listDatabases => "SELECT datname::text FROM pg_database WHERE datistemplate = false".toList
  | createUser name password =>
    "CREATE USER ".toList ++ Postgres.identifier name.toList
      ++ " WITH ENCRYPTED PASSWORD ".toList ++ Postgres.literal password.toList
  | grantAll name =>
    "ALTER USER ".toList ++ Postgres.identifier name.toList ++ " WITH SUPERUSER".toList
  | flushPrivileges => "FLUSH PRIVILEGES".toList
  | dropUser name => "DROP USER ".toList ++ Postgres.identifier name.toList
  | setPassword name password =>
    "ALTER USER ".toList ++ Postgres.identifier name.toList
      ++ " WITH PASSWORD ".toList ++ Postgres.literal password.toList
  | listUsers => "SELECT usename::text FROM pg_catalog.pg_user".toList
  | createTable table =>
    "CREATE TABLE IF NOT EXISTS ".toList ++ Postgres.identifier table.toList
      ++ " (id bigserial PRIMARY KEY)".toList
  | insertRow table =>
    "INSERT INTO ".toList ++ Postgres.identifier table.toList
      ++ " DEFAULT VALUES RETURNING id".toList
  | selectLast table =>
    "SELECT id FROM ".toList ++ Postgres.identifier table.toList
      ++ " ORDER BY id DESC LIMIT 1".toList

/-- The text for MySQL. -/
def mysqlText : Statement → List Char
  | createDatabase name => "CREATE DATABASE ".toList ++ MySql.identifier name.toList
  | dropDatabase name => "DROP DATABASE ".toList ++ MySql.identifier name.toList
  | listDatabases =>
    "SELECT CONVERT(schema_name USING utf8mb4) FROM information_schema.schemata".toList
  | createUser name password =>
    "CREATE USER ".toList ++ MySql.account name.toList
      ++ " IDENTIFIED BY ".toList ++ MySql.literal password.toList
  | grantAll name => "GRANT ALL PRIVILEGES ON *.* TO ".toList ++ MySql.account name.toList
  | flushPrivileges => "FLUSH PRIVILEGES".toList
  | dropUser name => "DROP USER ".toList ++ MySql.account name.toList
  | setPassword name password =>
    "ALTER USER ".toList ++ MySql.account name.toList
      ++ " IDENTIFIED BY ".toList ++ MySql.literal password.toList
  | listUsers => "SELECT DISTINCT CONVERT(user USING utf8mb4) FROM mysql.user".toList
  | createTable table =>
    "CREATE TABLE IF NOT EXISTS ".toList ++ MySql.identifier table.toList
      ++ " (id BIGINT AUTO_INCREMENT PRIMARY KEY)".toList
  | insertRow table =>
    "INSERT INTO ".toList ++ MySql.identifier table.toList ++ " VALUES ()".toList
  | selectLast table =>
    "SELECT id FROM ".toList ++ MySql.identifier table.toList
      ++ " ORDER BY id DESC LIMIT 1".toList

/-- The text in an engine's language. -/
def text (e : Engine) (s : Statement) : String :=
  String.ofList <|
    match e with
    | .postgresql => s.postgresText
    | .mysql => s.mysqlText

end Statement
end ManagedDatabase.Sql
