/-
The operations that a session carries out on database servers. An operation is one conversation: it
has a name and a target for error messages, a place where it is carried out, and a list of
statements for each engine. Databases and users are administered on the master in the administrative
database, tables and records live in the session's own database.

`execute` does not ask whether a name is protected; `Session.Guarded` does.
-/
import ManagedDatabase.Session.Basic
import ManagedDatabase.Sql.Statement

namespace ManagedDatabase

inductive Operation
  | createDatabase (name : String)
  | dropDatabase (name : String)
  | listDatabases
  | createUser (name password : String)
  | deleteUser (name : String)
  | editUser (name password : String)
  | listUsers
  | createTable (table : String)
  | writeRecord (endpoint table : String)
  | readRecord (endpoint table : String)
  deriving DecidableEq, Repr

namespace Operation

open Sql

/-- What is done, in the words of error messages. -/
def verb : Operation → String
  | createDatabase _ => "create database"
  | dropDatabase _ => "drop database"
  | listDatabases => "list databases"
  | createUser _ _ => "create user"
  | deleteUser _ => "delete user"
  | editUser _ _ => "edit user"
  | listUsers => "list users"
  | createTable _ => "create table"
  | writeRecord _ _ => "write record"
  | readRecord _ _ => "read record"

/-- What it is done to: a name, a table, or the catalogue that is listed. -/
def target (e : Engine) : Operation → String
  | createDatabase name | dropDatabase name => name
  | listDatabases =>
    match e with
    | .postgresql => "pg_database"
    | .mysql => "schemata"
  | createUser name _ | deleteUser name | editUser name _ => name
  | listUsers =>
    match e with
    | .postgresql => "pg_user"
    | .mysql => "mysql.user"
  | createTable table | writeRecord _ table | readRecord _ table => table

/-- The statements, in the order in which they are sent. -/
def statements (e : Engine) : Operation → List Statement
  | createDatabase name => [.createDatabase name]
  | dropDatabase name => [.dropDatabase name]
  | listDatabases => [.listDatabases]
  | createUser name password =>
    match e with
    | .postgresql => [.createUser name password, .grantAll name]
    | .mysql => [.createUser name password, .grantAll name, .flushPrivileges]
  | deleteUser name => [.dropUser name]
  | editUser name password =>
    match e with
    | .postgresql => [.setPassword name password]
    | .mysql => [.setPassword name password, .flushPrivileges]
  | listUsers => [.listUsers]
  | createTable table => [.createTable table]
  | writeRecord _ table => [.insertRow table]
  | readRecord _ table => [.selectLast table]

end Operation

namespace Session

/-- Where and as whom an operation is carried out. -/
def loginFor (s : Session) : Operation → Sql.Login
  | .createTable _ => s.login s.masterEndpoint s.database
  | .writeRecord endpoint _ | .readRecord endpoint _ => s.login endpoint s.database
  | _ => s.login s.masterEndpoint ""

/-- The texts that an operation sends. -/
def textsOf (s : Session) (op : Operation) : List String :=
  (op.statements s.engine).map (Sql.Statement.text s.engine)

/-- The fault of an operation whose conversation came to nothing. -/
def faultOf (s : Session) (op : Operation) : Sql.Lapse → Fault
  | .timedOut => .timeout op.verb (op.target s.engine)
  | .failed f => .sql op.verb (op.target s.engine) f

/-- Carry out an operation on one connection and read its answers. -/
def perform {α : Type} (s : Session) (op : Operation)
    (read : List Sql.Answer → Except Sql.Fault α) : Act α := fun w =>
  match w.converse (s.loginFor op) (s.textsOf op) read with
  | (.ok value, w) => .ok value w
  | (.error lapse, w) => .error (s.faultOf op lapse) w

/-- Carry out an operation that answers nothing. -/
def execute (s : Session) (op : Operation) : Act Unit := s.perform op Sql.readNothing

/-- Names in the order of their characters. -/
def sortNames (names : List String) : List String :=
  names.mergeSort fun a b => !decide (b < a)

/-- A list without the entries that repeat the one before them. -/
def dropRepeats : List String → List String
  | a :: b :: rest => if a = b then dropRepeats (b :: rest) else a :: dropRepeats (b :: rest)
  | names => names

/-- The list that is answered for names in the order of the server; MySQL knows a user once for
every host. -/
def listing (e : Engine) (names : List String) : List String :=
  match e with
  | .postgresql => sortNames names
  | .mysql => dropRepeats (sortNames names)

def listDatabases (s : Session) : Act (List String) := do
  return listing s.engine (← s.perform .listDatabases Sql.readNames)

def listUsers (s : Session) : Act (List String) := do
  return listing s.engine (← s.perform .listUsers Sql.readNames)

/-- Create a table of records in the session's database unless it is there. -/
def createTable (s : Session) (table : String) : Act Unit := s.execute (.createTable table)

/-- Add a record to a table and answer its number. -/
def writeRecord (s : Session) (endpoint table : String) : Act Int64 :=
  let op := Operation.writeRecord endpoint table
  match s.engine with
  | .postgresql => s.perform op Sql.readFirstId
  | .mysql => do
    let id ← s.perform op Sql.readLastInsertId
    match Sql.signedId id with
    | .ok id => return id
    | .error f => throw (s.faultOf op (.failed f))

/-- The highest number of a record in a table, if it has records. -/
def readLastRecord (s : Session) (endpoint table : String) : Act (Option Int64) :=
  s.perform (.readRecord endpoint table) Sql.readFirstId?

end Session
end ManagedDatabase
