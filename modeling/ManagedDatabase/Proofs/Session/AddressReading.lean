/-
How clients of MySQL read a connection string. Nothing in it is escaped, so it hangs on which occurrence of a
separator counts: the database stands behind the last slash, the address behind the last at sign before that
and the port behind the last colon of the address, but the user ends at the first colon.

So a password may hold all of them, and a whole connection string (`Session.mysql_string_reads_back`): what
comes behind it has separators of its own, which the reader takes first (`Dsn.cutLast_append`).
-/
import ManagedDatabase.Proofs.Session.Encounter
import ManagedDatabase.Session.ConnectionString

namespace ManagedDatabase

/-- What a connection string of MySQL says. -/
structure Dsn where
  user : String
  password : String
  host : String
  port : Nat
  database : String
  deriving DecidableEq, Repr

namespace Dsn

/-- What stands before and behind the first occurrence of a separator. -/
def cutFirst (sep : Char) : List Char → Option (List Char × List Char)
  | [] => none
  | c :: cs =>
    if c = sep then some ([], cs) else (cutFirst sep cs).map fun cut => (c :: cut.1, cut.2)

/-- What stands before and behind the last occurrence of a separator. -/
def cutLast (sep : Char) : List Char → Option (List Char × List Char)
  | [] => none
  | c :: cs =>
    match cutLast sep cs with
    | some cut => some (c :: cut.1, cut.2)
    | none => if c = sep then some ([], cs) else none

/-- The number that digits denote. -/
def readPort? (cs : List Char) : Option Nat :=
  if !cs.isEmpty && cs.all Char.isDigit then some (Nat.ofDigitChars 10 cs 0) else none

/-- The host and the port of an address, in parentheses behind the name of the network. -/
def readAddress? : List Char → Option (String × Nat)
  | 't' :: 'c' :: 'p' :: '(' :: cs => do
    let (inner, behind) ← cutLast ')' cs
    let (host, port) ← cutLast ':' inner
    if behind.isEmpty then return (String.ofList host, ← readPort? port) else none
  | _ => none

/-- What a text says, if it has the form of a connection string. -/
def read? (cs : List Char) : Option Dsn := do
  let (front, database) ← cutLast '/' cs
  let (login, address) ← cutLast '@' front
  let (user, password) ← cutFirst ':' login
  let (host, port) ← readAddress? address
  return {
    user := String.ofList user, password := String.ofList password, host, port
    database := String.ofList database }

theorem cutFirst_append {sep : Char} (behind : List Char) : ∀ {before : List Char}, sep ∉ before →
    cutFirst sep (before ++ sep :: behind) = some (before, behind)
  | [], _ => by simp [cutFirst]
  | c :: cs, h => by
    rw [List.mem_cons, not_or] at h
    rw [List.cons_append, cutFirst, if_neg (Ne.symm h.1), cutFirst_append behind h.2]
    rfl

theorem cutLast_eq_none {sep : Char} : ∀ {cs : List Char}, sep ∉ cs → cutLast sep cs = none
  | [], _ => rfl
  | c :: cs, h => by
    rw [List.mem_cons, not_or] at h
    simp only [cutLast, cutLast_eq_none h.2, if_neg (Ne.symm h.1)]

theorem cutLast_append {sep : Char} {behind : List Char} (h : sep ∉ behind) :
    ∀ before : List Char, cutLast sep (before ++ sep :: behind) = some (before, behind)
  | [] => by simp [cutLast, cutLast_eq_none h]
  | c :: cs => by
    have later := cutLast_append h cs
    simp only [List.cons_append, cutLast, later]

theorem isDigit_of_mem_toString {c : Char} {n : Nat} (h : c ∈ (toString n).toList) : c.isDigit = true := by
  rw [Nat.toString_eq_repr, Nat.toList_repr] at h
  exact Nat.isDigit_of_mem_toDigits (by decide) (by decide) h

theorem readPort?_toString (n : Nat) : readPort? (toString n).toList = some n := by
  have digits : ((toString n).toList.all Char.isDigit) = true :=
    List.all_eq_true.2 fun c hc => isDigit_of_mem_toString hc
  have text : (toString n).toList = Nat.toDigits 10 n := by
    rw [Nat.toString_eq_repr, Nat.toList_repr]
  have nonempty : (toString n).toList.isEmpty = false := by
    rw [text, List.isEmpty_eq_false_iff]
    exact Nat.toDigits_ne_nil
  rw [readPort?, nonempty, digits, text, Nat.ofDigitChars_toDigits (by decide) (by decide)]
  rfl

/-- An address, as it is written. -/
def address (host : String) (port : Nat) : List Char :=
  't' :: 'c' :: 'p' :: '(' :: ((host.toList ++ ':' :: (toString port).toList) ++ ')' :: [])

theorem readAddress?_address (host : String) (port : Nat) :
    readAddress? (address host port) = some (host, port) := by
  have colon : ':' ∉ (toString port).toList := fun h => by
    have digit := isDigit_of_mem_toString h
    cases digit
  have last : ')' ∉ ([] : List Char) := List.not_mem_nil
  have closed := cutLast_append last (host.toList ++ ':' :: (toString port).toList)
  have cut := cutLast_append colon host.toList
  simp only [readAddress?, address, closed, cut, Option.bind_eq_bind, Option.bind_some, readPort?_toString,
    String.ofList_toList]
  rfl

theorem not_mem_address {host : String} (h : '@' ∉ host.toList) (port : Nat) : '@' ∉ address host port := by
  have digits : '@' ∉ (toString port).toList := fun h => by
    have digit := isDigit_of_mem_toString h
    cases digit
  simp only [address, List.mem_cons, List.mem_append, List.not_mem_nil, h, digits, or_false, false_or]
  decide

/-- What is written from parts whose separators do not come in each other's way is read as these parts. -/
theorem read?_written {user host database : String} (password : String) (port : Nat)
    (own : ':' ∉ user.toList) (away : '@' ∉ host.toList) (plain : '/' ∉ database.toList) :
    read? (((user.toList ++ ':' :: password.toList) ++ '@' :: address host port) ++
      '/' :: database.toList) = some { user, password, host, port, database } := by
  have behind := cutLast_append plain ((user.toList ++ ':' :: password.toList) ++ '@' :: address host port)
  have before := cutLast_append (not_mem_address away port) (user.toList ++ ':' :: password.toList)
  have login := cutFirst_append password.toList own
  simp only [read?, behind, before, login, readAddress?_address, Option.bind_eq_bind, Option.bind_some,
    String.ofList_toList]
  rfl

end Dsn

namespace Session

/-- **A connection string of MySQL reads back as what the session connects with.** If the user has no colon,
the endpoint no at sign and the database no slash, it is read as the administrative user, the password,
whatever that is, the endpoint, its port and the database. A login to the same database on the same
endpoint has the same five values, and names no database if that is the empty one. The port is that of the
replicas exactly for their endpoints. -/
theorem mysql_string_reads_back (s : Session) (mysql : s.engine = .mysql)
    (own : ':' ∉ s.credentials.username.toList) {endpoint database : String}
    (away : '@' ∉ endpoint.toList) (plain : '/' ∉ database.toList) :
    let port := if endpoint ∈ s.topology.replicaEndpoints then s.topology.replicaPort
      else s.topology.accessPort
    Dsn.read? (s.connectionString endpoint database).toList = some {
      user := s.credentials.username, password := s.credentials.password, host := endpoint, port
      database } ∧
    s.login endpoint database = {
      engine := .mysql, host := endpoint, port, user := s.credentials.username
      password := s.credentials.password
      database := if database = "" then none else some database } := by
  intro port
  have port_eq : s.portAt endpoint = port := by
    simp only [portAt, port, List.contains_iff_mem]
  have name_eq : s.effectiveDatabase database = database := by
    unfold effectiveDatabase
    split
    · next empty => rw [mysql, empty]; rfl
    · rfl
  constructor
  · have text : (s.connectionString endpoint database).toList =
        ((s.credentials.username.toList ++ ':' :: s.credentials.password.toList) ++
          '@' :: Dsn.address endpoint port) ++ '/' :: database.toList := by
      simp [connectionString, mysql, mysqlString, Dsn.address, port_eq, name_eq]
    rw [text]
    exact Dsn.read?_written _ port own away plain
  · rw [login_eq, mysql, port_eq]
    rfl

/-- A cluster with a replica at an address of many colons, and a password that is a connection string. -/
def nested : Session where
  descriptor := { engine := .mysql, ns := "default", name := "db", replicas := 1 }
  topology := {
    masterEndpoint := "db-mysql-master", replicaEndpoints := ["fd00::1"], accessPort := 3307
    replicaPort := 3306, masterLabels := .empty, replicaLabels := .empty }
  credentials := {
    username := "root", secret := ⟨"db-cred", "ROOT_PASSWORD"⟩
    password := "a:b@tcp(other:1)/x" }
  database := ""
  config := {}

/-- The connection string in the password is none of the reader's business. -/
theorem nested_reads_back :
    Dsn.read? (nested.connectionString "fd00::1" "").toList = some {
      user := "root", password := "a:b@tcp(other:1)/x", host := "fd00::1", port := 3306
      database := "" } ∧
    (nested.login "fd00::1" "").database = none := by
  have away : '@' ∉ "fd00::1".toList := by decide
  have plain : '/' ∉ "".toList := by decide
  obtain ⟨read, login⟩ := mysql_string_reads_back nested rfl (by decide) away plain
  exact ⟨read, congrArg (·.database) login⟩

end Session
end ManagedDatabase
