/-
How clients of PostgreSQL read a connection string. Pairs of key and value stand between blanks. A value
that begins with a single quote goes on to the next quote, any other to the next blank, and a backslash
takes the character behind it for what it is. Blanks are those of ASCII, fewer than those for which a
value is put into quotes.

What a session writes is read back as the pairs it was written from, whatever their values
(`Session.postgres_string_reads_back`), since each pair leaves the reader where a blank or the end
completes it (`Conninfo.scan_pairText`).
-/
import ManagedDatabase.Session.ConnectionString

namespace ManagedDatabase

namespace Conninfo

/-- The blanks that stand between pairs. -/
def isSpace (c : Char) : Bool := (9 ≤ c.toNat && c.toNat ≤ 13) || c.toNat == 0x20

/-- What the reader is in the middle of. What it has read of a key or value is kept reversed. -/
inductive Mode
  | between
  | key (read : List Char)
  /-- Behind a key and a blank, before the equals sign. -/
  | afterKey (key : String)
  /-- Behind the equals sign. -/
  | beforeValue (key : String)
  | bare (key : String) (read : List Char)
  | bareEscape (key : String) (read : List Char)
  | quoted (key : String) (read : List Char)
  | quotedEscape (key : String) (read : List Char)
  /-- Behind the quote at the end of a value. -/
  | afterQuote
  deriving DecidableEq, Repr

/-- The mode of the reader and the pairs so far, the last one first. -/
abbrev State := Mode × List (String × String)

/-- A pair that is complete. -/
def close (key : String) (read : List Char) (pairs : List (String × String)) :
    List (String × String) :=
  (key, String.ofList read.reverse) :: pairs

def scanKey (read : List Char) (c : Char) : Mode :=
  if c = '=' then .beforeValue (String.ofList read.reverse)
  else if isSpace c then .afterKey (String.ofList read.reverse)
  else .key (c :: read)

def scanBare (key : String) (read : List Char) (pairs : List (String × String)) (c : Char) : State :=
  if isSpace c then (.between, close key read pairs)
  else if c = '\\' then (.bareEscape key read, pairs)
  else (.bare key (c :: read), pairs)

/-- One character read. -/
def scan (state : State) (c : Char) : Option State :=
  let pairs := state.2
  match state.1 with
  | .between => some (if isSpace c then .between else scanKey [] c, pairs)
  | .key read => some (scanKey read c, pairs)
  | .afterKey key =>
    if isSpace c then some (.afterKey key, pairs)
    else if c = '=' then some (.beforeValue key, pairs)
    else none
  | .beforeValue key =>
    if isSpace c then some (.beforeValue key, pairs)
    else if c = '\x27' then some (.quoted key [], pairs)
    else some (scanBare key [] pairs c)
  | .bare key read => some (scanBare key read pairs c)
  | .bareEscape key read => some (.bare key (c :: read), pairs)
  | .quoted key read =>
    if c = '\\' then some (.quotedEscape key read, pairs)
    else if c = '\x27' then some (.afterQuote, close key read pairs)
    else some (.quoted key (c :: read), pairs)
  | .quotedEscape key read => some (.quoted key (c :: read), pairs)
  | .afterQuote => if isSpace c then some (.between, pairs) else none

/-- The pairs at the end of the text; a key without value or an open quote is a fault. -/
def finish (state : State) : Option (List (String × String)) :=
  match state.1 with
  | .between | .afterQuote => some state.2.reverse
  | .beforeValue key => some (close key [] state.2).reverse
  | .bare key read | .bareEscape key read => some (close key read state.2).reverse
  | _ => none

/-- The pairs that a text denotes. -/
def read? (cs : List Char) : Option (List (String × String)) :=
  (cs.foldlM scan (.between, [])).bind finish

/-! ## Pairs -/

/-- A text that can be the key of a pair. -/
def isKey (key : List Char) : Bool := !key.isEmpty && key.all fun c => !(isSpace c || c == '=')

/-- The reader has come to the end of its last pair: a blank or the end of the text completes it. -/
def Complete (state : State) (pairs : List (String × String)) : Prop :=
  finish state = some pairs.reverse ∧ scan state ' ' = some (.between, pairs)

/-- Where two states go on alike with the first character, so they do with the whole text. -/
theorem foldlM_head {m n : State} {cs : List Char} (nonempty : cs ≠ [])
    (h : ∀ c ∈ cs, scan m c = scan n c) : cs.foldlM scan m = cs.foldlM scan n := by
  obtain ⟨c, rest, rfl⟩ := List.exists_cons_of_ne_nil nonempty
  rw [List.foldlM_cons, List.foldlM_cons, h c (by simp)]

theorem isBlank_of_isSpace {c : Char} (h : isSpace c = true) : Text.isBlank c = true := by
  simp only [isSpace, Bool.or_eq_true, Bool.and_eq_true, decide_eq_true_eq, beq_iff_eq] at h
  simp only [Text.isBlank, Bool.or_eq_true, Bool.and_eq_true, decide_eq_true_eq, beq_iff_eq]
  omega

theorem scan_key (pairs : List (String × String)) : ∀ {cs : List Char} (read : List Char),
    (∀ c ∈ cs, isSpace c = false ∧ c ≠ '=') →
      cs.foldlM scan (.key read, pairs) = some (.key (cs.reverse ++ read), pairs)
  | [], _, _ => rfl
  | c :: cs, read, h => by
    obtain ⟨blank, sign⟩ := h c (by simp)
    have later := scan_key pairs (c :: read) fun d hd => h d (List.mem_cons_of_mem _ hd)
    simp only [List.foldlM_cons, scan, scanKey, sign, blank, Bool.false_eq_true, if_false,
      Option.bind_eq_bind, Option.bind_some, later, List.reverse_cons, List.append_assoc,
      List.singleton_append]

theorem scan_keySign {key : String} (h : isKey key.toList = true) (pairs : List (String × String)) :
    (key.toList ++ ['=']).foldlM scan (.between, pairs) = some (.beforeValue key, pairs) := by
  simp only [isKey, Bool.and_eq_true, Bool.not_eq_true', List.isEmpty_eq_false_iff, List.all_eq_true,
    Bool.or_eq_false_iff, beq_eq_false_iff_ne] at h
  obtain ⟨nonempty, each⟩ := h
  have started : key.toList.foldlM scan (.between, pairs) = some (.key key.toList.reverse, pairs) := by
    have whole := scan_key pairs [] each
    rw [List.append_nil] at whole
    rw [← whole]
    refine foldlM_head nonempty fun c hc => ?_
    simp only [scan, (each c hc).1, Bool.false_eq_true, if_false]
  rw [List.foldlM_append, started]
  simp only [List.foldlM_cons, List.foldlM_nil, scan, scanKey, if_true, Option.bind_eq_bind,
    Option.bind_some, List.reverse_reverse, String.ofList_toList]
  rfl

theorem scan_bare (key : String) (pairs : List (String × String)) : ∀ {cs : List Char}
    (read : List Char), (∀ c ∈ cs, isSpace c = false ∧ c ≠ '\\') →
      cs.foldlM scan (.bare key read, pairs) = some (.bare key (cs.reverse ++ read), pairs)
  | [], _, _ => rfl
  | c :: cs, read, h => by
    obtain ⟨blank, escape⟩ := h c (by simp)
    have later := scan_bare key pairs (c :: read) fun d hd =>
      h d (List.mem_cons_of_mem _ hd)
    simp only [List.foldlM_cons, scan, scanBare, escape, blank, Bool.false_eq_true, if_false,
      Option.bind_eq_bind, Option.bind_some, later, List.reverse_cons, List.append_assoc,
      List.singleton_append]

theorem scan_backslashed (key : String) (pairs : List (String × String)) :
    ∀ (cs read : List Char), (Session.backslashed cs).foldlM scan (.quoted key read, pairs) =
      some (.quoted key (cs.reverse ++ read), pairs)
  | [], _ => rfl
  | c :: cs, read => by
    have later := scan_backslashed key pairs cs (c :: read)
    rw [List.reverse_cons, List.append_assoc, List.singleton_append, ← later]
    by_cases special : (c == '\x27' || c == '\\') = true
    · -- the backslash before it takes away the character's meaning
      simp only [Session.backslashed, special, if_true, List.foldlM_cons, scan]
      rfl
    · have plain : c ≠ '\x27' ∧ c ≠ '\\' := by simpa using special
      simp only [Session.backslashed, special, if_false, Bool.false_eq_true, List.foldlM_cons, scan, plain]
      rfl

theorem scan_value (key value : String) (pairs : List (String × String)) :
    ∃ state, (Session.pairValue value.toList).foldlM scan (.beforeValue key, pairs) = some state ∧
      Complete state ((key, value) :: pairs) := by
  have whole : close key value.toList.reverse pairs = (key, value) :: pairs := by
    rw [close, List.reverse_reverse, String.ofList_toList]
  unfold Session.pairValue
  split
  · next bare =>
    simp only [Session.isBareValue, Bool.and_eq_true, Bool.not_eq_true', List.isEmpty_eq_false_iff,
      List.all_eq_true, Bool.or_eq_false_iff, beq_eq_false_iff_ne] at bare
    obtain ⟨nonempty, each⟩ := bare
    -- what is no blank of Unicode is none of ASCII
    have plain : ∀ c ∈ value.toList, isSpace c = false ∧ c ≠ '\\' := fun c hc => by
      obtain ⟨⟨blank, -⟩, escape⟩ := each c hc
      refine ⟨Bool.eq_false_iff.2 fun h => ?_, escape⟩
      rw [isBlank_of_isSpace h] at blank
      cases blank
    have read := scan_bare key pairs [] plain
    rw [List.append_nil] at read
    refine ⟨(.bare key value.toList.reverse, pairs), ?_, ?_, ?_⟩
    · rw [← read]
      refine foldlM_head nonempty fun c hc => ?_
      simp only [scan, (plain c hc).1, (each c hc).1.2, Bool.false_eq_true, if_false]
    · rw [← whole]
      rfl
    · rw [← whole]
      rfl
  · have read := scan_backslashed key pairs value.toList []
    rw [List.append_nil] at read
    refine ⟨(.afterQuote, (key, value) :: pairs), ?_, rfl, rfl⟩
    rw [List.foldlM_cons, ← whole]
    show (Session.backslashed value.toList ++ ['\x27']).foldlM scan (.quoted key [], pairs) = _
    rw [List.foldlM_append, read]
    rfl

theorem scan_pairText {p : String × String} (h : isKey p.1.toList = true)
    (pairs : List (String × String)) :
    ∃ state, (Session.pairText p).foldlM scan (.between, pairs) = some state ∧
      Complete state (p :: pairs) := by
  obtain ⟨state, read, complete⟩ := scan_value p.1 p.2 pairs
  refine ⟨state, ?_, complete⟩
  have split : Session.pairText p = (p.1.toList ++ ['=']) ++ Session.pairValue p.2.toList := by
    simp only [Session.pairText, List.append_assoc, List.singleton_append]
  rw [split, List.foldlM_append, scan_keySign h, Option.bind_eq_bind, Option.bind_some, read]

theorem scan_pairs : ∀ {ps : List (String × String)} (pairs : List (String × String)),
    ps ≠ [] → (∀ p ∈ ps, isKey p.1.toList = true) →
    ∃ state, ([' '].intercalate (ps.map Session.pairText)).foldlM scan (.between, pairs) = some state ∧
      Complete state (ps.reverse ++ pairs)
  | [p], pairs, _, h => by
    obtain ⟨state, read, complete⟩ := scan_pairText (h p (by simp)) pairs
    exact ⟨state, by simpa [List.intercalate] using read, complete⟩
  | p :: q :: ps, pairs, _, h => by
    obtain ⟨state, read, -, blank⟩ := scan_pairText (h p (by simp)) pairs
    obtain ⟨last, rest, complete⟩ := scan_pairs (p :: pairs) (List.cons_ne_nil q ps)
      fun r hr => h r (List.mem_cons_of_mem _ hr)
    refine ⟨last, ?_, by simpa using complete⟩
    have split : [' '].intercalate ((p :: q :: ps).map Session.pairText) =
        Session.pairText p ++ ' ' :: [' '].intercalate ((q :: ps).map Session.pairText) := by
      simp [List.intercalate]
    rw [split, List.foldlM_append, read, Option.bind_eq_bind, Option.bind_some, List.foldlM_cons, blank]
    exact rest

/-- What is written as pairs is read as these pairs, whatever their values. -/
theorem read?_pairTexts {ps : List (String × String)} (nonempty : ps ≠ [])
    (keys : ∀ p ∈ ps, isKey p.1.toList = true) :
    read? ([' '].intercalate (ps.map Session.pairText)) = some ps := by
  obtain ⟨state, read, complete, -⟩ := scan_pairs [] nonempty keys
  rw [read?, read, Option.bind_some, complete, List.append_nil, List.reverse_reverse]

end Conninfo

namespace Session

/-- **A connection string of PostgreSQL reads back as what the session connects with.** It is read as
five pairs: the endpoint, the port, the administrative user, the password, and the database or that of
the administrator. A login to the same database on the same endpoint has the same five values. The port
is that of the replicas exactly for their endpoints. -/
theorem postgres_string_reads_back (s : Session) (postgres : s.engine = .postgresql)
    (endpoint database : String) :
    let port := if endpoint ∈ s.topology.replicaEndpoints then s.topology.replicaPort
      else s.topology.accessPort
    let name := if database = "" then "postgres" else database
    Conninfo.read? (s.connectionString endpoint database).toList = some [
      ("host", endpoint), ("port", toString port), ("user", s.credentials.username),
      ("password", s.credentials.password), ("dbname", name)] ∧
    s.login endpoint database = {
      engine := .postgresql, host := endpoint, port, user := s.credentials.username
      password := s.credentials.password, database := some name } := by
  intro port name
  have port_eq : s.portAt endpoint = port := by
    simp only [portAt, port, List.contains_iff_mem]
  have name_eq : s.effectiveDatabase database = name := by
    simp only [effectiveDatabase, postgres, Engine.adminDatabase, name]
  refine ⟨?_, ?_⟩
  · have text : s.connectionString endpoint database =
        String.ofList (s.postgresString endpoint database) := by
      simp only [connectionString, postgres]
    have keys : ∀ p ∈ s.pairs endpoint database, Conninfo.isKey p.1.toList = true := by
      simp only [pairs, List.forall_mem_cons, List.not_mem_nil, false_imp_iff, implies_true, and_true]
      decide
    rw [text, String.toList_ofList, postgresString, Conninfo.read?_pairTexts (by simp [pairs]) keys, pairs,
      port_eq, name_eq]
  · simp only [login, postgres, port_eq, name_eq]

/-- A cluster with a replica and a password that looks like the end of its field and another one. -/
def spilling : Session where
  descriptor := { engine := .postgresql, ns := "default", name := "db", replicas := 1 }
  topology := {
    masterEndpoint := "kuberlogic-db", replicaEndpoints := ["10.0.0.1"], accessPort := 6432
    replicaPort := 5432, masterLabels := .empty, replicaLabels := .empty }
  credentials := {
    username := "", secret := ⟨"secret", "password"⟩, password := "x' dbname=other\\" }
  database := ""
  config := {}

/-- No such password spills into the next field, nor does an empty value take it over. -/
theorem spilling_reads_back :
    Conninfo.read? (spilling.connectionString "10.0.0.1" "").toList = some [
      ("host", "10.0.0.1"), ("port", "5432"), ("user", ""), ("password", "x' dbname=other\\"),
      ("dbname", "postgres")] :=
  (postgres_string_reads_back spilling rfl "10.0.0.1" "").1

end Session
end ManagedDatabase
