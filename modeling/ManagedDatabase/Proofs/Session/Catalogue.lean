/-
What is answered for the databases and users of a server. The server tells their names in rows of its own
choosing; they are sorted, and on MySQL, which knows a user once for every host, each of them is answered once.
Of entries that are the same only those side by side are dropped, and in a sorted list they all are
(`Session.pairwise_dropRepeats`).

There is one list of the kind for some rows (`Engine.Canonical.unique`), so the answer tells which names there
are and nothing about how the server came to tell them.
-/
import ManagedDatabase.Proofs.Session.Encounter
import ManagedDatabase.Proofs.Text.Order

namespace ManagedDatabase

open Text (encodeUtf8)

/-- A server lets the client in, lists these names in answer to the first statement, none of them null, and
takes the goodbye. -/
def Sql.Peer.Lists (peer : Peer) (names : List String) : Prop :=
  peer.greeting = .accepted ∧
    (∃ a, peer.replies.getD 0 (.answer {}) = .answer a ∧ a.names = names.map some) ∧
    peer.goodbye = .taken

theorem Sql.mapM_readValue {α : Type} : ∀ values : List α,
    (values.map some).mapM readValue = .ok values
  | [] => rfl
  | value :: values => by
    rw [List.map_cons, List.mapM_cons, mapM_readValue values]
    rfl

/-- What a session can be asked to list. -/
inductive Catalogue
  | databases
  | users
  deriving DecidableEq, Repr

def Catalogue.operation : Catalogue → Operation
  | databases => .listDatabases
  | users => .listUsers

namespace Engine

/-- The names in some rows as they are answered: in the order of their bytes, on MySQL each of them once and
on PostgreSQL as often as it came. -/
def Canonical (e : Engine) (rows answer : List String) : Prop :=
  match e with
  | postgresql => answer.Pairwise (fun a b => encodeUtf8 a ≤ encodeUtf8 b) ∧ answer.Perm rows
  | mysql => answer.Pairwise (fun a b => encodeUtf8 a < encodeUtf8 b) ∧ ∀ name, name ∈ answer ↔ name ∈ rows

/-- Rows that tell the same: they come in whatever order, and on MySQL however often. -/
def SameRows (e : Engine) (rows rows' : List String) : Prop :=
  match e with
  | postgresql => rows.Perm rows'
  | mysql => ∀ name, name ∈ rows ↔ name ∈ rows'

variable {e : Engine} {rows rows' answer answer' : List String}

theorem Canonical.mem_iff (canonical : e.Canonical rows answer) (name : String) :
    name ∈ answer ↔ name ∈ rows := by
  cases e with
  | postgresql => exact canonical.2.mem_iff
  | mysql => exact canonical.2 name

theorem Canonical.ascends (canonical : e.Canonical rows answer) : answer.Pairwise (· ≤ ·) := by
  cases e with
  | postgresql => exact canonical.1.imp Text.encodeUtf8_le_iff.1
  | mysql => exact canonical.1.imp fun less => Std.le_of_lt (Text.encodeUtf8_lt_iff.1 less)

theorem nodup_of_less {names : List String}
    (less : names.Pairwise fun a b => encodeUtf8 a < encodeUtf8 b) : names.Nodup := by
  refine less.imp fun {a b} before same => ?_
  rw [same] at before
  exact List.lt_irrefl _ before

theorem Canonical.perm (canonical : e.Canonical rows answer) (canonical' : e.Canonical rows' answer')
    (same : e.SameRows rows rows') : answer.Perm answer' := by
  cases e with
  | postgresql => exact canonical.2.trans (same.trans canonical'.2.symm)
  | mysql =>
    refine (List.perm_ext_iff_of_nodup (nodup_of_less canonical.1) (nodup_of_less canonical'.1)).2 ?_
    intro name
    rw [canonical.2, same, canonical'.2]

/-- For rows that tell the same there is one canonical list. -/
theorem Canonical.unique (canonical : e.Canonical rows answer) (canonical' : e.Canonical rows' answer')
    (same : e.SameRows rows rows') : answer = answer' :=
  (canonical.perm canonical' same).eq_of_pairwise (fun _ _ _ _ => String.le_antisymm)
    canonical.ascends canonical'.ascends

end Engine

namespace Session

/-- The list of a catalogue. -/
def list (s : Session) : Catalogue → Act (List String)
  | .databases => s.listDatabases
  | .users => s.listUsers

/-! ## Sorted names without repetitions -/

theorem sortNames_perm (names : List String) : (sortNames names).Perm names := List.mergeSort_perm _ _

theorem pairwise_sortNames (names : List String) : (sortNames names).Pairwise (· ≤ ·) :=
  Text.mergeSort_ascends id names

theorem mem_dropRepeats {x : String} : ∀ {names : List String}, x ∈ dropRepeats names ↔ x ∈ names
  | [] | [_] => Iff.rfl
  | a :: b :: rest => by
    have later := @mem_dropRepeats x (b :: rest)
    unfold dropRepeats
    split
    · next same =>
      subst same
      rw [later, List.mem_cons (l := a :: rest), List.mem_cons, or_self_left]
    · rw [List.mem_cons, later, List.mem_cons (l := b :: rest)]

/-- In sorted names repetitions stand side by side, so none of them is left. -/
theorem pairwise_dropRepeats : ∀ {names : List String}, names.Pairwise (· ≤ ·) →
    (dropRepeats names).Pairwise (· < ·)
  | [], _ => .nil
  | [a], _ => List.pairwise_singleton _ a
  | a :: b :: rest, sorted => by
    obtain ⟨first, others⟩ := List.pairwise_cons.1 sorted
    have later := pairwise_dropRepeats others
    unfold dropRepeats
    split
    · exact later
    · next apart =>
      have before : a < b := Std.lt_of_le_of_ne (first b (by simp)) apart
      -- nothing behind `b` is less than `b`
      refine List.pairwise_cons.2 ⟨fun x hx => ?_, later⟩
      rcases List.mem_cons.1 (mem_dropRepeats.1 hx) with rfl | behind
      · exact before
      · exact Std.lt_of_lt_of_le before ((List.pairwise_cons.1 others).1 x behind)

theorem canonical_listing (e : Engine) (rows : List String) : e.Canonical rows (listing e rows) := by
  cases e with
  | postgresql =>
    exact ⟨(pairwise_sortNames rows).imp Text.encodeUtf8_le_iff.2, sortNames_perm rows⟩
  | mysql =>
    refine ⟨(pairwise_dropRepeats (pairwise_sortNames rows)).imp Text.encodeUtf8_lt_iff.2, fun name => ?_⟩
    exact mem_dropRepeats.trans (sortNames_perm rows).mem_iff

/-! ## Lists -/

theorem list_eq (s : Session) (c : Catalogue) :
    s.list c = s.perform c.operation Sql.readNames >>= fun rows => pure (listing s.engine rows) := by
  cases c <;> rfl

theorem outcome_of_lists (s : Session) (c : Catalogue) {peer : Sql.Peer} {rows : List String}
    (lists : peer.Lists rows) : s.outcome c.operation Sql.readNames peer = .ok rows := by
  have single : ∃ text, s.textsOf c.operation = [text] := by
    cases c <;> exact ⟨_, rfl⟩
  obtain ⟨text, single⟩ := single
  obtain ⟨accepted, ⟨a, reply, names⟩, taken⟩ := lists
  refine (s.outcome_single_ok_iff c.operation single).2 ⟨accepted, a, reply, ?_, taken⟩
  rw [Sql.readNames, List.flatMap_singleton, names, Sql.mapM_readValue]

theorem result_of_lists (s : Session) (c : Catalogue) {w : World} {rows : List String}
    (lists : (w.peer 0).Lists rows) : ((s.list c).attempt w).1 = .ok (listing s.engine rows) := by
  have met := s.meets_perform c.operation Sql.readNames
  rw [list_eq, met.bind_ok rfl (s.outcome_of_lists c lists)]
  rfl

/-- **Lists are canonical.** A server lists the names of its databases or users, any names in any order. Then
the answer has these names and no others, whether they are protected or not. It is in the order of their bytes,
which is that of the numbers of their characters; on MySQL each name is in it once, and on PostgreSQL as often
as it was listed. And it is the answer for every server that tells the same, in another order or, on MySQL, with
other repetitions. -/
theorem lists_are_canonical (s : Session) (c : Catalogue) {w : World} {rows : List String}
    (lists : (w.peer 0).Lists rows) :
    (∃ answer, ((s.list c).attempt w).1 = .ok answer ∧ s.engine.Canonical rows answer ∧
      (∀ name, name ∈ answer ↔ name ∈ rows) ∧
      ∀ (w' : World) (rows' : List String), (w'.peer 0).Lists rows' → s.engine.SameRows rows rows' →
        ((s.list c).attempt w').1 = .ok answer) ∧
    ∀ a b : String, encodeUtf8 a < encodeUtf8 b ↔ a.toList.map Char.toNat < b.toList.map Char.toNat := by
  have canonical := canonical_listing s.engine rows
  refine ⟨⟨listing s.engine rows, s.result_of_lists c lists, canonical, canonical.mem_iff, ?_⟩, fun a b => ?_⟩
  · intro w' rows' lists' same
    rw [s.result_of_lists c lists', canonical.unique (canonical_listing s.engine rows') same]
  · rw [Text.encodeUtf8_lt_iff, Text.codes_lt_iff]

/-- A cluster on MySQL. -/
def populous : Session where
  descriptor := { engine := .mysql, ns := "default", name := "db", replicas := 0 }
  topology := {
    masterEndpoint := "db-mysql-master", replicaEndpoints := [], accessPort := 3306
    replicaPort := 3306, masterLabels := .empty, replicaLabels := .empty }
  credentials := { username := "root", secret := ⟨"db-cred", "ROOT_PASSWORD"⟩, password := "s" }
  database := ""
  config := {}

/-- A server that lists some names. -/
def listingServer (names : List String) : World where
  peers := [{ replies := [.answer { names := names.map some }] }]

/-- The administrator is listed, too, and a user of many hosts is listed once. -/
theorem each_user_is_listed_once :
    ((populous.list .users).attempt (listingServer ["root", "é", "app", "root", "zoe"])).1 =
      .ok ["app", "root", "zoe", "é"] ∧
    ((populous.list .users).attempt (listingServer ["zoe", "é", "root", "app"])).1 =
      .ok ["app", "root", "zoe", "é"] := by
  have lists : ∀ names, ((listingServer names).peer 0).Lists names := fun names =>
    ⟨rfl, ⟨{ names := names.map some }, rfl, rfl⟩, rfl⟩
  have sameNames : ∀ {a b : List String}, a ⊆ b → b ⊆ a → ∀ name, name ∈ a ↔ name ∈ b :=
    fun sub sup _ => ⟨fun h => sub h, fun h => sup h⟩
  obtain ⟨⟨answer, came, canonical, -, others⟩, -⟩ :=
    lists_are_canonical populous .users (lists ["root", "é", "app", "root", "zoe"])
  have ascending : ["app", "root", "zoe", "é"].Pairwise fun a b => encodeUtf8 a < encodeUtf8 b := by
    decide +kernel
  have sorted : Engine.mysql.Canonical ["root", "é", "app", "root", "zoe"] ["app", "root", "zoe", "é"] :=
    ⟨ascending, sameNames (by decide) (by decide)⟩
  obtain rfl : answer = ["app", "root", "zoe", "é"] := canonical.unique sorted fun _ => Iff.rfl
  exact ⟨came, others _ _ (lists ["zoe", "é", "root", "app"]) (sameNames (by decide) (by decide))⟩

end Session
end ManagedDatabase
