/-
Which pods a label selector selects. A selector is read as it is written: equations stand between commas, and
the key of an equation goes as far as the first equals sign. Where no comma and, in a key, no equals sign gets
in the way, what is read are the labels that were written (`equations?_selectorText`), so a pod is selected if
it has all of them.

The pods of a cluster have a label for the cluster and one for their role. Two selectors that ask for different
values of one label have no pod in common (`not_selects_both`), and so the replicas of a service are told from
its master and from those of another service (`selectors_tell_pods_apart`).
-/
import ManagedDatabase.Kubernetes.Selector
import ManagedDatabase.Proofs.Session.AddressReading
import ManagedDatabase.Proofs.Session.Lookup

namespace ManagedDatabase

/-- Labels in which nothing looks like the end of a key or of an equation. -/
def Labels.Plain (labels : Labels) : Prop :=
  ∀ l ∈ labels.entries, '=' ∉ l.1.toList ∧ ',' ∉ l.1.toList ∧ ',' ∉ l.2.toList

namespace Kubernetes

/-! ## Reading a selector -/

/-- The key and the value in an equation. -/
def equation? (part : List Char) : Option (String × String) :=
  (Dsn.cutFirst '=' part).map fun cut => (String.ofList cut.1, String.ofList cut.2)

/-- The equations in a selector; there are none in the empty text. -/
def equations? (text : String) : Option (List (String × String)) :=
  if text = "" then some [] else (text.toList.splitOn ',').mapM equation?

/-- A label as it is written. -/
def labelText (l : String × String) : List Char := l.1.toList ++ '=' :: l.2.toList

theorem toList_selectorText (labels : Labels) :
    (selectorText labels).toList = [','].intercalate (labels.entries.map labelText) := by
  have each : labels.entries.map (String.toList ∘ fun l => l.1 ++ "=" ++ l.2) =
      labels.entries.map labelText := by
    refine List.map_congr_left fun l _ => ?_
    simp [labelText]
  rw [selectorText, String.toList_intercalate, List.map_map, each]
  rfl

theorem equation?_labelText {l : String × String} (plain : '=' ∉ l.1.toList) :
    equation? (labelText l) = some l := by
  rw [equation?, labelText, Dsn.cutFirst_append _ plain, Option.map_some, String.ofList_toList,
    String.ofList_toList]

theorem mapM_equation?_labelText : ∀ {ls : List (String × String)}, (∀ l ∈ ls, '=' ∉ l.1.toList) →
    (ls.map labelText).mapM equation? = some ls
  | [], _ => rfl
  | l :: ls, plain => by
    have later := mapM_equation?_labelText fun l' h => plain l' (List.mem_cons_of_mem l h)
    rw [List.map_cons, List.mapM_cons, equation?_labelText (plain l (by simp)), later]
    rfl

theorem selectorText_eq_empty_iff {labels : Labels} : selectorText labels = "" ↔ labels = .empty := by
  constructor
  · intro empty
    have text := toList_selectorText labels
    rw [empty] at text
    rcases labels with ⟨_ | ⟨l, _ | ⟨l', ls⟩⟩, ascending⟩
    · rfl
    · simp [labelText] at text
    · simp [labelText] at text
  · rintro rfl
    rfl

/-- What is written from plain labels is read as these labels. -/
theorem equations?_selectorText {labels : Labels} (plain : labels.Plain) :
    equations? (selectorText labels) = some labels.entries := by
  unfold equations?
  split
  · next empty =>
    rw [selectorText_eq_empty_iff.1 empty]
    rfl
  · next nonempty =>
    have parts : labels.entries.map labelText ≠ [] := fun nothing =>
      nonempty (selectorText_eq_empty_iff.2 (KeyMap.eq_of_entries (List.map_eq_nil_iff.1 nothing)))
    have commas : ∀ part ∈ labels.entries.map labelText, ',' ∉ part := fun part h => by
      obtain ⟨l, hl, rfl⟩ := List.mem_map.1 h
      obtain ⟨-, key, value⟩ := plain l hl
      simp [labelText, key, value]
    rw [toList_selectorText, List.splitOn_intercalate ',' commas parts,
      mapM_equation?_labelText fun l hl => (plain l hl).1]

theorem selectorText_inj {labels labels' : Labels} (plain : labels.Plain) (plain' : labels'.Plain)
    (same : selectorText labels = selectorText labels') : labels = labels' := by
  have entries := equations?_selectorText plain
  rw [same, equations?_selectorText plain', Option.some_inj] at entries
  exact KeyMap.eq_of_entries entries.symm

/-! ## Selecting pods -/

/-- A selector selects a pod with some labels if it can be read and all of its equations hold of them. -/
def Selects (text : String) (pod : Labels) : Prop :=
  ∃ equations, equations? text = some equations ∧ ∀ l ∈ equations, pod.get? l.1 = some l.2

variable {labels labels' pod : Labels}

theorem selects_iff (plain : labels.Plain) : Selects (selectorText labels) pod ↔
    ∀ key value, labels.get? key = some value → pod.get? key = some value := by
  simp only [Selects, equations?_selectorText plain, Option.some.injEq, exists_eq_left',
    KeyMap.get?_eq_some_iff, Prod.forall]

theorem not_selects_both (plain : labels.Plain) (plain' : labels'.Plain) {key value value' : String}
    (asked : labels.get? key = some value) (asked' : labels'.get? key = some value') (other : value ≠ value') :
    ¬ (Selects (selectorText labels) pod ∧ Selects (selectorText labels') pod) := by
  rintro ⟨selected, selected'⟩
  have has := (selects_iff plain).1 selected key value asked
  rw [(selects_iff plain').1 selected' key value' asked', Option.some_inj] at has
  exact other has.symm

end Kubernetes

/-! ## The pods of a cluster -/

namespace Engine

/-- The label that tells the cluster of a pod. -/
def clusterLabel : Engine → String
  | postgresql => "cluster-name"
  | mysql => "mysql.presslabs.org/cluster"

/-- The label that tells the role of a pod. -/
def roleLabel : Engine → String
  | postgresql => "spilo-role"
  | mysql => "role"

variable {e : Engine} {cluster : String} {role : Role}

theorem entries_selector : (e.selector cluster role).entries =
    match e with
    | postgresql => [("application", "spilo"), ("cluster-name", cluster), ("spilo-role", role.name)]
    | mysql => [("mysql.presslabs.org/cluster", cluster), ("role", role.name)] := by
  cases e
  all_goals
    refine KeyMap.entries_ofList ?_
    simp only [List.pairwise_cons, List.forall_mem_cons, List.not_mem_nil, false_imp_iff, implies_true,
      List.Pairwise.nil, and_true]
    decide

theorem get?_clusterLabel : (e.selector cluster role).get? e.clusterLabel = some cluster := by
  rw [KeyMap.get?_eq_some_iff, entries_selector]
  cases e <;> simp [clusterLabel]

theorem get?_roleLabel : (e.selector cluster role).get? e.roleLabel = some role.name := by
  rw [KeyMap.get?_eq_some_iff, entries_selector]
  cases e <;> simp [roleLabel]

theorem clusterName_inj {name name' : String} : e.clusterName name = e.clusterName name' ↔ name = name' := by
  cases e with
  | postgresql => exact String.append_right_inj _
  | mysql => exact Iff.rfl

theorem comma_not_mem_clusterName {name : String} (plain : ',' ∉ name.toList) :
    ',' ∉ (e.clusterName name).toList := by
  cases e with
  | postgresql =>
    rw [clusterName, String.toList_append, List.mem_append, not_or]
    exact ⟨by decide, plain⟩
  | mysql => exact plain

theorem plain_selector {name : String} (plain : ',' ∉ name.toList) :
    (e.selector (e.clusterName name) role).Plain := by
  have named := comma_not_mem_clusterName (e := e) plain
  have fixed : ',' ∉ role.name.toList := by
    cases role <;> decide
  rw [Labels.Plain, entries_selector]
  generalize e.clusterName name = cluster at named ⊢
  cases e
  all_goals
    simp only [List.forall_mem_cons, named, fixed, not_false_eq_true, and_true, List.not_mem_nil,
      false_imp_iff, implies_true]
    decide

end Engine

namespace Kubernetes

/-- The selector of the pods of a cluster with a role. -/
def podSelector (d : Descriptor) (role : Engine.Role) : String :=
  selectorText (d.engine.selector d.cluster role)

/-- Whatever is asked for pods when a session is built is asked for the replicas of its cluster. -/
theorem listPods_build (d : Descriptor) (database : String) (config : SessionConfig) (w : World) :
    ∃ asked, ((Session.build d database config).attempt w).2.requests = w.requests ++ asked ∧
      ∀ ns text, Request.listPods ns text ∈ asked → ns = d.ns ∧ text = podSelector d .replica := by
  obtain ⟨asked, part, grown, -⟩ := Session.asks_build d database config w
  refine ⟨asked, grown, fun ns text listed => ?_⟩
  have lookup := part.subset listed
  unfold Session.lookups Topology.lookups Credentials.lookup at lookup
  split at lookup
  · simp at lookup
  · simpa [podSelector] using lookup

theorem selects_podSelector {d : Descriptor} (plain : ',' ∉ d.name.toList) (role : Engine.Role) (pod : Labels) :
    Selects (podSelector d role) pod ↔
      ∀ key value, (d.engine.selector d.cluster role).get? key = some value → pod.get? key = some value :=
  selects_iff (Engine.plain_selector plain)

/-- **Selectors tell pods apart.** Where no key has an equals sign or a comma and no value has a comma, a
selector is read as the labels that it was written from, in the order of their keys. So different labels have
different selectors, and only that of no labels is empty. A session on a service asks for no pods but with the
selector of its replicas. If the name of the service has no comma, a pod is selected by this or by that of the
master exactly if it has all labels of the role. No pod is selected by both, and none by those of the replicas
of two services of one engine whose names are different and have no commas. -/
theorem selectors_tell_pods_apart :
    (∀ labels : Labels, labels.Plain → equations? (selectorText labels) = some labels.entries) ∧
    (∀ labels labels' : Labels, labels.Plain → labels'.Plain →
      selectorText labels = selectorText labels' → labels = labels') ∧
    (∀ labels : Labels, selectorText labels = "" ↔ labels = .empty) ∧
    ∀ d : Descriptor, ',' ∉ d.name.toList →
      (∀ database config w, ∃ asked,
        ((Session.build d database config).attempt w).2.requests = w.requests ++ asked ∧
        ∀ ns text, Request.listPods ns text ∈ asked → ns = d.ns ∧ text = podSelector d .replica) ∧
      ∀ pod : Labels,
        (∀ role, Selects (podSelector d role) pod ↔ ∀ key value,
          (d.engine.selector d.cluster role).get? key = some value → pod.get? key = some value) ∧
        ¬ (Selects (podSelector d .replica) pod ∧ Selects (podSelector d .master) pod) ∧
        ∀ d' : Descriptor, ',' ∉ d'.name.toList → d'.engine = d.engine → d'.name ≠ d.name →
          ¬ (Selects (podSelector d .replica) pod ∧ Selects (podSelector d' .replica) pod) := by
  refine ⟨fun _ => equations?_selectorText, fun _ _ => selectorText_inj, fun _ => selectorText_eq_empty_iff,
    fun d plain => ⟨listPods_build d, fun pod => ⟨fun role => selects_podSelector plain role pod, ?_, ?_⟩⟩⟩
  · have roles : Engine.Role.replica.name ≠ Engine.Role.master.name := by decide
    exact not_selects_both (Engine.plain_selector plain) (Engine.plain_selector plain) Engine.get?_roleLabel
      Engine.get?_roleLabel roles
  · rintro ⟨engine, ns, name, replicas⟩ plain' rfl other
    have clusters : d.cluster ≠ d.engine.clusterName name := fun h => other (Engine.clusterName_inj.1 h).symm
    exact not_selects_both (Engine.plain_selector plain) (Engine.plain_selector plain') Engine.get?_clusterLabel
      Engine.get?_clusterLabel clusters

/-- A service on PostgreSQL. -/
def serviceNamed (name : String) : Descriptor :=
  { engine := .postgresql, ns := "default", name, replicas := 1 }

/-- The labels of a replica of the service `db`, and one more. -/
def zonedReplica : Labels := .ofList [
  ("application", "spilo"), ("cluster-name", "kuberlogic-db"), ("spilo-role", "replica"), ("zone", "a")]

/-- Labels whose values look like the end of a key, and like nothing. -/
def oddLabels : Labels := .ofList [("b", "x=y"), ("a", "")]

/-- A replica is neither its own master nor a replica of a service whose name looks like an equation. -/
theorem replica_is_told_apart :
    equations? (selectorText oddLabels) = some [("a", ""), ("b", "x=y")] ∧
    Selects (podSelector (serviceNamed "db") .replica) zonedReplica ∧
    ¬ Selects (podSelector (serviceNamed "db") .master) zonedReplica ∧
    ¬ Selects (podSelector (serviceNamed "db=db") .replica) zonedReplica := by
  obtain ⟨read, -, -, services⟩ := selectors_tell_pods_apart
  obtain ⟨-, pods⟩ := services (serviceNamed "db") (by decide)
  obtain ⟨selected, role, cluster⟩ := pods zonedReplica
  have labels : ∀ l ∈ ((serviceNamed "db").engine.selector (serviceNamed "db").cluster .replica).entries,
      zonedReplica.get? l.1 = some l.2 := by decide +kernel
  have own : Selects (podSelector (serviceNamed "db") .replica) zonedReplica :=
    (selected .replica).2 fun key value asked => labels (key, value) (KeyMap.get?_eq_some_iff.1 asked)
  have odd : oddLabels.entries = [("a", ""), ("b", "x=y")] := by decide +kernel
  have plain : oddLabels.Plain := by
    rw [Labels.Plain, odd]
    decide
  refine ⟨(read oddLabels plain).trans (congrArg some odd), own, fun h => role ⟨own, h⟩, fun h => ?_⟩
  exact cluster (serviceNamed "db=db") (by decide) rfl (by decide) ⟨own, h⟩

end Kubernetes
end ManagedDatabase
