/-
What the API lists in some order is resolved the same in any. The replicas of a cluster are its running
pods with an address, put into the order of their names; where the names are distinct there is only one
such order (`Topology.runningPods_eq`), so neither the order of the list nor the other pods in it count.
The same goes for the ports of the master's Service, as long as no two of them carry the engine's name.
-/
import Mathlib.Data.List.Sort
import ManagedDatabase.Proofs.Session.Lookup
import ManagedDatabase.Proofs.Text.Order

namespace ManagedDatabase

namespace Topology

open Kubernetes (Pod Service ServicePort)

/-- A pod that is running and has an address. -/
def isUsable (p : Pod) : Bool := p.phase = some "Running" && p.ip.isSome

theorem isSome_runningIp? (p : Pod) : (runningIp? p).isSome = isUsable p := by
  unfold runningIp? isUsable
  by_cases running : p.phase = some "Running"
  · simp [running]
  · simp [running]

theorem runningIp?_of_usable {p : Pod} (usable : isUsable p = true) : runningIp? p = p.ip := by
  simp only [isUsable, Bool.and_eq_true, decide_eq_true_eq] at usable
  exact if_pos usable.1

/-! ## Pods -/

theorem runningPods_perm (pods : List Pod) : (runningPods pods).Perm (pods.filter isUsable) := by
  rw [← funext isSome_runningIp?]
  exact List.mergeSort_perm _ _

theorem runningPods_ascend {pods : List Pod} (distinct : ((pods.filter isUsable).map (·.name)).Nodup) :
    (runningPods pods).Pairwise fun p q => p.name < q.name := by
  have sorted : (runningPods pods).Pairwise fun p q => p.name ≤ q.name :=
    Text.mergeSort_ascends Pod.name _
  have apart : (runningPods pods).Pairwise fun p q => p.name ≠ q.name :=
    List.pairwise_map.1 (((runningPods_perm pods).map Pod.name).nodup_iff.2 distinct)
  exact (sorted.and apart).imp fun ⟨le, ne⟩ => Std.lt_of_le_of_ne le ne

theorem eq_of_ascend {pods pods' : List Pod} (same : pods.Perm pods')
    (ascend : pods.Pairwise fun p q => p.name < q.name)
    (ascend' : pods'.Pairwise fun p q => p.name < q.name) : pods = pods' :=
  same.eq_of_pairwise (fun _ _ _ _ h k => absurd k (String.lt_asymm h)) ascend ascend'

theorem runningPods_eq {pods pods' : List Pod} (same : (pods.filter isUsable).Perm (pods'.filter isUsable))
    (distinct : ((pods.filter isUsable).map (·.name)).Nodup) : runningPods pods = runningPods pods' :=
  eq_of_ascend ((runningPods_perm pods).trans (same.trans (runningPods_perm pods').symm))
    (runningPods_ascend distinct) (runningPods_ascend ((same.map (·.name)).nodup_iff.1 distinct))

/-- The endpoints are the addresses of the running pods, one for each. -/
theorem endpoints_of_running (pods : List Pod) :
    ((runningPods pods).filterMap runningIp?).map some = (runningPods pods).map (·.ip) := by
  have usable : ∀ p ∈ runningPods pods, isUsable p = true := fun p hp =>
    (List.mem_filter.1 ((runningPods_perm pods).mem_iff.1 hp)).2
  generalize runningPods pods = ps at usable
  induction ps with
  | nil => rfl
  | cons p ps ih =>
    have rest := ih fun q hq => usable q (List.mem_cons_of_mem _ hq)
    have own := usable p (by simp)
    obtain ⟨ip, address⟩ := Option.isSome_iff_exists.1 ((isSome_runningIp? p).trans own)
    rw [List.filterMap_cons_some address, List.map_cons, List.map_cons, rest,
      ← runningIp?_of_usable own, address]

/-! ## Ports -/

/-- A search for what stands in a list once at most does not hang on the order. -/
theorem find?_perm {α : Type} {f : α → Bool} {l l' : List α} (same : l.Perm l')
    (once : (l.filter f).length ≤ 1) : l.find? f = l'.find? f := by
  have filtered := same.filter f
  rw [← List.head?_filter, ← List.head?_filter]
  match l.filter f, filtered, once with
  | [], filtered, _ => rw [List.nil_perm.1 filtered]
  | [a], filtered, _ => rw [List.singleton_perm.1 filtered]
  | _ :: _ :: _, _, once => simp at once

theorem databasePort?_of_length {e : Engine} {ports : List ServicePort} (several : ports.length ≠ 1) :
    databasePort? e ports = ports.find? fun p => p.name = some e.portName := by
  unfold databasePort?
  split
  · exact absurd rfl several
  · rfl

theorem databasePort?_perm {e : Engine} {ports ports' : List ServicePort} (same : ports.Perm ports')
    (once : (ports.filter fun p => p.name = some e.portName).length ≤ 1) :
    databasePort? e ports = databasePort? e ports' := by
  by_cases several : ports.length = 1
  · obtain ⟨p, rfl⟩ := List.length_eq_one_iff.1 several
    rw [List.singleton_perm.1 same]
  · rw [databasePort?_of_length several, databasePort?_of_length (same.length_eq ▸ several)]
    exact find?_perm same once

/-! ## Topologies -/

/-- What the topology of a cluster hangs on: the ports and the running pods, in whatever order. -/
theorem ofObjects_perm {d : Descriptor} (domain : String) {service service' : Service}
    {pods pods' : List Pod} (ports : service.ports.Perm service'.ports)
    (once : (service.ports.filter fun p => p.name = some d.engine.portName).length ≤ 1)
    (same : (pods.filter isUsable).Perm (pods'.filter isUsable))
    (distinct : ((pods.filter isUsable).map (·.name)).Nodup) :
    ofObjects d domain service pods = ofObjects d domain service' pods' := by
  have port := databasePort?_perm ports once
  have running := runningPods_eq same distinct
  simp only [ofObjects, publishedPort, listeningPort, port, running]

/-- What the API tells of a cluster: the master's Service, and the listed pods where replicas are
declared. -/
structure Told (d : Descriptor) (w : World) (service : Service) (pods : List Pod) : Prop where
  service : (w.answers.getD 0 .missing).decode?
    (Kubernetes.Request.getService d.ns (d.engine.masterService d.cluster)).path
    Service.ofJson? = .ok (some service)
  pods : d.replicas ≠ 0 → (w.answers.getD 1 .missing).decode
    (Kubernetes.Request.listPods d.ns
      (Kubernetes.selectorText (d.engine.selector d.cluster .replica))).path
    Kubernetes.podsOfJson? = .ok pods

/-- Why the topology of a cluster cannot be asked for, if it cannot: the first request that is no
target. -/
def unsendable? (d : Descriptor) : Option Fault :=
  (lookups d).findSome? fun r =>
    match r.target with
    | .error reason => some (.kubernetes (.unsendable reason))
    | .ok _ => none

/-- What was told is resolved to the topology of the objects, unless it cannot be asked for. -/
theorem resolve_of_told {d : Descriptor} {w : World} {service : Service} {pods : List Pod}
    (config : SessionConfig) (told : Told d w service pods) : ((resolve d config).attempt w).1 =
      match unsendable? d with
      | some f => .error f
      | none => .ok (ofObjects d config.clusterDomain service (if d.replicas = 0 then [] else pods)) := by
  unfold resolve unsendable? lookups Act.fetch?
  rw [List.findSome?_cons]
  cases ht : (Kubernetes.Request.getService d.ns (d.engine.masterService d.cluster)).target with
  | error reason => rw [Act.attempt_bind_error (Act.attempt_ask_unsendable ht _ w)]
  | ok t =>
    have asked := Act.attempt_ask_sent ht (Kubernetes.Answer.decode?
      (Kubernetes.Request.getService d.ns (d.engine.masterService d.cluster)).path Service.ofJson?) w
    rw [w.headD_answers, told.service] at asked
    rw [Act.attempt_bind_ok asked]
    unfold listReplicas Act.fetch
    by_cases none : d.replicas = 0
    · simp only [none, if_true, List.findSome?_nil]
      rfl
    · simp only [none, if_false, List.findSome?_cons, List.findSome?_nil]
      cases hl : (Kubernetes.Request.listPods d.ns
          (Kubernetes.selectorText (d.engine.selector d.cluster .replica))).target with
      | error reason => rw [Act.attempt_bind_error (Act.attempt_ask_unsendable hl _ _)]
      | ok t =>
        have listed := Act.attempt_ask_sent hl (Kubernetes.Answer.decode
          (Kubernetes.Request.listPods d.ns
            (Kubernetes.selectorText (d.engine.selector d.cluster .replica))).path
          Kubernetes.podsOfJson?)
          (w.ask (.getService d.ns (d.engine.masterService d.cluster))).2
        have second : (w.ask (.getService d.ns (d.engine.masterService d.cluster))).2.answers.headD
            .missing = w.answers.getD 1 .missing := by
          simp only [World.ask, World.record]
          rcases w.answers with _ | ⟨_, _ | _⟩ <;> rfl
        rw [second, told.pods none] at listed
        rw [Act.attempt_bind_ok listed]
        rfl

theorem unsendable?_eq_none {d : Descriptor} (sendable : ∀ r ∈ lookups d, ∃ t, r.target = .ok t) :
    unsendable? d = none := by
  refine List.findSome?_eq_none_iff.2 fun r hr => ?_
  obtain ⟨t, ht⟩ := sendable r hr
  rw [ht]

/-- **The order of a listing makes no difference.** Two accounts of a cluster are told, with the same
ports of the master's Service and the same running pods that have an address, each in any order and the
pods among any others. If no two of the ports carry the engine's name and no two of these pods the same
name, the outcome of resolving is the same. It is a topology if the requests for it can be sent. Then the
endpoints are the addresses of these pods, one for each, in the ascending order of their names; and where
no replicas are declared there are none, and nobody is asked for a list of pods. -/
theorem resolution_ignores_order (d : Descriptor) (config : SessionConfig) {w w' : World}
    {service service' : Service} {pods pods' : List Pod}
    (told : Told d w service pods) (told' : Told d w' service' pods')
    (ports : service.ports.Perm service'.ports)
    (once : (service.ports.filter fun p => p.name = some d.engine.portName).length ≤ 1)
    (same : (pods.filter isUsable).Perm (pods'.filter isUsable))
    (distinct : ((pods.filter isUsable).map (·.name)).Nodup) :
    ((resolve d config).attempt w).1 = ((resolve d config).attempt w').1 ∧
    ((∀ r ∈ lookups d, ∃ t, r.target = .ok t) → ∃ topology,
      ((resolve d config).attempt w).1 = .ok topology ∧
      (d.replicas = 0 → topology.replicaEndpoints = []) ∧
      (d.replicas ≠ 0 → ∃ replicas : List Pod, replicas.Perm (pods.filter isUsable) ∧
        replicas.Pairwise (fun p q => p.name < q.name) ∧
        topology.replicaEndpoints.map some = replicas.map (·.ip))) ∧
    (d.replicas = 0 → ∃ asked, asked <+: [.getService d.ns (d.engine.masterService d.cluster)] ∧
      ((resolve d config).attempt w).2.requests = w.requests ++ asked) := by
  have resolved := resolve_of_told config told
  refine ⟨?_, fun sendable => ?_, fun none => ?_⟩
  · have equal : ofObjects d config.clusterDomain service (if d.replicas = 0 then [] else pods) =
        ofObjects d config.clusterDomain service' (if d.replicas = 0 then [] else pods') := by
      split
      · exact ofObjects_perm _ ports once (.refl _) .nil
      · exact ofObjects_perm _ ports once same distinct
    rw [resolved, resolve_of_told config told', equal]
  · rw [unsendable?_eq_none sendable] at resolved
    refine ⟨_, resolved, fun none => ?_, fun some => ?_⟩
    · have no_pods : runningPods [] = [] := List.perm_nil.1 (runningPods_perm [])
      rw [if_pos none, ofObjects, no_pods]
      rfl
    · rw [if_neg some]
      exact ⟨runningPods pods, runningPods_perm pods, runningPods_ascend distinct,
        endpoints_of_running pods⟩
  · obtain ⟨asked, part, grown, -⟩ := asks_resolve d config w
    rw [lookups, if_pos none] at part
    exact ⟨asked, part, grown⟩

/-- A cluster with replicas. -/
def listed : Descriptor := { engine := .postgresql, ns := "default", name := "db", replicas := 2 }

def podDocument (name ip : String) : Json := .object [
  ("metadata", .object [("name", .text name)]),
  ("status", .object [("phase", .text "Running"), ("podIP", .text ip)])]

/-- The API tells of some ports and some pods. -/
def account (ports pods : List Json) : World where
  answers := [
    .response 200 (Json.object [("spec", .object [("ports", .array ports)])]).compact,
    .response 200 (Json.object [("metadata", .object []), ("items", .array pods)]).compact]

def portDocument (name : String) (port : Int) : Json :=
  .object [("name", .text name), ("port", .whole port)]

/-- Told the other way round, with a pod in front that is not running yet, the same comes out. -/
theorem waiting_pod_makes_no_difference :
    let first := account [portDocument "metrics" 9187, portDocument "postgresql" 6432]
      [podDocument "db-0" "10.0.0.9", podDocument "db-1" "10.0.0.1"]
    let second := account [portDocument "postgresql" 6432, portDocument "metrics" 9187]
      [.object [], podDocument "db-1" "10.0.0.1", podDocument "db-0" "10.0.0.9"]
    ((resolve listed {}).attempt first).1 = ((resolve listed {}).attempt second).1 ∧
      ∃ topology, ((resolve listed {}).attempt first).1 = .ok topology ∧
        topology.replicaEndpoints = ["10.0.0.9", "10.0.0.1"] := by
  intro first second
  have told : Told listed first
      ⟨[⟨some "metrics", 9187, none⟩, ⟨some "postgresql", 6432, none⟩]⟩
      [⟨"db-0", some "Running", some "10.0.0.9", []⟩,
        ⟨"db-1", some "Running", some "10.0.0.1", []⟩] :=
    ⟨by decide +kernel, fun _ => by decide +kernel⟩
  have told' : Told listed second
      ⟨[⟨some "postgresql", 6432, none⟩, ⟨some "metrics", 9187, none⟩]⟩
      [⟨"", none, none, []⟩, ⟨"db-1", some "Running", some "10.0.0.1", []⟩,
        ⟨"db-0", some "Running", some "10.0.0.9", []⟩] :=
    ⟨by decide +kernel, fun _ => by decide +kernel⟩
  have sendable : ∀ r ∈ lookups listed, ∃ t, r.target = .ok t := by
    have all : (lookups listed).all (·.target.isOk) = true := by decide +kernel
    intro r hr
    have ok := List.all_eq_true.1 all r hr
    cases ht : r.target with
    | ok t => exact ⟨t, rfl⟩
    | error reason => simp [ht, Except.isOk, Except.toBool] at ok
  obtain ⟨equal, resolved, -⟩ := resolution_ignores_order listed {} told told'
    (.swap _ _ _) (by decide) (.swap _ _ _) (by decide)
  obtain ⟨topology, ok, -, endpoints⟩ := resolved sendable
  obtain ⟨replicas, same, ascend, addresses⟩ := endpoints (by decide)
  have order := eq_of_ascend same ascend (by decide)
  rw [order] at addresses
  exact ⟨equal, topology, ok, List.map_injective_iff.2 (Option.some_injective _) addresses⟩

end Topology
end ManagedDatabase
