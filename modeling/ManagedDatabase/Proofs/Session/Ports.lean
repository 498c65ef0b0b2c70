/-
The ports of a cluster. Of the ports of the master's Service one counts: a lone port without a name, or else
the first one named after the engine (`Topology.IsDatabasePort`). Its number is the port of the master, and
its target, or what the containers declare under a name, that of the replicas; a number that no port can have
is as good as none.

The search for a name goes through pods, containers and their ports. That it comes to what the containers
declare (`Topology.Declares`), wherever they do, is `Topology.declaredPort?_spec`; only where they
disagree does the order count.
-/
import ManagedDatabase.Topology

namespace ManagedDatabase.Topology

open Kubernetes (ContainerPort Pod Service ServicePort)

/-- The database port of a Service: its only port if that has no name, or else the first one named after
the engine. -/
inductive IsDatabasePort (e : Engine) : List ServicePort → ServicePort → Prop
  | lone {p : ServicePort} : p.name = none → IsDatabasePort e [p] p
  | named {before : List ServicePort} {p : ServicePort} {after : List ServicePort} :
    (∀ q ∈ before, q.name ≠ some e.portName) → p.name = some e.portName →
      IsDatabasePort e (before ++ p :: after) p

/-- A container of one of the pods declares a number under a name. -/
def Declares (pods : List Pod) (name : String) (n : Int) : Prop :=
  ∃ pod ∈ pods, ∃ c ∈ pod.containers, ∃ p ∈ c.ports, p.name = some name ∧ p.port = n

/-- A number if it is one that a port can have, and else another one. -/
def validOr (n : Int) (fallback : Nat) : Nat := if 0 ≤ n ∧ n ≤ 65535 then n.toNat else fallback

/-- How a port follows from a name: from what is declared under it if that is one number, and from what is
declared first if it is several. -/
structure FollowsName (pods : List Pod) (name : String) (fallback port : Nat) : Prop where
  undeclared : (∀ n, ¬ Declares pods name n) → port = fallback
  unanimous : ∀ n, Declares pods name n → (∀ m, Declares pods name m → m = n) →
    port = validOr n fallback
  first : ∀ before p after, containerPorts pods = before ++ p :: after → p.name = some name →
    (∀ q ∈ before, q.name ≠ some name) → port = validOr p.port fallback

theorem getD_port? (n : Int) (fallback : Nat) : (port? n).getD fallback = validOr n fallback := by
  unfold port? validOr
  by_cases range : 0 ≤ n ∧ n ≤ 65535
  · have below : (0 ≤ n && n < 65536) = true := by
      simp only [Bool.and_eq_true, decide_eq_true_eq]
      omega
    rw [if_pos below, if_pos range, Option.getD_some]
  · have beyond : ¬ (0 ≤ n && n < 65536) = true := by
      simp only [Bool.and_eq_true, decide_eq_true_eq]
      omega
    rw [if_neg beyond, if_neg range, Option.getD_none]

theorem find?_named_iff {α : Type} (f : α → Option String) {name : String} {ports : List α} {p : α} :
    (ports.find? fun q => f q = some name) = some p ↔
      f p = some name ∧ ∃ before after, ports = before ++ p :: after ∧ ∀ q ∈ before, f q ≠ some name := by
  simp [List.find?_eq_some_iff_append]

/-! ## The database port -/

theorem databasePort?_eq_some_iff {e : Engine} {ports : List ServicePort} {p : ServicePort} :
    databasePort? e ports = some p ↔ IsDatabasePort e ports p := by
  unfold databasePort?
  split
  · next port target =>
    constructor
    · rintro ⟨⟩
      exact .lone rfl
    · intro is
      generalize ports : [(⟨none, port, target⟩ : ServicePort)] = all at is
      cases is with
      | lone _ =>
        cases ports
        rfl
      | @named before _ after _ named =>
        have only : p ∈ [(⟨none, port, target⟩ : ServicePort)] := ports ▸ by simp
        cases List.mem_singleton.1 only
        cases named
  · next several =>
    rw [find?_named_iff ServicePort.name]
    constructor
    · rintro ⟨named, before, after, rfl, others⟩
      exact .named others named
    · rintro (unnamed | ⟨others, named⟩)
      · obtain ⟨name, port, target⟩ := p
        obtain rfl : name = none := unnamed
        exact absurd rfl (several port target)
      · exact ⟨named, _, _, rfl, others⟩

theorem databasePort?_eq_none_iff {e : Engine} {ports : List ServicePort} :
    databasePort? e ports = none ↔ ∀ p, ¬ IsDatabasePort e ports p := by
  simp only [Option.eq_none_iff_forall_ne_some, ne_eq, databasePort?_eq_some_iff]

theorem databasePort?_congr {e : Engine} {ports ports' : List ServicePort}
    (same : ∀ p, IsDatabasePort e ports' p ↔ IsDatabasePort e ports p) :
    databasePort? e ports' = databasePort? e ports := by
  refine Option.ext fun p => ?_
  simp only [databasePort?_eq_some_iff, same]

/-! ## Declared ports -/

theorem declares_iff {pods : List Pod} {name : String} {n : Int} :
    Declares pods name n ↔ ∃ p ∈ containerPorts pods, p.name = some name ∧ p.port = n := by
  simp only [Declares, containerPorts, List.mem_flatMap]
  constructor
  · rintro ⟨pod, hpod, c, hc, p, hp, declared⟩
    exact ⟨p, ⟨pod, hpod, c, hc, hp⟩, declared⟩
  · rintro ⟨p, ⟨pod, hpod, c, hc, hp⟩, declared⟩
    exact ⟨pod, hpod, c, hc, p, hp, declared⟩

/-- Looking for a name comes to what is declared under it. -/
theorem declaredPort?_spec (pods : List Pod) (name : String) (fallback : Nat) :
    FollowsName pods name fallback ((declaredPort? pods name).getD fallback) := by
  unfold declaredPort?
  cases found : (containerPorts pods).find? fun p => p.name = some name with
  | none =>
    have absent : ∀ p ∈ containerPorts pods, p.name ≠ some name := by
      simpa using found
    refine ⟨fun _ => rfl, fun n declared => ?_, fun before p after split named => ?_⟩
    · obtain ⟨p, hp, named, -⟩ := declares_iff.1 declared
      exact absurd named (absent p hp)
    · exact absurd named (absent p (split ▸ by simp))
  | some q =>
    obtain ⟨named, -⟩ := (find?_named_iff ContainerPort.name).1 found
    have declared : Declares pods name q.port :=
      declares_iff.2 ⟨q, List.mem_of_find?_eq_some found, named, rfl⟩
    rw [Option.bind_some, getD_port?]
    refine ⟨fun none => absurd declared (none _), fun n _ all => ?_,
      fun before p after split own others => ?_⟩
    · rw [all _ declared]
    · have same : (containerPorts pods).find? (fun p => p.name = some name) = some p :=
        (find?_named_iff ContainerPort.name).2 ⟨own, before, after, split, others⟩
      obtain rfl : q = p := Option.some_inj.1 (found.symm.trans same)
      rfl

/-! ## The rule -/

section

variable {e : Engine} {service : Service} {p : ServicePort}

theorem publishedPort_of_port (is : IsDatabasePort e service.ports p) :
    publishedPort e service = validOr p.port e.defaultPort := by
  rw [publishedPort, databasePort?_eq_some_iff.2 is, Option.bind_some, getD_port?]

theorem publishedPort_of_none (none : ∀ p, ¬ IsDatabasePort e service.ports p) :
    publishedPort e service = e.defaultPort := by
  rw [publishedPort, databasePort?_eq_none_iff.2 none]
  rfl

theorem listeningPort_of_port (is : IsDatabasePort e service.ports p) (replicas : List Pod)
    (published : Nat) : listeningPort e service replicas published =
      match p.target with
      | none => published
      | some (.number n) => validOr n published
      | some (.named name) => (declaredPort? replicas name).getD published := by
  rw [listeningPort, databasePort?_eq_some_iff.2 is]
  obtain ⟨name, port, _ | n | name⟩ := p
  · rfl
  · exact getD_port? n published
  · rfl

theorem listeningPort_of_none (none : ∀ p, ¬ IsDatabasePort e service.ports p) (replicas : List Pod)
    (published : Nat) : listeningPort e service replicas published =
      (declaredPort? replicas e.portName).getD published := by
  rw [listeningPort, databasePort?_eq_none_iff.2 none]

end

/-- **Ports follow one rule.** The port of the master is the number of the database port if a port can have
it, and otherwise, or without a database port, the default of the engine. The port of the replicas is that of
the master if the database port has no target, and the target if that is a number that a port can have.
If it is a name, or if there is no database port and the name of the engine takes its place, the port
follows the name. Other ports of the Service make no difference, as long as the same port is the
database port, and a topology has the two ports that its Service and its running pods tell. -/
theorem ports_follow_one_rule (e : Engine) (service : Service) (replicas : List Pod) :
    let access := publishedPort e service
    let listening := listeningPort e service replicas access
    (∀ p, IsDatabasePort e service.ports p →
      access = validOr p.port e.defaultPort ∧
      (p.target = none → listening = access) ∧
      (∀ n, p.target = some (.number n) → listening = validOr n access) ∧
      ∀ name, p.target = some (.named name) → FollowsName replicas name access listening) ∧
    ((∀ p, ¬ IsDatabasePort e service.ports p) →
      access = e.defaultPort ∧ FollowsName replicas e.portName access listening) ∧
    (∀ service' : Service, (∀ p, IsDatabasePort e service'.ports p ↔ IsDatabasePort e service.ports p) →
      publishedPort e service' = access ∧ listeningPort e service' replicas access = listening) ∧
    ∀ (d : Descriptor) (domain : String) (pods : List Pod), d.engine = e → runningPods pods = replicas →
      (ofObjects d domain service pods).accessPort = access ∧
        (ofObjects d domain service pods).replicaPort = listening := by
  intro access listening
  refine ⟨fun p is => ?_, fun none => ?_, fun service' same => ?_, fun d domain pods engine running => ?_⟩
  · have follows := listeningPort_of_port is replicas access
    refine ⟨publishedPort_of_port is, fun target => ?_, fun n target => ?_, fun name target => ?_⟩
    · rw [target] at follows
      exact follows
    · rw [target] at follows
      exact follows
    · rw [target] at follows
      exact (show listening = _ from follows) ▸ declaredPort?_spec replicas name access
  · have follows := listeningPort_of_none none replicas access
    exact ⟨publishedPort_of_none none,
      (show listening = _ from follows) ▸ declaredPort?_spec replicas e.portName access⟩
  · have port := databasePort?_congr same
    constructor
    · simp only [publishedPort, port, access]
    · simp only [listeningPort, port, listening]
  · subst engine running
    exact ⟨rfl, rfl⟩

/-- A Service whose port no port can have, and whose target is a name. -/
def misnumbered : Service :=
  { ports := [⟨some "metrics", 9104, none⟩, ⟨some "mysql", 70000, some (.named "db")⟩] }

/-- Two replicas, of which only the second one declares the target, and behind another container. -/
def sidecars : List Pod := [
  { name := "db-0", phase := some "Running", ip := some "10.0.0.1"
    containers := [⟨[⟨some "metrics", 9104⟩]⟩] },
  { name := "db-1", phase := some "Running", ip := some "10.0.0.2"
    containers := [⟨[⟨none, 80⟩]⟩, ⟨[⟨some "metrics", 9104⟩, ⟨some "db", 13306⟩]⟩] }]

/-- The master falls back on the port of the engine, the replicas do not. -/
theorem named_target_is_looked_up :
    publishedPort .mysql misnumbered = 3306 ∧ listeningPort .mysql misnumbered sidecars 3306 = 13306 := by
  obtain ⟨ruled, -⟩ := ports_follow_one_rule .mysql misnumbered sidecars
  have others : ∀ q ∈ ([⟨some "metrics", 9104, none⟩] : List ServicePort),
      q.name ≠ some Engine.mysql.portName := by decide
  have is : IsDatabasePort .mysql misnumbered.ports ⟨some "mysql", 70000, some (.named "db")⟩ :=
    .named others rfl
  obtain ⟨access, -, -, follows⟩ := ruled _ is
  have master : publishedPort .mysql misnumbered = 3306 := access
  have all : ∀ p ∈ containerPorts sidecars, p.name = some "db" → p.port = 13306 := by decide
  have declared : Declares sidecars "db" 13306 :=
    declares_iff.2 ⟨⟨some "db", 13306⟩, by decide, rfl, rfl⟩
  have listening := (follows "db" rfl).unanimous 13306 declared fun m other => by
    obtain ⟨p, hp, named, rfl⟩ := declares_iff.1 other
    exact all p hp named
  rw [master] at listening
  exact ⟨master, listening⟩

end ManagedDatabase.Topology
