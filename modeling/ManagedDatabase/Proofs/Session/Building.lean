/-
What building a session comes to. A session is built from a few objects of the API, each of which is asked for
with a request of its own (`Need.ofCluster`): the Service of the master, the pods of the replicas where there
are any, and the Secret. Whether an answer will do, and what fault it is if it will not, can be read off the
answer alone, and the first need that is not met ends the building with its fault
(`Session.building_stops_at_the_first_failure`).

Names go into a request as they are, so there may be no way to send it, or it may go elsewhere
(`Session.not_every_namespace_is_reached`). What cannot be sent is not asked for, and ends the building as
well.
-/
import ManagedDatabase.Proofs.Session.Frugality
import ManagedDatabase.Proofs.Session.Listing
import ManagedDatabase.Proofs.Session.Ownership

namespace ManagedDatabase

open Kubernetes (Answer Request)

/-! ## Answers -/

namespace Kubernetes.Answer

variable {α : Type}

theorem decode?_of_decode {path : String} {read : Json → Option α} {a : Answer} {found : α}
    (h : a.decode path read = .ok found) : a.decode? path read = .ok (some found) := by
  rw [decode?, h]

theorem decode_ne_unsendable (path : String) (read : Json → Option α) (reason : Target.Fault)
    (a : Answer) : a.decode path read ≠ .error (.unsendable reason) := by
  cases a with
  | transport text => simp [decode]
  | absent => simp [decode]
  | response status body =>
    simp only [decode]
    cases (Json.read? body).bind read <;> by_cases failed : isErrorStatus status <;> simp [failed]

end Kubernetes.Answer

/-! ## Needs -/

/-- Something that the API has to give: the request for it, and the fault of an answer that will not do. -/
structure Need where
  request : Request
  fault? : Answer → Option Fault

namespace Need

variable {α : Type}

/-- An object. That it is absent is a fault of its own, and so is that it is there and of no use. -/
def object (r : Request) (read : Json → Option α) (isUsable : α → Bool) (missing : Fault) : Need where
  request := r
  fault? a :=
    match a.decode r.path read with
    | .ok found => if isUsable found then none else some missing
    | .error (.api status) =>
      some (if status.reason = Kubernetes.absentReason then missing else .kubernetes (.api status))
    | .error f => some (.kubernetes f)

/-- A list of objects; its absence is a fault like others. -/
def list (r : Request) (read : Json → Option α) : Need where
  request := r
  fault? a :=
    match a.decode r.path read with
    | .ok _ => none
    | .error f => some (.kubernetes f)

variable (d : Descriptor)

/-- The Service of the master. -/
def service : Need :=
  object (.getService d.ns d.master) Kubernetes.Service.ofJson? (fun _ => true)
    (.topologyUnresolved (d.ns ++ "/" ++ d.master) "master service not found")

/-- The pods with the labels of the replicas. -/
def pods : Need :=
  list (.listPods d.ns (Kubernetes.selectorText (d.engine.selector d.cluster .replica)))
    Kubernetes.podsOfJson?

/-- The Secret, which is of use if the field of the password is a text. -/
def secret : Need :=
  object (.getSecret d.ns d.secret) Kubernetes.Secret.ofJson?
    (fun found => (Credentials.password? found d.engine.secretField).isSome)
    (.credentialUnavailable (d.ns ++ "/" ++ d.secret) d.engine.secretField)

/-- What tells the topology of a cluster. -/
def ofTopology : List Need := service d :: if d.replicas = 0 then [] else [pods d]

/-- What a session on a cluster is built from, in the order in which it is asked for. -/
def ofCluster : List Need := ofTopology d ++ [secret d]

theorem map_ofTopology : (ofTopology d).map Need.request = Topology.lookups d := by
  unfold ofTopology Topology.lookups
  split <;> rfl

/-- The request for it can be sent, and its answer will do. -/
structure Met (need : Need) (a : Answer) : Prop where
  sendable : ∃ t, need.request.target = .ok t
  usable : need.fault? a = none

/-- Each of some needs is met by the answer that comes in its turn. -/
def AllMet (needs : List Need) (answers : Nat → Answer) : Prop :=
  ∀ (i : Nat) (need : Need), needs[i]? = some need → need.Met (answers i)

/-- Some needs are met up to one that is not, after so many requests: its answer will not do, or there is no
way to send the request. -/
inductive Stops (needs : List Need) (answers : Nat → Answer) : Nat → Fault → Prop
  | answer {i : Nat} {need : Need} {f : Fault} : AllMet (needs.take i) answers → needs[i]? = some need →
    (∃ t, need.request.target = .ok t) → need.fault? (answers i) = some f →
    Stops needs answers (i + 1) f
  | unsendable {n : Nat} {need : Need} {reason : Target.Fault} : AllMet (needs.take n) answers →
    needs[n]? = some need → need.request.target = .error reason →
    Stops needs answers n (.kubernetes (.unsendable reason))

section

variable {needs rest : List Need} {answers : Nat → Answer} {n : Nat} {f : Fault}

theorem allMet_nil : AllMet [] answers := fun i need h => by simp at h

theorem allMet_append : AllMet (needs ++ rest) answers ↔
    AllMet needs answers ∧ AllMet rest fun i => answers (needs.length + i) := by
  constructor
  · refine fun all => ⟨fun i need h => all i need ?_, fun i need h => all _ need ?_⟩
    · rwa [List.getElem?_append_left (List.getElem?_eq_some_iff.1 h).1]
    · rwa [List.getElem?_append_right (Nat.le_add_right _ _), Nat.add_sub_cancel_left]
  · rintro ⟨first, second⟩ i need h
    by_cases inside : i < needs.length
    · exact first i need (by rwa [List.getElem?_append_left inside] at h)
    · rw [List.getElem?_append_right (by omega)] at h
      have met : need.Met (answers (needs.length + (i - needs.length))) := second _ need h
      rwa [Nat.add_sub_cancel' (by omega)] at met

theorem allMet_singleton {need : Need} : AllMet [need] answers ↔ need.Met (answers 0) := by
  refine ⟨fun all => all 0 need rfl, fun met i other h => ?_⟩
  obtain ⟨inside, rfl⟩ := List.getElem?_eq_some_iff.1 h
  obtain rfl : i = 0 := Nat.lt_one_iff.1 inside
  exact met

theorem AllMet.sendable (all : AllMet needs answers) :
    ∀ need ∈ needs, ∃ t, need.request.target = .ok t := by
  intro need needed
  obtain ⟨i, stands⟩ := List.getElem?_of_mem needed
  exact (all i need stands).sendable

theorem Stops.append (stops : Stops needs answers n f) (rest : List Need) :
    Stops (needs ++ rest) answers n f := by
  have here {i : Nat} {need : Need} (h : needs[i]? = some need) :
      (needs ++ rest)[i]? = some need ∧ (needs ++ rest).take i = needs.take i := by
    have inside := (List.getElem?_eq_some_iff.1 h).1
    exact ⟨by rwa [List.getElem?_append_left inside], List.take_append_of_le_length (by omega)⟩
  cases stops with
  | answer before stands sendable fault =>
    exact .answer ((here stands).2 ▸ before) (here stands).1 sendable fault
  | unsendable before stands target =>
    exact .unsendable ((here stands).2 ▸ before) (here stands).1 target

/-- What comes after needs that are met stops as it does alone. -/
theorem Stops.after (all : AllMet needs answers)
    (stops : Stops rest (fun i => answers (needs.length + i)) n f) :
    Stops (needs ++ rest) answers (needs.length + n) f := by
  have here (i : Nat) : (needs ++ rest)[needs.length + i]? = rest[i]? := by
    rw [List.getElem?_append_right (Nat.le_add_right _ _), Nat.add_sub_cancel_left]
  have met {i : Nat} (before : AllMet (rest.take i) fun i => answers (needs.length + i)) :
      AllMet ((needs ++ rest).take (needs.length + i)) answers := by
    rw [List.take_length_add_append]
    exact allMet_append.2 ⟨all, before⟩
  cases stops with
  | answer before stands sendable fault => exact .answer (met before) ((here _).trans stands) sendable fault
  | unsendable before stands target => exact .unsendable (met before) ((here _).trans stands) target

theorem Stops.le_length (stops : Stops needs answers n f) : n ≤ needs.length := by
  cases stops with
  | answer _ stands => exact (List.getElem?_eq_some_iff.1 stands).1
  | unsendable _ stands => exact (List.getElem?_eq_some_iff.1 stands).1.le

theorem Stops.head_unsendable {need : Need} {reason : Target.Fault}
    (target : need.request.target = .error reason) :
    Stops (need :: rest) answers 0 (.kubernetes (.unsendable reason)) :=
  .unsendable (by rw [List.take_zero]; exact allMet_nil) rfl target

theorem Stops.head_answer {need : Need} (sendable : ∃ t, need.request.target = .ok t)
    (fault : need.fault? (answers 0) = some f) : Stops (need :: rest) answers 1 f :=
  .answer (i := 0) (by rw [List.take_zero]; exact allMet_nil) rfl sendable fault

theorem Stops.not_allMet (stops : Stops needs answers n f) : ¬AllMet needs answers := by
  intro all
  cases stops with
  | answer _ stands _ fault =>
    rw [(all _ _ stands).usable] at fault
    cases fault
  | unsendable _ stands target =>
    obtain ⟨t, sendable⟩ := (all _ _ stands).sendable
    rw [target] at sendable
    cases sendable

end

theorem fault?_object (r : Request) (read : Json → Option α) (isUsable : α → Bool) (missing : Fault)
    (a : Answer) : (object r read isUsable missing).fault? a =
      match a.decode? r.path read with
      | .ok (some found) => if isUsable found then none else some missing
      | .ok none => some missing
      | .error f => some (.kubernetes f) := by
  unfold object Answer.decode?
  dsimp only
  cases a.decode r.path read with
  | ok found => rfl
  | error f =>
    cases f with
    | api status => by_cases absent : status.reason = Kubernetes.absentReason <;> simp [absent]
    | _ => rfl

theorem fault?_object_eq_none {r : Request} {read : Json → Option α} {isUsable : α → Bool}
    {missing : Fault} {a : Answer} : (object r read isUsable missing).fault? a = none ↔
      ∃ found, a.decode r.path read = .ok found ∧ isUsable found = true := by
  unfold object
  dsimp only
  cases a.decode r.path read with
  | ok found => simp
  | error f => cases f <;> simp

theorem fault?_list_eq_none {r : Request} {read : Json → Option α} {a : Answer} :
    (list r read).fault? a = none ↔ ∃ found, a.decode r.path read = .ok found := by
  unfold list
  dsimp only
  cases a.decode r.path read <;> simp

theorem object_ne_unsendable {r : Request} {read : Json → Option α} {isUsable : α → Bool}
    {missing : Fault} {reason : Target.Fault} (other : missing ≠ .kubernetes (.unsendable reason))
    {a : Answer} : (object r read isUsable missing).fault? a ≠ some (.kubernetes (.unsendable reason)) := by
  unfold object
  dsimp only
  cases told : a.decode r.path read with
  | ok found => by_cases use : isUsable found <;> simp [use, other]
  | error f =>
    cases f with
    | api status =>
      by_cases absent : status.reason = Kubernetes.absentReason <;> simp [absent, other]
    | unsendable _ => exact absurd told (a.decode_ne_unsendable r.path read _)
    | _ => simp

theorem reaches_object (d : Descriptor) : ∀ need ∈ ofCluster d, need.request.method = "GET" ∧
    (d.Unbroken → (∃ t, need.request.target = .ok t) → need.request.path = need.request.resource) := by
  have listing (unbroken : d.Unbroken) (sendable : ∃ t, (pods d).request.target = .ok t) :
      (pods d).request.path = (pods d).request.resource := by
    obtain ⟨t, target⟩ := sendable
    rw [Request.path, target]
    refine Target.path_before_query ?_ target
    simp only [pods, list, Request.resource, Request.collection, Target.unbroken_append]
    exact ⟨⟨⟨⟨by decide, by decide⟩, unbroken.ns⟩, by decide⟩, by decide⟩
  intro need needed
  rcases List.mem_append.1 needed with topology | password
  · rcases List.mem_cons.1 topology with rfl | replicas
    · exact ⟨rfl, Descriptor.Uses.path .master⟩
    · split at replicas
      · cases replicas
      · obtain rfl := List.mem_singleton.1 replicas
        exact ⟨rfl, listing⟩
  · obtain rfl := List.mem_singleton.1 password
    exact ⟨rfl, Descriptor.Uses.path .password⟩

end Need

theorem World.answer_ask (w : World) (r : Request) (i : Nat) : (w.ask r).2.answer i = w.answer (1 + i) := by
  simp only [answer, ask, record, Nat.add_comm 1 i]
  cases w.answers <;> simp

/-! ## Acts -/

namespace Act

variable {α β : Type} {needs rest : List Need}

/-- How an act goes that asks for some needs, one after the other: up to one that is not met, or to the
end. -/
inductive Course (x : Act α) (needs : List Need) (w : World) : Prop
  | stopped {n : Nat} {f : Fault} {v : World} : Need.Stops needs w.answer n f →
    x.attempt w = (.error f, v) → v.requests = w.requests ++ (needs.take n).map Need.request →
    Course x needs w
  | finished {a : α} {v : World} : Need.AllMet needs w.answer → x.attempt w = (.ok a, v) →
    v.requests = w.requests ++ needs.map Need.request →
    (∀ i, v.answer i = w.answer (needs.length + i)) → Course x needs w

/-- An act that asks for some needs, one after the other, until one is not met. -/
def Pursues (x : Act α) (needs : List Need) : Prop := ∀ w, x.Course needs w

theorem pursues_pure (a : α) : Pursues (pure a) [] := fun w =>
  .finished Need.allMet_nil rfl (List.append_nil _).symm fun i => by rw [List.length_nil, Nat.zero_add]

/-- What comes after an act that is finished is asked for behind what the act asked for. -/
theorem Course.after {x : Act α} {f : α → Act β} {w v : World} {a : α}
    (all : Need.AllMet needs w.answer) (run : x.attempt w = (.ok a, v))
    (grown : v.requests = w.requests ++ needs.map Need.request)
    (left : ∀ i, v.answer i = w.answer (needs.length + i)) (later : (f a).Course rest v) :
    (x >>= f).Course (needs ++ rest) w := by
  have shifted : v.answer = fun i => w.answer (needs.length + i) := funext left
  have both := attempt_bind_ok run f
  cases later with
  | stopped stops run' grown' =>
    refine .stopped (Need.Stops.after all (shifted ▸ stops)) (both.trans run') ?_
    rw [grown', grown, List.take_length_add_append, List.map_append, List.append_assoc]
  | finished all' run' grown' left' =>
    refine .finished (Need.allMet_append.2 ⟨all, shifted ▸ all'⟩) (both.trans run') ?_ fun i => ?_
    · rw [grown', grown, List.map_append, List.append_assoc]
    · rw [left', left, List.length_append, Nat.add_assoc]

theorem Pursues.bind {x : Act α} {f : α → Act β} (first : Pursues x needs)
    (second : ∀ a, Pursues (f a) rest) : Pursues (x >>= f) (needs ++ rest) := by
  intro w
  cases first w with
  | stopped stops run grown =>
    refine .stopped (stops.append rest) (attempt_bind_error run f) ?_
    rw [grown, List.take_append_of_le_length stops.le_length]
  | @finished a v all run grown left => exact .after all run grown left (second a v)

theorem pursues_log (line : LogLine) : Pursues (log line) [] := fun w =>
  .finished Need.allMet_nil rfl ((w.requests_log line).trans (List.append_nil _).symm) fun i => by
    rw [List.length_nil, Nat.zero_add]
    rfl

/-- An act that begins with a request. What comes after its answer gives up where the answer will not do. -/
theorem pursues_ask (need : Need) {decode : Answer → Except Kubernetes.Fault α} {f : α → Act β}
    (failed : ∀ a g, decode a = .error g → need.fault? a = some (.kubernetes g))
    (told : ∀ a found, decode a = .ok found →
      (∃ fault, need.fault? a = some fault ∧ f found = throw fault) ∨
      need.fault? a = none ∧ Pursues (f found) rest) :
    Pursues (ask need.request decode >>= f) (need :: rest) := by
  intro w
  cases target : need.request.target with
  | error reason =>
    have unsent := attempt_bind_error (attempt_ask_unsendable target decode w) f
    exact .stopped (.head_unsendable target) unsent (List.append_nil _).symm
  | ok t =>
    have sent := attempt_ask_sent target decode w
    rw [w.headD_answers, show w.answers.getD 0 .missing = w.answer 0 from rfl] at sent
    have grown : (w.ask need.request).2.requests = w.requests ++ [need.request] :=
      World.requests_record_request { w with answers := w.answers.tail } need.request
    cases read : decode (w.answer 0) with
    | error g =>
      rw [read] at sent
      exact .stopped (.head_answer ⟨t, target⟩ (failed _ g read)) (attempt_bind_error sent f) grown
    | ok found =>
      rw [read] at sent
      rcases told _ found read with ⟨fault, unmet, gives_up⟩ | ⟨usable, pursues⟩
      · have run := attempt_bind_ok sent f
        rw [gives_up] at run
        exact .stopped (.head_answer ⟨t, target⟩ unmet) run grown
      · have met : Need.AllMet [need] w.answer := Need.allMet_singleton.2 ⟨⟨t, target⟩, usable⟩
        exact .after met sent grown (w.answer_ask need.request) (pursues _)

/-- An act that begins with seeking an object, and gives up where there is none of use. -/
theorem pursues_object {r : Request} {read : Json → Option α} {isUsable : α → Bool} {missing : Fault}
    {f : Option α → Act β} (absent : f none = throw missing)
    (useless : ∀ found, isUsable found = false → f (some found) = throw missing)
    (usable : ∀ found, isUsable found = true → Pursues (f (some found)) rest) :
    Pursues (fetch? r read >>= f) (Need.object r read isUsable missing :: rest) := by
  refine pursues_ask (Need.object r read isUsable missing) (fun a g decoded => ?_)
    fun a sought decoded => ?_
  · rw [Need.fault?_object, show a.decode? r.path read = _ from decoded]
  · rw [Need.fault?_object, show a.decode? r.path read = _ from decoded]
    cases sought with
    | none => exact .inl ⟨missing, rfl, absent⟩
    | some found =>
      cases use : isUsable found with
      | false => exact .inl ⟨missing, if_neg (by simp [use]), useless found use⟩
      | true => exact .inr ⟨if_pos use, usable found use⟩

theorem pursues_list {r : Request} {read : Json → Option α} {f : α → Act β}
    (usable : ∀ found, Pursues (f found) rest) : Pursues (fetch r read >>= f) (Need.list r read :: rest) := by
  refine pursues_ask (Need.list r read) (fun a g decoded => ?_) fun a found decoded => ?_
  · simp only [Need.list, show a.decode r.path read = _ from decoded]
  · have will_do : (Need.list r read).fault? a = none := by
      simp only [Need.list, show a.decode r.path read = _ from decoded]
    exact .inr ⟨will_do, usable found⟩

end Act

/-! ## Sessions -/

theorem Topology.pursues_resolve (d : Descriptor) (config : SessionConfig) :
    Act.Pursues (resolve d config) (Need.ofTopology d) := by
  refine Act.pursues_object rfl (fun service useless => by cases useless) fun service _ => ?_
  have known (pods : List Kubernetes.Pod) : Act.Pursues (do
      let topology := ofObjects d config.clusterDomain service pods
      Act.log (resolvedLine topology)
      return topology) [] :=
    (Act.pursues_log _).bind fun _ => Act.pursues_pure _
  show Act.Pursues (listReplicas d >>= _) _
  unfold listReplicas
  by_cases none : d.replicas = 0
  · rw [if_pos none, if_pos none]
    exact known []
  · rw [if_neg none, if_neg none]
    exact Act.pursues_list known

theorem Credentials.pursues_resolve (d : Descriptor) : Act.Pursues (resolve d) [Need.secret d] := by
  refine Act.pursues_object rfl (fun secret useless => ?_) fun secret usable => ?_
  · have none : password? secret (secretRef d).field = none :=
      Option.isNone_iff_eq_none.1 (Option.isSome_eq_false_iff.1 useless)
    simp only [Option.bind_some, none]
    rfl
  · obtain ⟨password, some⟩ := Option.isSome_iff_exists.1 usable
    simp only [Option.bind_some, show password? secret (secretRef d).field = _ from some]
    exact Act.pursues_pure _

theorem Session.pursues_build (d : Descriptor) (database : String) (config : SessionConfig) :
    Act.Pursues (build d database config) (Need.ofCluster d) := by
  refine (Topology.pursues_resolve d config).bind fun topology => ?_
  exact (Credentials.pursues_resolve d).bind fun credentials => Act.pursues_pure _

namespace Session

/-- What some answers tell of a cluster. Where no replicas are declared it has no pods. -/
structure Told (d : Descriptor) (answers : Nat → Answer) (service : Kubernetes.Service)
    (pods : List Kubernetes.Pod) (password : String) : Prop where
  service : (answers 0).decode (Need.service d).request.path Kubernetes.Service.ofJson? = .ok service
  none : d.replicas = 0 → pods = []
  pods : d.replicas ≠ 0 →
    (answers 1).decode (Need.pods d).request.path Kubernetes.podsOfJson? = .ok pods
  password : ∃ secret, (answers (Need.ofTopology d).length).decode (Need.secret d).request.path
    Kubernetes.Secret.ofJson? = .ok secret ∧
    Credentials.password? secret d.engine.secretField = some password

section

variable {d : Descriptor} {answers answers' : Nat → Answer} {service : Kubernetes.Service}
  {pods : List Kubernetes.Pod} {password : String} {w : World}

theorem told_of_allMet (all : Need.AllMet (Need.ofCluster d) answers) :
    ∃ service pods password, Told d answers service pods password := by
  obtain ⟨topology, last⟩ := Need.allMet_append.1 all
  have first := (topology 0 (Need.service d) rfl).usable
  obtain ⟨service, told, -⟩ := Need.fault?_object_eq_none.1 first
  obtain ⟨secret, read, isText⟩ := Need.fault?_object_eq_none.1 (Need.allMet_singleton.1 last).usable
  obtain ⟨password, is⟩ := Option.isSome_iff_exists.1 isText
  by_cases none : d.replicas = 0
  · exact ⟨service, [], password, told, fun _ => rfl, fun some => absurd none some, secret, read, is⟩
  · have second := (topology 1 (Need.pods d) (by simp [Need.ofTopology, none])).usable
    obtain ⟨pods, listed⟩ := Need.fault?_list_eq_none.1 second
    exact ⟨service, pods, password, told, fun zero => absurd zero none, fun _ => listed, secret, read, is⟩

theorem Told.congr (told : Told d answers service pods password)
    (same : ∀ i < (Need.ofCluster d).length, answers' i = answers i) :
    Told d answers' service pods password := by
  have length : (Need.ofCluster d).length = (Need.ofTopology d).length + 1 := List.length_append
  refine ⟨?_, told.none, fun some => ?_, ?_⟩
  · rw [same 0 (by omega)]
    exact told.service
  · rw [same 1 (by simp [length, Need.ofTopology, some])]
    exact told.pods some
  · rw [same _ (by omega)]
    exact told.password

theorem Told.resolve_topology (told : Told d w.answer service pods password) (config : SessionConfig)
    (sendable : ∀ need ∈ Need.ofTopology d, ∃ t, need.request.target = .ok t) :
    ((Topology.resolve d config).attempt w).1 =
      .ok (Topology.ofObjects d config.clusterDomain service pods) := by
  have asked : ∀ r ∈ Topology.lookups d, ∃ t, r.target = .ok t := by
    rw [← Need.map_ofTopology]
    exact List.forall_mem_map.2 sendable
  have listed : (if d.replicas = 0 then [] else pods) = pods := by
    split
    · next zero => exact (told.none zero).symm
    · rfl
  have resolved := Topology.resolve_of_told (d := d) config
    ⟨Kubernetes.Answer.decode?_of_decode told.service, told.pods⟩
  rw [Topology.unsendable?_eq_none asked] at resolved
  exact listed ▸ resolved

theorem attempt_credentials {secret : Kubernetes.Secret} {t : Target}
    (target : (Credentials.lookup d).target = .ok t)
    (read : (w.answer 0).decode (Credentials.lookup d).path Kubernetes.Secret.ofJson? = .ok secret)
    (is : Credentials.password? secret d.engine.secretField = some password) :
    ((Credentials.resolve d).attempt w).1 = .ok (Credentials.ofPassword d password) := by
  have found := Kubernetes.Answer.decode?_of_decode read
  rw [World.answer, ← w.headD_answers] at found
  rw [Credentials.attempt_resolve target, found]
  show Credentials.ofSecret d (some secret) = _
  unfold Credentials.ofSecret
  rw [Option.bind_some, show Credentials.password? secret (Credentials.secretRef d).field = _ from is]

/-- A session is made of what is told, if all that it needs can be asked for. -/
theorem attempt_build_of_told (database : String) (config : SessionConfig)
    (told : Told d w.answer service pods password)
    (sendable : ∀ need ∈ Need.ofCluster d, ∃ t, need.request.target = .ok t) :
    ((build d database config).attempt w).1 = .ok {
      descriptor := d
      topology := Topology.ofObjects d config.clusterDomain service pods
      credentials := Credentials.ofPassword d password
      database, config } := by
  have topology := told.resolve_topology config fun need needed =>
    sendable need (List.mem_append_left _ needed)
  rcases resolved : (Topology.resolve d config).attempt w with ⟨outcome, v⟩
  rw [resolved] at topology
  obtain rfl : outcome = _ := topology
  obtain ⟨t, target⟩ := sendable (Need.secret d) (List.mem_append_right _ (List.mem_singleton.2 rfl))
  obtain ⟨secret, read, is⟩ := told.password
  -- the answer about the Secret is the next one after those that told the topology
  have next := (Topology.frugal_resolve d config).answer_of_ok (Topology.asks_resolve d config) resolved 0
  rw [← Need.map_ofTopology, List.length_map, Nat.add_zero] at next
  have credentials := attempt_credentials target (next.symm ▸ read) is
  rcases known : (Credentials.resolve d).attempt v with ⟨outcome, u⟩
  rw [known] at credentials
  obtain rfl : outcome = _ := credentials
  unfold build
  rw [Act.attempt_bind_ok resolved, Act.attempt_bind_ok known]
  rfl

end

/-- **A session is built from what it needs, and the first need that is not met is the end.** What is needed
is asked for in its turn, with GET requests to the paths of these objects in the namespace of the cluster, if
nothing in the names ends a path and the requests can be sent. Database servers have no part in it. A session
comes of it if and only if every need is met. If not, the requests are those up to the first need that is
not met, and the fault is that of the answer to the last of them, or of the next request, for which there is
no way to be sent. A session that comes of it is made of what the answers tell, and with the same answers the
same comes of building one for another database, in whatever world. -/
theorem building_stops_at_the_first_failure (d : Descriptor) (database : String) (config : SessionConfig)
    (w : World) :
    let needs := Need.ofCluster d
    let outcome := (build d database config).attempt w
    (∀ need ∈ needs, need.request.method = "GET" ∧
      (d.Unbroken → (∃ t, need.request.target = .ok t) → need.request.path = need.request.resource)) ∧
    outcome.2.connections = w.connections ∧ outcome.2.peers = w.peers ∧
    ((∃ s, outcome.1 = .ok s) ↔ Need.AllMet needs w.answer) ∧
    (∀ f, outcome.1 = .error f → ∃ n, Need.Stops needs w.answer n f ∧
      outcome.2.requests = w.requests ++ (needs.take n).map Need.request) ∧
    ∀ s, outcome.1 = .ok s → outcome.2.requests = w.requests ++ needs.map Need.request ∧
      (∃ service pods password, Told d w.answer service pods password ∧ s = {
        descriptor := d
        topology := Topology.ofObjects d config.clusterDomain service pods
        credentials := Credentials.ofPassword d password
        database, config }) ∧
      ∀ (database' : String) (w' : World), (∀ i < needs.length, w'.answer i = w.answer i) →
        ((build d database' config).attempt w').1 = .ok { s with database := database' } := by
  intro needs outcome
  have aloof := aloof_build d database config
  refine ⟨Need.reaches_object d, aloof.quiet w, aloof.peers w, ?_⟩
  cases pursues_build d database config w with
  | @stopped n f v stops run grown =>
    have failed : outcome = (.error f, v) := run
    refine ⟨iff_of_false ?_ stops.not_allMet, fun g is => ?_, fun s is => ?_⟩
    · rintro ⟨s, is⟩
      rw [failed] at is
      cases is
    · rw [failed] at is ⊢
      cases is
      exact ⟨n, stops, grown⟩
    · rw [failed] at is
      cases is
  | @finished s v all run grown left =>
    have done : outcome = (.ok s, v) := run
    obtain ⟨service, pods, password, told⟩ := told_of_allMet all
    refine ⟨iff_of_true ⟨s, by rw [done]⟩ all, fun g is => ?_, fun s' is => ?_⟩
    · rw [done] at is
      cases is
    · rw [done] at is
      cases is
      have made := attempt_build_of_told database config told all.sendable
      obtain rfl : s = _ := Except.ok.inj ((congrArg Prod.fst run).symm.trans made)
      refine ⟨by rw [done]; exact grown, ⟨service, pods, password, told, rfl⟩, fun database' w' same => ?_⟩
      exact attempt_build_of_told database' config (told.congr same) all.sendable

/-- Everything that a cluster without replicas needs. -/
def tellingAll : World where
  answers := [
    .response 200 "\x7b\x7d",
    .response 200 "\x7b\x22data\x22: \x7b\x22password\x22: \x22b25l\x22\x7d\x7d"]

/-- A session for another database comes of the same answers, and is the same otherwise. -/
theorem other_database_makes_no_difference :
    ∃ s, ((build (named .postgresql "demo") "" {}).attempt tellingAll).1 = .ok s ∧
      ((build (named .postgresql "demo") "app" {}).attempt tellingAll).1 =
        .ok { s with database := "app" } := by
  have met : Need.AllMet (Need.ofCluster (named .postgresql "demo")) tellingAll.answer := by
    rintro (_ | _ | i) need stands
    · cases stands
      exact ⟨⟨_, rfl⟩, by decide +kernel⟩
    · cases stands
      exact ⟨⟨_, rfl⟩, by decide +kernel⟩
    · cases stands
  obtain ⟨-, -, -, comes, -, made⟩ :=
    building_stops_at_the_first_failure (named .postgresql "demo") "" {} tellingAll
  obtain ⟨s, is⟩ := comes.2 met
  exact ⟨s, is, (made s is).2.2 "app" tellingAll fun _ _ => rfl⟩

/-- A service in some namespace. -/
def inNamespace (ns : String) : Descriptor := { engine := .postgresql, ns, name := "demo", replicas := 0 }

/-- With a blank in the namespace nothing is asked for, though every answer would do, and the fault is that of
no answer. With a question mark the requests go elsewhere. -/
theorem not_every_namespace_is_reached :
    let outcome := (build (inNamespace "n s") "" {}).attempt tellingAll
    (∀ (i : Nat) (need : Need), (Need.ofCluster (inNamespace "n s"))[i]? = some need →
      need.fault? (tellingAll.answer i) = none) ∧
    outcome.1 = .error (.kubernetes (.unsendable .invalidCharacter)) ∧ outcome.2.requests = [] ∧
    (∀ need ∈ Need.ofCluster (inNamespace "n s"), ∀ a,
      need.fault? a ≠ some (.kubernetes (.unsendable .invalidCharacter))) ∧
    ∀ need ∈ Need.ofCluster (inNamespace "n?s"), (∃ t, need.request.target = .ok t) ∧
      need.request.path = "/api/v1/namespaces/n" := by
  intro outcome
  have target : (Need.service (inNamespace "n s")).request.target = .error .invalidCharacter := rfl
  have unsent : outcome = (.error (.kubernetes (.unsendable .invalidCharacter)), tellingAll) :=
    Act.attempt_bind_error (Act.attempt_bind_error (Act.attempt_ask_unsendable target _ _) _) _
  refine ⟨?_, by rw [unsent], by rw [unsent]; rfl, fun need needed a => ?_, fun need needed => ?_⟩
  · rintro (_ | _ | i) need stands
    · cases stands
      decide +kernel
    · cases stands
      decide +kernel
    · cases stands
  · rcases List.mem_cons.1 needed with rfl | last
    · exact Need.object_ne_unsendable (by decide)
    · obtain rfl := List.mem_singleton.1 last
      exact Need.object_ne_unsendable (by decide)
  · rcases List.mem_cons.1 needed with rfl | last
    · exact ⟨⟨_, rfl⟩, by decide +kernel⟩
    · obtain rfl := List.mem_singleton.1 last
      exact ⟨⟨_, rfl⟩, by decide +kernel⟩

end Session

end ManagedDatabase
