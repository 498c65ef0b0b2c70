/-
What building a session takes from the outside. The API is asked for the master's Service, for the
replicas' pods where replicas are declared, and for the Secret, each once and in this order, until
something fails (`Session.asks_build`). Database servers have no part in it: a session comes out the
same whatever servers are waiting, and they go on waiting (`Session.aloof_build`).
-/
import ManagedDatabase.Proofs.Session.Journal

namespace ManagedDatabase

open Kubernetes (Request)

namespace Act

variable {α β : Type} {x : Act α} {f : α → Act β} {rs ss : List Request}

/-- An act makes these requests one after the other, as far as it comes, and all of them if it
succeeds. -/
def Asks (x : Act α) (rs : List Request) : Prop :=
  ∀ w, ∃ asked, asked <+: rs ∧ (x.attempt w).2.requests = w.requests ++ asked ∧
    ∀ a, (x.attempt w).1 = .ok a → asked = rs

/-- An act that database servers have no part in: it connects to none, it does the same whatever
servers are waiting, and they go on waiting. -/
structure Aloof (x : Act α) : Prop where
  quiet : Quiet x
  same : ∀ w ps, x.attempt { w with peers := ps } =
    ((x.attempt w).1, { (x.attempt w).2 with peers := ps })

theorem asks_pure (a : α) : Asks (pure a) [] :=
  fun _ => ⟨[], List.prefix_rfl, (List.append_nil _).symm, fun _ _ => rfl⟩

theorem asks_throw (fault : Fault) (rs : List Request) : Asks (throw fault : Act α) rs := by
  refine fun _ => ⟨[], List.nil_prefix, (List.append_nil _).symm, fun a h => ?_⟩
  cases h

theorem asks_log (line : LogLine) : Asks (log line) [] := by
  refine fun w => ⟨[], List.prefix_rfl, ?_, fun _ _ => rfl⟩
  rw [List.append_nil]
  exact w.requests_log line

theorem asks_ask (r : Request) (decode : Kubernetes.Answer → Except Kubernetes.Fault α) :
    Asks (ask r decode) [r] := by
  intro w
  unfold attempt ask
  cases r.target with
  | error reason =>
    refine ⟨[], List.nil_prefix, (List.append_nil _).symm, fun a h => ?_⟩
    cases h
  | ok _ =>
    have asked : (w.ask r).2.requests = w.requests ++ [r] :=
      World.requests_record_request { w with answers := w.answers.tail } r
    refine ⟨[r], List.prefix_rfl, ?_, fun _ _ => rfl⟩
    cases hd : decode (w.ask r).1 <;> simp only [hd, asked]

theorem Asks.bind (hx : Asks x rs) (hf : ∀ a, Asks (f a) ss) : Asks (x >>= f) (rs ++ ss) := by
  intro w
  obtain ⟨asked, part, grown, whole⟩ := hx w
  rcases first : x.attempt w with ⟨fault | a, v⟩
  · rw [first] at grown
    rw [attempt_bind_error first]
    refine ⟨asked, part.trans (List.prefix_append _ _), grown, fun b h => ?_⟩
    cases h
  · rw [first] at grown whole
    rw [attempt_bind_ok first]
    obtain ⟨later, part', grown', whole'⟩ := hf a v
    obtain rfl := whole a rfl
    refine ⟨asked ++ later, (List.prefix_append_right_inj _).2 part', ?_, fun b h => ?_⟩
    · rw [grown', show v.requests = _ from grown, List.append_assoc]
    · rw [whole' b h]

theorem aloof_pure (a : α) : Aloof (pure a) := ⟨fun _ => rfl, fun _ _ => rfl⟩

theorem aloof_throw (fault : Fault) : Aloof (throw fault : Act α) := ⟨fun _ => rfl, fun _ _ => rfl⟩

theorem aloof_log (line : LogLine) : Aloof (log line) := ⟨quiet_log line, fun _ _ => rfl⟩

theorem aloof_ask (r : Request) (decode : Kubernetes.Answer → Except Kubernetes.Fault α) :
    Aloof (ask r decode) := by
  refine ⟨quiet_ask r decode, fun w ps => ?_⟩
  have answer : (({ w with peers := ps } : World).ask r).1 = (w.ask r).1 := rfl
  unfold attempt ask
  cases r.target with
  | error reason => rfl
  | ok _ =>
    simp only [answer]
    cases decode (w.ask r).1 <;> rfl

theorem Aloof.bind (hx : Aloof x) (hf : ∀ a, Aloof (f a)) : Aloof (x >>= f) := by
  refine ⟨hx.quiet.bind fun a => (hf a).quiet, fun w ps => ?_⟩
  rw [attempt_bind, attempt_bind, hx.same w ps]
  rcases x.attempt w with ⟨fault | a, v⟩
  · rfl
  · exact (hf a).same v ps

theorem Aloof.peers (hx : Aloof x) (w : World) : (x.attempt w).2.peers = w.peers :=
  congrArg (fun outcome => outcome.2.peers) (hx.same w w.peers)

/-- What an act gives back, if it succeeds, is of some kind. -/
def Gives (P : α → Prop) (x : Act α) : Prop := ∀ w a v, x.attempt w = (.ok a, v) → P a

theorem gives_pure {P : α → Prop} {a : α} (h : P a) : Gives P (pure a) := by
  rintro w _ _ ⟨⟩
  exact h

theorem gives_throw {P : α → Prop} (fault : Fault) : Gives P (throw fault) := by
  rintro w a v ⟨⟩

theorem Gives.bind {P : β → Prop} (x : Act α) (hf : ∀ a, Gives P (f a)) : Gives P (x >>= f) := by
  intro w b v run
  rw [attempt_bind] at run
  rcases first : x.attempt w with ⟨fault | a, u⟩
  · rw [first] at run
    cases run
  · rw [first] at run
    exact hf a u b v run

end Act

/-! ## Sessions -/

namespace Topology

/-- The requests that tell the topology of a cluster. -/
def lookups (d : Descriptor) : List Request :=
  .getService d.ns (d.engine.masterService d.cluster) ::
    if d.replicas = 0 then []
    else [.listPods d.ns (Kubernetes.selectorText (d.engine.selector d.cluster .replica))]

theorem asks_listReplicas (d : Descriptor) : Act.Asks (listReplicas d) (lookups d).tail := by
  unfold listReplicas lookups
  split
  · exact Act.asks_pure []
  · exact Act.asks_ask _ _

theorem asks_resolve (d : Descriptor) (config : SessionConfig) :
    Act.Asks (resolve d config) (lookups d) := by
  refine Act.Asks.bind (Act.asks_ask _ _) fun found => ?_
  cases found with
  | none => exact Act.asks_throw _ _
  | some service =>
    have rest := (asks_listReplicas d).bind fun pods =>
      let topology := ofObjects d config.clusterDomain service pods
      (Act.asks_log (resolvedLine topology)).bind fun _ => Act.asks_pure topology
    rw [List.append_nil, List.append_nil] at rest
    exact rest

theorem aloof_resolve (d : Descriptor) (config : SessionConfig) : Act.Aloof (resolve d config) := by
  refine Act.Aloof.bind (Act.aloof_ask _ _) fun found => ?_
  cases found with
  | none => exact Act.aloof_throw _
  | some service =>
    refine Act.Aloof.bind ?_ fun pods => (Act.aloof_log _).bind fun _ => Act.aloof_pure _
    unfold listReplicas
    split
    · exact Act.aloof_pure []
    · exact Act.aloof_ask _ _

end Topology

namespace Credentials

/-- The request that tells the administrative password of a cluster. -/
def lookup (d : Descriptor) : Request := .getSecret d.ns (secretRef d).name

theorem asks_resolve (d : Descriptor) : Act.Asks (resolve d) [lookup d] := by
  rw [← List.append_nil [lookup d]]
  refine Act.Asks.bind (Act.asks_ask _ _) fun secret => ?_
  cases secret.bind fun s => password? s (secretRef d).field with
  | none => exact Act.asks_throw _ _
  | some password => exact Act.asks_pure _

theorem aloof_resolve (d : Descriptor) : Act.Aloof (resolve d) := by
  refine Act.Aloof.bind (Act.aloof_ask _ _) fun secret => ?_
  cases secret.bind fun s => password? s (secretRef d).field with
  | none => exact Act.aloof_throw _
  | some password => exact Act.aloof_pure _

/-- The credentials of a cluster with the password in its Secret, or the fault that there is none. -/
def ofSecret (d : Descriptor) (found : Option Kubernetes.Secret) : Except Fault Credentials :=
  match found.bind fun s => password? s (secretRef d).field with
  | some password => .ok (ofPassword d password)
  | none => .error (unavailable d)

theorem attempt_resolve {d : Descriptor} {t : Target} (sendable : (lookup d).target = .ok t)
    (w : World) : (resolve d).attempt w =
      (((w.answers.headD .missing).decode? (lookup d).path Kubernetes.Secret.ofJson?).mapError
        .kubernetes >>= ofSecret d, (w.ask (lookup d)).2) := by
  have asked := Act.attempt_ask_sent sendable
    (Kubernetes.Answer.decode? (lookup d).path Kubernetes.Secret.ofJson?) w
  unfold resolve Act.fetch?
  rw [show Request.getSecret d.ns (secretRef d).name = lookup d from rfl]
  cases hd : (w.answers.headD .missing).decode? (lookup d).path Kubernetes.Secret.ofJson? with
  | error f =>
    rw [hd] at asked
    exact Act.attempt_bind_error asked _
  | ok found =>
    rw [hd] at asked
    rw [Act.attempt_bind_ok asked]
    show _ = (ofSecret d found, _)
    unfold ofSecret
    cases found.bind fun s => password? s (secretRef d).field <;> rfl

/-- Credentials that were read are those of the cluster with some password, and they come from its
Secret, which a request can be sent to. -/
theorem of_resolve {d : Descriptor} {c : Credentials} {w w' : World}
    (h : (resolve d).attempt w = (.ok c, w')) :
    c = ofPassword d c.password ∧ ∃ t, (lookup d).target = .ok t := by
  cases ht : (lookup d).target with
  | error reason =>
    unfold resolve Act.fetch? at h
    rw [show Request.getSecret d.ns (secretRef d).name = lookup d from rfl,
      Act.attempt_bind_error (Act.attempt_ask_unsendable ht _ w)] at h
    cases h
  | ok t =>
    rw [attempt_resolve ht] at h
    obtain ⟨read, -⟩ := Prod.mk.inj h
    cases hd : (w.answers.headD .missing).decode? (lookup d).path Kubernetes.Secret.ofJson? with
    | error f =>
      rw [hd] at read
      cases read
    | ok found =>
      rw [hd] at read
      change ofSecret d found = .ok c at read
      unfold ofSecret at read
      split at read
      · cases read
        exact ⟨rfl, t, rfl⟩
      · cases read

end Credentials

namespace Session

/-- The requests that a session is built from: topology first, then credentials. -/
def lookups (d : Descriptor) : List Request := Topology.lookups d ++ [Credentials.lookup d]

variable (d : Descriptor) (database : String) (config : SessionConfig)

theorem asks_build : Act.Asks (build d database config) (lookups d) := by
  have all := (Topology.asks_resolve d config).bind fun topology =>
    (Credentials.asks_resolve d).bind fun credentials =>
      Act.asks_pure { descriptor := d, topology, credentials, database, config : Session }
  rwa [List.append_nil] at all

theorem aloof_build : Act.Aloof (build d database config) :=
  (Topology.aloof_resolve d config).bind fun _ => (Credentials.aloof_resolve d).bind fun _ =>
    Act.aloof_pure _

/-- A session that was built is for the cluster it was built for, and its topology was resolved in
the same world, its credentials in the one after that. -/
theorem of_build {s : Session} {w w' : World}
    (h : (build d database config).attempt w = (.ok s, w')) :
    s.descriptor = d ∧ s.database = database ∧
      ∃ v u, (Topology.resolve d config).attempt w = (.ok s.topology, v) ∧
        (Credentials.resolve d).attempt v = (.ok s.credentials, u) := by
  unfold build at h
  rcases resolved : (Topology.resolve d config).attempt w with ⟨fault | topology, v⟩
  · rw [Act.attempt_bind_error resolved] at h
    cases h
  · rw [Act.attempt_bind_ok resolved] at h
    rcases read : (Credentials.resolve d).attempt v with ⟨fault | credentials, u⟩
    · rw [Act.attempt_bind_error read] at h
      cases h
    · rw [Act.attempt_bind_ok read] at h
      cases h
      exact ⟨rfl, rfl, v, _, rfl, read⟩

end Session
end ManagedDatabase
