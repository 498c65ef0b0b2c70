/-
What a probe can fail with. Whatever the API and the servers do, the cause is one of five: a request
to the API failed, the cluster's objects or its password are not there, or a conversation with a
database server failed or took too long (`Probe.fails_run`). The label of a cause is the first word
of the fault in full, in lower case; it hangs on the cause alone, whatever the fault carries and however
that is worded (`Fault.label_shown`). No label ends in another one, so a text that a service and a label
run together into is that of no other (`Probe.append_inj`).
-/
import Mathlib.Data.List.Infix
import ManagedDatabase.Metrics.Basic
import ManagedDatabase.Proofs.Watcher.Route

namespace ManagedDatabase

namespace Fault

/-- The first word of a text, in lower case. -/
def labelOf (text : String) : String :=
  String.ofList ((text.toList.takeWhile Char.isAlphanum).map Char.toLower)

/-- Behind the name of the cause there is a parenthesis or a blank. -/
theorem toList_shown (words : Wording) (f : Fault) : ∃ mark rest,
    (f.shown words).toList = f.variant.toList ++ mark :: rest ∧ mark.isAlphanum = false := by
  have tuple (name : String) (parts : List String) : ∃ mark rest,
      (Text.shownTuple name parts).toList = name.toList ++ mark :: rest ∧ mark.isAlphanum = false := by
    refine ⟨'(', (String.intercalate ", " parts ++ ")").toList, ?_, by decide⟩
    simp [Text.shownTuple]
  have record (name : String) (parts : List (String × String)) : ∃ mark rest,
      (Text.shownRecord name parts).toList = name.toList ++ mark :: rest ∧ mark.isAlphanum = false := by
    refine ⟨' ', '\x7b' :: ' ' :: (Text.shownParts parts ++ " \x7d").toList, ?_, by decide⟩
    simp [Text.shownRecord]
  cases f with
  | kubernetes | unsupportedEngine | illegalService | illegalConfig => exact tuple _ _
  | topologyUnresolved | credentialUnavailable | protectedResource | sql | timeout => exact record _ _

/-- The label is the first word of the fault in full, whatever it carries. -/
theorem label_shown (words : Wording) (f : Fault) : labelOf (f.shown words) = f.label := by
  have letters : f.variant.toList.all Char.isAlphanum = true := by
    cases f <;> simp only [variant] <;> decide
  obtain ⟨mark, rest, text, ends⟩ := toList_shown words f
  rw [labelOf, text, List.takeWhile_append_of_pos (List.all_eq_true.1 letters),
    List.takeWhile_cons_of_neg (by simp [ends]), List.append_nil, label]

end Fault

/-! ## Acts that fail with certain causes only -/

namespace Act

variable {α β : Type} {P : Fault → Prop} {x : Act α} {f : α → Act β}

/-- All faults of an act are of some sort. -/
def Fails (P : Fault → Prop) (x : Act α) : Prop := ∀ w fault, (x.attempt w).1 = .error fault → P fault

theorem fails_pure (a : α) : Fails P (pure a) := fun _ _ h => by cases h

theorem fails_throw {fault : Fault} (h : P fault) : Fails P (throw fault : Act α) :=
  fun _ _ thrown => by
    cases thrown
    exact h

theorem fails_log (line : LogLine) : Fails P (log line) := fun _ _ h => by cases h

theorem fails_ask (h : ∀ k, P (.kubernetes k)) (r : Kubernetes.Request)
    (decode : Kubernetes.Answer → Except Kubernetes.Fault α) : Fails P (ask r decode) := by
  intro w fault failed
  unfold attempt ask at failed
  cases ht : r.target with
  | error reason =>
    simp only [ht] at failed
    cases failed
    exact h _
  | ok _ =>
    simp only [ht] at failed
    cases hd : decode (w.ask r).1 with
    | ok a => simp [hd] at failed
    | error k =>
      simp only [hd, Except.error.injEq] at failed
      rw [← failed]
      exact h k

theorem Fails.bind (hx : Fails P x) (hf : ∀ a, Fails P (f a)) : Fails P (x >>= f) := by
  intro w fault failed
  rcases first : x.attempt w with ⟨fault' | a, v⟩
  · rw [attempt_bind_error first] at failed
    cases failed
    exact hx w fault (congrArg Prod.fst first)
  · rw [attempt_bind_ok first] at failed
    exact hf a v fault failed

end Act

/-! ## The causes of failed probes -/

namespace Probe

/-- The causes that a probe can fail with. -/
def causes : List String :=
  ["KubeError", "TopologyUnresolved", "CredentialUnavailable", "SqlError", "Timeout"]

/-- A probe can fail with a fault. -/
def Fatal (f : Fault) : Prop := f.variant ∈ causes

theorem fatal_kubernetes (k : Kubernetes.Fault) : Fatal (.kubernetes k) := by
  simp [Fatal, Fault.variant, causes]

theorem fatal_faultOf (s : Session) (op : Operation) (lapse : Sql.Lapse) :
    Fatal (s.faultOf op lapse) := by
  cases lapse <;> simp [Fatal, Session.faultOf, Fault.variant, causes]

theorem fails_resolve_topology (d : Descriptor) (config : SessionConfig) :
    Act.Fails Fatal (Topology.resolve d config) := by
  refine Act.Fails.bind (Act.fails_ask fatal_kubernetes _ _) fun found => ?_
  cases found with
  | none => exact Act.fails_throw (by simp [Fatal, Topology.unresolved, Fault.variant, causes])
  | some service =>
    refine Act.Fails.bind ?_ fun pods => (Act.fails_log _).bind fun _ => Act.fails_pure _
    unfold Topology.listReplicas
    split
    · exact Act.fails_pure []
    · exact Act.fails_ask fatal_kubernetes _ _

theorem fails_resolve_credentials (d : Descriptor) : Act.Fails Fatal (Credentials.resolve d) := by
  refine Act.Fails.bind (Act.fails_ask fatal_kubernetes _ _) fun secret => ?_
  cases secret.bind fun s => Credentials.password? s (Credentials.secretRef d).field with
  | none => exact Act.fails_throw (by simp [Fatal, Credentials.unavailable, Fault.variant, causes])
  | some password => exact Act.fails_pure _

theorem fails_build (d : Descriptor) (database : String) (config : SessionConfig) :
    Act.Fails Fatal (Session.build d database config) :=
  (fails_resolve_topology d config).bind fun _ => (fails_resolve_credentials d).bind fun _ =>
    Act.fails_pure _

section

variable (s : Session)

theorem fails_perform {α : Type} (op : Operation) (read : List Sql.Answer → Except Sql.Fault α) :
    Act.Fails Fatal (s.perform op read) := by
  intro w fault failed
  rw [s.meets_perform op read w, Session.outcome] at failed
  cases hc : ((w.peer 0).converse (s.loginFor op) (s.textsOf op) read).2 with
  | ok a => simp [hc] at failed
  | error lapse =>
    simp only [hc, mapError_error, Except.error.injEq] at failed
    rw [← failed]
    exact fatal_faultOf s op lapse

theorem fails_createDatabase (name : String) : Act.Fails Fatal (createDatabase s name) := by
  intro w fault failed
  unfold Act.attempt createDatabase at failed
  cases he : s.execute (.createDatabase name) w with
  | ok u v => simp [he] at failed
  | error f v =>
    have fatal : Fatal f := fails_perform s (.createDatabase name) Sql.readNothing w f (by
      rw [Act.attempt, show s.perform (.createDatabase name) Sql.readNothing w = .error f v from he])
    by_cases there : f.sqlKind? = some .alreadyExists
    · simp [he, there] at failed
    · simp only [he, there, if_false, Except.error.injEq] at failed
      rwa [← failed]

theorem fails_writeRecord (endpoint table : String) :
    Act.Fails Fatal (s.writeRecord endpoint table) := by
  unfold Session.writeRecord
  cases s.engine with
  | postgresql => exact fails_perform s _ _
  | mysql =>
    refine (fails_perform s _ _).bind fun id => ?_
    cases Sql.signedId id with
    | ok id => exact Act.fails_pure id
    | error f => exact Act.fails_throw (fatal_faultOf s _ _)

theorem fails_readAll (table : String) : Act.Fails Fatal (readAll s table) := by
  intro w fault failed
  rw [attempt_readAll] at failed
  cases failed

end

/-- A probe fails with one of the five causes. -/
theorem fails_run (settings : Settings) (d : Descriptor) : Act.Fails Fatal (run settings d) := by
  refine (fails_build d "" settings.session).bind fun admin =>
    (fails_createDatabase admin _).bind fun _ => (fails_perform _ _ _).bind fun _ =>
      (fails_writeRecord _ _ _).bind fun written => (fails_readAll _ _).bind fun replicas => ?_
  intro w fault failed
  cases failed

/-- The labels under which failed probes are counted. -/
def labels : List String :=
  ["kubeerror", "topologyunresolved", "credentialunavailable", "sqlerror", "timeout"]

theorem Fatal.label_mem {f : Fault} (fatal : Fatal f) : f.label ∈ labels := by
  cases f with
  | kubernetes | topologyUnresolved | credentialUnavailable | sql | timeout =>
    exact (by decide : ∀ cause ∈ causes,
      String.ofList (cause.toList.map Char.toLower) ∈ labels) _ fatal
  | unsupportedEngine | protectedResource | illegalService | illegalConfig =>
    exact absurd fatal (by simp [Fatal, Fault.variant, causes])

theorem eq_of_suffix : ∀ l ∈ labels, ∀ l' ∈ labels, l.toList <:+ l'.toList → l = l' := by decide

theorem append_inj {service service' l l' : String} (hl : l ∈ labels) (hl' : l' ∈ labels)
    (same : service ++ l = service' ++ l') : service = service' ∧ l = l' := by
  have texts : service.toList ++ l.toList = service'.toList ++ l'.toList := by
    rw [← String.toList_append, ← String.toList_append, same]
  have label : l = l' := by
    -- the shorter of two ends of one text is an end of the longer
    have first : l.toList <:+ service'.toList ++ l'.toList := ⟨service.toList, texts⟩
    rcases List.suffix_or_suffix_of_suffix first (List.suffix_append _ _) with h | h
    · exact eq_of_suffix l hl l' hl' h
    · exact (eq_of_suffix l' hl' l hl h).symm
  subst label
  exact ⟨(String.append_left_inj l).1 same, rfl⟩

end Probe
end ManagedDatabase
