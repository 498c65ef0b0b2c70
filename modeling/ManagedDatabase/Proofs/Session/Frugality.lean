/-
Which answers an act hangs on. An act takes one answer of the API for each request that it makes and
looks at no other, so with other answers behind these it does the same, and leaves them behind
(`Act.Spends`). Building a session is such an act, and so is a conversation with a database server, which
takes none.

An act of this kind also leaves the clock alone and warns of nothing; warnings are for the watcher to
give.
-/
import ManagedDatabase.Proofs.Session.Lookup
import ManagedDatabase.Proofs.Session.Encounter

namespace ManagedDatabase

/-- Whether a deed was to ask the API. -/
def Deed.isRequest : Deed → Bool
  | .request _ => true
  | _ => false

/-- How many requests are among some deeds. -/
def requestsIn (done : List Deed) : Nat := done.countP Deed.isRequest

theorem requestsIn_append (done later : List Deed) :
    requestsIn (done ++ later) = requestsIn done + requestsIn later :=
  List.countP_append

/-- Two scripts begin with the same answers. -/
def SameUpTo (n : Nat) (answers answers' : List Kubernetes.Answer) : Prop :=
  ∀ i < n, answers'.getD i .missing = answers.getD i .missing

theorem SameUpTo.drop {n m : Nat} {answers answers' : List Kubernetes.Answer}
    (same : SameUpTo (n + m) answers answers') : SameUpTo m (answers.drop n) (answers'.drop n) := by
  intro i hi
  have shifted := same (n + i) (by omega)
  simpa only [List.getD_eq_getElem?_getD, List.getElem?_drop] using shifted

namespace World

/-- The answer that is given after some others. -/
def answer (w : World) (i : Nat) : Kubernetes.Answer := w.answers.getD i .missing

theorem length_requests (w : World) : w.requests.length = requestsIn w.journal := by
  unfold requests requestsIn
  rw [List.length_filterMap_eq_countP]
  refine List.countP_congr fun deed _ => ?_
  cases deed <;> exact Iff.rfl

theorem journal_metAll : ∀ (cs : List Sql.Connection) (w : World),
    (w.metAll cs).journal = w.journal ++ cs.map .connection
  | [], w => (List.append_nil _).symm
  | c :: cs, w => by
    show ((w.met c).metAll cs).journal = _
    rw [journal_metAll cs, show (w.met c).journal = w.journal ++ [.connection c] from rfl,
      List.append_assoc]
    rfl

theorem metAll_answers : ∀ (cs : List Sql.Connection) (w : World) (answers : List Kubernetes.Answer),
    ({ w with answers } : World).metAll cs = { w.metAll cs with answers }
  | [], _, _ => rfl
  | c :: cs, w, answers => metAll_answers cs (w.met c) answers

end World

namespace Act

variable {α β : Type}

/-- How an act goes in a world: what it has done, and that it took as many answers as it made requests
and would have done the same with others behind them. -/
structure Spends (x : Act α) (w : World) (done : List Deed) : Prop where
  journal : (x.attempt w).2.journal = w.journal ++ done
  now : (x.attempt w).2.now = w.now
  calm : ∀ line, .log line ∈ done → line.level ≠ .warn
  same : ∀ answers, SameUpTo (requestsIn done) w.answers answers →
    x.attempt { w with answers } =
      ((x.attempt w).1, { (x.attempt w).2 with answers := answers.drop (requestsIn done) })

/-- An act that takes one answer for each of its requests, in whatever world. -/
def Frugal (x : Act α) : Prop := ∀ w, ∃ done, x.Spends w done

/-- With other answers behind those that it took, an act comes to the same and leaves what is behind. -/
theorem Spends.replaced {x : Act α} {w v : World} {done : List Deed} {result : Except Fault α}
    (spends : x.Spends w done) (run : x.attempt w = (result, v)) {answers : List Kubernetes.Answer}
    (same : SameUpTo (requestsIn done) w.answers answers) :
    x.attempt { w with answers } = (result, { v with answers := answers.drop (requestsIn done) }) := by
  rw [spends.same answers same, run]

/-- The answers that an act took are as many as the requests that it added to those before. -/
theorem Spends.length_asked {x : Act α} {w : World} {done : List Deed}
    {asked : List Kubernetes.Request} (spends : x.Spends w done)
    (grown : (x.attempt w).2.requests = w.requests ++ asked) : requestsIn done = asked.length := by
  have count := congrArg List.length grown
  rw [World.length_requests, spends.journal, requestsIn_append, List.length_append,
    World.length_requests] at count
  omega

theorem Spends.left {x : Act α} {w : World} {done : List Deed} (spends : x.Spends w done) :
    (x.attempt w).2.answers = w.answers.drop (requestsIn done) :=
  congrArg (fun outcome => outcome.2.answers) (spends.same w.answers fun _ _ => rfl)

/-- An act that succeeded took one answer for each of its requests. -/
theorem Frugal.answer_of_ok {x : Act α} (frugal : Frugal x) {rs : List Kubernetes.Request}
    (asks : Asks x rs) {w v : World} {a : α} (run : x.attempt w = (.ok a, v)) (i : Nat) :
    v.answer i = w.answer (rs.length + i) := by
  obtain ⟨done, spends⟩ := frugal w
  obtain ⟨asked, -, grown, whole⟩ := asks w
  obtain rfl := whole a (congrArg Prod.fst run)
  have left := spends.left
  rw [run] at left
  simp only [World.answer, show v.answers = _ from left, spends.length_asked grown,
    List.getD_eq_getElem?_getD, List.getElem?_drop]

theorem frugal_of_pure {x : Act α} {result : Except Fault α} (h : ∀ w, x.attempt w = (result, w)) :
    Frugal x := by
  intro w
  refine ⟨[], ?_, ?_, fun line said => ?_, fun answers _ => ?_⟩
  · rw [h, List.append_nil]
  · rw [h]
  · cases said
  · rw [h, h]
    rfl

theorem frugal_pure (a : α) : Frugal (pure a) := frugal_of_pure fun _ => rfl

theorem frugal_throw (fault : Fault) : Frugal (throw fault : Act α) := frugal_of_pure fun _ => rfl

theorem frugal_log {line : LogLine} (calm : line.level ≠ .warn) : Frugal (log line) := by
  refine fun w => ⟨[.log line], rfl, rfl, fun said member => ?_, fun answers _ => rfl⟩
  cases List.mem_singleton.1 member
  exact calm

theorem frugal_ask (r : Kubernetes.Request)
    (decode : Kubernetes.Answer → Except Kubernetes.Fault α) : Frugal (ask r decode) := by
  intro w
  cases target : r.target with
  | error reason =>
    have unsent := attempt_ask_unsendable target decode
    exact frugal_of_pure unsent w
  | ok t =>
    have sent := attempt_ask_sent target decode
    have one : requestsIn [.request r] = 1 := rfl
    refine ⟨[.request r], ?_, ?_, fun line said => ?_, fun answers first => ?_⟩
    · rw [sent]
      rfl
    · rw [sent]
      rfl
    · cases List.mem_singleton.1 said
    · have answer : answers.headD .missing = w.answers.headD .missing := by
        rw [List.headD_eq_getD, List.headD_eq_getD]
        exact first 0 (one ▸ Nat.one_pos)
      rw [sent, sent]
      simp only [answer]
      rw [one, List.drop_one]
      rfl

/-- Conversations with database servers take no answer of the API. -/
theorem frugal_of_metAll {x : Act α} {outcome : Moment → (Nat → Sql.Peer) → Except Fault α}
    {visits : (Nat → Sql.Peer) → List Sql.Connection}
    (h : ∀ w, x.attempt w = (outcome w.now w.peer, w.metAll (visits w.peer))) : Frugal x := by
  intro w
  have none : requestsIn ((visits w.peer).map .connection) = 0 :=
    List.countP_eq_zero.2 fun deed made => by
      obtain ⟨c, -, rfl⟩ := List.mem_map.1 made
      exact Bool.false_ne_true
  refine ⟨(visits w.peer).map .connection, ?_, ?_, fun line said => ?_, fun answers _ => ?_⟩
  · rw [h w, World.journal_metAll]
  · rw [h w, World.now_metAll]
  · obtain ⟨c, -, other⟩ := List.mem_map.1 said
    cases other
  · rw [h w, h { w with answers }, none, List.drop_zero]
    exact congrArg (Prod.mk _) (World.metAll_answers _ w answers)

theorem Frugal.bind {x : Act α} {f : α → Act β} (hx : Frugal x) (hf : ∀ a, Frugal (f a)) :
    Frugal (x >>= f) := by
  intro w
  obtain ⟨done, first⟩ := hx w
  rcases run : x.attempt w with ⟨fault | a, v⟩
  · have failed := attempt_bind_error run f
    refine ⟨done, ?_, ?_, first.calm, fun answers same => ?_⟩
    · rw [failed, ← first.journal, run]
    · rw [failed, ← first.now, run]
    · rw [failed, attempt_bind_error (first.replaced run same) f]
  · have went := attempt_bind_ok run f
    obtain ⟨later, second⟩ := hf a v
    have journal : v.journal = w.journal ++ done := by rw [← first.journal, run]
    have left : v.answers = w.answers.drop (requestsIn done) := by rw [← first.left, run]
    refine ⟨done ++ later, ?_, ?_, fun line said => ?_, fun answers same => ?_⟩
    · rw [went, second.journal, journal, List.append_assoc]
    · rw [went, second.now, ← first.now, run]
    · exact (List.mem_append.1 said).elim (first.calm line) (second.calm line)
    · rw [requestsIn_append] at same
      have again := first.replaced run fun i hi => same i (by omega)
      have rest := second.same (answers.drop (requestsIn done)) (left ▸ same.drop)
      rw [went, attempt_bind_ok again f, requestsIn_append, ← List.drop_drop]
      exact rest

end Act

/-! ## Sessions -/

theorem Topology.frugal_resolve (d : Descriptor) (config : SessionConfig) :
    Act.Frugal (resolve d config) := by
  refine Act.Frugal.bind (Act.frugal_ask _ _) fun found => ?_
  cases found with
  | none => exact Act.frugal_throw _
  | some service =>
    refine Act.Frugal.bind ?_ fun pods =>
      (Act.frugal_log (by simp [resolvedLine])).bind fun _ => Act.frugal_pure _
    unfold listReplicas
    split
    · exact Act.frugal_pure []
    · exact Act.frugal_ask _ _

theorem Credentials.frugal_resolve (d : Descriptor) : Act.Frugal (resolve d) := by
  refine Act.Frugal.bind (Act.frugal_ask _ _) fun secret => ?_
  cases secret.bind fun s => password? s (secretRef d).field with
  | none => exact Act.frugal_throw _
  | some password => exact Act.frugal_pure _

theorem Session.frugal_build (d : Descriptor) (database : String) (config : SessionConfig) :
    Act.Frugal (build d database config) :=
  (Topology.frugal_resolve d config).bind fun _ => (Credentials.frugal_resolve d).bind fun _ =>
    Act.frugal_pure _

end ManagedDatabase
