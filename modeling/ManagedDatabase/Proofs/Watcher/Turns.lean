/-
The counters of the watcher over whole runs. A run is a list of turns: a service comes up and is dealt
with, or the services that are gone are forgotten, which may also happen while a service is being
dealt with. A turn is a trial if the service describes a cluster that is ready; then it counts as its
trial says and posts the events of its trial, and if it is no trial it does neither
(`Turn.play_spec`). So the counters after a run are those of its trials (`playAll_spec`), and they add
up (`counters_add_up`). What they do not tell apart are services and labels with one number, and there are
services that have one with every label (`failure_without_event_or_under_another_service`).

Of a probe that fails an event is posted, provided that a request can be sent to the events of the
service's namespace. What cannot be sent is only worth a line in the log, so there the events fall
short of the failures. A namespace of letters, digits, dots and dashes is not among these
(`takesEvents_of_plain`).
-/
import ManagedDatabase.Proofs.Network.Sendable
import ManagedDatabase.Proofs.Watcher.Counting
import ManagedDatabase.Proofs.Watcher.Series
import ManagedDatabase.Watcher.Attend

namespace ManagedDatabase

/-- The event that a request posts, if it posts one. -/
def Kubernetes.Request.event? : Request → Option ProbeEvent
  | .createEvent e => some e
  | _ => none

/-- A request can be sent to the events of a namespace. -/
def takesEvents (ns : String) : Bool :=
  (Target.ofText
    (Kubernetes.Request.collection "/apis/events.k8s.io/v1" ns "events" ++ "?")).isOk

/-- A namespace of plain characters is one that events can be posted to, if it is not too long. -/
theorem takesEvents_of_plain {ns : String} (plain : ns.toList.all Target.isPlain = true)
    (short : ns.utf8ByteSize ≤ 65000) : takesEvents ns = true := by
  have about : (⟨⟨none, some ns, none⟩, "", 0⟩ : Kubernetes.ProbeEvent).regarding.ns = some ns := rfl
  obtain ⟨t, sent⟩ := Kubernetes.Request.createEvent_sendable about plain short
  exact congrArg Except.isOk sent

namespace World

/-- The events that were posted. -/
def events (w : World) : List Kubernetes.ProbeEvent := w.requests.filterMap Kubernetes.Request.event?

theorem events_log (w : World) (line : LogLine) : (w.log line).events = w.events := by
  rw [events, requests_log, events]

theorem events_logAll : ∀ (lines : List LogLine) (w : World), (lines.foldl log w).events = w.events
  | [], _ => rfl
  | line :: lines, w => by rw [List.foldl_cons, events_logAll lines, events_log]

end World

theorem ManagedService.ns_of_descriptor {s : ManagedService} {d : Descriptor}
    (valid : s.descriptor = .ok d) : s.ns = some d.ns := by
  unfold descriptor at valid
  cases hn : s.ns with
  | none => simp [hn] at valid
  | some ns =>
    simp only [hn] at valid
    split at valid
    · cases valid
    · split at valid
      · cases valid
      · cases valid
        rfl

/-- A trial fails with one of the five causes, and then an event with the fault is posted if a request
for it can be sent; otherwise none is. -/
structure Trial.Sound (t : Trial) : Prop where
  fatal : ∀ f, t.fault? = some f → Probe.Fatal f
  posted : t.posted.map (·.note) =
    if takesEvents t.descriptor.ns then (t.fault?.map Fault.message).toList else []

namespace Trial

/-- A trial has one event at most. -/
theorem Sound.length_posted {t : Trial} (sound : t.Sound) :
    t.posted.length = if t.fault?.isSome && takesEvents t.descriptor.ns then 1 else 0 := by
  have length := congrArg List.length sound.posted
  rw [List.length_map] at length
  rw [length]
  cases takesEvents t.descriptor.ns <;> cases t.fault? <;> rfl

/-- The events of a service are those of its trials that failed and can be posted. -/
theorem length_posted (service : String) : ∀ {ts : List Trial}, (∀ t ∈ ts, t.Sound) →
    ((ts.filter (·.service = service)).flatMap (·.posted)).length =
      ts.countP fun t => t.service = service && t.fault?.isSome && takesEvents t.descriptor.ns
  | [], _ => rfl
  | t :: ts, sound => by
    have later := length_posted service fun t ht => sound t (List.mem_cons_of_mem _ ht)
    have first := (sound t (by simp)).length_posted
    rw [List.countP_cons, ← later]
    by_cases own : t.service = service
    · simp only [List.filter_cons, own, decide_true, if_true, List.flatMap_cons, List.length_append, first,
        Bool.true_and]
      omega
    · simp only [List.filter_cons, own, decide_false, Bool.false_eq_true, if_false, Bool.false_and,
        Nat.add_zero]

theorem length_posted_of_sendable {service : String} {ts : List Trial} (sound : ∀ t ∈ ts, t.Sound)
    (sendable : ∀ t ∈ ts, t.service = service → takesEvents t.descriptor.ns = true) :
    ((ts.filter (·.service = service)).flatMap (·.posted)).length =
      ts.countP fun t => t.service = service && t.fault?.isSome := by
  rw [length_posted service sound]
  refine List.countP_congr fun t ht => ?_
  by_cases own : t.service = service
  · simp [own, sendable t ht own]
  · simp [own]

end Trial

namespace Watcher

/-- What happens to a watcher at work. -/
inductive Turn
  /-- A service comes up; meanwhile services may be found to be gone. -/
  | attend (s : ManagedService) (meanwhile : List Roster)
  /-- The services that are gone are forgotten. -/
  | prune (roster : Roster)

/-- Forget services once or several times. -/
def pruneAll (rosters : List Roster) (st : Watcher × World) : Watcher × World :=
  rosters.foldl (fun st roster => prune roster st.1 st.2) st

variable (settings : Settings)

namespace Turn

/-- The watcher and the world after a turn. -/
def play : Turn → Watcher × World → Watcher × World
  | attend s meanwhile, st =>
    let taken := takeUp settings s st.1 st.2
    let st := pruneAll meanwhile taken.2
    match taken.1 with
    | .ok _ => st
    | .error f => (handleFault settings s f st.1 st.2).2
  | prune roster, st => Watcher.prune roster st.1 st.2

/-- Where nothing is forgotten meanwhile, a service is attended to in one go. -/
theorem play_attend (s : ManagedService) (watcher : Watcher) (w : World) :
    (attend s []).play settings (watcher, w) = (Watcher.attend settings s watcher w).2 := by
  simp only [play, Watcher.attend]
  rcases takeUp settings s watcher w with ⟨_ | _, _, _⟩ <;> rfl

/-- A turn is a trial: a service comes up that describes a cluster which is ready. -/
def isTrial : Turn → Bool
  | attend s _ => s.descriptor.isOk && s.isReady
  | prune _ => false

/-- What can be seen of the probe in a turn, if there is one. -/
def trial? (t : Turn) (st : Watcher × World) : Option Trial :=
  match t with
  | prune _ => none
  | attend s _ =>
    match s.descriptor with
    | .error _ => none
    | .ok d =>
      if s.isReady then
        some {
          descriptor := d
          fault? :=
            match ((Probe.run settings d).attempt (st.2.log (probingLine d))).1 with
            | .ok _ => none
            | .error f => some f
          posted := (t.play settings st).2.events.drop st.2.events.length }
      else none

end Turn

/-- The watcher and the world after some turns, the first one first. -/
def playAll (turns : List Turn) (st : Watcher × World) : Watcher × World :=
  turns.foldl (fun st t => t.play settings st) st

/-- The trials in some turns. -/
def trials : List Turn → Watcher × World → List Trial
  | [], _ => []
  | t :: turns, st => (t.trial? settings st).toList ++ trials turns (t.play settings st)

/-! ## What touches neither counters nor events -/

theorem counters_record (watcher : Watcher) (service : String) (report : Report) :
    (watcher.record service report).metrics.counters = watcher.metrics.counters := by
  show (align _ _ _ _).counters = _
  rw [align_frame]
  rfl

theorem counters_retain (watcher : Watcher) (live : List String) :
    (watcher.retain live).metrics.counters = watcher.metrics.counters := by
  rw [metrics_retain, Metrics.dropGaps_frame]
  rfl

theorem pruneAll_frame : ∀ (rosters : List Roster) (st : Watcher × World),
    (pruneAll rosters st).1.metrics.counters = st.1.metrics.counters ∧
      (pruneAll rosters st).2.events = st.2.events
  | [], _ => ⟨rfl, rfl⟩
  | roster :: rosters, st => by
    obtain ⟨counters, events⟩ := pruneAll_frame rosters (prune roster st.1 st.2)
    refine ⟨counters.trans (counters_retain st.1 roster.keys), events.trans ?_⟩
    exact World.events_logAll _ _

/-- What a session is built from is no event. -/
theorem event?_lookups (d : Descriptor) : ∀ r ∈ Session.lookups d, r.event? = none := by
  intro r hr
  simp only [Session.lookups, Topology.lookups, Credentials.lookup] at hr
  split at hr
  · simp only [List.cons_append, List.nil_append, List.mem_cons, List.not_mem_nil, or_false] at hr
    rcases hr with rfl | rfl <;> rfl
  · simp only [List.cons_append, List.nil_append, List.mem_cons, List.not_mem_nil, or_false] at hr
    rcases hr with rfl | rfl | rfl <;> rfl

theorem events_run (d : Descriptor) (w : World) :
    ((Probe.run settings d).attempt w).2.events = w.events := by
  obtain ⟨asked, part, grown, -⟩ := Probe.asks_run settings d w
  have none : asked.filterMap Kubernetes.Request.event? = [] :=
    List.filterMap_eq_nil_iff.2 fun r hr => event?_lookups d r (part.subset hr)
  rw [World.events, grown, List.filterMap_append, none, List.append_nil, World.events]

/-! ## One turn -/

/-- An event is posted where the request for it can be sent. -/
theorem events_publish (event : Kubernetes.ProbeEvent) (w : World) :
    (publish event w).events =
      w.events ++ if takesEvents (event.regarding.ns.getD "kube-system") then [event] else [] := by
  have address : (Kubernetes.Request.createEvent event).target.isOk =
      takesEvents (event.regarding.ns.getD "kube-system") := rfl
  unfold publish Act.fetch Act.attempt Act.ask
  cases ht : (Kubernetes.Request.createEvent event).target with
  | error reason =>
    have unsendable : takesEvents (event.regarding.ns.getD "kube-system") = false := by
      rw [← address, ht]
      rfl
    simp only [unsendable, Bool.false_eq_true, if_false, List.append_nil]
    exact w.events_log _
  | ok target =>
    have sendable : takesEvents (event.regarding.ns.getD "kube-system") = true := by
      rw [← address, ht]
      rfl
    have asked : (w.ask (.createEvent event)).2.events = w.events ++ [event] := by
      have sent : (w.ask (.createEvent event)).2.requests = w.requests ++ [.createEvent event] :=
        World.requests_record_request { w with answers := w.answers.tail } _
      rw [World.events, sent, List.filterMap_append]
      rfl
    simp only [sendable, if_true]
    cases Kubernetes.Answer.decode (Kubernetes.Request.createEvent event).path
        Kubernetes.eventOfJson? (w.ask (.createEvent event)).1 with
    | ok _ => exact asked
    | error f =>
      exact (World.events_log _ _).trans asked

variable {s : ManagedService} {d : Descriptor}

/-- A probe counts once, it fails as its session or the servers have it fail, and then its event is
posted if it can be. -/
theorem probe_spec (valid : s.descriptor = .ok d) (watcher : Watcher) (w : World) :
    let outcome := ((Probe.run settings d).attempt (w.log (probingLine d))).1
    let done := probe settings s d watcher w
    done.2.1.metrics.counters = watcher.metrics.counters.countProbe.observeDuration ∧
      done.1 = outcome.map (fun _ => settings.watcher.interval) ∧
      ∃ now, done.2.2.events = w.events ++
        match outcome with
        | .ok _ => []
        | .error f => if takesEvents d.ns then [failureEvent s f now] else [] := by
  have events := events_run settings d (w.log (probingLine d))
  rw [World.events_log] at events
  have counters : ∀ report, (({ watcher with
      metrics := watcher.metrics.countProbe }.record d.display report).metrics.observeDuration).counters =
        watcher.metrics.counters.countProbe.observeDuration := by
    intro report
    have recorded := counters_record { watcher with metrics := watcher.metrics.countProbe }
      d.display report
    exact congrArg Metrics.observeDuration recorded
  have regarding : ∀ f now, (failureEvent s f now).regarding.ns.getD "kube-system" = d.ns := by
    intro f now
    show s.ns.getD "kube-system" = d.ns
    rw [ManagedService.ns_of_descriptor valid, Option.getD_some]
  unfold probe
  rcases ran : (Probe.run settings d).attempt (w.log (probingLine d)) with ⟨f | report, v⟩
  · rw [ran] at events
    let report := Report.ofFault v.now f
    let logged := (unreadableLines d report ++ laggingLines d report).foldl World.log v
    refine ⟨counters _, rfl, logged.now, ?_⟩
    show (publish (failureEvent s f logged.now) logged).events = _
    rw [events_publish, regarding, World.events_logAll, show v.events = w.events from events]
  · rw [ran] at events
    refine ⟨counters _, rfl, v.now, ?_⟩
    dsimp only
    rw [World.events_logAll, List.append_nil]
    exact events

/-- Dealing with a fault counts it under the service and its label, and posts nothing. -/
theorem handleFault_frame (valid : s.descriptor = .ok d) (f : Fault) (st : Watcher × World) :
    (handleFault settings s f st.1 st.2).2.1.metrics.counters =
        st.1.metrics.counters.countFailure d.display f.label ∧
      (handleFault settings s f st.1 st.2).2.2.events = st.2.events := by
  refine ⟨?_, World.events_log _ _⟩
  simp only [handleFault, countFailure, valid]
  rfl

/-- A service without a cluster changes nothing but when the watcher was last at work. -/
theorem attend_invalid {f : Fault} (invalid : s.descriptor = .error f) (watcher : Watcher) (w : World) :
    (Watcher.attend settings s watcher w).2.1 = { watcher with lastEvent := w.now } := by
  simp only [Watcher.attend, takeUp, invalid, handleFault, countFailure]

namespace Turn

/-- A service without a cluster, or whose cluster is not ready, is no trial, and neither is forgetting
services; none of them counts or posts anything. -/
theorem play_other {t : Turn} (other : t.isTrial = false) (st : Watcher × World) :
    (t.play settings st).1.metrics.counters = st.1.metrics.counters ∧
      (t.play settings st).2.events = st.2.events := by
  cases t with
  | prune roster => exact ⟨counters_retain st.1 roster.keys, World.events_logAll _ _⟩
  | attend s meanwhile =>
    cases described : s.descriptor with
    | error f =>
      simp only [play, takeUp, described, handleFault, countFailure]
      obtain ⟨counters, events⟩ := pruneAll_frame meanwhile ({ st.1 with lastEvent := st.2.now }, st.2)
      exact ⟨counters, (World.events_log _ _).trans events⟩
    | ok d =>
      have unready : s.isReady = false := by
        simpa only [isTrial, described, Except.isOk, Except.toBool, Bool.true_and] using other
      simp only [play, takeUp, described, unready, Bool.false_eq_true, if_false]
      obtain ⟨counters, events⟩ := pruneAll_frame meanwhile
        ({ st.1 with lastEvent := st.2.now }, st.2.log (notReadyLine d))
      exact ⟨counters, events.trans (World.events_log _ _)⟩

/-- A service that describes a cluster which is ready is probed, and a fault is counted under its
label and posted if it can be. -/
theorem play_trial (valid : s.descriptor = .ok d) (ready : s.isReady = true) (meanwhile : List Roster)
    (st : Watcher × World) :
    let outcome := ((Probe.run settings d).attempt (st.2.log (probingLine d))).1
    let begun := st.1.metrics.counters.countProbe.observeDuration
    ∃ now, match outcome with
      | .ok _ =>
        ((attend s meanwhile).play settings st).1.metrics.counters = begun ∧
          ((attend s meanwhile).play settings st).2.events = st.2.events
      | .error f =>
        ((attend s meanwhile).play settings st).1.metrics.counters =
            begun.countFailure d.display f.label ∧
          ((attend s meanwhile).play settings st).2.events =
            st.2.events ++ if takesEvents d.ns then [failureEvent s f now] else [] := by
  obtain ⟨counters, result, now, events⟩ :=
    probe_spec settings valid { st.1 with lastEvent := st.2.now } st.2
  refine ⟨now, ?_⟩
  have taken : takeUp settings s st.1 st.2 =
      probe settings s d { st.1 with lastEvent := st.2.now } st.2 := by
    simp only [takeUp, valid, ready, if_true]
  simp only [play, taken]
  obtain ⟨counters', events'⟩ := pruneAll_frame meanwhile
    (probe settings s d { st.1 with lastEvent := st.2.now } st.2).2
  generalize probe settings s d { st.1 with lastEvent := st.2.now } st.2 = done at *
  generalize ((Probe.run settings d).attempt (st.2.log (probingLine d))).1 = outcome at *
  cases outcome with
  | ok report =>
    simp only [result, Except.map]
    exact ⟨counters'.trans counters, events'.trans (events.trans (List.append_nil _))⟩
  | error f =>
    simp only [result, Except.map]
    obtain ⟨counters'', events''⟩ := handleFault_frame settings valid f (pruneAll meanwhile done.2)
    refine ⟨counters''.trans ?_, events''.trans (events'.trans events)⟩
    rw [counters', counters]

/-- A turn is no trial, or a service comes up that describes a cluster which is ready. -/
theorem isTrial_cases (t : Turn) :
    (t.isTrial = false ∧ ∀ st, t.trial? settings st = none) ∨
    ∃ s meanwhile d, t = attend s meanwhile ∧ s.descriptor = .ok d ∧ s.isReady = true ∧
      t.isTrial = true := by
  cases t with
  | prune roster => exact .inl ⟨rfl, fun _ => rfl⟩
  | attend s meanwhile =>
    cases described : s.descriptor with
    | error f =>
      refine .inl ⟨?_, fun st => ?_⟩
      · simp only [isTrial, described, Except.isOk, Except.toBool, Bool.false_and]
      · simp only [trial?, described]
    | ok d =>
      by_cases ready : s.isReady = true
      · refine .inr ⟨s, meanwhile, d, rfl, described, ready, ?_⟩
        simp only [isTrial, described, ready, Except.isOk, Except.toBool, Bool.and_self]
      · refine .inl ⟨?_, fun st => ?_⟩
        · simp only [isTrial, described, ready, Bool.and_false]
        · simp only [trial?, described, ready, Bool.false_eq_true, if_false]

/-- What a turn does to the counters and posts is what its trial does, and the trial is sound. -/
theorem play_spec (t : Turn) (st : Watcher × World) :
    (t.play settings st).1.metrics.counters =
        st.1.metrics.counters.afterTrials (t.trial? settings st).toList ∧
      (t.play settings st).2.events =
        st.2.events ++ (t.trial? settings st).toList.flatMap (·.posted) ∧
      (t.trial? settings st).toList.length = (if t.isTrial then 1 else 0) ∧
      ∀ trial ∈ (t.trial? settings st).toList, trial.Sound := by
  rcases t.isTrial_cases settings with ⟨other, none⟩ | ⟨s, meanwhile, d, rfl, valid, ready, trial⟩
  · obtain ⟨counters, events⟩ := play_other settings other st
    rw [none st, other]
    refine ⟨counters, events.trans (List.append_nil _).symm, rfl, fun trial h => ?_⟩
    cases h
  · obtain ⟨now, played⟩ := play_trial settings valid ready meanwhile st
    have fatal := Probe.fails_run settings d (st.2.log (probingLine d))
    simp only [trial?, valid, ready, if_true, Option.toList_some, List.mem_singleton, forall_eq,
      List.flatMap_cons, List.flatMap_nil, List.append_nil, List.length_singleton, trial]
    generalize (attend s meanwhile).play settings st = after at played ⊢
    generalize ((Probe.run settings d).attempt (st.2.log (probingLine d))).1 = outcome at played fatal ⊢
    cases outcome with
    | ok report =>
      obtain ⟨counters, events⟩ := played
      have posted : after.2.events.drop st.2.events.length = [] := by
        rw [events]
        exact List.drop_length
      rw [posted, List.append_nil]
      refine ⟨counters, events, trivial, ⟨fun f h => ?_, ?_⟩⟩
      · cases h
      · cases takesEvents d.ns <;> rfl
    | error f =>
      obtain ⟨counters, events⟩ := played
      rw [events, List.drop_left]
      refine ⟨counters, rfl, trivial, ⟨fun f' h => ?_, ?_⟩⟩
      · cases h
        exact fatal f rfl
      · cases takesEvents d.ns <;> rfl

end Turn

/-! ## Runs -/

/-- The counters after a run are those of its trials, which are as many as its turns that are trials,
and what was posted in it are the events of its trials. -/
theorem playAll_spec : ∀ (turns : List Turn) (st : Watcher × World),
    (playAll settings turns st).1.metrics.counters =
        st.1.metrics.counters.afterTrials (trials settings turns st) ∧
      (playAll settings turns st).2.events =
        st.2.events ++ (trials settings turns st).flatMap (·.posted) ∧
      (trials settings turns st).length = turns.countP Turn.isTrial ∧
      ∀ trial ∈ trials settings turns st, trial.Sound
  | [], st => ⟨rfl, (List.append_nil _).symm, rfl, fun _ h => by cases h⟩
  | t :: turns, st => by
    obtain ⟨counters, events, length, sound⟩ := t.play_spec settings st
    obtain ⟨counters', events', length', sound'⟩ := playAll_spec turns (t.play settings st)
    refine ⟨?_, ?_, ?_, fun trial h => ?_⟩
    · rw [trials, Metrics.afterTrials, List.foldl_append, ← Metrics.afterTrials, ← Metrics.afterTrials,
        ← counters]
      exact counters'
    · rw [trials, List.flatMap_append, ← List.append_assoc, ← events]
      exact events'
    · rw [trials, List.length_append, length, length', List.countP_cons]
      omega
    · rcases List.mem_append.1 h with h | h
      · exact sound trial h
      · exact sound' trial h

/-! ## Adding up -/

/-- **The counters add up.** After any run from the start, as many probes and durations are counted as
services came up that describe a cluster which is ready, and these are the trials of the run. All failures
and the trials that succeeded make up the probes. Each series of failures counts, one at least, the trials
whose failure has its number, and its service and label are those of one of these. So under a service as
many failures are counted as its trials failed, unless a failure of another service has the number of one of
its own; no service has such a failure where different texts have different numbers, and there each
series counts the trials of its service that failed with a fault of its label. The label is one of five and
the first word of the fault in full, whatever that carries. For a service as many events are posted as its
trials failed that can be posted, as they can in a namespace of plain characters, and in the run no
others. A service without a cluster changes no metric. -/
theorem counters_add_up (now : Moment) (w : World) (turns : List Turn) :
    let after := playAll settings turns (start now, w)
    let m := after.1.metrics
    let ts := trials settings turns (start now, w)
    (m.probes = turns.countP Turn.isTrial ∧ m.durations = m.probes ∧ ts.length = m.probes) ∧
    (m.failuresOf (fun _ _ => true) = ts.countP (·.fault?.isSome) ∧
      m.probes = m.failuresOf (fun _ _ => true) + ts.countP (·.fault?.isNone)) ∧
    (∀ number series, m.failures.get? number = some series →
      series.detail ∈ Probe.labels ∧ 0 < series.value ∧
      (∃ t ∈ ts, t.service = series.service ∧ ∃ f, t.fault? = some f ∧ f.label = series.detail) ∧
      series.value = ts.countP fun t => t.fault?.any fun f => Series.key t.service f.label = number) ∧
    (∀ service, Trial.Alone ts service → m.failuresOf (fun s _ => s = service) =
      ts.countP fun t => t.service = service && t.fault?.isSome) ∧
    (Trial.Apart ts → (∀ service, Trial.Alone ts service) ∧
      ∀ number series, m.failures.get? number = some series →
        series.value = ts.countP fun t =>
          t.service = series.service && t.fault?.any fun f => f.label = series.detail) ∧
    (∀ words (f : Fault), Fault.labelOf (f.shown words) = f.label) ∧
    (∀ service, ((ts.filter (·.service = service)).flatMap (·.posted)).length =
      ts.countP fun t => t.service = service && t.fault?.isSome && takesEvents t.descriptor.ns) ∧
    (∀ service, Trial.Alone ts service →
      (∀ t ∈ ts, t.service = service → takesEvents t.descriptor.ns = true) →
      ((ts.filter (·.service = service)).flatMap (·.posted)).length =
        m.failuresOf fun s _ => s = service) ∧
    (∀ ns : String, ns.toList.all Target.isPlain = true → ns.utf8ByteSize ≤ 65000 →
      takesEvents ns = true) ∧
    after.2.events = w.events ++ ts.flatMap (·.posted) ∧
    ∀ s f watcher v, s.descriptor = .error f →
      (Watcher.attend settings s watcher v).2.1.metrics = watcher.metrics := by
  obtain ⟨counters, events, length, sound⟩ := playAll_spec settings turns (start now, w)
  generalize playAll settings turns (start now, w) = after at *
  generalize trials settings turns (start now, w) = ts at *
  have fatal : ∀ t ∈ ts, ∀ f, t.fault? = some f → Probe.Fatal f := fun t ht => (sound t ht).fatal
  -- of the metrics only the gauges are not those of the trials
  have counted {α : Type} (read : Metrics → α) :
      read after.1.metrics.counters = read (Metrics.empty.afterTrials ts) := congrArg read counters
  obtain ⟨probes, durations⟩ := Metrics.probes_afterTrials ts Metrics.empty
  have begun : after.1.metrics.probes = ts.length :=
    (counted Metrics.probes).trans (probes.trans (Nat.zero_add _))
  have ended : after.1.metrics.durations = ts.length :=
    (counted Metrics.durations).trans (durations.trans (Nat.zero_add _))
  have total : after.1.metrics.failuresOf (fun _ _ => true) = ts.countP (·.fault?.isSome) :=
    (counted fun m => m.failuresOf fun _ _ => true).trans (Metrics.allFailures_afterTrials ts)
  have failed : ∀ service, Trial.Alone ts service → after.1.metrics.failuresOf (fun s _ => s = service) =
      ts.countP fun t => t.service = service && t.fault?.isSome := fun service alone =>
    (counted fun m => m.failuresOf fun s _ => s = service).trans (Metrics.failuresOf_service alone)
  have found : ∀ {number series}, after.1.metrics.failures.get? number = some series →
      (Metrics.empty.afterTrials ts).failures.get? number = some series := fun is =>
    (counted fun m => m.failures.get? _).symm.trans is
  refine ⟨⟨begun.trans length, ended.trans begun.symm, begun.symm⟩, ⟨total, ?_⟩, fun number series is => ?_,
    failed, fun apart => ⟨apart.alone fatal, fun number series is => ?_⟩, Fault.label_shown,
    fun service => Trial.length_posted service sound, fun service alone sendable => ?_,
    fun _ => takesEvents_of_plain, events, fun s f watcher v invalid => ?_⟩
  · rw [begun, total]
    exact Trial.length_eq ts
  · obtain ⟨listed, -⟩ := Metrics.labels_of_series (found is)
    obtain ⟨positive, value⟩ := Metrics.value_of_series (found is)
    exact ⟨Trial.label_mem fatal _ listed, positive, Trial.mem_failures.1 listed, value⟩
  · exact Metrics.value_of_apart (found is) apart fatal
  · rw [failed service alone]
    exact Trial.length_posted_of_sendable sound sendable
  · rw [attend_invalid settings invalid]

/-- A service that describes a cluster which is ready, in a namespace that has a blank. -/
def spaced : ManagedService where
  name := some "demo"
  generateName := none
  ns := some "n s"
  uid := none
  spec := { engine := "postgresql", replicas := 1, version := none, volumeSize := none }
  conditions := [{ kind := "Ready", status := "True" }]

/-- The same service in a namespace without a blank, and without replicas to speak of. -/
def unspaced : ManagedService := { spaced with ns := some "default" }

def negative : ManagedService :=
  { unspaced with spec := { unspaced.spec with replicas := -1 } }

/-- Two services of which all failures with one label have one number. -/
def colliding : List Turn :=
  [.attend { unspaced with name := some "a64oztmmitldlj" } [],
    .attend { unspaced with name := some "apvgijtzdyumch" } []]

/-- In a namespace with a blank a probe fails and is counted, but no event of it is posted; and of two
services with one number the failure of the second is counted under the first. -/
theorem failure_without_event_or_under_another_service :
    (let after := playAll {} [.attend spaced []] (start 0, {})
      let ts := trials {} [.attend spaced []] (start 0, {})
      ts.countP (fun t => t.service = "n s/demo" && t.fault?.isSome) = 1 ∧
        after.1.metrics.failuresOf (fun s _ => s = "n s/demo") = 1 ∧ after.2.events = []) ∧
    (let m := (playAll {} colliding (start 0, {})).1.metrics
      let ts := trials {} colliding (start 0, {})
      ts.countP (fun t => t.service = "default/apvgijtzdyumch" && t.fault?.isSome) = 1 ∧
        m.failuresOf (fun s _ => s = "default/apvgijtzdyumch") = 0 ∧
        m.failuresOf (fun s _ => s = "default/a64oztmmitldlj") = 2) := by
  decide +kernel

/-- Where nobody answers, a probe fails, which is counted and posted. -/
theorem failed_probe_is_counted_and_posted :
    let turns : List Turn := [.attend unspaced [.empty], .attend negative [], .prune .empty]
    let after := playAll {} turns (start 0, {})
    let ts := trials {} turns (start 0, {})
    after.1.metrics.probes = 1 ∧ after.1.metrics.failuresOf (fun s _ => s = "default/demo") = 1 ∧
      "kubeerror" ∈ Probe.labels ∧ takesEvents "default" = true ∧
      ((ts.filter (·.service = "default/demo")).flatMap (·.posted)).length = 1 ∧
      (Watcher.attend {} negative (start 0) {}).2.1.metrics.probes = 0 := by
  let turns : List Turn := [.attend unspaced [.empty], .attend negative [], .prune .empty]
  obtain ⟨⟨probes, -⟩, -, series, failures, apart, -, -, posted, plain, -, invalid⟩ :=
    counters_add_up {} 0 {} turns
  obtain ⟨alone, -⟩ := apart (by decide +kernel)
  have counted : (playAll {} turns (start 0, {})).1.metrics.failuresOf
      (fun s _ => s = "default/demo") = 1 := (failures "default/demo" (alone _)).trans (by decide +kernel)
  refine ⟨probes.trans (by decide), counted, ?_, plain "default" (by decide) (by decide), ?_, ?_⟩
  · exact (series (Series.key "default/demo" "kubeerror") ⟨"default/demo", "kubeerror", 1⟩
      (by decide +kernel)).1
  · exact (posted "default/demo" (alone _) (by decide +kernel)).trans counted
  · rw [invalid negative (.illegalService "demo" "negative replica count") _ _ (by decide)]
    rfl

end Watcher
end ManagedDatabase
