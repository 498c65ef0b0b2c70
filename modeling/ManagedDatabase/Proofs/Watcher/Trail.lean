/-
What a probe leaves behind. A service that comes up and is ready is reported on, and what its probe came to
is what comes of it. If that is a fault, the report says no more than its text, the gauges of the service
are gone, and an event tells of it, if the namespace of the service takes events. Nothing hangs on what
becomes of the event but a line in the log (`Watcher.failed_probe_leaves_one_trail`).

The gauges are taken away replica by replica, as the report before listed them. They are all gone after
that because each series of a service is that of a replica which the stored report lists, in all
states that a watcher comes to (`Reachable.rooted`).
-/
import ManagedDatabase.Proofs.Session.Frugality
import ManagedDatabase.Proofs.Watcher.Alignment
import ManagedDatabase.Proofs.Watcher.Route
import ManagedDatabase.Proofs.Watcher.Turns

namespace ManagedDatabase

namespace Watcher

/-! ## What the gauges are of -/

/-- The states that a watcher comes to: reports come in and services are forgotten, and beside that it
may count and note what it likes. -/
inductive Reachable : Watcher → Prop
  | start (now : Moment) : Reachable (start now)
  | step {w : Watcher} (h : Reachable w) (s : Step) : Reachable (w.step s)
  | beside {w w' : Watcher} (h : Reachable w) (reports : w'.reports = w.reports)
    (gaps : w'.metrics.gaps = w.metrics.gaps) : Reachable w'

variable {w : Watcher}

/-- Every series is found by the number of its own labels, and the stored report of its service lists its
replica. -/
structure Rooted (w : Watcher) : Prop where
  keyed : w.metrics.Keyed
  listed : ∀ number t, w.metrics.gaps.get? number = some t →
    ∃ report, w.reports.get? t.service = some report ∧ t.detail ∈ report.replicas.keys

theorem Rooted.step (h : w.Rooted) (s : Step) : (w.step s).Rooted := by
  refine ⟨keyed_step h.keyed s, fun number t found => ?_⟩
  cases s with
  | record d report =>
    rw [get?_reports_record]
    obtain ⟨t₀, before, service, detail, kept⟩ | ⟨own, set⟩ := labels_align found
    · obtain ⟨last, stored, listed⟩ := h.listed number t₀ before
      have key := h.keyed number t₀ before
      rw [service] at stored key
      rw [detail] at listed key
      by_cases own : d.display = t.service
      · -- what the last report lists of the service and the new one does not measure was dropped
        rw [own] at kept
        refine ⟨report, if_pos own, Report.mem_keys_of_gaps (Classical.byContradiction fun unset => ?_)⟩
        exact kept t.detail (mem_unmeasured.2 ⟨⟨last, stored, listed⟩, unset⟩) key
      · exact ⟨last, (if_neg own).trans stored, listed⟩
    · exact ⟨report, if_pos own.symm, Report.mem_keys_of_gaps set⟩
  | forget live =>
    have kept : w.metrics.gaps.get? number = some t ∧
        ∀ p ∈ w.orphans live, number ≠ Series.key p.1 p.2 := by
      rw [← Metrics.get?_dropGaps_eq_some_iff, ← metrics_retain]
      exact found
    obtain ⟨report, stored, listed⟩ := h.listed number t kept.1
    have alive : t.service ∈ live := Classical.byContradiction fun dead =>
      kept.2 _ (mem_orphans.2 ⟨dead, report, stored, listed⟩) (h.keyed number t kept.1)
    exact ⟨report, get?_reports_forget.2 ⟨alive, stored⟩, listed⟩

theorem Reachable.rooted (h : w.Reachable) : w.Rooted := by
  induction h with
  | start now => constructor <;> intro number t found <;> cases found
  | step _ s ih => exact ih.step s
  | beside _ reports gaps ih =>
    refine ⟨fun number t found => ?_, fun number t found => ?_⟩
    · exact ih.keyed number t (gaps ▸ found)
    · rw [reports]
      exact ih.listed number t (gaps ▸ found)

/-! ## Runs -/

section Runs

variable (settings : Settings) (s : ManagedService)

theorem Reachable.probe (h : w.Reachable) (d : Descriptor) (v : World) :
    (probe settings s d w v).2.1.Reachable := by
  have begun : Reachable { w with metrics := w.metrics.countProbe } := .beside h rfl rfl
  unfold Watcher.probe
  rcases (Probe.run settings d).attempt (v.log (probingLine d)) with ⟨f | report, u⟩
  · exact .beside (begun.step (.record d _)) rfl rfl
  · exact .beside (begun.step (.record d _)) rfl rfl

theorem Reachable.takeUp (h : w.Reachable) (v : World) : (takeUp settings s w v).2.1.Reachable := by
  have noted : Reachable { w with lastEvent := v.now } := .beside h rfl rfl
  unfold Watcher.takeUp
  cases s.descriptor with
  | error f => exact noted
  | ok d =>
    cases s.isReady with
    | true => exact noted.probe settings s d v
    | false => exact noted

theorem Reachable.countFailure (h : w.Reachable) (f : Fault) : (w.countFailure s f).Reachable := by
  unfold Watcher.countFailure
  cases s.descriptor with
  | error _ => exact h
  | ok d => exact .beside h rfl rfl

theorem Reachable.pruneAll : ∀ (rosters : List Roster) {st : Watcher × World},
    st.1.Reachable → (pruneAll rosters st).1.Reachable
  | [], _, h => h
  | roster :: rosters, _, h => Reachable.pruneAll rosters (.step h (.forget roster.keys))

theorem Reachable.play (t : Turn) {st : Watcher × World} (h : st.1.Reachable) :
    (t.play settings st).1.Reachable := by
  cases t with
  | prune roster => exact .step h (.forget roster.keys)
  | attend s meanwhile =>
    have taken := (h.takeUp settings s st.2).pruneAll meanwhile
    simp only [Turn.play]
    cases (Watcher.takeUp settings s st.1 st.2).1 with
    | ok _ => exact taken
    | error f => exact taken.countFailure s f

/-- The watcher is in such a state after whatever turns. -/
theorem reachable_playAll : ∀ (turns : List Turn) {st : Watcher × World},
    st.1.Reachable → (playAll settings turns st).1.Reachable
  | [], _, h => h
  | t :: turns, _, h => reachable_playAll turns (h.play settings t)

end Runs

/-! ## One probe -/

/-- The line about an event that could not be published. -/
def unpublishedLine (reason : String) : LogLine where
  level := .warn
  message := "failed to publish probe event: " ++ reason

/-- What is left of publishing an event in the log: nothing, or that it failed. -/
def AtMostUnpublished (deeds : List Deed) : Prop :=
  deeds = [] ∨ ∃ reason, deeds = [.log (unpublishedLine reason)]

/-- The deeds of posting an event to a namespace: one request, or none. -/
def posting (ns : String) (event : Kubernetes.ProbeEvent) : List Deed :=
  if takesEvents ns then [.request (.createEvent event)] else []

theorem journal_publish {event : Kubernetes.ProbeEvent} {ns : String}
    (about : event.regarding.ns = some ns) (v : World) :
    ∃ tail, AtMostUnpublished tail ∧ (takesEvents ns = false → tail ≠ []) ∧
      (publish event v).journal = v.journal ++ posting ns event ++ tail := by
  have address : (Kubernetes.Request.createEvent event).target.isOk = takesEvents ns := by
    show takesEvents (event.regarding.ns.getD "kube-system") = _
    rw [about, Option.getD_some]
  unfold publish Act.fetch posting
  cases target : (Kubernetes.Request.createEvent event).target with
  | error reason =>
    have closed : takesEvents ns = false := by rw [← address, target]; rfl
    rw [Act.attempt_ask_unsendable target, closed]
    let line := unpublishedLine (Kubernetes.Fault.unsendable reason).message
    refine ⟨[.log line], .inr ⟨_, rfl⟩, fun _ => List.cons_ne_nil _ _, ?_⟩
    rw [List.append_assoc]
    rfl
  | ok t =>
    have taken : takesEvents ns = true := by rw [← address, target]; rfl
    rw [Act.attempt_ask_sent target, taken]
    cases (v.answers.headD .missing).decode (Kubernetes.Request.createEvent event).path
        Kubernetes.eventOfJson? with
    | ok u =>
      exact ⟨[], .inl rfl, fun closed => absurd closed (by decide), (List.append_nil _).symm⟩
    | error reason =>
      let line := unpublishedLine reason.message
      exact ⟨[.log line], .inr ⟨_, rfl⟩, fun _ => List.cons_ne_nil _ _, rfl⟩

theorem journal_logAll (lines : List LogLine) (v : World) :
    (lines.foldl World.log v).journal = v.journal ++ lines.map .log := by
  rw [World.logAll_eq]

/-- The warnings about replicas that cannot be read are one for each of these. -/
theorem unreadableLines_spec (d : Descriptor) (report : Report) :
    (unreadableLines d report).Nodup ∧ ∀ line, line ∈ unreadableLines d report ↔
      ∃ replica reading error, report.replicas.get? replica = some reading ∧
        reading.error = some error ∧ line = {
          level := .warn, message := "replica of \x22" ++ d.display ++ "\x22 could not be read"
          fields := [("replica", .text replica), ("error", .text error)] } := by
  constructor
  · refine List.Pairwise.filterMap _ (fun e e' before line said line' said' same => ?_)
      report.replicas.ascending
    rw [Option.map_eq_some_iff] at said said'
    obtain ⟨error, -, rfl⟩ := said
    obtain ⟨error', -, rfl⟩ := said'
    simp only [LogLine.mk.injEq, List.cons.injEq, Prod.mk.injEq, FieldValue.text.injEq] at same
    exact KeyOrder.irrefl e.1 (same.2.2.1.2 ▸ before)
  · intro line
    simp only [unreadableLines, List.mem_filterMap, Option.map_eq_some_iff, Prod.exists,
      ← KeyMap.get?_eq_some_iff]
    constructor
    · rintro ⟨replica, reading, listed, error, unread, rfl⟩
      exact ⟨replica, reading, error, listed, unread, rfl⟩
    · rintro ⟨replica, reading, error, listed, unread, rfl⟩
      exact ⟨replica, reading, listed, error, unread, rfl⟩

theorem laggingLines_spec (d : Descriptor) (report : Report) :
    (laggingLines d report).Nodup ∧ ∀ line, line ∈ laggingLines d report ↔
      ∃ replica gap, report.gaps.get? replica = some gap ∧ 0 < gap ∧ line = {
        level := .warn, message := "replica of \x22" ++ d.display ++ "\x22 is lagging"
        fields := [("replica", .text replica), ("gap", .number gap.toInt)] } := by
  constructor
  · refine List.Pairwise.map _ (fun e e' before same => ?_) (report.gaps.ascending.filter _)
    simp only [LogLine.mk.injEq, List.cons.injEq, Prod.mk.injEq, FieldValue.text.injEq] at same
    exact KeyOrder.irrefl e.1 (same.2.2.1.2 ▸ before)
  · intro line
    simp only [laggingLines, List.mem_map, List.mem_filter, decide_eq_true_eq, Prod.exists,
      ← KeyMap.get?_eq_some_iff]
    constructor
    · rintro ⟨replica, gap, ⟨measured, behind⟩, rfl⟩
      exact ⟨replica, gap, measured, behind, rfl⟩
    · rintro ⟨replica, gap, measured, behind, rfl⟩
      exact ⟨replica, gap, ⟨measured, behind⟩, rfl⟩

end Watcher

theorem Probe.frugal_measure (settings : Settings) (s : Session) : Act.Frugal (measure settings s) := by
  let outcome (now : Moment) (peers : Nat → Sql.Peer) : Except Fault Report :=
    (verdict settings s peers).map fun row => {
      checkedAt := some now, masterRecord := some row
      replicas := readingMap (targeted settings s) settings.watcher.probeTable fun i => peers (i + 3) }
  let made (peers : Nat → Sql.Peer) := (visits settings s peers).take (reach settings s peers)
  refine @Act.frugal_of_metAll _ _ outcome made fun w => ?_
  have measured := attempt_measure settings s w
  simp only [World.now_metAll] at measured
  exact measured

/-- A probe hangs on the answers to what it asks for, and it gives no warnings. -/
theorem Probe.frugal_run (settings : Settings) (d : Descriptor) : Act.Frugal (run settings d) :=
  (Session.frugal_build d "" settings.session).bind fun s => frugal_measure settings s

theorem Probe.gives_run (settings : Settings) (d : Descriptor) :
    Act.Gives (fun report => report.error = none) (run settings d) := by
  refine Act.Gives.bind _ fun _ => Act.Gives.bind _ fun _ => Act.Gives.bind _ fun _ => ?_
  exact Act.Gives.bind _ fun _ => Act.Gives.bind _ fun _ => Act.Gives.bind _ fun _ => Act.gives_pure rfl

namespace Watcher

variable (settings : Settings) (s : ManagedService) (d : Descriptor) (watcher : Watcher) (w : World)

/-- What a failed probe leaves behind, where `done` is what the probe did. -/
structure FailureTrail (f : Fault) (done : List Deed) : Prop where
  /-- The report of the service is no more than the text of the fault. -/
  stored : ∃ report, (takeUp settings s watcher w).2.1.reports.get? d.display = some report ∧
    report.masterRecord = none ∧ report.replicas = .empty ∧ report.error = some f.message
  /-- No series of the service is left. -/
  bare : ∀ number t, (takeUp settings s watcher w).2.1.metrics.gaps.get? number = some t →
    t.service ≠ d.display
  otherReports : ∀ service, service ≠ d.display →
    (takeUp settings s watcher w).2.1.reports.get? service = watcher.reports.get? service
  /-- A series is as before if it has another number than each replica that the report before lists. -/
  otherSeries : ∀ number, (∀ last, watcher.reports.get? d.display = some last →
      ∀ replica ∈ last.replicas.keys, number ≠ Series.key d.display replica) →
    (takeUp settings s watcher w).2.1.metrics.gaps.get? number = watcher.metrics.gaps.get? number
  noNewSeries : ∀ number t, (takeUp settings s watcher w).2.1.metrics.gaps.get? number = some t →
    watcher.metrics.gaps.get? number = some t
  /-- After all that, an event is posted if it can be, and it may be noted that it was not published.
  All else is the same with other answers behind those to the probe. -/
  event : ∃ tail, AtMostUnpublished tail ∧ (takesEvents d.ns = false → tail ≠ []) ∧
    (takeUp settings s watcher w).2.2.journal =
      w.journal ++ .log (probingLine d) :: done ++ posting d.ns (failureEvent s f w.now) ++ tail ∧
    ∀ answers, SameUpTo (requestsIn done) w.answers answers → ∃ tail', AtMostUnpublished tail' ∧
      (takeUp settings s watcher { w with answers }).1 = (takeUp settings s watcher w).1 ∧
      (takeUp settings s watcher { w with answers }).2.1 = (takeUp settings s watcher w).2.1 ∧
      (takeUp settings s watcher { w with answers }).2.2.journal =
        w.journal ++ .log (probingLine d) :: done ++ posting d.ns (failureEvent s f w.now) ++ tail'

/-- What a probe that came to a report leaves behind. -/
structure SuccessTrail (report : Report) (done : List Deed) : Prop where
  stored : (takeUp settings s watcher w).2.1.reports.get? d.display = some report
  noError : report.error = none
  /-- No event is posted, and the warnings are those about the replicas. -/
  warnings : (takeUp settings s watcher w).2.2.journal =
    w.journal ++ .log (probingLine d) :: done ++
      (unreadableLines d report ++ laggingLines d report).map .log

/-- The request that posts the event of a failed probe. -/
structure PostsFailure (f : Fault) (r : Kubernetes.Request) : Prop where
  method : r.method = "POST"
  resource : r.resource = Kubernetes.Request.collection "/apis/events.k8s.io/v1" d.ns "events"
  body : ∃ body, r.body? = some body ∧ body.textAt? "type" = some "Warning" ∧
    body.textAt? "reason" = some "ProbeFailed" ∧ body.textAt? "note" = some f.message ∧
    (Kubernetes.partAt "metadata" body).textAt? "namespace" = some d.ns

variable {settings s d watcher w}

theorem postsFailure (valid : s.descriptor = .ok d) (f : Fault) (now : Moment) :
    PostsFailure d f (.createEvent (failureEvent s f now)) := by
  have ns : (failureEvent s f now).regarding.ns = some d.ns := ManagedService.ns_of_descriptor valid
  refine ⟨rfl, ?_, _, rfl, rfl, rfl, rfl, ?_⟩
  · simp only [Kubernetes.Request.resource, ns, Option.getD_some]
  · show ((Json.object (("generateName", _) ::
      Json.optional "namespace" .text (failureEvent s f now).regarding.ns)).textAt? "namespace") = _
    rw [ns]
    rfl

theorem takeUp_ready (valid : s.descriptor = .ok d) (ready : s.isReady = true) :
    takeUp settings s watcher w = probe settings s d { watcher with lastEvent := w.now } w := by
  simp only [takeUp, valid, ready, if_true]

theorem result_takeUp (valid : s.descriptor = .ok d) (ready : s.isReady = true) :
    (takeUp settings s watcher w).1 =
      ((Probe.run settings d).attempt (w.log (probingLine d))).1.map fun _ =>
        settings.watcher.interval := by
  rw [takeUp_ready valid ready]
  exact (probe_spec settings valid _ w).2.1

/-- The watcher when a probe is over, where its report is this one. -/
def reported (watcher : Watcher) (d : Descriptor) (report : Report) : Watcher :=
  let after := ({ watcher with metrics := watcher.metrics.countProbe } : Watcher).step (.record d report)
  { after with metrics := after.metrics.observeDuration }

theorem probe_of_error {f : Fault} {v : World}
    (run : (Probe.run settings d).attempt (w.log (probingLine d)) = (.error f, v)) :
    probe settings s d watcher w = (.error f, watcher.reported d (.ofFault v.now f),
      publish (failureEvent s f v.now) v) := by
  unfold probe
  rw [run]
  rfl

theorem probe_of_ok {report : Report} {v : World}
    (run : (Probe.run settings d).attempt (w.log (probingLine d)) = (.ok report, v)) :
    probe settings s d watcher w = (.ok settings.watcher.interval, watcher.reported d report,
      (unreadableLines d report ++ laggingLines d report).foldl World.log v) := by
  unfold probe
  rw [run]
  rfl

theorem takeUp_of_error (valid : s.descriptor = .ok d) (ready : s.isReady = true) {f : Fault} {v : World}
    (run : (Probe.run settings d).attempt (w.log (probingLine d)) = (.error f, v)) :
    takeUp settings s watcher w = (.error f,
      reported { watcher with lastEvent := w.now } d (.ofFault v.now f),
      publish (failureEvent s f v.now) v) :=
  (takeUp_ready valid ready).trans (probe_of_error run)

theorem takeUp_of_ok (valid : s.descriptor = .ok d) (ready : s.isReady = true) {report : Report} {v : World}
    (run : (Probe.run settings d).attempt (w.log (probingLine d)) = (.ok report, v)) :
    takeUp settings s watcher w = (.ok settings.watcher.interval,
      reported { watcher with lastEvent := w.now } d report,
      (unreadableLines d report ++ laggingLines d report).foldl World.log v) :=
  (takeUp_ready valid ready).trans (probe_of_ok run)

theorem journal_of_run {result : Except Fault Report} {v : World} {done : List Deed}
    (run : (Probe.run settings d).attempt (w.log (probingLine d)) = (result, v))
    (spends : (Probe.run settings d).Spends (w.log (probingLine d)) done) :
    v.journal = w.journal ++ .log (probingLine d) :: done := by
  have grown := spends.journal
  rw [run] at grown
  rw [grown, show (w.log (probingLine d)).journal = w.journal ++ [.log (probingLine d)] from rfl,
    List.append_assoc]
  rfl

theorem event_not_mem {done : List Deed}
    (spends : (Probe.run settings d).Spends (w.log (probingLine d)) done)
    (event : Kubernetes.ProbeEvent) : .request (.createEvent event) ∉ done := by
  intro posted
  obtain ⟨asked, part, grown, -⟩ := Probe.asks_run settings d (w.log (probingLine d))
  rw [World.requests, spends.journal, List.filterMap_append] at grown
  have member : .createEvent event ∈ asked := by
    rw [← List.append_cancel_left grown]
    exact List.mem_filterMap.2 ⟨_, posted, rfl⟩
  cases event?_lookups d _ (part.subset member)

theorem failureTrail (valid : s.descriptor = .ok d) (ready : s.isReady = true)
    (reachable : watcher.Reachable) {f : Fault} {v : World} {done : List Deed}
    (run : (Probe.run settings d).attempt (w.log (probingLine d)) = (.error f, v))
    (spends : (Probe.run settings d).Spends (w.log (probingLine d)) done) :
    FailureTrail settings s d watcher w f done := by
  have journal := journal_of_run run spends
  have now : v.now = w.now := by
    have same := spends.now
    rwa [run] at same
  -- what was noted and counted before makes no difference to reports and gauges
  let begun : Watcher := { watcher with lastEvent := w.now, metrics := watcher.metrics.countProbe }
  have taken := @takeUp_of_error settings s d watcher w valid ready f v run
  have rooted : (begun.step (.record d (.ofFault v.now f))).Rooted := by
    have started : begun.Reachable := .beside reachable rfl rfl
    exact (started.step _).rooted
  have stored := get?_reports_record begun d (.ofFault v.now f)
  have unlisted (number : UInt64) (t : Series Int64) :=
    @get?_record_unlisted begun d (.ofFault v.now f) number t fun _ listed => by cases listed
  have ns : (failureEvent s f v.now).regarding.ns = some d.ns := ManagedService.ns_of_descriptor valid
  obtain ⟨tail, most, closed, posted⟩ := journal_publish ns v
  refine ⟨?_, fun number t found => ?_, fun service other => ?_, fun number other => ?_,
    fun number t found => ?_, tail, most, closed, ?_, fun answers same => ?_⟩
  · refine ⟨.ofFault v.now f, ?_, rfl, rfl, rfl⟩
    rw [taken]
    exact (stored _).trans (if_pos rfl)
  · rw [taken] at found
    rintro own
    obtain ⟨report, is, listed⟩ := rooted.listed number t found
    rw [own, stored, if_pos rfl] at is
    cases is
    cases listed
  · rw [taken]
    exact (stored _).trans (if_neg (Ne.symm other))
  · rw [taken]
    refine Option.ext fun t => ?_
    exact (unlisted number t).trans (and_iff_left other)
  · rw [taken] at found
    exact ((unlisted number t).1 found).1
  · rw [taken, ← now, ← journal]
    exact posted
  · have again : (Probe.run settings d).attempt (({ w with answers } : World).log (probingLine d)) =
        (.error f, { v with answers := answers.drop (requestsIn done) }) := spends.replaced run same
    have retaken := @takeUp_of_error settings s d watcher { w with answers } valid ready f _ again
    obtain ⟨tail', most', -, posted'⟩ :=
      journal_publish ns { v with answers := answers.drop (requestsIn done) }
    refine ⟨tail', most', ?_, ?_, ?_⟩
    · rw [retaken, taken]
    · rw [retaken, taken]
    · rw [retaken, ← now, ← journal]
      exact posted'

theorem successTrail (valid : s.descriptor = .ok d) (ready : s.isReady = true) {report : Report}
    {v : World} {done : List Deed}
    (run : (Probe.run settings d).attempt (w.log (probingLine d)) = (.ok report, v))
    (spends : (Probe.run settings d).Spends (w.log (probingLine d)) done) :
    SuccessTrail settings s d watcher w report done := by
  have taken := @takeUp_of_ok settings s d watcher w valid ready report v run
  refine ⟨?_, Probe.gives_run settings d _ report v run, ?_⟩
  · rw [taken]
    exact (get?_reports_record _ d report _).trans (if_pos rfl)
  · rw [taken, ← journal_of_run run spends]
    exact journal_logAll _ _

/-- **A failed probe leaves one trail.** A service that is ready comes up, and the watcher is in any state
that it comes to. Then the service ends in a fault if and only if its probe does, in the same one. If so, its
report has the text of the fault and nothing else, no series of it is left, and the reports of all other
services are as before. So are the series that have another number than each replica which its last
report lists, and no series is new or changed. After that an event is posted to the namespace of the service
if it takes events, a warning that the probe failed with that text; it is the only one, and whatever
the answer to it is, result and memory are the same and the log differs in one line at most, about the
publishing. If the probe comes to a report, that is stored and holds no error, no event is posted, and
the warnings are one for each replica that could not be read and one for each that is behind. -/
theorem failed_probe_leaves_one_trail (settings : Settings) {s : ManagedService} {d : Descriptor}
    (valid : s.descriptor = .ok d) (ready : s.isReady = true) {watcher : Watcher}
    (reachable : watcher.Reachable) (w : World) :
    let result := ((Probe.run settings d).attempt (w.log (probingLine d))).1
    (∀ f, (takeUp settings s watcher w).1 = .error f ↔ result = .error f) ∧
    ∃ done, (∀ line, .log line ∈ done → line.level ≠ .warn) ∧
      (∀ event, .request (.createEvent event) ∉ done) ∧
      (∀ f, result = .error f → FailureTrail settings s d watcher w f done ∧
        ∀ now, PostsFailure d f (.createEvent (failureEvent s f now))) ∧
      ∀ report, result = .ok report → SuccessTrail settings s d watcher w report done ∧
        ((unreadableLines d report).Nodup ∧ ∀ line, line ∈ unreadableLines d report ↔
          ∃ replica reading error, report.replicas.get? replica = some reading ∧
            reading.error = some error ∧ line = {
              level := .warn, message := "replica of \x22" ++ d.display ++ "\x22 could not be read"
              fields := [("replica", .text replica), ("error", .text error)] }) ∧
        (laggingLines d report).Nodup ∧ ∀ line, line ∈ laggingLines d report ↔
          ∃ replica gap, report.gaps.get? replica = some gap ∧ 0 < gap ∧ line = {
            level := .warn, message := "replica of \x22" ++ d.display ++ "\x22 is lagging"
            fields := [("replica", .text replica), ("gap", .number gap.toInt)] } := by
  intro result
  obtain ⟨done, spends⟩ := Probe.frugal_run settings d (w.log (probingLine d))
  have returned : (takeUp settings s watcher w).1 = result.map fun _ => settings.watcher.interval :=
    result_takeUp valid ready
  refine ⟨fun f => ?_, done, spends.calm, fun event posted => ?_, fun f failed => ?_,
    fun report came => ?_⟩
  · rw [returned]
    cases result <;> simp [Except.map]
  · exact event_not_mem spends event posted
  · exact ⟨failureTrail valid ready reachable (Prod.ext failed rfl) spends, postsFailure valid f⟩
  · exact ⟨successTrail valid ready (Prod.ext came rfl) spends, unreadableLines_spec d report,
      laggingLines_spec d report⟩

/-- A report with one replica. -/
def single (replica : String) (reading : Reading) : Report where
  masterRecord := some 5
  replicas := KeyMap.empty.insert replica reading

/-- The cluster of a service in the namespace `default`. -/
def inDefault (name : String) : Descriptor :=
  { engine := .postgresql, ns := "default", name, replicas := 1 }

/-- A series that was there is gone after a probe that fails because nobody answers. -/
theorem series_is_gone_after_failure :
    let before := (start 0).step (.record (inDefault "demo") (single "10.0.0.1" { record := some 1 }))
    let after := (takeUp {} unspaced before {}).2.1
    before.metrics.gaps.get? (Series.key "default/demo" "10.0.0.1") =
        some ⟨"default/demo", "10.0.0.1", 4⟩ ∧
      after.metrics.gaps.get? (Series.key "default/demo" "10.0.0.1") = none ∧
      ∃ report, after.reports.get? "default/demo" = some report ∧
        report.error = some "Kube Error: ServiceError: nothing scripted" := by
  intro before after
  have there : before.metrics.gaps.get? (Series.key "default/demo" "10.0.0.1") =
      some ⟨"default/demo", "10.0.0.1", 4⟩ := by decide +kernel
  obtain ⟨ends, done, -, -, failure, -⟩ := failed_probe_leaves_one_trail {}
    (show unspaced.descriptor = .ok (inDefault "demo") by decide) (by decide)
    (.step (.start 0) (.record (inDefault "demo") (single "10.0.0.1" { record := some 1 }))) {}
  obtain ⟨trail, -⟩ := failure (.kubernetes (.service "nothing scripted")) ((ends _).1 (by decide +kernel))
  refine ⟨there, ?_, ?_⟩
  · cases found : after.metrics.gaps.get? (Series.key "default/demo" "10.0.0.1") with
    | none => rfl
    | some t =>
      have same := (trail.noNewSeries _ t found).symm.trans there
      exact absurd (congrArg Series.service (Option.some.inj same)) (trail.bare _ t found)
  · obtain ⟨report, stored, -, -, error⟩ := trail.stored
    exact ⟨report, stored, error⟩

/-- A probe fails, and no event can be posted to the namespace; and a probe of `db1` fails after one in
which its replica could not be read, and with that a series of `db` is gone. -/
theorem failure_without_event_or_with_another_series :
    let before := ((start 0).step (.record (inDefault "db") (single "110.0.0.1" { record := some 1 }))).step
      (.record (inDefault "db1") (single "10.0.0.1" { error := some "refused" }))
    (takeUp {} spaced (start 0) {}).1.toOption = none ∧
      (takeUp {} spaced (start 0) {}).2.2.events = [] ∧
      (takeUp {} { unspaced with name := some "db1" } before {}).1.toOption = none ∧
      before.metrics.gaps.get? (Series.key "default/db" "110.0.0.1") =
        some ⟨"default/db", "110.0.0.1", 4⟩ ∧
      (takeUp {} { unspaced with name := some "db1" } before {}).2.1.metrics.gaps.get?
        (Series.key "default/db" "110.0.0.1") = none := by
  decide +kernel

end Watcher
end ManagedDatabase
