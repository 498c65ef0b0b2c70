/-
Services that are not probed. A service is probed if it describes a cluster and one of its conditions says
that the cluster is ready, wherever that stands and whatever the other conditions say. Any other service
leaves the watcher as it was but for the time of its last event, asks nothing of the API or of a
database server, and comes up again after the interval (`Watcher.only_ready_clusters_are_probed`).

What a service lacks is looked at twice, when it is taken up and when its fault is dealt with, and the
watcher may have forgotten services in between. So each of the two is shown to be idle on its own, in all
states.
-/
import ManagedDatabase.Proofs.Watcher.Delay

namespace ManagedDatabase

namespace ManagedService

variable {s : ManagedService} {f : Fault} {d : Descriptor}

/-- What keeps a service from describing a cluster, as the fault that it ends in. Of several things the first
one counts. -/
inductive Lacks (s : ManagedService) : Fault → Prop
  | ns (missing : s.ns = none) : Lacks s (.illegalService s.shownName "missing namespace")
  | replicas (given : s.ns ≠ none) (negative : s.spec.replicas < 0) :
    Lacks s (.illegalService s.shownName "negative replica count")
  | engine (given : s.ns ≠ none) (counted : 0 ≤ s.spec.replicas)
    (unknown : s.spec.engine ≠ "postgresql" ∧ s.spec.engine ≠ "mysql") :
    Lacks s (.unsupportedEngine s.spec.engine)

/-- The service describes a cluster. -/
structure Describes (s : ManagedService) (d : Descriptor) : Prop where
  ns : s.ns = some d.ns
  name : s.shownName = d.name
  replicas : s.spec.replicas = d.replicas
  engine : s.spec.engine = d.engine.name

/-- A condition of the service says that its cluster is ready. -/
def Ready (s : ManagedService) : Prop := ∃ c ∈ s.conditions, c.kind = "Ready" ∧ c.status = "True"

theorem isReady_iff : s.isReady = true ↔ s.Ready := by
  simp only [isReady, Ready, List.any_eq_true, Bool.and_eq_true, decide_eq_true_eq]

theorem isReady_eq_false_iff : s.isReady = false ↔ ¬ s.Ready := by
  rw [← isReady_iff, Bool.not_eq_true]

end ManagedService

theorem Engine.ofName?_eq_some_iff {text : String} {e : Engine} :
    ofName? text = some e ↔ text = e.name := by
  constructor
  · intro found
    have named := List.find?_some found
    exact (of_decide_eq_true named).symm
  · rintro rfl
    cases e <;> decide

theorem Engine.ofName?_eq_none_iff {text : String} :
    ofName? text = none ↔ text ≠ "postgresql" ∧ text ≠ "mysql" := by
  rw [ofName?, List.find?_eq_none]
  simp [all, name, eq_comm]

namespace ManagedService

variable {s : ManagedService} {f : Fault} {d : Descriptor}

theorem descriptor_error_iff : s.descriptor = .error f ↔ s.Lacks f := by
  constructor
  · intro faulty
    unfold descriptor at faulty
    split at faulty
    · next missing =>
      cases faulty
      exact .ns missing
    · next ns given =>
      have given : s.ns ≠ none := by simp [given]
      split at faulty
      · next negative =>
        cases faulty
        exact .replicas given negative
      · next counted =>
        split at faulty
        · next unknown =>
          cases faulty
          exact .engine given (Int.not_lt.1 counted) (Engine.ofName?_eq_none_iff.1 unknown)
        · cases faulty
  · rintro (missing | ⟨given, negative⟩ | ⟨given, counted, unknown⟩)
    · simp only [descriptor, missing]
    · obtain ⟨ns, given⟩ := Option.ne_none_iff_exists'.1 given
      simp only [descriptor, given, negative, if_true]
    · obtain ⟨ns, given⟩ := Option.ne_none_iff_exists'.1 given
      simp only [descriptor, given, Int.not_lt.2 counted, if_false, Engine.ofName?_eq_none_iff.2 unknown]

theorem descriptor_ok_iff : s.descriptor = .ok d ↔ s.Describes d := by
  constructor
  · intro valid
    unfold descriptor at valid
    split at valid
    · cases valid
    · next ns given =>
      split at valid
      · cases valid
      · next counted =>
        split at valid
        · cases valid
        · next engine named =>
          cases valid
          exact ⟨given, rfl, (Int.toNat_of_nonneg (Int.not_lt.1 counted)).symm,
            Engine.ofName?_eq_some_iff.1 named⟩
  · rintro ⟨ns, name, replicas, engine⟩
    have counted : ¬ (d.replicas : Int) < 0 := Int.not_lt.2 (Int.natCast_nonneg _)
    simp only [descriptor, ns, replicas, counted, if_false, Engine.ofName?_eq_some_iff.2 engine, name,
      Int.toNat_natCast]

/-- A service lacks one thing or describes one cluster. -/
theorem lacks_or_describes (s : ManagedService) : (∃ f, s.Lacks f) ∨ ∃ d, s.Describes d := by
  cases described : s.descriptor with
  | error f => exact .inl ⟨f, descriptor_error_iff.1 described⟩
  | ok d => exact .inr ⟨d, descriptor_ok_iff.1 described⟩

theorem Describes.not_lacks (valid : s.Describes d) (f : Fault) : ¬ s.Lacks f := by
  intro lacking
  have same := (descriptor_ok_iff.2 valid).symm.trans (descriptor_error_iff.2 lacking)
  cases same

end ManagedService

namespace Watcher

variable (settings : Settings) {s : ManagedService} {d : Descriptor} {f : Fault}
variable (watcher : Watcher) (w : World)

theorem takeUp_lacking (lacking : s.Lacks f) :
    takeUp settings s watcher w = (.error f, { watcher with lastEvent := w.now }, w) := by
  simp only [takeUp, ManagedService.descriptor_error_iff.2 lacking]

theorem handleFault_lacking (lacking : s.Lacks f) :
    handleFault settings s f watcher w =
      (settings.watcher.interval, watcher, w.log (failureLine settings.wording s f)) := by
  have invalid := ManagedService.descriptor_error_iff.2 lacking
  simp only [handleFault, retryDelay, ManagedService.isTransient_of_descriptor invalid, countFailure, invalid,
    Bool.false_eq_true, if_false]

theorem takeUp_unready (valid : s.Describes d) (unready : ¬ s.Ready) :
    takeUp settings s watcher w =
      (.ok settings.watcher.interval, { watcher with lastEvent := w.now }, w.log (notReadyLine d)) := by
  simp only [takeUp, ManagedService.descriptor_ok_iff.2 valid, Bool.false_eq_true, if_false,
    ManagedService.isReady_eq_false_iff.2 unready]

/-- The line about a service that is not probed. -/
inductive IdleLine (words : Wording) (s : ManagedService) : LogLine → Prop
  | lacking {f : Fault} (lacking : s.Lacks f) : IdleLine words s (failureLine words s f)
  | unready {d : Descriptor} (valid : s.Describes d) (unready : ¬ s.Ready) :
    IdleLine words s (notReadyLine d)

/-- A service that is not probed is dealt with to no effect but a line. -/
theorem attend_idle (idle : ∀ d, s.Describes d → ¬ s.Ready) :
    ∃ line, IdleLine settings.wording s line ∧ attend settings s watcher w =
      (settings.watcher.interval, { watcher with lastEvent := w.now }, w.log line) := by
  rcases s.lacks_or_describes with ⟨f, lacking⟩ | ⟨d, valid⟩
  · refine ⟨_, .lacking lacking, ?_⟩
    simp only [attend, takeUp_lacking settings watcher w lacking, handleFault_lacking settings _ _ lacking]
  · refine ⟨_, .unready valid (idle d valid), ?_⟩
    simp only [attend, takeUp_unready settings watcher w valid (idle d valid)]

/-- Any number of services that are not probed leave the watcher alone, and no more than lines are left of
them in the world. -/
theorem playAll_idle : ∀ (services : List ManagedService) (watcher : Watcher) (w : World),
    (∀ s ∈ services, ∀ d, s.Describes d → ¬ s.Ready) → ∃ time lines,
      List.Forall₂ (IdleLine settings.wording) services lines ∧
      playAll settings (services.map (Turn.attend · [])) (watcher, w) =
        ({ watcher with lastEvent := time }, lines.foldl World.log w)
  | [], watcher, w, _ => ⟨watcher.lastEvent, [], .nil, rfl⟩
  | s :: services, watcher, w, idle => by
    obtain ⟨line, about, attended⟩ := attend_idle settings watcher w (idle s (by simp))
    obtain ⟨time, lines, rest, played⟩ := playAll_idle services { watcher with lastEvent := w.now }
      (w.log line) fun t ht => idle t (List.mem_cons_of_mem _ ht)
    refine ⟨time, line :: lines, .cons about rest, ?_⟩
    have first : (Turn.attend s []).play settings (watcher, w) =
        ({ watcher with lastEvent := w.now }, w.log line) := by
      rw [Turn.play_attend, attended]
    show playAll settings (services.map (Turn.attend · [])) ((Turn.attend s []).play settings (watcher, w)) = _
    rw [first, played]
    rfl

/-- A service was probed: it is said so first, what came of the probe is what comes of the service, its
report is stored, and one more probe is counted and measured. -/
structure Probed (s : ManagedService) (d : Descriptor) : Prop where
  said : w.journal ++ [.log (probingLine d)] <+: (takeUp settings s watcher w).2.2.journal
  result : (takeUp settings s watcher w).1 =
    ((Probe.run settings d).attempt (w.log (probingLine d))).1.map fun _ => settings.watcher.interval
  stored : (takeUp settings s watcher w).2.1.reports.get? d.display =
    some (reportOf w.now ((Probe.run settings d).attempt (w.log (probingLine d))).1)
  counted : (takeUp settings s watcher w).2.1.metrics.probes = watcher.metrics.probes + 1
  measured : (takeUp settings s watcher w).2.1.metrics.durations = watcher.metrics.durations + 1

theorem takeUp_probed (valid : s.Describes d) (ready : s.Ready) : Probed settings watcher w s d := by
  have described := ManagedService.descriptor_ok_iff.2 valid
  have taken := @takeUp_ready settings s d watcher w described (ManagedService.isReady_iff.2 ready)
  have counters := (probe_spec settings described { watcher with lastEvent := w.now } w).1
  rw [← taken] at counters
  obtain ⟨done, spends⟩ := Probe.frugal_run settings d (w.log (probingLine d))
  refine ⟨?_, result_takeUp described (ManagedService.isReady_iff.2 ready), ?_,
    congrArg Metrics.probes counters, congrArg Metrics.durations counters⟩
  · rcases run : (Probe.run settings d).attempt (w.log (probingLine d)) with ⟨f | report, v⟩
    · have ns : (failureEvent s f v.now).regarding.ns = some d.ns := valid.ns
      obtain ⟨tail, -, -, posted⟩ := journal_publish ns v
      rw [taken, probe_of_error run, posted, journal_of_run run spends]
      exact ⟨done ++ posting d.ns (failureEvent s f v.now) ++ tail, by simp⟩
    · rw [taken, probe_of_ok run, journal_logAll, journal_of_run run spends]
      exact ⟨done ++ (unreadableLines d report ++ laggingLines d report).map .log, by simp⟩
  · have now := spends.now
    rcases run : (Probe.run settings d).attempt (w.log (probingLine d)) with ⟨f | report, v⟩
    · rw [run] at now
      have same : v.now = w.now := now
      rw [taken, probe_of_error run, same]
      exact (get?_reports_record _ d _ _).trans (if_pos rfl)
    · rw [taken, probe_of_ok run]
      exact (get?_reports_record _ d report _).trans (if_pos rfl)

/-- **Only clusters that are ready are probed.** A service lacks something or describes a cluster, and not
both. If it lacks something, it ends in the fault of the first thing that it lacks, ready or not; the
fault is dealt with in whatever state the watcher and the world are by then, and the service comes up again
after the interval. If it describes a cluster and no condition says that this is ready, it ends well and
comes up again after the interval too. In both cases the watcher stays as it is but for the time of its
last event, and so does the world but for one line in the log; so it is with any number of such services
one after the other. A service that describes a cluster which some condition says is ready is probed. -/
theorem only_ready_clusters_are_probed (settings : Settings) (s : ManagedService) (watcher : Watcher)
    (w : World) :
    (((∃ f, s.Lacks f) ∨ ∃ d, s.Describes d) ∧ ∀ d, s.Describes d → ∀ f, ¬ s.Lacks f) ∧
    (∀ f, s.Lacks f →
      takeUp settings s watcher w = (.error f, { watcher with lastEvent := w.now }, w) ∧
      f.isTransient = false ∧
      ∀ watcher' w', handleFault settings s f watcher' w' =
        (settings.watcher.interval, watcher', w'.log (failureLine settings.wording s f))) ∧
    (∀ d, s.Describes d → ¬ s.Ready → takeUp settings s watcher w =
      (.ok settings.watcher.interval, { watcher with lastEvent := w.now }, w.log (notReadyLine d))) ∧
    ((∀ d, s.Describes d → ¬ s.Ready) →
      (attend settings s watcher w).1 = settings.watcher.interval ∧
      (attend settings s watcher w).2.1 = { watcher with lastEvent := w.now } ∧
      (attend settings s watcher w).2.2.requests = w.requests ∧
      (attend settings s watcher w).2.2.connections = w.connections) ∧
    (∀ services : List ManagedService, (∀ t ∈ services, ∀ d, t.Describes d → ¬ t.Ready) →
      ∃ time lines, List.Forall₂ (IdleLine settings.wording) services lines ∧
        playAll settings (services.map (Turn.attend · [])) (watcher, w) =
          ({ watcher with lastEvent := time }, { w with journal := w.journal ++ lines.map .log })) ∧
    ∀ d, s.Describes d → s.Ready → Probed settings watcher w s d := by
  refine ⟨⟨s.lacks_or_describes, fun d valid => valid.not_lacks⟩, fun f lacking => ⟨?_, ?_, ?_⟩,
    fun d valid unready => takeUp_unready settings watcher w valid unready, fun idle => ?_,
    fun services idle => ?_, fun d valid ready => takeUp_probed settings watcher w valid ready⟩
  · exact takeUp_lacking settings watcher w lacking
  · exact ManagedService.isTransient_of_descriptor (ManagedService.descriptor_error_iff.2 lacking)
  · exact fun watcher' w' => handleFault_lacking settings watcher' w' lacking
  · obtain ⟨line, -, attended⟩ := attend_idle settings watcher w idle
    rw [attended]
    exact ⟨rfl, rfl, w.requests_log line, w.connections_log line⟩
  · obtain ⟨time, lines, about, played⟩ := playAll_idle settings services watcher w idle
    exact ⟨time, lines, about, World.logAll_eq lines w ▸ played⟩

/-- A service whose cluster is not ready, though a condition of its own has the status of one that is. -/
def awaited : ManagedService :=
  { unspaced with conditions := [⟨"Ready", "False"⟩, ⟨"Progressing", "True"⟩] }

/-- A service with no namespace, a negative replica count and an engine that is none: of these the first
counts, and that it is ready does not. One that is not ready is left alone, and one that is ready by its
last condition is probed. -/
theorem first_lack_counts_and_last_condition_too :
    let faulty : ManagedService :=
      { negative with ns := none, spec := { negative.spec with engine := "oracle" } }
    let late : ManagedService := { unspaced with conditions := awaited.conditions ++ [⟨"Ready", "True"⟩] }
    (takeUp {} faulty (start 0) {}).1 = .error (.illegalService "demo" "missing namespace") ∧
      (takeUp {} awaited (start 0) {}).1 = .ok 60 ∧
      (attend {} awaited (start 0) { now := 7 }).2.1 = { start 0 with lastEvent := 7 } ∧
      (takeUp {} late (start 0) {}).2.1.metrics.probes = 1 := by
  intro faulty late
  have lacking : faulty.Lacks (.illegalService "demo" "missing namespace") := .ns rfl
  have described : awaited.Describes (inDefault "demo") := ⟨rfl, by decide, rfl, rfl⟩
  have unready : ¬ awaited.Ready := by simp [awaited, ManagedService.Ready]
  have ready : late.Ready := ⟨⟨"Ready", "True"⟩, by decide, rfl, rfl⟩
  obtain ⟨-, lacks, -⟩ := only_ready_clusters_are_probed {} faulty (start 0) {}
  obtain ⟨-, -, waits, -⟩ := only_ready_clusters_are_probed {} awaited (start 0) {}
  obtain ⟨-, -, -, idle, -⟩ := only_ready_clusters_are_probed {} awaited (start 0) { now := 7 }
  obtain ⟨-, -, -, -, -, probed⟩ := only_ready_clusters_are_probed {} late (start 0) {}
  refine ⟨congrArg Prod.fst (lacks _ lacking).1, congrArg Prod.fst (waits _ described unready),
    (idle fun _ _ => unready).2.1, ?_⟩
  exact (probed (inDefault "demo") ⟨rfl, by decide, rfl, rfl⟩ ready).counted

end Watcher
end ManagedDatabase
