/-
How failed probes are counted. A failure is one more in the series that is found by the number of its
service and its label. So the value of a series is how many failures have its number, its labels are those
of the first of them (`get?_failures_afterTrials`), and all values sum up to all failures.

Other services and labels that are looked at get the sum of their failures if no failure of theirs has the
number of one that is not theirs (`failuresOf_afterTrials`). None has where different texts have different
numbers (`Trial.Apart`), since each text is that of one service and one label.

A trial is what the counters take from one probe: all trials count for the probes and their durations,
the failed ones for the failures.
-/
import ManagedDatabase.Proofs.Watcher.Causes

namespace ManagedDatabase

/-! ## Trials -/

/-- What can be seen of a probe of some service. -/
structure Trial where
  descriptor : Descriptor
  /-- What it failed with, if it did. -/
  fault? : Option Fault
  /-- The events that were posted for it. -/
  posted : List Kubernetes.ProbeEvent

namespace Trial

/-- The name under which the service is reported. -/
def service (t : Trial) : String := t.descriptor.display

/-- The service and the label under which a failed trial is counted. -/
def failure? (t : Trial) : Option (String × String) := t.fault?.map fun f => (t.service, f.label)

/-- The metrics after a trial. -/
def counted (t : Trial) (m : Metrics) : Metrics :=
  match t.failure? with
  | none => m.countProbe.observeDuration
  | some p => m.countProbe.observeDuration.countFailure p.1 p.2

/-- A trial failed, and its service and the label of its fault are among the chosen. -/
def failedIn (chosen : String → String → Bool) (t : Trial) : Bool :=
  t.failure?.any fun p => chosen p.1 p.2

theorem failedIn_eq (chosen : String → String → Bool) (t : Trial) :
    failedIn chosen t = t.fault?.any fun f => chosen t.service f.label := by
  unfold failedIn failure?
  cases t.fault? <;> rfl

theorem length_eq (ts : List Trial) :
    ts.length = ts.countP (·.fault?.isSome) + ts.countP (·.fault?.isNone) := by
  rw [List.length_eq_countP_add_countP fun t : Trial => t.fault?.isSome]
  refine congrArg _ (List.countP_congr fun t _ => ?_)
  cases t.fault? <;> simp

/-- The failures in some trials. -/
def failures (ts : List Trial) : List (String × String) := ts.filterMap failure?

/-- Different texts of failures have different numbers. -/
def Apart (ts : List Trial) : Prop :=
  ∀ p ∈ failures ts, ∀ q ∈ failures ts, Series.key p.1 p.2 = Series.key q.1 q.2 → p.1 ++ p.2 = q.1 ++ q.2

/-- No failure of a service has the number of one of another service. -/
def Alone (ts : List Trial) (service : String) : Prop :=
  ∀ p ∈ failures ts, ∀ q ∈ failures ts, Series.key p.1 p.2 = Series.key q.1 q.2 →
    (p.1 = service ↔ q.1 = service)

instance (ts : List Trial) : Decidable (Apart ts) :=
  inferInstanceAs (Decidable (∀ p ∈ failures ts, ∀ q ∈ failures ts,
    Series.key p.1 p.2 = Series.key q.1 q.2 → p.1 ++ p.2 = q.1 ++ q.2))

variable {ts : List Trial}

theorem mem_failures {service label : String} : (service, label) ∈ failures ts ↔
    ∃ t ∈ ts, t.service = service ∧ ∃ f, t.fault? = some f ∧ f.label = label := by
  simp only [failures, failure?, List.mem_filterMap, Option.map_eq_some_iff, Prod.mk.injEq]
  constructor
  · rintro ⟨t, ht, f, fault, own, same⟩
    exact ⟨t, ht, own, f, fault, same⟩
  · rintro ⟨t, ht, own, f, fault, same⟩
    exact ⟨t, ht, f, fault, own, same⟩

theorem length_filter_failures (ts : List Trial) (chosen : String → String → Bool) :
    ((failures ts).filter fun p => chosen p.1 p.2).length =
      ts.countP fun t => t.fault?.any fun f => chosen t.service f.label := by
  rw [← List.countP_eq_length_filter, failures, List.countP_filterMap]
  refine List.countP_congr fun t _ => ?_
  unfold failure?
  cases t.fault? <;> simp

theorem failures_concat (ts : List Trial) (t : Trial) :
    failures (ts ++ [t]) = failures ts ++ t.failure?.toList := by
  rw [failures, List.filterMap_append, ← failures]
  cases failed : t.failure? <;> simp [failed]

theorem label_mem (fatal : ∀ t ∈ ts, ∀ f, t.fault? = some f → Probe.Fatal f) :
    ∀ p ∈ failures ts, p.2 ∈ Probe.labels := by
  intro p hp
  obtain ⟨t, ht, -, f, fault, same⟩ := mem_failures.1 hp
  exact same ▸ (fatal t ht f fault).label_mem

theorem Apart.eq (apart : Apart ts) (fatal : ∀ t ∈ ts, ∀ f, t.fault? = some f → Probe.Fatal f) :
    ∀ p ∈ failures ts, ∀ q ∈ failures ts, Series.key p.1 p.2 = Series.key q.1 q.2 → p = q := by
  intro p hp q hq key
  obtain ⟨service, label⟩ :=
    Probe.append_inj (label_mem fatal p hp) (label_mem fatal q hq) (apart p hp q hq key)
  exact Prod.ext service label

theorem Apart.alone (apart : Apart ts) (fatal : ∀ t ∈ ts, ∀ f, t.fault? = some f → Probe.Fatal f)
    (service : String) : Alone ts service := fun p hp q hq key => by
  rw [apart.eq fatal p hp q hq key]

end Trial

/-! ## Counters -/

namespace Metrics

/-- The metrics without the gauges. -/
def counters (m : Metrics) : Metrics := { m with gaps := .empty }

/-- How many failures are counted under some services and labels. -/
def failuresOf (m : Metrics) (chosen : String → String → Bool) : Nat :=
  m.failures.sum fun e => if chosen e.2.service e.2.detail then e.2.value else 0

/-- The series of some failures that have one number. -/
def tally : List (String × String) → Option (Series Nat)
  | [] => none
  | p :: later => some ⟨p.1, p.2, later.length + 1⟩

/-- A series after one more failure. -/
def raised (old : Option (Series Nat)) (service label : String) : Series Nat :=
  match old with
  | some t => { t with value := t.value + 1 }
  | none => ⟨service, label, 1⟩

theorem tally_concat (fs : List (String × String)) (p : String × String) :
    tally (fs ++ [p]) = some (raised (tally fs) p.1 p.2) := by
  cases fs with
  | nil => rfl
  | cons q later => simp [tally, raised]

theorem tally_eq_some {fs : List (String × String)} {t : Series Nat} (h : tally fs = some t) :
    (t.service, t.detail) ∈ fs ∧ t.value = fs.length := by
  cases fs with
  | nil => cases h
  | cons p later =>
    cases h
    exact ⟨List.mem_cons_self, rfl⟩

variable {ts : List Trial} {service label : String}

theorem failures_countFailure (m : Metrics) (service label : String) :
    (m.countFailure service label).failures = m.failures.insert (Series.key service label)
      (raised (m.failures.get? (Series.key service label)) service label) := by
  unfold countFailure Series.update
  cases m.failures.get? (Series.key service label) <;> rfl

/-- One more failure counts where the labels of its series are looked at. -/
theorem failuresOf_countFailure (m : Metrics) (service label : String)
    (chosen : String → String → Bool) :
    let t := raised (m.failures.get? (Series.key service label)) service label
    (m.countFailure service label).failuresOf chosen =
      m.failuresOf chosen + if chosen t.service t.detail then 1 else 0 := by
  intro t
  have sum := m.failures.sum_insert (fun e => if chosen e.2.service e.2.detail then e.2.value else 0)
    (Series.key service label) t
  rw [failuresOf, failures_countFailure, failuresOf]
  cases found : m.failures.get? (Series.key service label) with
  | none =>
    simp only [t, found, raised, Option.map_none, Option.getD_none, Nat.add_zero] at sum ⊢
    exact sum
  | some old =>
    simp only [t, found, raised, Option.map_some, Option.getD_some] at sum ⊢
    by_cases looked : chosen old.service old.detail = true
    · simp only [looked, if_true] at sum ⊢
      omega
    · simp only [looked, Bool.false_eq_true, if_false] at sum ⊢
      omega

/-! ## Trials counted -/

/-- The metrics after some trials. -/
def afterTrials (m : Metrics) (ts : List Trial) : Metrics := ts.foldl (fun m t => t.counted m) m

theorem afterTrials_concat (m : Metrics) (ts : List Trial) (t : Trial) :
    m.afterTrials (ts ++ [t]) = t.counted (m.afterTrials ts) := List.foldl_concat ..

theorem probes_afterTrials : ∀ (ts : List Trial) (m : Metrics),
    (m.afterTrials ts).probes = m.probes + ts.length ∧
      (m.afterTrials ts).durations = m.durations + ts.length
  | [], _ => ⟨rfl, rfl⟩
  | t :: ts, m => by
    obtain ⟨probes, durations⟩ := probes_afterTrials ts (t.counted m)
    have one : (t.counted m).probes = m.probes + 1 ∧ (t.counted m).durations = m.durations + 1 := by
      unfold Trial.counted
      cases t.failure? <;> exact ⟨rfl, rfl⟩
    simp only [one.1, one.2] at probes durations
    constructor
    · rw [List.length_cons, afterTrials, List.foldl_cons, ← afterTrials, probes]
      omega
    · rw [List.length_cons, afterTrials, List.foldl_cons, ← afterTrials, durations]
      omega

/-- The series that is found by a number is that of the failures with this number. -/
theorem get?_failures_afterTrials (ts : List Trial) (number : UInt64) :
    (empty.afterTrials ts).failures.get? number =
      tally ((Trial.failures ts).filter fun p => Series.key p.1 p.2 = number) := by
  induction ts using List.reverseRecOn with
  | nil => rfl
  | append_singleton ts t ih =>
    rw [afterTrials_concat, Trial.failures_concat, Trial.counted]
    cases failed : t.failure? with
    | none =>
      rw [Option.toList_none, List.append_nil]
      exact ih
    | some p =>
      rw [Option.toList_some, List.filter_append]
      show ((empty.afterTrials ts).countFailure p.1 p.2).failures.get? number = _
      rw [failures_countFailure]
      by_cases own : Series.key p.1 p.2 = number
      · subst own
        rw [KeyMap.get?_insert_self, ih, List.filter_singleton, decide_eq_true rfl, cond_true, tally_concat]
      · rw [KeyMap.get?_insert_other _ _ (Ne.symm own), ih, List.filter_singleton, decide_eq_false own,
          cond_false, List.append_nil]

section

variable {number : UInt64} {series : Series Nat}
  (found : (empty.afterTrials ts).failures.get? number = some series)

include found

/-- The labels of a series are those of a failure with its number. -/
theorem labels_of_series : (series.service, series.detail) ∈ Trial.failures ts ∧
    Series.key series.service series.detail = number := by
  rw [get?_failures_afterTrials] at found
  obtain ⟨member, key⟩ := List.mem_filter.1 (tally_eq_some found).1
  exact ⟨member, of_decide_eq_true key⟩

theorem value_of_series : 0 < series.value ∧ series.value =
    ts.countP fun t => t.fault?.any fun f => Series.key t.service f.label = number := by
  rw [get?_failures_afterTrials] at found
  obtain ⟨member, value⟩ := tally_eq_some found
  refine ⟨value ▸ List.length_pos_of_mem member, value.trans ?_⟩
  exact Trial.length_filter_failures ts fun service label => Series.key service label = number

/-- Where the failures are apart, those with the number of a series are those with its labels. -/
theorem value_of_apart (apart : Trial.Apart ts)
    (fatal : ∀ t ∈ ts, ∀ f, t.fault? = some f → Probe.Fatal f) : series.value =
      ts.countP fun t => t.service = series.service && t.fault?.any fun f => f.label = series.detail := by
  obtain ⟨listed, key⟩ := labels_of_series found
  rw [(value_of_series found).2]
  refine List.countP_congr fun t ht => ?_
  cases fault : t.fault? with
  | none => simp
  | some f =>
    have own : (t.service, f.label) ∈ Trial.failures ts := Trial.mem_failures.2 ⟨t, ht, rfl, f, fault, rfl⟩
    simp only [Option.any_some, Bool.and_eq_true, decide_eq_true_eq]
    constructor
    · intro same
      exact Prod.mk.inj (apart.eq fatal _ own _ listed (same.trans key.symm))
    · rintro ⟨service, label⟩
      rw [service, label, key]

end

/-- The counters of some services and labels sum up to their failures where no others have their
numbers. -/
theorem failuresOf_afterTrials (ts : List Trial) (chosen : String → String → Bool)
    (whole : ∀ p ∈ Trial.failures ts, ∀ q ∈ Trial.failures ts,
      Series.key p.1 p.2 = Series.key q.1 q.2 → chosen p.1 p.2 = chosen q.1 q.2) :
    (empty.afterTrials ts).failuresOf chosen = ts.countP (Trial.failedIn chosen) := by
  induction ts using List.reverseRecOn with
  | nil => rfl
  | append_singleton ts t ih =>
    rw [Trial.failures_concat] at whole
    have before := ih fun p hp q hq =>
      whole p (List.mem_append_left _ hp) q (List.mem_append_left _ hq)
    rw [afterTrials_concat, List.countP_append, List.countP_singleton, ← before, Trial.counted,
      Trial.failedIn]
    cases failed : t.failure? with
    | none => rfl
    | some p =>
      let old := (empty.afterTrials ts).failures.get? (Series.key p.1 p.2)
      -- if the series is there, its labels are those of a failure with the same number
      have labels : chosen (raised old p.1 p.2).service (raised old p.1 p.2).detail = chosen p.1 p.2 := by
        cases found : old with
        | none => rfl
        | some t =>
          obtain ⟨member, key⟩ := labels_of_series found
          rw [failed] at whole
          exact whole _ (List.mem_append_left _ member) p (by simp) key
      refine (failuresOf_countFailure _ p.1 p.2 chosen).trans ?_
      show _ + (if chosen (raised old p.1 p.2).service (raised old p.1 p.2).detail then 1 else 0) = _
      rw [labels]
      rfl

theorem allFailures_afterTrials (ts : List Trial) :
    (empty.afterTrials ts).failuresOf (fun _ _ => true) = ts.countP (·.fault?.isSome) := by
  rw [failuresOf_afterTrials ts _ fun _ _ _ _ _ => rfl]
  exact List.countP_congr fun t _ => by simp [Trial.failedIn_eq]

theorem failuresOf_service (alone : Trial.Alone ts service) :
    (empty.afterTrials ts).failuresOf (fun s _ => s = service) =
      ts.countP fun t => t.service = service && t.fault?.isSome := by
  rw [failuresOf_afterTrials ts _ fun p hp q hq key => decide_eq_decide.2 (alone p hp q hq key)]
  refine List.countP_congr fun t _ => ?_
  rw [Trial.failedIn_eq]
  cases t.fault? <;> simp

end Metrics
end ManagedDatabase
