/-
Whole histories of the watcher: the reports always are the last ones, and the gauges are those of
the reports in all states that a history goes through if and only if no step of it intrudes
(`gauges_follow_reports`). Nothing intrudes where the series are found by different numbers, and
then the memory at the end is a function of the reports that stand.

Series that are found by one number are no oddity: the names of `db` with `110.0.0.1` and of `db1`
with `10.0.0.1` run together into one text (`overlapping_not_aligned`).
-/
import ManagedDatabase.Proofs.Watcher.Alignment

namespace ManagedDatabase.Watcher

variable {now : Moment} {steps : List Step}

/-- No step of a history intrudes. -/
def Undisturbed (now : Moment) (steps : List Step) : Prop :=
  ∀ before s, before ++ [s] <+: steps → ¬ (after now before).Intrudes s

/-- The replicas in the reports of a history, each with its service, are found by different numbers. -/
def Apart (steps : List Step) : Prop :=
  ∀ d report d' report' replica replica', .record d report ∈ steps → .record d' report' ∈ steps →
    replica ∈ report.replicas.keys → replica' ∈ report'.replicas.keys →
    Series.key d.display replica = Series.key d'.display replica' →
      d.display = d'.display ∧ replica = replica'

theorem keyed_after (now : Moment) (steps : List Step) : (after now steps).metrics.Keyed := by
  induction steps using List.reverseRecOn with
  | nil => intro number t ht; cases ht
  | append_singleton steps s ih => exact after_concat now steps s ▸ keyed_step ih s

theorem aligned_start (now : Moment) : (start now).Aligned := by
  intro service replica gap
  constructor
  · rintro ⟨number, ht⟩
    cases ht
  · rintro ⟨report, reading, hr, -⟩
    cases hr

theorem Undisturbed.before {before : List Step} (h : Undisturbed now steps) (hb : before <+: steps) :
    Undisturbed now before :=
  fun b s hs => h b s (hs.trans hb)

theorem Undisturbed.aligned (h : Undisturbed now steps) : (after now steps).Aligned := by
  induction steps using List.reverseRecOn with
  | nil => exact aligned_start now
  | append_singleton steps s ih =>
    have aligned := ih (h.before (List.prefix_append steps [s]))
    rw [after_concat]
    exact (aligned_step_iff (keyed_after now steps) aligned).2 (h steps s (List.prefix_refl _))

theorem undisturbed_iff :
    (∀ before, before <+: steps → (after now before).Aligned) ↔ Undisturbed now steps := by
  constructor
  · intro h before s hs
    have aligned := h before ((List.prefix_append before [s]).trans hs)
    have next := h _ hs
    rw [after_concat] at next
    exact (aligned_step_iff (keyed_after now before) aligned).1 next
  · exact fun h before hb => (h.before hb).aligned

/-! ## Names that stay apart -/

theorem Stands.before {before : List Step} {service : String} {report : Report}
    (h : Stands before service report) (hb : before <+: steps) :
    ∃ d, .record d report ∈ steps ∧ d.display = service := by
  obtain ⟨d, hd, hs⟩ := h.mem
  exact ⟨d, hb.subset hd, hs⟩

theorem Apart.undisturbed (h : Apart steps) : Undisturbed now steps := by
  rintro before s hs ⟨service, replica, other, replica', gap, ht, hm, key, different⟩
  have hb : before <+: steps := (List.prefix_append before [s]).trans hs
  -- whatever is touched or measured is listed in some report of the history
  have stored : ∀ {service report}, (after now before).reports.get? service = some report →
      ∃ d, .record d report ∈ steps ∧ d.display = service := fun hr => (stored_iff.1 hr).before hb
  have touched : ∃ d report, .record d report ∈ steps ∧ d.display = service ∧
      replica ∈ report.replicas.keys := by
    cases s with
    | record d report =>
      obtain ⟨rfl, hk | ⟨last, hr, hk⟩⟩ := ht
      · obtain ⟨gap, hg⟩ := KeyMap.mem_keys_iff.1 hk
        obtain ⟨reading, hr, -⟩ := Report.get?_gaps.1 hg
        exact ⟨d, report, hs.subset (by simp), rfl, KeyMap.mem_keys_iff.2 ⟨reading, hr⟩⟩
      · obtain ⟨e, he, hd⟩ := stored hr
        exact ⟨e, last, he, hd, hk⟩
    | forget live =>
      obtain ⟨-, last, hr, hk⟩ := ht
      obtain ⟨e, he, hd⟩ := stored hr
      exact ⟨e, last, he, hd, hk⟩
  obtain ⟨d, report, hr, rfl, hk⟩ := touched
  obtain ⟨report', hr', hk'⟩ := hm.listed
  rw [← after_concat, stored_iff] at hr'
  obtain ⟨d', hd', rfl⟩ := hr'.before hs
  obtain ⟨own, same⟩ := h d report d' report' replica replica' hr hd' hk hk' key
  exact different.elim (fun other => other own.symm) fun other => other.1 same.symm

/-! ## What the memory hangs on -/

theorem step_frame (w : Watcher) (s : Step) : w.step s =
    { w with
      reports := (w.step s).reports
      metrics := { w.metrics with gaps := (w.step s).metrics.gaps } } := by
  cases s with
  | record d report =>
    show { w with reports := _, metrics := align _ _ _ _ } = _
    rw [align_frame]
    rfl
  | forget live =>
    show { w with reports := _, metrics := (w.retain live).metrics } = _
    rw [metrics_retain, Metrics.dropGaps_frame]
    simp only [step, metrics_retain]
    rfl

theorem after_frame (now : Moment) (steps : List Step) : after now steps =
    { lastEvent := now
      reports := (after now steps).reports
      metrics := { Metrics.empty with gaps := (after now steps).metrics.gaps } } := by
  induction steps using List.reverseRecOn with
  | nil => rfl
  | append_singleton steps s ih =>
    rw [after_concat, step_frame]
    rw [ih]

theorem Aligned.get?_eq_some_iff {w : Watcher} (ha : w.Aligned) (hk : w.metrics.Keyed) {number : UInt64}
    {t : Series Int64} : w.metrics.gaps.get? number = some t ↔
      number = Series.key t.service t.detail ∧ w.Measures t.service t.detail t.value := by
  constructor
  · intro ht
    exact ⟨hk number t ht, (ha _ _ _).1 ⟨number, ht⟩⟩
  · rintro ⟨rfl, hm⟩
    exact (gauges_iff hk).1 ((ha _ _ _).2 hm)

theorem Undisturbed.ext {steps' : List Step} (h : Undisturbed now steps)
    (h' : Undisturbed now steps')
    (same : ∀ service report, Stands steps service report ↔ Stands steps' service report) :
    after now steps = after now steps' := by
  have reports : (after now steps).reports = (after now steps').reports := by
    refine KeyMap.ext fun service => Option.ext fun report => ?_
    rw [stored_iff, stored_iff]
    exact same service report
  have gaps : (after now steps).metrics.gaps = (after now steps').metrics.gaps := by
    refine KeyMap.ext fun number => Option.ext fun t => ?_
    rw [h.aligned.get?_eq_some_iff (keyed_after now steps),
      h'.aligned.get?_eq_some_iff (keyed_after now steps')]
    simp only [Measures, reports]
  rw [after_frame now steps, after_frame now steps', reports, gaps]

/-- **The memory of the watcher.** In every history the stored reports are those that stand. In all
states on its way the gauges are those of the stored reports if and only if no step intrudes, as
none does where different replicas are found by different numbers. Two such histories in which the
same reports stand end in the same memory. -/
theorem gauges_follow_reports (now : Moment) (steps : List Step) :
    (∀ service report, (after now steps).reports.get? service = some report ↔
      Stands steps service report) ∧
    ((∀ before, before <+: steps → (after now before).Aligned) ↔ Undisturbed now steps) ∧
    (Apart steps → Undisturbed now steps) ∧
    ∀ steps', Undisturbed now steps → Undisturbed now steps' →
      (∀ service report, Stands steps service report ↔ Stands steps' service report) →
      after now steps = after now steps' :=
  ⟨fun _ _ => stored_iff, undisturbed_iff, Apart.undisturbed, fun _ h h' => h.ext h'⟩

/-- A report with one replica. -/
def reportOn (replica : String) (master record : Int64) : Report where
  masterRecord := some master
  replicas := KeyMap.empty.insert replica { record := some record }

theorem mem_keys_reportOn {replica r : String} {master record : Int64} :
    r ∈ (reportOn replica master record).replicas.keys ↔ r = replica := by
  simp [reportOn, KeyMap.keys, KeyMap.insert, KeyMap.insertEntry, KeyMap.empty]

/-- A replica is replaced by another and a service is forgotten, with names that stay apart. -/
def separate : List Step := [
  .record { engine := .postgresql, ns := "default", name := "db", replicas := 1 }
    (reportOn "10.0.0.1" 5 1),
  .record { engine := .mysql, ns := "default", name := "web", replicas := 1 }
    (reportOn "10.0.0.2" 7 7),
  .record { engine := .postgresql, ns := "default", name := "db", replicas := 1 }
    (reportOn "10.0.0.3" 6 2),
  .forget ["default/db"]]

theorem separate_apart : Apart separate := by
  intro d report d' report' r r' h h' hr hr' key
  simp only [separate, List.mem_cons, Step.record.injEq, reduceCtorEq, List.not_mem_nil,
    or_false] at h h'
  rcases h with ⟨rfl, rfl⟩ | ⟨rfl, rfl⟩ | ⟨rfl, rfl⟩ <;>
    rcases h' with ⟨rfl, rfl⟩ | ⟨rfl, rfl⟩ | ⟨rfl, rfl⟩ <;>
    rw [mem_keys_reportOn] at hr hr' <;>
    subst hr hr' <;>
    first
    | exact ⟨rfl, rfl⟩
    | exact absurd key (by decide)

theorem separate_aligned : Apart separate ∧ Undisturbed 0 separate ∧
    ∀ before, before <+: separate → (after 0 before).Aligned :=
  have h := gauges_follow_reports 0 separate
  ⟨separate_apart, h.2.2.1 separate_apart, h.2.1.2 (h.2.2.1 separate_apart)⟩

/-- Two services whose names run together with those of their replicas into one text. -/
def overlapping : List Step := [
  .record { engine := .postgresql, ns := "default", name := "db", replicas := 1 }
    (reportOn "110.0.0.1" 5 1),
  .record { engine := .postgresql, ns := "default", name := "db1", replicas := 1 }
    (reportOn "10.0.0.1" 5 2)]

/-- The second service has no series: its gap went into that of the first. -/
theorem overlapping_not_aligned : ¬ (after 0 overlapping).Aligned := by
  intro aligned
  have measured : (after 0 overlapping).Measures "default/db1" "10.0.0.1" 3 :=
    ⟨reportOn "10.0.0.1" 5 2, { record := some 2 },
      stored_iff.2 ⟨[_], _, [], rfl, by decide, by simp⟩, KeyMap.get?_insert_self _ _ _, rfl, rfl⟩
  have shown := (gauges_iff (keyed_after 0 overlapping)).1 ((aligned _ _ _).2 measured)
  exact absurd shown (by decide +kernel)

end ManagedDatabase.Watcher
