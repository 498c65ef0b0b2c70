/-
The gauges against the stored reports. They agree (`Aligned`) as long as no series is found by the
number of another: a step touches the series of the replicas that the old report of its service lists
or the new one measures, and it keeps the agreement if and only if none of these is found by the
number of a replica that the report of another service measures, and no two replicas that it measures
by the same (`aligned_step_iff`).

The gauges are never rebuilt, so everything is read off what one step does to one series
(`get?_step_measured`, `get?_step_unmeasured`, `get?_step_other`).
-/
import ManagedDatabase.Proofs.Watcher.History

namespace ManagedDatabase.Watcher

variable {w : Watcher} {s : Step} {service replica : String} {gap : Int64}

/-- The stored report of a service lists a replica without a read error, and this is how far the
replica is behind the master. -/
def Measures (w : Watcher) (service replica : String) (gap : Int64) : Prop :=
  ∃ report reading, w.reports.get? service = some report ∧
    report.replicas.get? replica = some reading ∧ reading.error = none ∧
    gap = report.masterRecord.getD 0 - reading.record.getD 0

/-- The gauge has a series for a replica of a service, with some value. -/
def Gauges (w : Watcher) (service replica : String) (gap : Int64) : Prop :=
  ∃ number, w.metrics.gaps.get? number = some { service, detail := replica, value := gap }

/-- The gauges are those of the stored reports, no more and no less. -/
def Aligned (w : Watcher) : Prop :=
  ∀ service replica gap, w.Gauges service replica gap ↔ w.Measures service replica gap

/-- A step drops or sets the series of a replica of a service. -/
def Touches (w : Watcher) : Step → String → String → Prop
  | .record d report, service, replica =>
    service = d.display ∧ (replica ∈ report.gaps.keys ∨
      ∃ last, w.reports.get? service = some last ∧ replica ∈ last.replicas.keys)
  | .forget live, service, replica =>
    service ∉ live ∧ ∃ last, w.reports.get? service = some last ∧ replica ∈ last.replicas.keys

/-- A step drops or sets a series that is found by the same number as another one that the reports
then call for: of another service, or of another replica where they call for both. -/
def Intrudes (w : Watcher) (s : Step) : Prop :=
  ∃ service replica other replica' gap, w.Touches s service replica ∧
    (w.step s).Measures other replica' gap ∧ Series.key service replica = Series.key other replica' ∧
    (other ≠ service ∨ replica' ≠ replica ∧ ∃ gap', (w.step s).Measures service replica gap')

/-! ## What one step does -/

theorem measures_iff : w.Measures service replica gap ↔
    ∃ report, w.reports.get? service = some report ∧ report.gaps.get? replica = some gap := by
  simp only [Measures, Report.get?_gaps, exists_and_left]

theorem Measures.listed (h : w.Measures service replica gap) :
    ∃ report, w.reports.get? service = some report ∧ replica ∈ report.replicas.keys := by
  obtain ⟨report, reading, hr, hm, -⟩ := h
  exact ⟨report, hr, KeyMap.mem_keys_iff.2 ⟨reading, hm⟩⟩

theorem measures_step (h : ¬ w.Touches s service replica) :
    (w.step s).Measures service replica gap ↔ w.Measures service replica gap := by
  cases s with
  | record d report =>
    by_cases hd : d.display = service
    · subst hd
      simp only [Touches, true_and, not_or] at h
      refine ⟨fun hm => ?_, fun hm => absurd hm.listed h.2⟩
      obtain ⟨r, hr, hg⟩ := measures_iff.1 hm
      simp only [get?_reports_record, if_true, Option.some.injEq] at hr
      subst hr
      exact absurd (KeyMap.mem_keys_iff.2 ⟨gap, hg⟩) h.1
    · simp only [measures_iff, get?_reports_record, hd, if_false]
  | forget live =>
    simp only [measures_iff, get?_reports_forget]
    constructor
    · rintro ⟨r, ⟨-, hr⟩, hg⟩
      exact ⟨r, hr, hg⟩
    · intro hm
      have hl : service ∈ live := Classical.byContradiction fun hl =>
        h ⟨hl, (measures_iff.2 hm).listed⟩
      obtain ⟨r, hr, hg⟩ := hm
      exact ⟨r, ⟨hl, hr⟩, hg⟩

/-- What a step both touches and measures belongs to the one service that it records. -/
theorem Touches.eq_of_measures {other replica' : String} (ht : w.Touches s service replica)
    (hm : (w.step s).Measures service replica gap) (ho : w.Touches s other replica') :
    other = service := by
  cases s with
  | record d report => rw [ht.1, ho.1]
  | forget live =>
    obtain ⟨r, hr, -⟩ := measures_iff.1 hm
    exact absurd (get?_reports_forget.1 hr).1 ht.1

theorem Touches.of_measures {other : String} (ht : w.Touches s service replica)
    (hm : w.Measures service other gap) : w.Touches s service other := by
  cases s with
  | record d report => exact ⟨ht.1, .inr hm.listed⟩
  | forget live => exact ⟨ht.1, hm.listed⟩

theorem Touches.of_measures_step {other : String} (ht : w.Touches s service replica)
    (hm : (w.step s).Measures service other gap) : w.Touches s service other := by
  by_contra untouched
  exact untouched (ht.of_measures ((measures_step untouched).1 hm))

theorem measures_record {d : Descriptor} {report : Report} :
    (w.step (.record d report)).Measures d.display replica gap ↔ report.gaps.get? replica = some gap := by
  rw [measures_iff, get?_reports_record, if_pos rfl]
  exact ⟨fun ⟨_, hr, hg⟩ => Option.some.inj hr ▸ hg, fun hg => ⟨report, rfl, hg⟩⟩

theorem get?_step_other {number : UInt64}
    (h : ∀ service replica, w.Touches s service replica → number ≠ Series.key service replica) :
    (w.step s).metrics.gaps.get? number = w.metrics.gaps.get? number := by
  cases s with
  | record d report =>
    refine get?_align_other fun r hr => h d.display r ⟨rfl, ?_⟩
    exact hr.elim (fun hr => .inr (mem_unmeasured.1 hr).1) .inl
  | forget live => exact get?_retain_other fun p hp => h p.1 p.2 (mem_orphans.1 hp)

/-- A measured replica that shares its number with no other measured one of its service has its gap in
a series with its labels, or with those of a series that was there and was not dropped. -/
theorem get?_step_measured (ht : w.Touches s service replica)
    (hm : (w.step s).Measures service replica gap)
    (alone : ∀ other gap', (w.step s).Measures service other gap' →
      Series.key service other = Series.key service replica → other = replica) :
    ∃ old, (w.step s).metrics.gaps.get? (Series.key service replica) =
        some (Series.reset old service replica gap) ∧
      ∀ t, old = some t → w.metrics.gaps.get? (Series.key service replica) = some t ∧
        ∀ other, w.Touches s service other → Series.key service replica = Series.key service other →
          ∃ gap', (w.step s).Measures service other gap' := by
  cases s with
  | record d report =>
    obtain ⟨rfl, -⟩ := ht
    have alone : ∀ other ∈ report.gaps.keys,
        Series.key d.display other = Series.key d.display replica → other = replica := by
      intro other hk
      obtain ⟨gap', hg⟩ := KeyMap.mem_keys_iff.1 hk
      exact alone other gap' (measures_record.2 hg)
    refine ⟨_, get?_align_set (measures_record.1 hm) alone, fun t ht => ?_⟩
    obtain ⟨found, kept⟩ := get?_cleared_eq_some_iff.1 ht
    refine ⟨found, fun other touched key => ?_⟩
    by_cases measured : other ∈ report.gaps.keys
    · obtain ⟨gap', hg⟩ := KeyMap.mem_keys_iff.1 measured
      exact ⟨gap', measures_record.2 hg⟩
    · exact absurd key (kept other (mem_unmeasured.2 ⟨touched.2.resolve_left measured, measured⟩))
  | forget live =>
    obtain ⟨r, hr, -⟩ := measures_iff.1 hm
    exact absurd (get?_reports_forget.1 hr).1 ht.1

/-- A touched series that is not set again is gone. -/
theorem get?_step_unmeasured (ht : w.Touches s service replica)
    (hm : ∀ other gap, (w.step s).Measures service other gap →
      Series.key service replica ≠ Series.key service other) :
    (w.step s).metrics.gaps.get? (Series.key service replica) = none := by
  cases s with
  | record d report =>
    obtain ⟨rfl, ht⟩ := ht
    have unset : ∀ other ∈ report.gaps.keys, Series.key d.display replica ≠ Series.key d.display other := by
      intro other hk
      obtain ⟨gap, hg⟩ := KeyMap.mem_keys_iff.1 hk
      exact hm other gap (measures_record.2 hg)
    have dropped : replica ∉ report.gaps.keys := fun hk => unset replica hk rfl
    exact (get?_align_unset unset).trans
      (get?_cleared_unmeasured (mem_unmeasured.2 ⟨ht.resolve_left dropped, dropped⟩))
  | forget live => exact get?_retain_dropped (mem_orphans.2 ht)

/-- A report that lists no replica with a number takes the series away that is found by it if the last
report lists one, and else leaves it. -/
theorem get?_record_unlisted {d : Descriptor} {report : Report} {number : UInt64} {t : Series Int64}
    (unlisted : ∀ replica ∈ report.replicas.keys, number ≠ Series.key d.display replica) :
    (w.step (.record d report)).metrics.gaps.get? number = some t ↔ w.metrics.gaps.get? number = some t ∧
      ∀ last, w.reports.get? d.display = some last → ∀ replica ∈ last.replicas.keys,
        number ≠ Series.key d.display replica := by
  show (align _ _ _ _).gaps.get? number = some t ↔ _
  rw [get?_align_unset fun replica set => unlisted replica (Report.mem_keys_of_gaps set),
    get?_cleared_eq_some_iff]
  refine and_congr_right fun _ => ⟨fun kept last stored replica listed => ?_, fun kept replica dropped => ?_⟩
  · by_cases set : replica ∈ report.gaps.keys
    · exact unlisted replica (Report.mem_keys_of_gaps set)
    · exact kept replica (mem_unmeasured.2 ⟨⟨last, stored, listed⟩, set⟩)
  · obtain ⟨⟨last, stored, listed⟩, -⟩ := mem_unmeasured.1 dropped
    exact kept last stored replica listed

theorem keyed_step (h : w.metrics.Keyed) (s : Step) : (w.step s).metrics.Keyed := by
  cases s with
  | record d report => exact keyed_align h _ _ _
  | forget live => exact metrics_retain w live ▸ h.dropGaps _

/-! ## Alignment is kept where nothing intrudes -/

theorem gauges_iff (h : w.metrics.Keyed) : w.Gauges service replica gap ↔
    w.metrics.gaps.get? (Series.key service replica) =
      some { service, detail := replica, value := gap } := by
  refine ⟨fun ⟨number, ht⟩ => ?_, fun ht => ⟨_, ht⟩⟩
  obtain rfl := h number _ ht
  exact ht

theorem Measures.unique {gap' : Int64} (h : w.Measures service replica gap)
    (h' : w.Measures service replica gap') : gap = gap' := by
  obtain ⟨r, hr, hg⟩ := measures_iff.1 h
  obtain ⟨r', hr', hg'⟩ := measures_iff.1 h'
  rw [hr, Option.some.injEq] at hr'
  subst hr'
  exact Option.some.inj (hg.symm.trans hg')

theorem Aligned.key_inj {other replica' : String} {gap' : Int64} (ha : w.Aligned) (hk : w.metrics.Keyed)
    (h : w.Measures service replica gap) (h' : w.Measures other replica' gap')
    (key : Series.key service replica = Series.key other replica') : service = other ∧ replica = replica' := by
  have shown := (gauges_iff hk).1 ((ha _ _ _).2 h)
  rw [key, (gauges_iff hk).1 ((ha _ _ _).2 h'), Option.some.injEq, Series.mk.injEq] at shown
  exact ⟨shown.1.symm, shown.2.1.symm⟩

/-- Where nothing intrudes, what has the number of a touched and measured replica is that replica. -/
theorem eq_of_not_intrudes {other replica' : String} {gap' : Int64} (hn : ¬ w.Intrudes s)
    (ht : w.Touches s service replica) (hm : (w.step s).Measures service replica gap)
    (ho : (w.step s).Measures other replica' gap')
    (key : Series.key service replica = Series.key other replica') : other = service ∧ replica' = replica := by
  by_contra different
  refine hn ⟨service, replica, other, replica', gap', ht, ho, key, ?_⟩
  by_cases same : other = service
  · exact .inr ⟨fun same' => different ⟨same, same'⟩, gap, hm⟩
  · exact .inl same

/-- Where nothing intrudes, a series that a step sets gets or has the labels that it is set for. -/
theorem get?_step_own (hk : w.metrics.Keyed) (ha : w.Aligned) (hn : ¬ w.Intrudes s)
    (ht : w.Touches s service replica) (hm : (w.step s).Measures service replica gap) :
    (w.step s).metrics.gaps.get? (Series.key service replica) =
      some { service, detail := replica, value := gap } := by
  obtain ⟨old, set, kept⟩ := get?_step_measured ht hm fun other gap' ho key =>
    (eq_of_not_intrudes hn ht hm ho key.symm).2
  rw [set]
  cases old with
  | none => rfl
  | some t =>
    obtain ⟨other, replica', value⟩ := t
    obtain ⟨found, kept⟩ := kept _ rfl
    have key : Series.key service replica = Series.key other replica' := hk _ _ found
    have before : w.Measures other replica' value := (ha _ _ _).1 ⟨_, found⟩
    -- what was there is measured still, so it is the replica itself
    have still : ∃ gap', (w.step s).Measures other replica' gap' := by
      by_cases same : other = service
      · subst same
        exact kept replica' (ht.of_measures before) key
      · have untouched : ¬ w.Touches s other replica' := fun ho => same (ht.eq_of_measures hm ho)
        exact ⟨value, (measures_step untouched).2 before⟩
    obtain ⟨gap', ho⟩ := still
    obtain ⟨rfl, rfl⟩ := eq_of_not_intrudes hn ht hm ho key
    rfl

/-- A step keeps the alignment if and only if it does not intrude. -/
theorem aligned_step_iff (hk : w.metrics.Keyed) (ha : w.Aligned) :
    (w.step s).Aligned ↔ ¬ w.Intrudes s := by
  have hk' : (w.step s).metrics.Keyed := keyed_step hk s
  constructor
  · rintro aligned ⟨service, replica, other, replica', gap, ht, ho, key, different⟩
    by_cases set : ∃ r gap', (w.step s).Measures service r gap' ∧
        Series.key service replica = Series.key service r
    · obtain ⟨r, gap', hm, same⟩ := set
      obtain ⟨rfl, rfl⟩ := aligned.key_inj hk' hm ho (same.symm.trans key)
      obtain different | ⟨different, gap'', hm'⟩ := different
      · exact different rfl
      · exact different (aligned.key_inj hk' hm hm' same.symm).2
    · have gone := get?_step_unmeasured ht fun r gap' hm same => set ⟨r, gap', hm, same⟩
      rw [key, (gauges_iff hk').1 ((aligned other replica' gap).2 ho)] at gone
      cases gone
  · intro hn service replica gap
    rw [gauges_iff hk']
    by_cases touched : ∃ service' replica', w.Touches s service' replica' ∧
        Series.key service replica = Series.key service' replica'
    · obtain ⟨service', replica', ht, key⟩ := touched
      by_cases set : ∃ r gap', (w.step s).Measures service' r gap' ∧
          Series.key service' replica' = Series.key service' r
      · obtain ⟨r, gap', hm, same⟩ := set
        have hr : w.Touches s service' r := ht.of_measures_step hm
        rw [key, same, get?_step_own hk ha hn hr hm]
        simp only [Option.some.injEq, Series.mk.injEq]
        constructor
        · rintro ⟨rfl, rfl, rfl⟩
          exact hm
        · intro ho
          obtain ⟨rfl, rfl⟩ := eq_of_not_intrudes hn hr hm ho (same.symm.trans key.symm)
          exact ⟨rfl, rfl, hm.unique ho⟩
      · rw [key, get?_step_unmeasured ht fun r gap' hm same => set ⟨r, gap', hm, same⟩]
        refine ⟨nofun, fun ho => absurd ?_ hn⟩
        refine ⟨service', replica', service, replica, gap, ht, ho, key.symm, .inl fun own => ?_⟩
        subst own
        exact set ⟨replica, gap, ho, key.symm⟩
    · have other : ∀ service' replica', w.Touches s service' replica' →
          Series.key service replica ≠ Series.key service' replica' :=
        fun service' replica' ht key => touched ⟨service', replica', ht, key⟩
      have untouched : ¬ w.Touches s service replica := fun ht => other _ _ ht rfl
      rw [get?_step_other other, measures_step untouched, ← gauges_iff hk]
      exact ha service replica gap

end ManagedDatabase.Watcher
