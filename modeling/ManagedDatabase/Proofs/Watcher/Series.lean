/-
What the watcher does to its gauges, series by series. A series is found by one number, and a report
sets it, drops it or leaves it alone. Two replicas may be found by one number; so a report may drop
a series and then set it for another replica, and it is the labels of the series that was there
which stay.

`get?_align_set`, `get?_align_unset` and `get?_align_other` say what a new report does;
`get?_retain_dropped` and `get?_retain_other` say it of forgetting, which sets nothing.
-/
import ManagedDatabase.Watcher.Basic

namespace ManagedDatabase

/-- A series after it was set; one that was there keeps its labels. -/
def Series.reset (old : Option (Series Int64)) (service replica : String) (gap : Int64) :
    Series Int64 :=
  match old with
  | some s => { s with value := gap }
  | none => { service, detail := replica, value := gap }

namespace Metrics

variable {m m' : Metrics} {service replica : String} {number : UInt64}

/-- Every series is found by the number of its own labels. -/
def Keyed (m : Metrics) : Prop :=
  ∀ number t, m.gaps.get? number = some t → number = Series.key t.service t.detail

/-! ## One gauge -/

theorem get?_setGap_self (m : Metrics) (service replica : String) (gap : Int64) :
    (m.setGap service replica gap).gaps.get? (Series.key service replica) =
      some (Series.reset (m.gaps.get? (Series.key service replica)) service replica gap) := by
  simp only [setGap, Series.update, KeyMap.get?_insert_self, Series.reset]
  cases m.gaps.get? (Series.key service replica) <;> rfl

theorem get?_setGap_other (m : Metrics) (gap : Int64) (h : number ≠ Series.key service replica) :
    (m.setGap service replica gap).gaps.get? number = m.gaps.get? number :=
  KeyMap.get?_insert_other _ _ h

theorem get?_dropGap_self (m : Metrics) (service replica : String) :
    (m.dropGap service replica).gaps.get? (Series.key service replica) = none :=
  KeyMap.get?_erase_self _ _

theorem get?_dropGap_other (m : Metrics) (h : number ≠ Series.key service replica) :
    (m.dropGap service replica).gaps.get? number = m.gaps.get? number :=
  KeyMap.get?_erase_other _ h

theorem Keyed.setGap (h : m.Keyed) (service replica : String) (gap : Int64) :
    (m.setGap service replica gap).Keyed := by
  intro number t ht
  by_cases key : number = Series.key service replica
  · subst key
    rw [get?_setGap_self, Option.some.injEq] at ht
    subst ht
    cases old : m.gaps.get? (Series.key service replica) with
    | none => rfl
    | some t => exact h _ t old
  · exact h number t (get?_setGap_other m gap key ▸ ht)

/-! ## Many gauges -/

/-- The metrics without the gauges of some replicas, each with its service. -/
def dropGaps (m : Metrics) (pairs : List (String × String)) : Metrics :=
  pairs.foldl (fun m p => m.dropGap p.1 p.2) m

theorem get?_dropGaps_other : ∀ {pairs : List (String × String)} {m : Metrics},
    (∀ p ∈ pairs, number ≠ Series.key p.1 p.2) →
      (m.dropGaps pairs).gaps.get? number = m.gaps.get? number
  | [], _, _ => rfl
  | p :: pairs, m, h => by
    show ((m.dropGap p.1 p.2).dropGaps pairs).gaps.get? number = _
    rw [get?_dropGaps_other fun q hq => h q (by simp [hq]), get?_dropGap_other _ (h p (by simp))]

theorem get?_dropGaps_mem : ∀ {pairs : List (String × String)} {m : Metrics},
    (∃ p ∈ pairs, number = Series.key p.1 p.2) → (m.dropGaps pairs).gaps.get? number = none
  | [], _, h => by simp at h
  | p :: pairs, m, h => by
    show ((m.dropGap p.1 p.2).dropGaps pairs).gaps.get? number = none
    by_cases later : ∃ q ∈ pairs, number = Series.key q.1 q.2
    · exact get?_dropGaps_mem later
    · have other : ∀ q ∈ pairs, number ≠ Series.key q.1 q.2 := fun q hq hk => later ⟨q, hq, hk⟩
      obtain ⟨q, hq, rfl⟩ := h
      rcases List.mem_cons.1 hq with rfl | hq
      · rw [get?_dropGaps_other other, get?_dropGap_self]
      · exact absurd rfl (other q hq)

theorem get?_dropGaps_eq_some_iff {pairs : List (String × String)} {t : Series Int64} :
    (m.dropGaps pairs).gaps.get? number = some t ↔
      m.gaps.get? number = some t ∧ ∀ p ∈ pairs, number ≠ Series.key p.1 p.2 := by
  by_cases dropped : ∃ p ∈ pairs, number = Series.key p.1 p.2
  · obtain ⟨p, hp, hk⟩ := dropped
    simp only [get?_dropGaps_mem ⟨p, hp, hk⟩, reduceCtorEq, false_iff, not_and]
    exact fun _ apart => apart p hp hk
  · have other : ∀ p ∈ pairs, number ≠ Series.key p.1 p.2 := fun p hp hk => dropped ⟨p, hp, hk⟩
    rw [get?_dropGaps_other other]
    exact ⟨fun found => ⟨found, other⟩, fun h => h.1⟩

theorem Keyed.dropGaps (h : m.Keyed) (pairs : List (String × String)) : (m.dropGaps pairs).Keyed :=
  fun number t ht => h number t (get?_dropGaps_eq_some_iff.1 ht).1

theorem dropGaps_frame : ∀ (pairs : List (String × String)) (m : Metrics),
    m.dropGaps pairs = { m with gaps := (m.dropGaps pairs).gaps }
  | [], _ => rfl
  | p :: pairs, m => dropGaps_frame pairs (m.dropGap p.1 p.2)

/-- The metrics with the gauges of some replicas of a service. -/
def setGaps (m : Metrics) (service : String) (gaps : List (String × Int64)) : Metrics :=
  gaps.foldl (fun m e => m.setGap service e.1 e.2) m

theorem get?_setGaps_other : ∀ {gaps : List (String × Int64)} {m : Metrics},
    (∀ e ∈ gaps, number ≠ Series.key service e.1) →
      (m.setGaps service gaps).gaps.get? number = m.gaps.get? number
  | [], _, _ => rfl
  | e :: gaps, m, h => by
    show ((m.setGap service e.1 e.2).setGaps service gaps).gaps.get? number = _
    rw [get?_setGaps_other fun f hf => h f (by simp [hf]), get?_setGap_other _ _ (h e (by simp))]

/-- A replica that no other one set with it shares its number with has what was set for it. -/
theorem get?_setGaps_mem {gap : Int64} : ∀ {gaps : List (String × Int64)} {m : Metrics},
    gaps.Pairwise (fun a b => a.1 < b.1) → (replica, gap) ∈ gaps →
      (∀ e ∈ gaps, Series.key service e.1 = Series.key service replica → e.1 = replica) →
      (m.setGaps service gaps).gaps.get? (Series.key service replica) =
        some (Series.reset (m.gaps.get? (Series.key service replica)) service replica gap)
  | [], _, _, h, _ => by simp at h
  | e :: gaps, m, hs, h, alone => by
    obtain ⟨he, hs⟩ := List.pairwise_cons.1 hs
    show ((m.setGap service e.1 e.2).setGaps service gaps).gaps.get? _ = _
    rcases List.mem_cons.1 h with rfl | h
    · have later : ∀ f ∈ gaps, Series.key service replica ≠ Series.key service f.1 := fun f hf key =>
        KeyOrder.irrefl replica (alone f (by simp [hf]) key.symm ▸ he f hf)
      rw [get?_setGaps_other later, get?_setGap_self]
    · have first : Series.key service replica ≠ Series.key service e.1 := fun key =>
        KeyOrder.irrefl e.1 ((alone e (by simp) key.symm).symm ▸ he _ h)
      rw [get?_setGaps_mem hs h fun f hf => alone f (by simp [hf]), get?_setGap_other _ _ first]

theorem isSome_get?_setGaps {gaps : List (String × Int64)} {m : Metrics}
    (h : (∃ e ∈ gaps, number = Series.key service e.1) ∨ (m.gaps.get? number).isSome) :
    ((m.setGaps service gaps).gaps.get? number).isSome := by
  induction gaps generalizing m with
  | nil => exact h.resolve_left (by simp)
  | cons e gaps ih =>
    refine ih (m := m.setGap service e.1 e.2) ?_
    by_cases key : number = Series.key service e.1
    · exact .inr (by simp [key, get?_setGap_self])
    · rw [get?_setGap_other _ _ key]
      obtain ⟨f, hf, hk⟩ | set := h
      · rcases List.mem_cons.1 hf with rfl | later
        · exact absurd hk key
        · exact .inl ⟨f, later, hk⟩
      · exact .inr set

theorem setGaps_congr : ∀ {gaps : List (String × Int64)} {m n : Metrics},
    m.gaps.get? number = n.gaps.get? number →
      (m.setGaps service gaps).gaps.get? number = (n.setGaps service gaps).gaps.get? number
  | [], _, _, h => h
  | e :: gaps, m, n, h => by
    refine setGaps_congr (m := m.setGap service e.1 e.2) (n := n.setGap service e.1 e.2) ?_
    by_cases key : number = Series.key service e.1
    · subst key
      rw [get?_setGap_self, get?_setGap_self, h]
    · rw [get?_setGap_other _ _ key, get?_setGap_other _ _ key, h]

/-- A series either has the labels that it had, or those of a replica that was set. -/
theorem labels_setGaps {t : Series Int64} : ∀ {gaps : List (String × Int64)} {m : Metrics},
    (m.setGaps service gaps).gaps.get? number = some t →
      (∃ t₀, m.gaps.get? number = some t₀ ∧ t₀.service = t.service ∧ t₀.detail = t.detail) ∨
        t.service = service ∧ t.detail ∈ gaps.map (·.1)
  | [], _, h => .inl ⟨t, h, rfl, rfl⟩
  | e :: gaps, m, h => by
    obtain ⟨t₀, found, labels⟩ | ⟨own, member⟩ :=
      labels_setGaps (m := m.setGap service e.1 e.2) h
    · by_cases key : number = Series.key service e.1
      · subst key
        rw [get?_setGap_self, Option.some.injEq] at found
        subst found
        cases old : m.gaps.get? (Series.key service e.1) with
        | none =>
          rw [old] at labels
          exact .inr ⟨labels.1.symm, List.mem_cons.2 (.inl labels.2.symm)⟩
        | some t₀ =>
          rw [old] at labels
          exact .inl ⟨t₀, rfl, labels⟩
      · exact .inl ⟨t₀, get?_setGap_other m e.2 key ▸ found, labels⟩
    · exact .inr ⟨own, List.mem_cons_of_mem _ member⟩

theorem Keyed.setGaps (service : String) : ∀ (gaps : List (String × Int64)) {m : Metrics}, m.Keyed →
    (m.setGaps service gaps).Keyed
  | [], _, h => h
  | e :: gaps, _, h => Keyed.setGaps service gaps (h.setGap service e.1 e.2)

theorem setGaps_frame (service : String) : ∀ (gaps : List (String × Int64)) (m : Metrics),
    m.setGaps service gaps = { m with gaps := (m.setGaps service gaps).gaps }
  | [], _ => rfl
  | e :: gaps, m => setGaps_frame service gaps (m.setGap service e.1 e.2)

end Metrics

namespace Watcher

variable {m m' : Metrics} {service replica : String} {number : UInt64} {last : Option Report}
  {report : Report}

/-! ## A report -/

/-- The metrics without the gauges that a report takes away. -/
def cleared (m : Metrics) (service : String) (last : Option Report) (report : Report) : Metrics :=
  m.dropGaps ((unmeasured last report).map (service, ·))

theorem align_eq (m : Metrics) (service : String) (last : Option Report) (report : Report) :
    align m service last report = (cleared m service last report).setGaps service report.gaps.entries := by
  simp only [align, cleared, Metrics.dropGaps, Metrics.setGaps, List.foldl_map]

theorem align_frame (m : Metrics) (service : String) (last : Option Report) (report : Report) :
    align m service last report = { m with gaps := (align m service last report).gaps } := by
  rw [align_eq, Metrics.setGaps_frame, cleared, Metrics.dropGaps_frame]

theorem mem_unmeasured : replica ∈ unmeasured last report ↔
    (∃ r, last = some r ∧ replica ∈ r.replicas.keys) ∧ replica ∉ report.gaps.keys := by
  cases last <;> simp [unmeasured]

theorem get?_cleared_eq_some_iff {t : Series Int64} :
    (cleared m service last report).gaps.get? number = some t ↔ m.gaps.get? number = some t ∧
      ∀ replica ∈ unmeasured last report, number ≠ Series.key service replica := by
  simp [cleared, Metrics.get?_dropGaps_eq_some_iff]

theorem get?_cleared_unmeasured (h : replica ∈ unmeasured last report) :
    (cleared m service last report).gaps.get? (Series.key service replica) = none :=
  Metrics.get?_dropGaps_mem ⟨(service, replica), List.mem_map_of_mem h, rfl⟩

theorem get?_align_set {gap : Int64} (h : report.gaps.get? replica = some gap)
    (alone : ∀ other ∈ report.gaps.keys, Series.key service other = Series.key service replica →
      other = replica) :
    (align m service last report).gaps.get? (Series.key service replica) = some
      (Series.reset ((cleared m service last report).gaps.get? (Series.key service replica))
        service replica gap) := by
  rw [align_eq]
  exact Metrics.get?_setGaps_mem report.gaps.ascending (KeyMap.get?_eq_some_iff.1 h)
    fun e he => alone e.1 (List.mem_map_of_mem he)

theorem isSome_get?_align (h : replica ∈ report.gaps.keys) :
    ((align m service last report).gaps.get? (Series.key service replica)).isSome := by
  obtain ⟨e, he, rfl⟩ := List.mem_map.1 h
  rw [align_eq]
  exact Metrics.isSome_get?_setGaps (.inl ⟨e, he, rfl⟩)

theorem get?_align_unset (h : ∀ replica ∈ report.gaps.keys, number ≠ Series.key service replica) :
    (align m service last report).gaps.get? number =
      (cleared m service last report).gaps.get? number := by
  rw [align_eq]
  exact Metrics.get?_setGaps_other fun e he => h e.1 (List.mem_map_of_mem he)

theorem get?_align_other
    (h : ∀ replica, replica ∈ unmeasured last report ∨ replica ∈ report.gaps.keys →
      number ≠ Series.key service replica) :
    (align m service last report).gaps.get? number = m.gaps.get? number := by
  rw [get?_align_unset fun replica hr => h replica (.inr hr), cleared, Metrics.get?_dropGaps_other]
  intro p hp
  obtain ⟨r, hr, rfl⟩ := List.mem_map.1 hp
  exact h r (.inl hr)

theorem align_congr (h : m.gaps.get? number = m'.gaps.get? number) :
    (align m service last report).gaps.get? number = (align m' service last report).gaps.get? number := by
  rw [align_eq, align_eq]
  refine Metrics.setGaps_congr (Option.ext fun t => ?_)
  rw [get?_cleared_eq_some_iff, get?_cleared_eq_some_iff, h]

/-- A series either has the labels that it had and was not dropped, or those of a replica that was set. -/
theorem labels_align {t : Series Int64} (found : (align m service last report).gaps.get? number = some t) :
    (∃ t₀, m.gaps.get? number = some t₀ ∧ t₀.service = t.service ∧ t₀.detail = t.detail ∧
      ∀ replica ∈ unmeasured last report, number ≠ Series.key service replica) ∨
    t.service = service ∧ t.detail ∈ report.gaps.keys := by
  rw [align_eq] at found
  obtain ⟨t₀, before, labels⟩ | set := Metrics.labels_setGaps found
  · obtain ⟨there, kept⟩ := get?_cleared_eq_some_iff.1 before
    exact .inl ⟨t₀, there, labels.1, labels.2, kept⟩
  · exact .inr set

theorem keyed_align (h : m.Keyed) (service : String) (last : Option Report)
    (report : Report) : (align m service last report).Keyed := by
  rw [align_eq]
  exact (h.dropGaps _).setGaps service _

/-! ## Forgetting -/

/-- The replicas that the reports of forgotten services list, each with its service. -/
def orphans (w : Watcher) (live : List String) : List (String × String) :=
  (w.deleted live).entries.flatMap fun e => e.2.replicas.keys.map (e.1, ·)

theorem metrics_retain (w : Watcher) (live : List String) :
    (w.retain live).metrics = w.metrics.dropGaps (w.orphans live) := by
  simp only [retain, Metrics.dropGaps, orphans, List.foldl_flatMap, List.foldl_map]

theorem mem_orphans {w : Watcher} {live : List String} {service replica : String} :
    (service, replica) ∈ w.orphans live ↔
      service ∉ live ∧
        ∃ report, w.reports.get? service = some report ∧ replica ∈ report.replicas.keys := by
  simp only [orphans, List.mem_flatMap, List.mem_map, Prod.mk.injEq, ← KeyMap.get?_eq_some_iff,
    Prod.exists, deleted, KeyMap.get?_filter, Option.filter_eq_some_iff]
  constructor
  · rintro ⟨s, report, ⟨hr, hs⟩, r, hm, rfl, rfl⟩
    exact ⟨by simpa using hs, report, hr, hm⟩
  · rintro ⟨hs, report, hr, hm⟩
    exact ⟨service, report, ⟨hr, by simpa using hs⟩, replica, hm, rfl, rfl⟩

theorem get?_retain_dropped {w : Watcher} {live : List String}
    (h : (service, replica) ∈ w.orphans live) :
    (w.retain live).metrics.gaps.get? (Series.key service replica) = none := by
  rw [metrics_retain]
  exact Metrics.get?_dropGaps_mem ⟨(service, replica), h, rfl⟩

theorem get?_retain_other {w : Watcher} {live : List String} {number : UInt64}
    (h : ∀ p ∈ w.orphans live, number ≠ Series.key p.1 p.2) :
    (w.retain live).metrics.gaps.get? number = w.metrics.gaps.get? number := by
  rw [metrics_retain]
  exact Metrics.get?_dropGaps_other h

end Watcher
end ManagedDatabase
