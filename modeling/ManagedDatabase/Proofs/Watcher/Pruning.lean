/-
Forgetting services that are gone. A service stays if the store has an object of its namespace and name;
of any other the report goes and with it every series, because a series is always that of a replica which
the stored report lists (`Reachable.rooted`). Nothing else goes but the series that are found by the number of
such a replica (`Orphaned`), and a series of a service that stays may be one of these
(`pruning_takes_a_living_series`). Where it is not, a report that comes in may as well come in before
services are forgotten (`forget_record_iff`).
-/
import ManagedDatabase.Proofs.Session.AddressReading
import ManagedDatabase.Proofs.Watcher.Idle
import ManagedDatabase.Proofs.Watcher.Overlap

namespace ManagedDatabase

/-! ## Names of services -/

/-- A namespace without a slash ends where the first slash of the name of a service stands. -/
theorem serviceKey_inj {ns ns' name name' : String} (plain : '/' ∉ ns.toList) (plain' : '/' ∉ ns'.toList) :
    serviceKey ns name = serviceKey ns' name' ↔ ns = ns' ∧ name = name' := by
  refine ⟨fun same => ?_, fun ⟨ns, name⟩ => by rw [ns, name]⟩
  have cut {ns : String} (name : String) (plain : '/' ∉ ns.toList) :
      Dsn.cutFirst '/' (serviceKey ns name).toList = some (ns.toList, name.toList) := by
    rw [serviceKey, String.toList_append, String.toList_append, List.append_assoc]
    exact Dsn.cutFirst_append name.toList plain
  have cuts := (cut name plain).symm.trans (same ▸ cut name' plain')
  rw [Option.some.injEq, Prod.mk.injEq] at cuts
  exact ⟨String.toList_injective cuts.1, String.toList_injective cuts.2⟩

theorem ManagedService.key?_eq_some_iff {s : ManagedService} {key : String} :
    s.key? = some key ↔ ∃ ns, s.ns = some ns ∧ key = serviceKey ns s.shownName := by
  simp only [key?, Option.map_eq_some_iff, @eq_comm _ key]

namespace Roster

variable {r : Roster}

/-- The store has an object of a namespace and a name. -/
def Has (r : Roster) (ns name : String) : Prop := ∃ s ∈ r.services, s.ns = some ns ∧ s.shownName = name

/-- No namespace of an object in the store has a slash. -/
def Plain (r : Roster) : Prop := ∀ s ∈ r.services, ∀ ns, s.ns = some ns → '/' ∉ ns.toList

theorem mem_keys {key : String} : key ∈ r.keys ↔ ∃ ns name, r.Has ns name ∧ key = serviceKey ns name := by
  simp only [keys, List.mem_filterMap, ManagedService.key?_eq_some_iff]
  constructor
  · rintro ⟨s, stored, ns, given, rfl⟩
    exact ⟨ns, s.shownName, ⟨s, stored, given, rfl⟩, rfl⟩
  · rintro ⟨ns, name, ⟨s, stored, given, rfl⟩, rfl⟩
    exact ⟨s, stored, ns, given, rfl⟩

theorem mem_keys_iff_has {ns name : String} (plain : r.Plain) (own : '/' ∉ ns.toList) :
    serviceKey ns name ∈ r.keys ↔ r.Has ns name := by
  rw [mem_keys]
  constructor
  · rintro ⟨ns', name', has, same⟩
    obtain ⟨s, stored, given, named⟩ := has
    obtain ⟨rfl, rfl⟩ := (serviceKey_inj own (plain s stored ns' given)).1 same
    exact ⟨s, stored, given, named⟩
  · exact fun has => ⟨ns, name, has, rfl⟩

theorem mem_keys_remove {s : ManagedService} {ns key : String} (plain : r.Plain) (given : s.ns = some ns)
    (own : '/' ∉ ns.toList) :
    key ∈ (r.remove s).keys ↔ key ∈ r.keys ∧ key ≠ serviceKey ns s.shownName := by
  have isSame {t : ManagedService} : t.isSame s = true ↔ t.ns = some ns ∧ t.shownName = s.shownName := by
    simp only [ManagedService.isSame, given, Bool.and_eq_true, decide_eq_true_eq]
  simp only [keys, remove, List.mem_filterMap, List.mem_filter, ManagedService.key?_eq_some_iff,
    Bool.not_eq_true', ← Bool.not_eq_true, isSame]
  constructor
  · rintro ⟨t, ⟨stored, other⟩, ns', given', rfl⟩
    refine ⟨⟨t, stored, ns', given', rfl⟩, fun same => other ?_⟩
    obtain ⟨rfl, named⟩ := (serviceKey_inj (plain t stored ns' given') own).1 same
    exact ⟨given', named⟩
  · rintro ⟨⟨t, stored, ns', given', rfl⟩, other⟩
    refine ⟨t, ⟨stored, fun ⟨same, named⟩ => other ?_⟩, ns', given', rfl⟩
    obtain rfl : ns' = ns := Option.some.inj (given'.symm.trans same)
    rw [named]

end Roster

namespace Watcher

variable {w : Watcher} {live : List String} {number : UInt64} {d : Descriptor} {report : Report}

/-! ## Forgetting -/

/-- A number is that of a replica which the stored report of a service lists that is not among the
living. -/
def Orphaned (w : Watcher) (live : List String) (number : UInt64) : Prop :=
  ∃ service replica, w.Touches (.forget live) service replica ∧ number = Series.key service replica

theorem get?_forget_orphaned (orphaned : w.Orphaned live number) :
    (w.step (.forget live)).metrics.gaps.get? number = none := by
  obtain ⟨service, replica, touched, rfl⟩ := orphaned
  exact get?_retain_dropped (mem_orphans.2 touched)

theorem get?_forget_kept (kept : ¬ w.Orphaned live number) :
    (w.step (.forget live)).metrics.gaps.get? number = w.metrics.gaps.get? number :=
  get?_step_other fun service replica touched same => kept ⟨service, replica, touched, same⟩

/-- The series after some services were forgotten are those that are not orphaned. -/
theorem series_forget_iff {t : Series Int64} :
    (w.step (.forget live)).metrics.gaps.get? number = some t ↔
      w.metrics.gaps.get? number = some t ∧ ¬ w.Orphaned live number := by
  by_cases orphaned : w.Orphaned live number
  · simp [get?_forget_orphaned orphaned, orphaned]
  · simp [get?_forget_kept orphaned, orphaned]

theorem reports_forget (w : Watcher) (live : List String) (service : String) :
    (w.step (.forget live)).reports.get? service =
      if service ∈ live then w.reports.get? service else none := by
  refine Option.ext fun report => get?_reports_forget.trans ?_
  split <;> simp_all

/-- The two states differ in nothing but reports and gauges. -/
structure Akin (w w' : Watcher) : Prop where
  lastEvent : w.lastEvent = w'.lastEvent
  counters : w.metrics.counters = w'.metrics.counters

theorem akin_step (w : Watcher) (s : Step) : (w.step s).Akin w := by
  cases s with
  | record d report => exact ⟨rfl, counters_record w d.display report⟩
  | forget live => exact ⟨rfl, counters_retain w live⟩

theorem Akin.trans {w₁ w₂ w₃ : Watcher} (h : w₁.Akin w₂) (h' : w₂.Akin w₃) : w₁.Akin w₃ :=
  ⟨h.lastEvent.trans h'.lastEvent, h.counters.trans h'.counters⟩

theorem Akin.symm {w₁ w₂ : Watcher} (h : w₁.Akin w₂) : w₂.Akin w₁ := ⟨h.lastEvent.symm, h.counters.symm⟩

theorem Akin.ext {w₁ w₂ : Watcher} (akin : w₁.Akin w₂)
    (reports : ∀ service, w₁.reports.get? service = w₂.reports.get? service)
    (gaps : ∀ number, w₁.metrics.gaps.get? number = w₂.metrics.gaps.get? number) : w₁ = w₂ := by
  obtain ⟨lastEvent, counters⟩ := akin
  have reports := KeyMap.ext reports
  have gaps := KeyMap.ext gaps
  obtain ⟨_, _, probes, failures, _, durations⟩ := w₁
  obtain ⟨_, _, probes', failures', _, durations'⟩ := w₂
  simp only [Metrics.counters, Metrics.mk.injEq] at counters
  simp_all

/-- What is forgotten is forgotten at once. -/
theorem forget_forget (w : Watcher) (live : List String) :
    (w.step (.forget live)).step (.forget live) = w.step (.forget live) := by
  have nothing : ∀ number, ¬ (w.step (.forget live)).Orphaned live number := by
    rintro number ⟨service, replica, ⟨dead, last, stored, -⟩, -⟩
    exact dead (get?_reports_forget.1 stored).1
  refine (akin_step _ _).ext (fun service => ?_) fun number => get?_forget_kept (nothing number)
  simp only [reports_forget]
  split <;> rfl

/-! ## A report that comes in before or after -/

theorem touches_record_other {service replica : String} (apart : service ≠ d.display) :
    (w.step (.record d report)).Touches (.forget live) service replica ↔
      w.Touches (.forget live) service replica := by
  simp only [Touches, get?_reports_record, if_neg (Ne.symm apart)]

/-- A report of a service that is among the living makes no series an orphan. -/
theorem orphaned_record_iff (alive : d.display ∈ live) :
    (w.step (.record d report)).Orphaned live number ↔ w.Orphaned live number := by
  have apart {service : String} (dead : service ∉ live) : service ≠ d.display := fun own => dead (own ▸ alive)
  constructor
  · intro ⟨service, replica, touched, same⟩
    exact ⟨service, replica, (touches_record_other (apart touched.1)).1 touched, same⟩
  · intro ⟨service, replica, touched, same⟩
    exact ⟨service, replica, (touches_record_other (apart touched.1)).2 touched, same⟩

theorem get?_forget_record (alive : d.display ∈ live)
    (apart : ∀ replica ∈ report.gaps.keys, ¬ w.Orphaned live (Series.key d.display replica))
    (number : UInt64) :
    ((w.step (.record d report)).step (.forget live)).metrics.gaps.get? number =
      ((w.step (.forget live)).step (.record d report)).metrics.gaps.get? number := by
  have last : (w.step (.forget live)).reports.get? d.display = w.reports.get? d.display := by
    rw [reports_forget, if_pos alive]
  show _ = (align _ d.display ((w.step (.forget live)).reports.get? d.display) report).gaps.get? number
  rw [last]
  by_cases orphaned : w.Orphaned live number
  · -- the series is gone before the report comes in, which does not set it again
    have unset : ∀ replica ∈ report.gaps.keys, number ≠ Series.key d.display replica :=
      fun replica set own => apart replica set (own ▸ orphaned)
    rw [get?_forget_orphaned ((orphaned_record_iff alive).2 orphaned), get?_align_unset unset]
    refine (Option.eq_none_iff_forall_ne_some.2 fun t found => ?_).symm
    have gone := get?_forget_orphaned orphaned
    rw [(get?_cleared_eq_some_iff.1 found).1] at gone
    cases gone
  · rw [get?_forget_kept (mt (orphaned_record_iff alive).1 orphaned)]
    exact align_congr (get?_forget_kept orphaned).symm

theorem reports_forget_record (alive : d.display ∈ live) (service : String) :
    ((w.step (.record d report)).step (.forget live)).reports.get? service =
      ((w.step (.forget live)).step (.record d report)).reports.get? service := by
  simp only [reports_forget, get?_reports_record]
  by_cases own : d.display = service
  · simp [own ▸ alive, own]
  · simp [own]

/-- A report of a service that is among the living may as well come in before others are forgotten as
after, as long as none of the replicas that it measures has the number of an orphan. -/
theorem forget_record_iff (alive : d.display ∈ live) :
    (w.step (.record d report)).step (.forget live) = (w.step (.forget live)).step (.record d report) ↔
      ∀ replica ∈ report.gaps.keys, ¬ w.Orphaned live (Series.key d.display replica) := by
  constructor
  · intro same replica measured orphaned
    have set : (((w.step (.forget live)).step (.record d report)).metrics.gaps.get?
        (Series.key d.display replica)).isSome := isSome_get?_align measured
    rw [← same, get?_forget_orphaned ((orphaned_record_iff alive).2 orphaned)] at set
    cases set
  · intro apart
    have akin := ((akin_step _ (.forget live)).trans (akin_step w (.record d report))).trans
      ((akin_step _ (.record d report)).trans (akin_step w (.forget live))).symm
    exact akin.ext (reports_forget_record alive) (get?_forget_record alive apart)

/-- Orphans by the report of a service that is not among the living, and by the reports of others. -/
theorem orphaned_dead_iff (dead : d.display ∉ live) : w.Orphaned live number ↔
    (∃ last, w.reports.get? d.display = some last ∧
      ∃ replica ∈ last.replicas.keys, number = Series.key d.display replica) ∨
    ∃ service replica, service ≠ d.display ∧ w.Touches (.forget live) service replica ∧
      number = Series.key service replica := by
  constructor
  · rintro ⟨service, replica, touched, same⟩
    by_cases own : service = d.display
    · subst own
      obtain ⟨-, last, stored, listed⟩ := touched
      exact .inl ⟨last, stored, replica, listed, same⟩
    · exact .inr ⟨service, replica, own, touched, same⟩
  · rintro (⟨last, stored, replica, listed, same⟩ | ⟨service, replica, -, touched, same⟩)
    · exact ⟨d.display, replica, ⟨dead, last, stored, listed⟩, same⟩
    · exact ⟨service, replica, touched, same⟩

/-- After a report of a service that is not among the living, the orphans are the replicas that it lists,
and those that were orphans by the reports of other services. -/
theorem orphaned_record_dead_iff (dead : d.display ∉ live) :
    (w.step (.record d report)).Orphaned live number ↔
      (∃ replica ∈ report.replicas.keys, number = Series.key d.display replica) ∨
      ∃ service replica, service ≠ d.display ∧ w.Touches (.forget live) service replica ∧
        number = Series.key service replica := by
  rw [orphaned_dead_iff dead]
  refine or_congr (by simp [get?_reports_record]) (exists_congr fun service => exists_congr fun replica =>
    and_congr_right fun apart => and_congr_left' (touches_record_other apart))

/-- Of a report of a service that is not among the living nothing is left once services are forgotten, but
the series that are found by the numbers of its replicas are gone. -/
theorem series_forget_record_dead_iff (dead : d.display ∉ live) {t : Series Int64} :
    ((w.step (.record d report)).step (.forget live)).metrics.gaps.get? number = some t ↔
      (w.step (.forget live)).metrics.gaps.get? number = some t ∧
        ∀ replica ∈ report.replicas.keys, number ≠ Series.key d.display replica := by
  rw [series_forget_iff, series_forget_iff, orphaned_record_dead_iff dead, orphaned_dead_iff dead]
  by_cases listed : ∃ replica ∈ report.replicas.keys, number = Series.key d.display replica
  · obtain ⟨replica, member, same⟩ := listed
    exact ⟨fun h => absurd (.inl ⟨replica, member, same⟩) h.2, fun h => absurd same (h.2 replica member)⟩
  · have unlisted : ∀ replica ∈ report.replicas.keys, number ≠ Series.key d.display replica :=
      fun replica member same => listed ⟨replica, member, same⟩
    rw [and_iff_left unlisted, get?_record_unlisted unlisted]
    simp only [listed, false_or, not_or, not_exists, not_and, and_assoc]

theorem reports_forget_record_dead (dead : d.display ∉ live) (service : String) :
    ((w.step (.record d report)).step (.forget live)).reports.get? service =
      (w.step (.forget live)).reports.get? service := by
  simp only [reports_forget, get?_reports_record]
  split
  · next alive => rw [if_neg fun own => dead (by rw [own]; exact alive)]
  · rfl

/-! ## Pruning -/

/-- What has become of a watcher whose store was gone through. -/
structure Pruned (roster : Roster) (before after : Watcher) : Prop where
  reports : ∀ service, after.reports.get? service =
    if service ∈ roster.keys then before.reports.get? service else none
  /-- The series left are those that were there and are not orphaned, as they were. -/
  series : ∀ number t, after.metrics.gaps.get? number = some t ↔
    before.metrics.gaps.get? number = some t ∧ ¬ before.Orphaned roster.keys number
  /-- A service that is gone has no series, whatever its number. -/
  bare : ∀ number t, after.metrics.gaps.get? number = some t → t.service ∈ roster.keys
  /-- Counters and the time of the last event are as they were. -/
  akin : after.Akin before

theorem pruned (reachable : w.Reachable) (roster : Roster) (v : World) :
    Pruned roster w (prune roster w v).1 := by
  have rooted : (w.step (.forget roster.keys)).Rooted := (reachable.step _).rooted
  refine ⟨reports_forget w roster.keys, fun number t => series_forget_iff, fun number t found => ?_,
    akin_step w (.forget roster.keys)⟩
  obtain ⟨report, stored, -⟩ := rooted.listed number t found
  exact (get?_reports_forget.1 stored).1

theorem prune_prune (roster : Roster) (w : Watcher) (v v' : World) :
    prune roster (prune roster w v).1 v' = ((prune roster w v).1, v') := by
  have nothing : ((prune roster w v).1.deleted roster.keys).keys = [] := by
    refine List.eq_nil_iff_forall_not_mem.2 fun service member => ?_
    obtain ⟨report, found⟩ := KeyMap.mem_keys_iff.1 member
    rw [deleted, KeyMap.get?_filter, Option.filter_eq_some_iff] at found
    exact absurd (get?_reports_forget.1 found.1).1 (by simpa using found.2)
  refine Prod.ext (forget_forget w roster.keys) ?_
  show (forgettingLines _ roster.keys).foldl World.log v' = v'
  rw [forgettingLines, nothing]
  rfl

/-- Replicas of services that stay have other numbers than those of services that go, as the stored reports
list them. -/
def Disentangled (w : Watcher) (live : List String) : Prop :=
  ∀ service service' report report' replica replica', service ∈ live → service' ∉ live →
    w.reports.get? service = some report → w.reports.get? service' = some report' →
    replica ∈ report.replicas.keys → replica' ∈ report'.replicas.keys →
    Series.key service replica ≠ Series.key service' replica'

theorem Disentangled.kept (apart : w.Disentangled live) (reachable : w.Reachable) {t : Series Int64}
    (found : w.metrics.gaps.get? number = some t) (alive : t.service ∈ live) : ¬ w.Orphaned live number := by
  rintro ⟨service', replica', ⟨dead, report', stored', listed'⟩, rfl⟩
  obtain ⟨report, stored, listed⟩ := reachable.rooted.listed _ t found
  exact apart _ _ _ _ _ _ alive dead stored stored' listed listed' (reachable.rooted.keyed _ t found).symm

theorem key?_of_describes {s : ManagedService} (valid : s.Describes d) : s.key? = some d.display :=
  ManagedService.key?_eq_some_iff.2 ⟨d.ns, valid.ns, by rw [valid.name, Descriptor.display]⟩

/-- **Pruning forgets what is gone.** Of the services in the store the reports stay, and of the others report and
series go; counters stay, and once is as good as twice. A series of a service that stays does so too if and
only if it is not found by the number of a replica which the report of a service that goes lists, as none
is where these have other numbers than the replicas of services that stay.

Where namespaces have no slash, a service is known by its namespace and name alone, and an object that
leaves the store takes the report of its own service with it and no other. A report of a service in the
store may come in before or after: the reports are the same, and so is everything else if and only if no
replica that it measures has such a number. A report of a service that is not in the store goes when
the store is gone through next, and leaves everything as it was but the series that are found by the
numbers of its replicas. -/
theorem pruning_forgets_the_deleted {watcher : Watcher} (reachable : watcher.Reachable) (roster : Roster)
    (v : World) :
    let after := (prune roster watcher v).1
    (Pruned roster watcher after ∧ ∀ v', prune roster after v' = (after, v')) ∧
    ((∀ number t, watcher.metrics.gaps.get? number = some t → t.service ∈ roster.keys →
        after.metrics.gaps.get? number = some t) ↔
      ∀ number t, watcher.metrics.gaps.get? number = some t → t.service ∈ roster.keys →
        ¬ watcher.Orphaned roster.keys number) ∧
    (watcher.Disentangled roster.keys → ∀ number t, watcher.metrics.gaps.get? number = some t →
      (after.metrics.gaps.get? number = some t ↔ t.service ∈ roster.keys)) ∧
    ((∀ service, service ∈ roster.keys ↔ ∃ ns name, roster.Has ns name ∧ service = serviceKey ns name) ∧
      (∀ s ∈ roster.services, ∀ d, s.Describes d → d.display ∈ roster.keys) ∧
      ∀ ns ns' name name', '/' ∉ ns.toList → '/' ∉ ns'.toList →
        (serviceKey ns name = serviceKey ns' name' ↔ ns = ns' ∧ name = name')) ∧
    (roster.Plain →
      (∀ ns name, '/' ∉ ns.toList → (serviceKey ns name ∈ roster.keys ↔ roster.Has ns name)) ∧
      ∀ s ns, s.ns = some ns → '/' ∉ ns.toList → ∀ service,
        (prune (roster.remove s) watcher v).1.reports.get? service =
          if service = serviceKey ns s.shownName then none else after.reports.get? service) ∧
    (∀ (d : Descriptor) report, d.display ∈ roster.keys →
      let sooner := (prune roster (watcher.record d.display report) v).1
      let later := after.record d.display report
      (∀ service, sooner.reports.get? service = later.reports.get? service) ∧
        (sooner = later ↔
          ∀ replica ∈ report.gaps.keys, ¬ watcher.Orphaned roster.keys (Series.key d.display replica))) ∧
    ∀ (d : Descriptor) report next, d.display ∉ next.keys →
      let cleared := (prune next (after.record d.display report) v).1
      (∀ service, cleared.reports.get? service = (prune next after v).1.reports.get? service) ∧
        (∀ number t, cleared.metrics.gaps.get? number = some t → t.service ≠ d.display) ∧
        ∀ number t, cleared.metrics.gaps.get? number = some t ↔
          (prune next after v).1.metrics.gaps.get? number = some t ∧
            ∀ replica ∈ report.replicas.keys, number ≠ Series.key d.display replica := by
  intro after
  have done : Pruned roster watcher after := pruned reachable roster v
  refine ⟨⟨done, prune_prune roster watcher v⟩, ⟨fun stay number t found alive => ?_,
    fun apart number t found alive => ?_⟩, fun apart number t found => ⟨done.bare number t, fun alive => ?_⟩,
    ⟨fun service => Roster.mem_keys, fun s stored d valid => ?_, fun ns ns' name name' => serviceKey_inj⟩,
    fun plain => ⟨fun ns name => Roster.mem_keys_iff_has plain,
    fun s ns given own service => ?_⟩, fun d report alive => ⟨fun service => ?_, forget_record_iff alive⟩,
    fun d report next dead => ⟨?_, ?_, ?_⟩⟩
  · exact ((done.series number t).1 (stay number t found alive)).2
  · exact (done.series number t).2 ⟨found, apart number t found alive⟩
  · exact (done.series number t).2 ⟨found, apart.kept reachable found alive⟩
  · exact List.mem_filterMap.2 ⟨s, stored, key?_of_describes valid⟩
  · have removed := (pruned reachable (roster.remove s) v).reports service
    rw [removed, done.reports]
    simp only [Roster.mem_keys_remove plain given own]
    by_cases same : service = serviceKey ns s.shownName <;> simp [same]
  · show ((watcher.step (.record d report)).step (.forget roster.keys)).reports.get? service =
      ((watcher.step (.forget roster.keys)).step (.record d report)).reports.get? service
    exact reports_forget_record alive service
  · exact reports_forget_record_dead dead
  · intro number t found own
    have recorded : Reachable (after.step (.record d report)) := (reachable.step (.forget roster.keys)).step _
    exact dead (own ▸ (pruned recorded next v).bare number t found)
  · exact fun number t => series_forget_record_dead_iff dead

/-- Of two services one is gone, and an object without a namespace is no service; the one that is left has
its report and its series, and the other has neither. -/
theorem gone_service_is_forgotten :
    let before := ((start 0).step (.record (inDefault "demo") (single "10.0.0.1" { record := some 1 }))).step
      (.record (inDefault "web") (single "10.0.0.2" { record := some 3 }))
    let after := (prune (.ofList [unspaced, { unspaced with ns := none, name := some "web" }]) before {}).1
    (after.reports.get? "default/demo").isSome ∧ after.reports.get? "default/web" = none ∧
      after.metrics.gaps.get? (Series.key "default/demo" "10.0.0.1") = some ⟨"default/demo", "10.0.0.1", 4⟩ ∧
      ∀ number t, after.metrics.gaps.get? number = some t → t.service ≠ "default/web" := by
  intro before after
  have reachable : before.Reachable := .step (.step (.start 0) (.record (inDefault "demo") _)) _
  obtain ⟨⟨done, -⟩, -⟩ := pruning_forgets_the_deleted reachable
    (.ofList [unspaced, { unspaced with ns := none, name := some "web" }]) {}
  refine ⟨by decide +kernel, (done.reports _).trans (if_neg (by decide)), by decide +kernel, ?_⟩
  intro number t found own
  exact absurd (own ▸ done.bare number t found) (by decide)

/-- A service is gone of which no replica could be read, and with it goes a series of a service that stays. -/
theorem pruning_takes_a_living_series :
    let before := ((start 0).step (.record (inDefault "db") (single "110.0.0.1" { record := some 1 }))).step
      (.record (inDefault "db1") (single "10.0.0.1" { error := some "refused" }))
    let roster : Roster := .ofList [{ unspaced with name := some "db" }]
    before.Reachable ∧ "default/db" ∈ roster.keys ∧
      before.metrics.gaps.get? (Series.key "default/db" "110.0.0.1") = some ⟨"default/db", "110.0.0.1", 4⟩ ∧
      (prune roster before {}).1.metrics.gaps.get? (Series.key "default/db" "110.0.0.1") = none := by
  intro before roster
  have reachable : before.Reachable := .step (.step (.start 0) (.record (inDefault "db") _)) _
  exact ⟨reachable, by decide +kernel⟩

end Watcher
end ManagedDatabase
