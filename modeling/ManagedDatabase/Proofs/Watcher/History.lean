/-
The watcher's memory over whole histories: reports that come in and services that are forgotten, in
any order. Stored of a service is its last report, unless the service was forgotten since
(`stored_iff`).
-/
import ManagedDatabase.Proofs.Watcher.Series
import Mathlib.Data.List.Basic
import Mathlib.Data.List.Induction

namespace ManagedDatabase.Watcher

/-- What changes the memory of a watcher. -/
inductive Step
  /-- A report of a service comes in. -/
  | record (d : Descriptor) (report : Report)
  /-- All services but the living are forgotten. -/
  | forget (live : List String)

/-- The watcher after a step. -/
def step (w : Watcher) : Step → Watcher
  | .record d report => w.record d.display report
  | .forget live => w.retain live

/-- The watcher after a history, the first step first. -/
def after (now : Moment) (steps : List Step) : Watcher := steps.foldl step (start now)

theorem after_concat (now : Moment) (steps : List Step) (s : Step) :
    after now (steps ++ [s]) = (after now steps).step s := by
  simp [after]

/-! ## The stored reports -/

/-- A step that leaves the report of a service alone: a record of another one, or a forgetting with
the service among the living. -/
def Step.Spares (service : String) : Step → Prop
  | .record d _ => d.display ≠ service
  | .forget live => service ∈ live

/-- In a history a report of a service stands: it is recorded, and all later steps spare the
service. -/
def Stands (steps : List Step) (service : String) (report : Report) : Prop :=
  ∃ before d later, steps = before ++ .record d report :: later ∧ d.display = service ∧
    ∀ s ∈ later, s.Spares service

theorem Stands.mem {steps : List Step} {service : String} {report : Report}
    (h : Stands steps service report) : ∃ d, .record d report ∈ steps ∧ d.display = service := by
  obtain ⟨before, d, later, rfl, hd, -⟩ := h
  exact ⟨d, by simp, hd⟩

theorem stands_concat {steps : List Step} {s : Step} {service : String} {report : Report} :
    Stands (steps ++ [s]) service report ↔
      (∃ d, s = .record d report ∧ d.display = service) ∨
        s.Spares service ∧ Stands steps service report := by
  constructor
  · rintro ⟨before, d, later, h, hd, hl⟩
    rcases later.eq_nil_or_concat' with rfl | ⟨later, t, rfl⟩
    · obtain ⟨-, hs⟩ := List.append_inj' h rfl
      exact .inl ⟨d, by simpa using hs, hd⟩
    · rw [← List.cons_append, ← List.append_assoc] at h
      obtain ⟨rfl, hs⟩ := List.append_inj' h rfl
      obtain rfl : s = t := by simpa using hs
      exact .inr ⟨hl s (by simp), before, d, later, rfl, hd, fun t ht => hl t (by simp [ht])⟩
  · rintro (⟨d, rfl, hd⟩ | ⟨hs, before, d, later, rfl, hd, hl⟩)
    · exact ⟨steps, d, [], rfl, hd, by simp⟩
    · refine ⟨before, d, later ++ [s], by simp, hd, fun t ht => ?_⟩
      rcases List.mem_append.1 ht with ht | ht
      · exact hl t ht
      · obtain rfl := List.mem_singleton.1 ht
        exact hs

theorem get?_reports_record (w : Watcher) (d : Descriptor) (new : Report) (service : String) :
    (w.step (.record d new)).reports.get? service =
      if d.display = service then some new else w.reports.get? service := by
  show (w.reports.insert d.display new).get? service = _
  split
  · next h => rw [h, KeyMap.get?_insert_self]
  · next h => rw [KeyMap.get?_insert_other _ _ (Ne.symm h)]

theorem get?_reports_forget {w : Watcher} {live : List String} {service : String} {report : Report} :
    (w.step (.forget live)).reports.get? service = some report ↔
      service ∈ live ∧ w.reports.get? service = some report := by
  show (w.reports.filter fun s _ => live.contains s).get? service = some report ↔ _
  simp [KeyMap.get?_filter, and_comm]

/-- Stored of a service is exactly the report that stands. -/
theorem stored_iff {now : Moment} {steps : List Step} {service : String} {report : Report} :
    (after now steps).reports.get? service = some report ↔ Stands steps service report := by
  induction steps using List.reverseRecOn with
  | nil => simp [after, start, Stands]
  | append_singleton steps s ih =>
    rw [after_concat, stands_concat, ← ih]
    cases s with
    | record d new =>
      rw [get?_reports_record]
      split <;> simp_all [Step.Spares, eq_comm]
    | forget live => simp [get?_reports_forget, Step.Spares]

end ManagedDatabase.Watcher
