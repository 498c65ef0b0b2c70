/-
Requests that can be sent. The target of a request is made from the names of objects as they are, so
not all names give one. A path of letters, digits, dots and dashes does if it is not too long
(`Target.ofText_inner`). The question mark with which an empty query begins changes neither whether a
text is a target, but for its length, nor where it leads (`Target.ofText_question`,
`Target.of_ofText_question`).
-/
import Mathlib.Data.List.TakeWhile
import ManagedDatabase.Kubernetes.Request

namespace ManagedDatabase

namespace Target

/-- A letter, a digit, a dot or a dash. -/
def isPlain (c : Char) : Bool := c.isAlphanum || c = '-' || c = '.'

/-- A character that may stand in a path and ends neither the path nor the target. -/
def isInner (c : Char) : Bool := isPathChar c && c != '?' && c != '#'

theorem isInner_of_isPlain {c : Char} (plain : isPlain c = true) : isInner c = true := by
  have kinds : isPlain c = ((c.isUpper || c.isLower || c.isDigit) || c = '-' || c = '.') := rfl
  have upper : c.isUpper = decide (c.val ≥ 65 ∧ c.val ≤ 90) := rfl
  have lower : c.isLower = (c.val ≥ 97 && c.val ≤ 122) := rfl
  have digit : c.isDigit = (c.val ≥ 48 && c.val ≤ 57) := rfl
  have range : 48 ≤ c.toNat ∧ c.toNat ≤ 57 ∨ 65 ≤ c.toNat ∧ c.toNat ≤ 90 ∨
      97 ≤ c.toNat ∧ c.toNat ≤ 122 ∨ c.toNat = 45 ∨ c.toNat = 46 := by
    simp only [kinds, upper, lower, digit, Bool.or_eq_true, Bool.and_eq_true, decide_eq_true_eq,
      ge_iff_le, UInt32.le_iff_toNat_le] at plain
    rcases plain with ((h | h) | rfl) | rfl
    · rcases h with h | h
      · exact .inr (.inl h)
      · exact .inr (.inr (.inl h))
    · exact .inl h
    · exact .inr (.inr (.inr (.inl rfl)))
    · exact .inr (.inr (.inr (.inr rfl)))
  have other : ∀ d : Char, d.toNat = 60 ∨ d.toNat = 62 ∨ d.toNat = 96 ∨ d.toNat = 63 ∨ d.toNat = 35 →
      c ≠ d := by
    rintro d hd rfl
    omega
  simp only [isInner, isPathChar, isVisible, Bool.and_eq_true, decide_eq_true_eq, bne_iff_ne]
  exact ⟨⟨⟨⟨⟨by omega, other _ (by decide)⟩, other _ (by decide)⟩, other _ (by decide)⟩,
    other _ (by decide)⟩, other _ (by decide)⟩

/-- A text of inner characters only. -/
def Inner (text : String) : Prop := text.toList.all isInner = true

instance (text : String) : Decidable (Inner text) := inferInstanceAs (Decidable (_ = true))

theorem inner_append {a b : String} : Inner (a ++ b) ↔ Inner a ∧ Inner b := by
  simp only [Inner, String.toList_append, List.all_append, Bool.and_eq_true]

theorem inner_of_plain {text : String} (plain : text.toList.all isPlain = true) : Inner text :=
  List.all_eq_true.2 fun c hc => isInner_of_isPlain (List.all_eq_true.1 plain c hc)

/-- What stands before and behind the first question mark may stand there. -/
def isAllowed (cs : List Char) : Bool :=
  (cs.takeWhile (· != '?')).all isPathChar && ((cs.dropWhile (· != '?')).drop 1).all isQueryChar

theorem ofText_isOk {text : String} : (∃ t, ofText text = .ok t) ↔
    text.utf8ByteSize ≤ maxLength ∧ isAllowed (text.toList.takeWhile (· != '#')) = true := by
  unfold ofText isAllowed
  by_cases size : maxLength < text.utf8ByteSize
  · simp only [size, if_true, reduceCtorEq, exists_false, false_iff, not_and]
    omega
  · simp only [size, if_false]
    split
    · next allowed => exact ⟨fun _ => ⟨by omega, allowed⟩, fun _ => ⟨_, rfl⟩⟩
    · next refused => exact ⟨fun ⟨_, h⟩ => (by cases h), fun h => absurd h.2 refused⟩

theorem path_question (cs : List Char) :
    (cs ++ ['?']).takeWhile (· != '?') = cs.takeWhile (· != '?') := by
  rw [List.takeWhile_append]
  split
  · next whole =>
    have all : cs.takeWhile (· != '?') = cs :=
      (List.takeWhile_prefix _).eq_of_length whole
    rw [all, List.takeWhile_cons_of_neg (by decide), List.append_nil]
  · rfl

theorem isAllowed_question (cs : List Char) : isAllowed (cs ++ ['?']) = isAllowed cs := by
  have query : (((cs ++ ['?']).dropWhile (· != '?')).drop 1).all isQueryChar =
      ((cs.dropWhile (· != '?')).drop 1).all isQueryChar := by
    rw [List.dropWhile_append]
    cases cs.dropWhile (· != '?') with
    | nil => rfl
    | cons c rest =>
      simp only [List.isEmpty_cons, Bool.false_eq_true, if_false, List.cons_append, List.drop_succ_cons,
        List.drop_zero, List.all_append]
      exact Bool.and_true _
  rw [isAllowed, path_question, query, isAllowed]

theorem cut_question (text : String) :
    (text ++ "?").toList.takeWhile (· != '#') = text.toList.takeWhile (· != '#') ++ ['?'] ∨
      (text ++ "?").toList.takeWhile (· != '#') = text.toList.takeWhile (· != '#') := by
  rw [String.toList_append, show "?".toList = ['?'] from rfl, List.takeWhile_append]
  split
  · next whole =>
    have all : text.toList.takeWhile (· != '#') = text.toList :=
      (List.takeWhile_prefix _).eq_of_length whole
    rw [all, List.takeWhile_cons_of_pos (by decide), List.takeWhile_nil]
    exact .inl rfl
  · exact .inr rfl

/-- A text that is a target is one with a question mark behind it as well. -/
theorem ofText_question {text : String} (sendable : ∃ t, ofText text = .ok t)
    (short : text.utf8ByteSize < maxLength) : ∃ t, ofText (text ++ "?") = .ok t := by
  obtain ⟨-, allowed⟩ := ofText_isOk.1 sendable
  refine ofText_isOk.2 ⟨?_, ?_⟩
  · rw [String.utf8ByteSize_append, show "?".utf8ByteSize = 1 from rfl]
    omega
  · rcases cut_question text with cut | cut
    · rw [cut, isAllowed_question, allowed]
    · rw [cut, allowed]

theorem path_ofText {text : String} {t : Target} (h : ofText text = .ok t) :
    t.path = String.ofList ((text.toList.takeWhile (· != '#')).takeWhile (· != '?')) := by
  unfold ofText at h
  split at h
  · cases h
  · dsimp only at h
    split at h
    · cases h
      rfl
    · cases h

/-- Without the question mark behind it a target leads to the same place. -/
theorem of_ofText_question {text : String} {t : Target} (h : ofText (text ++ "?") = .ok t) :
    ∃ t', ofText text = .ok t' ∧ t'.path = t.path := by
  obtain ⟨size, allowed⟩ := ofText_isOk.1 ⟨t, h⟩
  rw [String.utf8ByteSize_append] at size
  have sendable : ∃ t', ofText text = .ok t' := by
    refine ofText_isOk.2 ⟨by omega, ?_⟩
    rcases cut_question text with cut | cut
    · rwa [cut, isAllowed_question] at allowed
    · rwa [cut] at allowed
  obtain ⟨t', h'⟩ := sendable
  refine ⟨t', h', ?_⟩
  rw [path_ofText h, path_ofText h']
  rcases cut_question text with cut | cut
  · rw [cut, path_question]
  · rw [cut]

theorem ofText_inner {path : String} (inner : Inner path) (short : path.utf8ByteSize < maxLength) :
    ∃ t, ofText (path ++ "?") = .ok t := by
  have each : ∀ c ∈ path.toList, (isPathChar c = true ∧ (c != '?') = true) ∧ (c != '#') = true := by
    intro c hc
    simpa only [isInner, Bool.and_eq_true] using List.all_eq_true.1 inner c hc
  have whole : path.toList.takeWhile (· != '#') = path.toList :=
    List.takeWhile_eq_self_iff.2 fun c hc => (each c hc).2
  have first : path.toList.takeWhile (· != '?') = path.toList :=
    List.takeWhile_eq_self_iff.2 fun c hc => (each c hc).1.2
  have rest : path.toList.dropWhile (· != '?') = [] :=
    List.dropWhile_eq_nil_iff.2 fun c hc => (each c hc).1.2
  have allowed : isAllowed path.toList = true := by
    simp only [isAllowed, first, rest, List.drop_nil, List.all_nil, Bool.and_true]
    exact List.all_eq_true.2 fun c hc => (each c hc).1.1
  refine ofText_question (ofText_isOk.2 ⟨by omega, ?_⟩) short
  rw [whole]
  exact allowed

end Target

namespace Kubernetes.Request

/-- An event about a service in a namespace of plain characters can be posted. -/
theorem createEvent_sendable {event : ProbeEvent} {ns : String} (about : event.regarding.ns = some ns)
    (plain : ns.toList.all Target.isPlain = true) (short : ns.utf8ByteSize ≤ 65000) :
    ∃ t, (createEvent event).target = .ok t := by
  have inner : Target.Inner (createEvent event).resource := by
    simp only [resource, collection, about, Option.getD_some, Target.inner_append]
    exact ⟨⟨⟨⟨by decide, by decide⟩, Target.inner_of_plain plain⟩, by decide⟩, by decide⟩
  have size : (createEvent event).resource.utf8ByteSize < Target.maxLength := by
    simp only [resource, collection, about, Option.getD_some, String.utf8ByteSize_append]
    have fixed : "/apis/events.k8s.io/v1".utf8ByteSize = 22 ∧ "/namespaces/".utf8ByteSize = 12 ∧
        "/".utf8ByteSize = 1 ∧ "events".utf8ByteSize = 6 := by decide
    simp only [fixed, Target.maxLength]
    omega
  exact Target.ofText_inner inner size

end Kubernetes.Request
end ManagedDatabase
