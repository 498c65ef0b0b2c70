/-
Secrets that differ in the passwords they hold and in nothing else. A password is a text, under `data` in
base64 and under `stringData` as it is. Where one stands for the other, every reader of objects finds the
same: a Secret is accepted or not, and has a password in a field or not, and no other object reads what is
there (`SecretsAlike.service`, `pods`, `event` and `secret`). So the answers of an API that tell such
Secrets are decoded alike (`Answer.Alike.decode`).
-/
import Mathlib.Data.List.Forall2
import ManagedDatabase.Credentials

namespace ManagedDatabase

/-- Lists of entries with the same keys and alike values make maps with alike values. -/
theorem KeyMap.get?_ofList_alike {κ α β : Type} [LT κ] [DecidableEq κ] [DecidableLT κ] [KeyOrder κ]
    {V : α → β → Prop} {es : List (κ × α)} {es' : List (κ × β)}
    (h : List.Forall₂ (fun e e' => e.1 = e'.1 ∧ V e.2 e'.2) es es') (k : κ) :
    Option.Rel V ((ofList es).get? k) ((ofList es').get? k) := by
  suffices grown : ∀ (m : KeyMap κ α) (m' : KeyMap κ β), Option.Rel V (m.get? k) (m'.get? k) →
      Option.Rel V ((es.foldl (fun m e => m.insert e.1 e.2) m).get? k)
        ((es'.foldl (fun m e => m.insert e.1 e.2) m').get? k) from grown _ _ .none
  induction h with
  | nil => exact fun _ _ alike => alike
  | @cons e e' _ _ first _ ih =>
    intro m m' alike
    refine ih (m.insert e.1 e.2) (m'.insert e'.1 e'.2) ?_
    obtain ⟨key, value⟩ := first
    rw [← key]
    by_cases own : k = e.1
    · subst own
      rw [get?_insert_self, get?_insert_self]
      exact .some value
    · rw [get?_insert_other _ _ own, get?_insert_other _ _ own]
      exact alike

theorem rel_of_eq {α : Type} {x x' : Option α} (h : x = x') : Option.Rel Eq x x' := by
  subst h
  cases x with
  | none => exact .none
  | some a => exact .some rfl

/-- Two faults in a relation, or two values in another. -/
inductive SameOutcome {ε α : Type} (E : ε → ε → Prop) (R : α → α → Prop) : Except ε α → Except ε α → Prop
  | ok {a a' : α} (h : R a a') : SameOutcome E R (.ok a) (.ok a')
  | error {f f' : ε} (h : E f f') : SameOutcome E R (.error f) (.error f')

namespace SameOutcome

variable {ε ε' α : Type} {E : ε → ε → Prop} {E' : ε' → ε' → Prop} {R : α → α → Prop} {x x' : Except ε α}

theorem of_eq (same : ∀ f, E f f) (h : x = x') : SameOutcome E Eq x x' := by
  subst h
  cases x with
  | ok _ => exact .ok rfl
  | error _ => exact .error (same _)

theorem mapError (h : SameOutcome E R x x') {f : ε → ε'} (related : ∀ e e', E e e' → E' (f e) (f e')) :
    SameOutcome E' R (x.mapError f) (x'.mapError f) := by
  cases h with
  | ok h => exact .ok h
  | error h => exact .error (related _ _ h)

end SameOutcome

/-- Two faults, the same but for an answer that is not what was asked for. -/
inductive Kubernetes.Fault.Alike : Fault → Fault → Prop
  | same (f : Fault) : Alike f f
  | undecodable (path body body' : String) : Alike (.undecodable path body) (.undecodable path body')

inductive Fault.Alike : Fault → Fault → Prop
  | same (f : Fault) : Alike f f
  | kubernetes {f f' : Kubernetes.Fault} (h : f.Alike f') : Alike (.kubernetes f) (.kubernetes f')

/-- What is told of a fault: its text, its label, whether it may pass, and the kind of a failed
conversation. -/
def Fault.told (f : Fault) : String × String × Bool × Option Sql.Kind :=
  (f.message, f.label, f.isTransient, f.sqlKind?)

theorem Fault.Alike.told {f f' : Fault} (h : f.Alike f') : f.told = f'.told := by
  cases h with
  | same _ => rfl
  | kubernetes h => cases h <;> rfl

namespace Kubernetes

/-! ## Documents -/

/-- A text that holds a password under a member of a Secret. -/
inductive Holds : String → String → Prop
  | data {s password : String} {bytes : List UInt8} (decoded : Text.Base64.decode s.toList = some bytes)
      (legible : Text.decodeUtf8 bytes = some password) : Holds "data" s
  | stringData (s : String) : Holds "stringData" s

/-- Two entries under a member, the same but for a password. -/
inductive EntryAlike (member : String) : String × Json → String × Json → Prop
  | same (e : String × Json) : EntryAlike member e e
  | password (key : String) {s s' : String} (h : Holds member s) (h' : Holds member s') :
    EntryAlike member (key, .text s) (key, .text s')

/-- Two members of a Secret, the same but for passwords. -/
inductive MemberAlike : String × Json → String × Json → Prop
  | same (m : String × Json) : MemberAlike m m
  | entries {member : String} {es es' : List (String × Json)}
      (h : List.Forall₂ (EntryAlike member) es es') :
    MemberAlike (member, .object es) (member, .object es')

/-- Two documents of Secrets, the same but for passwords. -/
inductive SecretsAlike : Json → Json → Prop
  | same (j : Json) : SecretsAlike j j
  | object {ms ms' : List (String × Json)} (h : List.Forall₂ MemberAlike ms ms') :
    SecretsAlike (.object ms) (.object ms')

theorem EntryAlike.key {member : String} {e e' : String × Json} (h : EntryAlike member e e') :
    e.1 = e'.1 := by
  cases h <;> rfl

theorem MemberAlike.key {m m' : String × Json} (h : MemberAlike m m') : m.1 = m'.1 := by
  cases h <;> rfl

theorem EntryAlike.eq_of_none {member : String} {es es' : List (String × Json)}
    (h : List.Forall₂ (EntryAlike member) es es') (none : ¬ ∃ s, Holds member s) : es = es' := by
  refine List.forall₂_eq_eq_eq ▸ h.imp fun e e' alike => ?_
  cases alike with
  | same => rfl
  | password key own _ => exact absurd ⟨_, own⟩ none

theorem Holds.decoded {s : String} (h : Holds "data" s) : ∃ bytes password,
    Text.Base64.decode s.toList = some bytes ∧ Text.decodeUtf8 bytes = some password := by
  generalize own : "data" = member at h
  cases h with
  | data decoded legible => exact ⟨_, _, decoded, legible⟩
  | stringData => exact absurd own (by decide)

theorem Holds.member {member s : String} (h : Holds member s) :
    member = "data" ∨ member = "stringData" := by
  cases h with
  | data _ _ => exact .inl rfl
  | stringData => exact .inr rfl

theorem MemberAlike.other {m m' : String × Json} (h : MemberAlike m m') (data : m.1 ≠ "data")
    (stringData : m.1 ≠ "stringData") : m = m' := by
  cases h with
  | same => rfl
  | entries h =>
    rw [EntryAlike.eq_of_none h]
    rintro ⟨s, holds⟩
    rcases holds.member with own | own
    · exact data own
    · exact stringData own

/-! ## What readers insist on -/

theorem isLegible_text (n : Nat) (s : String) : (Json.text s).isLegible n = true := by
  cases n <;> rfl

section Members

variable {R : String × Json → String × Json → Prop} {ms ms' : List (String × Json)}

theorem member?_alike (h : List.Forall₂ R ms ms') (keys : ∀ m m', R m m' → m.1 = m'.1) (key : String) :
    Option.Rel (fun j j' => R (key, j) (key, j')) ((Json.object ms).member? key)
      ((Json.object ms').member? key) := by
  -- of several members under a key the last one counts, so the lists are taken from behind
  have reversed := List.rel_reverse h
  simp only [Json.member?]
  generalize ms.reverse = rs, ms'.reverse = rs' at reversed
  induction reversed with
  | nil => exact .none
  | @cons m m' _ _ first _ ih =>
    have same := keys m m' first
    by_cases own : m.1 = key
    · simp only [List.find?_cons, ← same, own, BEq.rfl, Option.map_some]
      refine .some ?_
      obtain ⟨k, j⟩ := m
      obtain ⟨k', j'⟩ := m'
      obtain rfl : k = key := own
      obtain rfl : k = k' := same
      exact first
    · simp only [List.find?_cons, ← same, beq_eq_false_iff_ne.2 own]
      exact ih

theorem areMembersLegible_alike (h : List.Forall₂ R ms ms') {n : Nat}
    (same : ∀ m m', R m m' → m.2.isLegible n = m'.2.isLegible n) :
    Json.areMembersLegible n ms = Json.areMembersLegible n ms' := by
  induction h with
  | nil => rfl
  | cons first _ ih => simp only [Json.areMembersLegible, same _ _ first, ih]

theorem admitsValues_alike (h : List.Forall₂ R ms ms') {n : Nat} {shape : Shape}
    (same : ∀ m m', R m m' → Shape.admits n m.2 shape = Shape.admits n m'.2 shape) :
    Shape.admitsValues n ms shape = Shape.admitsValues n ms' shape := by
  induction h with
  | nil => rfl
  | cons first _ ih => simp only [Shape.admitsValues, same _ _ first, ih]

end Members

theorem MemberAlike.isLegible {m m' : String × Json} (h : MemberAlike m m') (n : Nat) :
    m.2.isLegible n = m'.2.isLegible n := by
  cases h with
  | same => rfl
  | entries h =>
    cases n with
    | zero => rfl
    | succ n =>
      refine areMembersLegible_alike h fun e e' alike => ?_
      cases alike with
      | same => rfl
      | password key _ _ => rw [isLegible_text, isLegible_text]

/-- The fields of a record that does not know the members with passwords, or knows them as tables that
admit every password. -/
def Tolerates (fields : List (String × Shape)) : Prop :=
  ∀ member, (∃ s, Holds member s) → fields.lookup member = none ∨
    ∃ value, fields.lookup member = some (.table value) ∧
      ∀ s, Holds member s → ∀ n, Shape.admits n (.text s) value = true

theorem admits_table_alike {member : String} {value : Shape}
    (admitted : ∀ s, Holds member s → ∀ n, Shape.admits n (.text s) value = true)
    {es es' : List (String × Json)} (h : List.Forall₂ (EntryAlike member) es es') :
    ∀ n, Shape.admits n (.object es) (.table value) = Shape.admits n (.object es') (.table value)
  | 0 => by simp only [Shape.admits]
  | n + 1 => by
    simp only [Shape.admits]
    refine admitsValues_alike h fun e e' alike => ?_
    cases alike with
    | same => rfl
    | password key own other => rw [admitted _ own, admitted _ other]

theorem admitsMembers_alike {fields : List (String × Shape)} (known : Tolerates fields) (n : Nat)
    {ms ms' : List (String × Json)} (h : List.Forall₂ MemberAlike ms ms') :
    Shape.admitsMembers n ms fields = Shape.admitsMembers n ms' fields := by
  induction h with
  | nil => rfl
  | cons first _ ih =>
    cases first with
    | same => simp only [Shape.admitsMembers, ih]
    | @entries member es es' h =>
      -- a member that holds no passwords is the same, whatever the record makes of it
      by_cases some : ∃ s, Holds member s
      · rcases known member some with unknown | ⟨value, table, admitted⟩
        · simp only [Shape.admitsMembers, unknown, ih]
        · simp only [Shape.admitsMembers, table, ih, admits_table_alike admitted h, Json.isNull]
      · obtain rfl := EntryAlike.eq_of_none h some
        simp only [Shape.admitsMembers, ih]

theorem any_present_alike (key : String) {ms ms' : List (String × Json)}
    (h : List.Forall₂ MemberAlike ms ms') :
    (ms.any fun m => m.1 == key && !m.2.isNull) = ms'.any fun m => m.1 == key && !m.2.isNull := by
  induction h with
  | nil => rfl
  | cons first _ ih =>
    simp only [List.any_cons, ih]
    cases first <;> rfl

/-- Two Secrets with a password in the same fields. -/
def Secret.Alike (s s' : Secret) : Prop :=
  ∀ field, (Credentials.password? s field).isSome = (Credentials.password? s' field).isSome

namespace SecretsAlike

variable {j j' : Json}

theorem accepts (h : SecretsAlike j j') (required : List String) {fields : List (String × Shape)}
    (known : Tolerates fields) :
    (Shape.record required fields).accepts j = (Shape.record required fields).accepts j' := by
  cases h with
  | same => rfl
  | object h =>
    show (_ && _) = (_ && _)
    rw [admitsMembers_alike known _ h]
    simp only [any_present_alike _ h]

theorem isLegible_others (h : SecretsAlike j j') (keep : String → Bool) (n : Nat) :
    (Json.object (j.members.filter fun m => keep m.1)).isLegible n =
      (Json.object (j'.members.filter fun m => keep m.1)).isLegible n := by
  cases h with
  | same => rfl
  | object h =>
    cases n with
    | zero => rfl
    | succ n =>
      refine areMembersLegible_alike (List.rel_filter ?_ h) fun m m' alike => alike.isLegible n
      intro m m' alike
      show keep m.1 = true ↔ keep m'.1 = true
      rw [alike.key]

theorem member? (h : SecretsAlike j j') (key : String) :
    Option.Rel (fun v v' => MemberAlike (key, v) (key, v')) (j.member? key) (j'.member? key) := by
  cases h with
  | same =>
    cases j.member? key with
    | none => exact .none
    | some v => exact .some (.same _)
  | object h => exact member?_alike h (fun _ _ => MemberAlike.key) key

theorem partAt (h : SecretsAlike j j') {key : String} (data : key ≠ "data")
    (stringData : key ≠ "stringData") : partAt key j = Kubernetes.partAt key j' := by
  have found : j.member? key = j'.member? key := by
    have alike := h.member? key
    generalize j.member? key = v, j'.member? key = v' at alike ⊢
    cases alike with
    | none => rfl
    | some alike => exact congrArg some (Prod.mk.inj (alike.other data stringData)).2
  simp only [Kubernetes.partAt, Json.present?, found]

theorem valuesAt (h : SecretsAlike j j') {key : String} (data : key ≠ "data")
    (stringData : key ≠ "stringData") : j.valuesAt key = j'.valuesAt key := by
  cases h with
  | same => rfl
  | object h =>
    simp only [Json.valuesAt]
    induction h with
    | nil => rfl
    | @cons m m' _ _ first _ ih =>
      by_cases own : m.1 = key
      · obtain rfl := first.other (own ▸ data) (own ▸ stringData)
        simp only [List.filter_cons, own, BEq.rfl, if_true, List.map_cons, ih]
      · simp only [List.filter_cons, ← first.key, beq_eq_false_iff_ne.2 own, Bool.false_eq_true,
          if_false, ih]

theorem entries (h : SecretsAlike j j') (member : String) :
    List.Forall₂ (EntryAlike member) (membersAt member j) (membersAt member j') := by
  have alike := h.member? member
  simp only [membersAt, Json.present?]
  generalize j.member? member = v, j'.member? member = v' at alike ⊢
  cases alike with
  | none => exact .nil
  | some alike =>
    cases alike with
    | same => exact List.forall₂_same.2 fun e _ => .same e
    | entries h => exact h

/-! ## What readers find -/

theorem service (h : SecretsAlike j j') : Service.ofJson? j = Service.ofJson? j' := by
  have accepted : Shape.service.accepts j = Shape.service.accepts j' := by
    refine h.accepts [] ?_
    rintro _ ⟨_, _ | _⟩ <;> exact .inl rfl
  rw [Service.ofJson?, Service.ofJson?, accepted, h.partAt (by decide) (by decide)]

theorem event (h : SecretsAlike j j') : eventOfJson? j = eventOfJson? j' := by
  have accepted : Shape.event.accepts j = Shape.event.accepts j' := by
    refine h.accepts [] ?_
    rintro _ ⟨_, _ | _⟩ <;> exact .inl rfl
  rw [eventOfJson?, eventOfJson?, accepted]

theorem pods (h : SecretsAlike j j') : podsOfJson? j = podsOfJson? j' := by
  have accepted : ∀ item, (Shape.fields [("metadata", .listMetadata), ("items", .list item)]).accepts j =
      (Shape.fields [("metadata", .listMetadata), ("items", .list item)]).accepts j' := by
    intro item
    refine h.accepts [] ?_
    rintro _ ⟨_, _ | _⟩ <;> exact .inl rfl
  have legible := h.isLegible_others (fun key => key != "metadata" && key != "items") Json.nestingLimit
  rw [podsOfJson?, podsOfJson?, listItems?, listItems?, h.valuesAt (by decide) (by decide),
    h.valuesAt (by decide) (by decide), accepted, legible]

/-- A password is found in a field of both or of neither. -/
theorem password? (h : SecretsAlike j j') (field : String) :
    let found (j : Json) : Secret := {
      data := .ofList ((membersAt "data" j).map fun m => (m.1, bytesOfJson m.2))
      stringData := .ofList ((membersAt "stringData" j).map fun m => (m.1, m.2.text?.getD "")) }
    (Credentials.password? (found j) field).isSome = (Credentials.password? (found j') field).isSome := by
  have data : Option.Rel
      (fun bytes bytes' => (Text.decodeUtf8 bytes).isSome = (Text.decodeUtf8 bytes').isSome)
      ((KeyMap.ofList ((membersAt "data" j).map fun m => (m.1, bytesOfJson m.2))).get? field)
      ((KeyMap.ofList ((membersAt "data" j').map fun m => (m.1, bytesOfJson m.2))).get? field) := by
    refine KeyMap.get?_ofList_alike (List.forall₂_map_left_iff.2 (List.forall₂_map_right_iff.2
      ((h.entries "data").imp fun e e' alike => ⟨alike.key, ?_⟩))) field
    cases alike with
    | same => rfl
    | password key own other =>
      obtain ⟨bytes, password, decoded, legible⟩ := own.decoded
      obtain ⟨bytes', password', decoded', legible'⟩ := other.decoded
      simp only [bytesOfJson, Json.text?, Option.bind_some, decoded, decoded', Option.getD_some, legible,
        legible', Option.isSome_some]
  have texts : Option.Rel (fun _ _ => True)
      ((KeyMap.ofList ((membersAt "stringData" j).map fun m => (m.1, m.2.text?.getD ""))).get? field)
      ((KeyMap.ofList ((membersAt "stringData" j').map fun m => (m.1, m.2.text?.getD ""))).get? field) :=
    KeyMap.get?_ofList_alike (List.forall₂_map_left_iff.2 (List.forall₂_map_right_iff.2
      ((h.entries "stringData").imp fun e e' alike => ⟨alike.key, trivial⟩))) field
  simp only [Credentials.password?]
  generalize (KeyMap.ofList ((membersAt "data" j).map _)).get? field = x,
    (KeyMap.ofList ((membersAt "data" j').map _)).get? field = x' at data ⊢
  cases data with
  | some same => exact same
  | none =>
    generalize (KeyMap.ofList ((membersAt "stringData" j).map _)).get? field = y,
      (KeyMap.ofList ((membersAt "stringData" j').map _)).get? field = y' at texts ⊢
    cases texts with
    | none => rfl
    | some _ => rfl

theorem secret (h : SecretsAlike j j') :
    Option.Rel Secret.Alike (Secret.ofJson? j) (Secret.ofJson? j') := by
  have accepted : Shape.secret.accepts j = Shape.secret.accepts j' := by
    refine h.accepts [] ?_
    rintro _ ⟨_, _ | _⟩
    · refine .inr ⟨.bytes, rfl, fun s holds n => ?_⟩
      obtain ⟨bytes, -, decoded, -⟩ := holds.decoded
      simp only [Shape.admits, decoded, Option.isSome_some]
    · exact .inr ⟨.text, rfl, fun _ _ _ => by simp only [Shape.admits]⟩
  unfold Secret.ofJson?
  rw [accepted]
  cases Shape.secret.accepts j' with
  | false => exact .none
  | true => exact .some fun field => h.password? field

end SecretsAlike

/-! ## Answers -/

/-- Two answers of the API, the same but for passwords in a Secret that they tell. -/
inductive Answer.Alike : Answer → Answer → Prop
  | same (a : Answer) : Alike a a
  | secret {status : Nat} {body body' : String} {j j' : Json} (success : isErrorStatus status = false)
      (read : Json.read? body = some j) (read' : Json.read? body' = some j') (h : SecretsAlike j j') :
    Alike (.response status body) (.response status body')

section

variable {α : Type} {R : α → α → Prop} {read : Json → Option α} {a a' : Answer}

/-- Who reads alike documents alike decodes alike answers alike. -/
theorem Answer.Alike.decode (h : a.Alike a')
    (reads : ∀ j j', SecretsAlike j j' → Option.Rel R (read j) (read j')) (path : String) :
    SameOutcome Fault.Alike R (a.decode path read) (a'.decode path read) := by
  have told : ∀ {status body body' j j'}, isErrorStatus status = false → Json.read? body = some j →
      Json.read? body' = some j' → SecretsAlike j j' →
        SameOutcome Fault.Alike R (Answer.decode path read (.response status body))
          (Answer.decode path read (.response status body')) := by
    intro status body body' j j' success text text' alike
    simp only [Answer.decode, success, Bool.false_eq_true, if_false, text, text', Option.bind_some]
    have found := reads j j' alike
    generalize read j = x, read j' = x' at found ⊢
    cases found with
    | none => exact .error (.undecodable path body body')
    | some related => exact .ok related
  cases h with
  | secret success text text' alike => exact told success text text' alike
  | same =>
    cases a with
    | transport _ | absent => exact .error (.same _)
    | response status body =>
      cases failed : isErrorStatus status with
      | true =>
        simp only [Answer.decode, failed, if_true]
        exact .error (.same _)
      | false =>
        cases text : Json.read? body with
        | some j => exact told failed text text (.same j)
        | none =>
          simp only [Answer.decode, failed, text, Bool.false_eq_true, if_false, Option.bind_none]
          exact .error (.same _)

theorem Answer.Alike.decode? (h : a.Alike a')
    (reads : ∀ j j', SecretsAlike j j' → Option.Rel R (read j) (read j')) (path : String) :
    SameOutcome Fault.Alike (Option.Rel R) (a.decode? path read) (a'.decode? path read) := by
  have decoded := h.decode reads path
  unfold Answer.decode?
  generalize a.decode path read = x, a'.decode path read = x' at decoded ⊢
  cases decoded with
  | ok related => exact .ok (.some related)
  | @error f f' alike =>
    cases alike with
    | undecodable => exact .error (.undecodable _ _ _)
    | same =>
      cases f with
      | api s =>
        by_cases absent : s.reason = absentReason
        · simp only [absent, if_true]
          exact .ok .none
        · simp only [absent, if_false]
          exact .error (.same _)
      | _ => exact .error (.same _)

end

end Kubernetes
end ManagedDatabase
