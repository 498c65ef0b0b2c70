/-
An API server, as far as it is relied on: it keeps documents, each under its path. Asked for one it tells
it. Asked for a change of a Secret it merges the patch into what it keeps (`Json.merge`) and puts the texts
that came under `stringData` under `data`, in base64 (`Json.settled`), and it tells what it keeps then.
An answer that is an error, or none, leaves open whether the change was made.
-/
import ManagedDatabase.Credentials
import ManagedDatabase.Proofs.Text.Base64

namespace ManagedDatabase

namespace Json

/-- Members with a value under a key, in place of all that stood there. -/
def setMember (key : String) (value : Json) (members : List (String × Json)) : List (String × Json) :=
  members.filter (·.1 != key) ++ [(key, value)]

def dropMember (key : String) (members : List (String × Json)) : List (String × Json) :=
  members.filter (·.1 != key)

mutual

/-- A document after a merge patch. What the patch has no object for is replaced, null takes a member
away, and all members that are not named stay. -/
def merge (target : Json) : Json → Json
  | .object patch => .object (mergeMembers target.members patch)
  | patch => patch

def mergeMembers (members : List (String × Json)) : List (String × Json) → List (String × Json)
  | [] => members
  | (key, value) :: rest =>
    let changed :=
      if value.isNull then dropMember key members
      else setMember key (merge (((object members).member? key).getD .null) value) members
    mergeMembers changed rest

end

/-- A text as the bytes of a Secret are written. -/
def bytesText (s : String) : Json := .text (String.ofList (Text.Base64.encode (Text.encodeUtf8 s)))

/-- The entries of a Secret with one more that came as text. -/
def addText (data : List (String × Json)) (entry : String × Json) : List (String × Json) :=
  match entry.2 with
  | .text s => setMember entry.1 (bytesText s) data
  | _ => data

/-- A Secret as it is kept, without `stringData`. -/
def settled (j : Json) : Json :=
  let rest := dropMember "stringData" j.members
  match Kubernetes.membersAt "stringData" j with
  | [] => .object rest
  | texts =>
    .object (setMember "data" (.object (texts.foldl addText (Kubernetes.membersAt "data" j))) rest)

section Members

variable (key : String) (value : Json) (members : List (String × Json))

theorem member?_setMember_self : (object (setMember key value members)).member? key = some value := by
  simp [member?, setMember]

theorem member?_dropMember_self : (object (dropMember key members)).member? key = none := by
  simp [member?, dropMember]

variable {key}

theorem member?_dropMember_other {k : String} (other : k ≠ key) :
    (object (dropMember key members)).member? k = (object members).member? k := by
  simp only [member?, dropMember, ← List.filter_reverse, List.find?_filter]
  congr 2
  funext m
  by_cases h : m.1 = k
  · simp [h, other]
  · simp [h]

theorem member?_setMember_other {k : String} (other : k ≠ key) :
    (object (setMember key value members)).member? k = (object members).member? k := by
  rw [← member?_dropMember_other members other]
  simp only [member?, setMember, dropMember, List.reverse_append, List.reverse_singleton,
    List.singleton_append, List.find?_cons, beq_eq_false_iff_ne.2 other.symm]

end Members

theorem mem_of_member? {key : String} {value : Json} {members : List (String × Json)}
    (found : (object members).member? key = some value) : (key, value) ∈ members := by
  obtain ⟨m, first, rfl⟩ := Option.map_eq_some_iff.1 found
  obtain rfl : m.1 = key := eq_of_beq (List.find?_some first :)
  exact List.mem_reverse.1 (List.mem_of_find?_eq_some first)

theorem member?_object_members (j : Json) (key : String) :
    (object j.members).member? key = j.member? key := by
  cases j <;> rfl

end Json

namespace Kubernetes

/-- The documents that an API server keeps, by their paths. -/
abbrev Registry := String → Option Json

/-- An answer that tells of an error, or none. -/
def Answer.isFailure : Answer → Bool
  | .response status _ => isErrorStatus status
  | _ => true

namespace Registry

/-- What is kept after a request was carried out. -/
def carryOut (docs : Registry) (r : Request) : Registry :=
  match r.body?, r with
  | some patch, .patchSecret _ _ _ _ => fun path =>
    if path = r.path then (docs path).map fun kept => (kept.merge patch).settled else docs path
  | _, _ => docs

/-- The answer that tells the document at a path. -/
def Tells (docs : Registry) (path : String) (a : Answer) : Prop :=
  ∃ status body kept, a = .response status body ∧ isErrorStatus status = false ∧
    docs path = some kept ∧ Json.read? body = some kept

/-- A request gets this answer, and then these documents are kept. -/
inductive Serves (docs : Registry) (r : Request) (a : Answer) : Registry → Prop
  | done (tells : (docs.carryOut r).Tells r.path a) : Serves docs r a (docs.carryOut r)
  | refused (failure : a.isFailure = true) : Serves docs r a docs
  /-- The request was carried out, but the answer does not say so. -/
  | lost (failure : a.isFailure = true) : Serves docs r a (docs.carryOut r)

/-- Requests get their answers one after the other. -/
inductive ServesAll : Registry → List (Request × Answer) → Registry → Prop
  | nil (docs : Registry) : ServesAll docs [] docs
  | cons {docs between after : Registry} {r : Request} {a : Answer} {rest : List (Request × Answer)}
      (first : docs.Serves r a between) (later : ServesAll between rest after) :
      ServesAll docs ((r, a) :: rest) after

variable {α : Type} {docs after : Registry} {r : Request} {a : Answer}

theorem ServesAll.single (served : docs.ServesAll [(r, a)] after) : docs.Serves r a after := by
  cases served with
  | cons first later =>
    cases later
    exact first

theorem Serves.read {read : Json → Option α} {object : α} (served : docs.Serves r a after)
    (decoded : a.decode r.path read = .ok object) : after = docs.carryOut r ∧
      ∃ kept, after r.path = some kept ∧ read kept = some object := by
  have success : a.isFailure = false := by
    cases a with
    | transport | absent => cases decoded
    | response status body =>
      simp only [Answer.decode] at decoded
      split at decoded
      · cases decoded
      · next ok => exact Bool.eq_false_iff.2 ok
  cases served with
  | refused failure | lost failure =>
    rw [failure] at success
    cases success
  | done tells =>
    obtain ⟨status, body, kept, rfl, ok, found, text⟩ := tells
    simp only [Answer.decode, ok, text, Bool.false_eq_true, if_false, Option.bind_some] at decoded
    refine ⟨rfl, kept, found, ?_⟩
    cases hr : read kept with
    | some object' =>
      rw [hr] at decoded
      cases decoded
      rfl
    | none =>
      rw [hr] at decoded
      cases decoded

theorem Tells.decode? {path place : String} {read : Json → Option α} {kept : Json} {object : α}
    (tells : docs.Tells path a) (found : docs path = some kept) (legible : read kept = some object) :
    a.decode? place read = .ok (some object) := by
  obtain ⟨status, body, kept', rfl, ok, found', text⟩ := tells
  obtain rfl : kept' = kept := Option.some.inj (found'.symm.trans found)
  simp only [Answer.decode?, Answer.decode, ok, text, Bool.false_eq_true, if_false, Option.bind_some,
    legible]

end Registry

/-! ## A text put into a Secret -/

/-- Two documents of a Secret that are the same but for the entry of a field. -/
structure SameBesides (field : String) (old new : Json) : Prop where
  entries : ∀ key, key ≠ field → (partAt "data" new).member? key = (partAt "data" old).member? key
  others : ∀ key, key ≠ "data" → new.member? key = old.member? key

theorem SameBesides.trans {field : String} {old new later : Json} (h : SameBesides field old new)
    (k : SameBesides field new later) : SameBesides field old later where
  entries key other := (k.entries key other).trans (h.entries key other)
  others key other := (k.others key other).trans (h.others key other)

/-- A Secret after the change of a field, where nothing has come as text before. -/
def withText (field value : String) (kept : Json) : Json :=
  .object (Json.setMember "data"
    (.object (Json.setMember field (Json.bytesText value) (membersAt "data" kept)))
    (Json.dropMember "stringData" kept.members))

theorem partAt_members (key k : String) (j : Json) :
    (Json.object (membersAt key j)).member? k = (partAt key j).member? k := by
  unfold membersAt partAt
  cases j.present? key with
  | none => rfl
  | some found => exact found.member?_object_members k

section

variable (field value : String) (kept : Json)

/-- Of a Secret without `stringData` the server keeps what is asked for. -/
theorem settled_merge (settled : kept.member? "stringData" = none) :
    (kept.merge (.object [("stringData", .object [(field, .text value)])])).settled =
      withText field value kept := by
  have merged : kept.merge (.object [("stringData", .object [(field, .text value)])]) =
      .object (Json.setMember "stringData" (.object [(field, .text value)]) kept.members) := by
    simp only [Json.merge, Json.mergeMembers, Json.isNull, Bool.false_eq_true, if_false,
      kept.member?_object_members, settled, Option.getD_none]
    rfl
  have texts : membersAt "stringData"
      (.object (Json.setMember "stringData" (.object [(field, .text value)]) kept.members)) =
        [(field, .text value)] := by
    simp only [membersAt, Json.present?, Json.member?_setMember_self, Option.map_some, Option.getD_some,
      Json.members]
  have data : membersAt "data"
      (.object (Json.setMember "stringData" (.object [(field, .text value)]) kept.members)) =
        membersAt "data" kept := by
    simp only [membersAt, Json.present?,
      Json.member?_setMember_other _ kept.members (show "data" ≠ "stringData" by decide),
      kept.member?_object_members]
  have rest : Json.dropMember "stringData"
      (Json.setMember "stringData" (.object [(field, .text value)]) kept.members) =
        Json.dropMember "stringData" kept.members := by
    simp [Json.dropMember, Json.setMember, List.filter_filter]
  rw [merged, Json.settled, texts, data, withText, ← rest]
  rfl

theorem data_withText : (withText field value kept).present? "data" =
    some (.object (Json.setMember field (Json.bytesText value) (membersAt "data" kept))) := by
  simp only [Json.present?, withText, Json.member?_setMember_self]

theorem sameBesides_withText (settled : kept.member? "stringData" = none) :
    SameBesides field kept (withText field value kept) where
  entries key other := by
    rw [partAt, data_withText, Option.getD_some, Json.member?_setMember_other _ _ other, partAt_members]
  others key other := by
    rw [withText, Json.member?_setMember_other _ _ other]
    by_cases text : key = "stringData"
    · rw [text, Json.member?_dropMember_self, settled]
    · rw [Json.member?_dropMember_other _ text, kept.member?_object_members]

/-- The text is the password that is read from the field. -/
theorem password?_withText {secret : Secret}
    (read : Secret.ofJson? (withText field value kept) = some secret) :
    Credentials.password? secret field = some value := by
  have bytes : bytesOfJson (Json.bytesText value) = Text.encodeUtf8 value := by
    simp only [bytesOfJson, Json.bytesText, Json.text?, Option.bind_some, String.toList_ofList,
      Text.Base64.decode_encode, Option.getD_some]
  unfold Secret.ofJson? at read
  split at read
  · cases read
    have data : membersAt "data" (withText field value kept) =
        Json.setMember field (Json.bytesText value) (membersAt "data" kept) := by
      rw [membersAt, data_withText]
      rfl
    have own : (KeyMap.ofList ((membersAt "data" (withText field value kept)).map fun m =>
        (m.1, bytesOfJson m.2))).get? field = some (Text.encodeUtf8 value) := by
      rw [data, Json.setMember, List.map_append, List.map_singleton, bytes]
      exact KeyMap.get?_ofList_last fun e none => by cases none
    rw [Credentials.password?, own]
    exact Text.decodeUtf8_encodeUtf8 value
  · cases read

end

/-! ### Its shape -/

namespace Shape

variable {n : Nat} {ms : List (String × Json)}

theorem admitsMembers_iff {fields : List (String × Shape)} :
    admitsMembers n ms fields = true ↔ ∀ m ∈ ms, ∀ shape, fields.lookup m.1 = some shape →
      (m.2.isNull && shape.nullable) = true ∨ admits n m.2 shape = true := by
  induction ms with
  | nil => simp [admitsMembers]
  | cons m ms ih =>
    obtain ⟨key, j⟩ := m
    rw [admitsMembers, Bool.and_eq_true, ih, List.forall_mem_cons]
    refine and_congr ?_ Iff.rfl
    cases fields.lookup key with
    | none => simp
    | some shape => simp

theorem admitsValues_iff {value : Shape} :
    admitsValues n ms value = true ↔ ∀ m ∈ ms, admits n m.2 value = true := by
  induction ms with
  | nil => simp [admitsValues]
  | cons m ms ih => rw [admitsValues, Bool.and_eq_true, ih, List.forall_mem_cons]

end Shape

theorem mem_membersAt {key : String} {members : List (String × Json)} {e : String × Json}
    (h : e ∈ membersAt key (.object members)) : ∃ es, (key, .object es) ∈ members ∧ e ∈ es := by
  unfold membersAt Json.present? at h
  cases found : (Json.object members).member? key with
  | none => simp [found] at h
  | some j =>
    have mem := Json.mem_of_member? found
    cases j <;> simp [found, Json.members] at h
    exact ⟨_, mem, h⟩

theorem accepts_withText {kept : Json} (secret : Shape.secret.accepts kept = true)
    (field value : String) : Shape.secret.accepts (withText field value kept) = true := by
  have parts : ∃ fields, Shape.secret = .record [] fields ∧
      fields.lookup "data" = some (.table .bytes) := ⟨_, rfl, rfl⟩
  obtain ⟨fields, shape, data⟩ := parts
  have depth : Json.nestingLimit = 125 + 1 + 1 := rfl
  rw [shape] at secret ⊢
  cases kept with
  | object members =>
    simp only [Shape.accepts, depth, withText, Shape.admits, List.all_nil, Bool.true_and,
      Shape.admitsMembers_iff] at secret ⊢
    intro m hm fieldShape known
    rcases List.mem_append.1 hm with old | new
    · exact secret m (List.mem_filter.1 (List.mem_filter.1 old).1).1 fieldShape known
    · obtain rfl := List.mem_singleton.1 new
      obtain rfl := Option.some.inj (known.symm.trans data)
      simp only [Shape.admits, Shape.admitsValues_iff]
      refine .inr fun e he => ?_
      rcases List.mem_append.1 he with old | new
      · obtain ⟨es, mem, he⟩ := mem_membersAt (List.mem_filter.1 old).1
        have entries := (secret _ mem _ data).resolve_left (by simp [Json.isNull])
        simp only [Shape.admits, Shape.admitsValues_iff] at entries
        exact entries e he
      · rw [List.mem_singleton.1 new]
        simp only [Json.bytesText, Shape.admits, String.toList_ofList, Text.Base64.decode_encode,
          Option.isSome_some]
  | _ => simp [Shape.accepts, depth, Shape.admits] at secret

theorem accepts_of_read {kept : Json} {secret : Secret} (read : Secret.ofJson? kept = some secret) :
    Shape.secret.accepts kept = true := by
  unfold Secret.ofJson? at read
  split at read
  · next accepted => exact accepted
  · cases read

theorem legible_withText {kept : Json} {secret : Secret} (read : Secret.ofJson? kept = some secret)
    (field value : String) : ∃ new, Secret.ofJson? (withText field value kept) = some new :=
  ⟨_, if_pos (accepts_withText (accepts_of_read read) field value)⟩

end Kubernetes
end ManagedDatabase
