/-
Which passwords are read. In a Secret one entry decides, that of the field under `data`, and only where there
is none that under `stringData` (`Decides`). It holds bytes, and the password is the text of which they are
the UTF-8, to the last blank; if they are that of no text there is none, whatever else is in the Secret
(`Credentials.password_is_read_exactly`).

The Secret is what can be read as one, and that hangs on all of its entries: each has to have its shape.
Beyond that the others make no difference.
-/
import ManagedDatabase.Proofs.Kubernetes.ApiServer
import ManagedDatabase.Proofs.Session.Lookup
import Mathlib.Logic.ExistsUnique

namespace ManagedDatabase

namespace Kubernetes

theorem get?_ofMembers {α : Type} (f : Json → α) (key : String) (members : List (String × Json)) :
    (KeyMap.ofList (members.map fun m => (m.1, f m.2))).get? key =
      ((Json.object members).member? key).map f := by
  show _ = ((members.reverse.find? fun m => m.1 == key).map (·.2)).map f
  cases found : members.reverse.find? fun m => m.1 == key with
  | none =>
    rw [Option.map_none, Option.map_none]
    refine KeyMap.get?_eq_none_of_not_mem fun listed => ?_
    obtain ⟨e, entry, rfl⟩ := List.mem_map.1 (KeyMap.mem_keys_ofList.1 listed)
    obtain ⟨m, member, rfl⟩ := List.mem_map.1 entry
    exact absurd (beq_self_eq_true m.1) (List.find?_eq_none.1 found m (List.mem_reverse.2 member))
  | some m =>
    obtain ⟨own, later, before, split, others⟩ := List.find?_eq_some_iff_append.1 found
    obtain rfl : m.1 = key := eq_of_beq own
    have members : members = before.reverse ++ m :: later.reverse := by
      rw [← List.reverse_inj, split]
      simp
    rw [members, List.map_append, List.map_cons, Option.map_some, Option.map_some]
    refine KeyMap.get?_ofList_last fun e listed same => ?_
    obtain ⟨n, member, rfl⟩ := List.mem_map.1 listed
    have other := others n (List.mem_reverse.1 member)
    rw [show n.1 = m.1 from same, beq_self_eq_true] at other
    cases other

theorem Shape.admits_entry {fields : List (String × Shape)} {key field : String} {value : Shape}
    {required : List String} {j v : Json} (accepted : (Shape.record required fields).accepts j = true)
    (known : fields.lookup key = some (.table value)) (held : (partAt key j).member? field = some v) :
    ∃ n, Shape.admits n v value = true := by
  have depth : Json.nestingLimit = 125 + 1 + 1 := rfl
  cases j with
  | object members =>
    rw [← partAt_members] at held
    obtain ⟨es, under, member⟩ := mem_membersAt (Json.mem_of_member? held)
    simp only [Shape.accepts, depth, Shape.admits, Bool.and_eq_true, Shape.admitsMembers_iff] at accepted
    have entries := (accepted.2 _ under _ known).resolve_left (by simp [Json.isNull])
    simp only [Shape.admits, Shape.admitsValues_iff] at entries
    exact ⟨_, entries _ member⟩
  | _ => simp [Shape.accepts, depth, Shape.admits] at accepted

theorem Answer.decode?_eq_some_iff {α : Type} {path : String} {read : Json → Option α} {a : Answer}
    {object : α} : a.decode? path read = .ok (some object) ↔ ∃ status body j,
      a = .response status body ∧ isErrorStatus status = false ∧ Json.read? body = some j ∧
        read j = some object := by
  constructor
  · intro found
    have decoded : a.decode path read = .ok object := by
      unfold decode? at found
      split at found
      · next same => rw [same, ← Option.some.inj (Except.ok.inj found)]
      · split at found <;> cases found
      · cases found
    cases a with
    | transport text => cases decoded
    | absent => cases decoded
    | response status body =>
      unfold decode at decoded
      simp only at decoded
      split at decoded
      · cases decoded
      · next fine =>
        split at decoded
        · next same =>
          obtain ⟨j, text, is⟩ := Option.bind_eq_some_iff.1 same
          exact ⟨status, body, j, rfl, Bool.eq_false_iff.2 fine, text, Except.ok.inj decoded ▸ is⟩
        · cases decoded
  · intro ⟨status, body, j, answer, fine, text, is⟩
    subst answer
    simp [decode?, decode, fine, text, is]

end Kubernetes

namespace Credentials

open Kubernetes (partAt)

variable {d : Descriptor} {j : Json} {w : World} {field : String} {bytes : List UInt8}

/-- The API can be asked for the Secret of a cluster, and answers with a document that can be read as one. -/
structure Given (d : Descriptor) (j : Json) (w : World) : Prop where
  sendable : ∃ t, (lookup d).target = .ok t
  answered : ∃ status body, w.answers.headD .missing = .response status body ∧
    Kubernetes.isErrorStatus status = false ∧ Json.read? body = some j
  secret : ∃ secret, Kubernetes.Secret.ofJson? j = some secret

/-- The bytes that decide about the password in a field of a Secret: those whose base64 stands under
`data`, none for a null there, and where nothing stands there the UTF-8 of the text under `stringData`. -/
inductive Decides (j : Json) (field : String) : List UInt8 → Prop
  | data {text : String} {bytes : List UInt8} (held : (partAt "data" j).member? field = some (.text text))
    (form : text.toList = Text.Base64.encode bytes) : Decides j field bytes
  | null (held : (partAt "data" j).member? field = some .null) : Decides j field []
  | stringData {text : String} (missing : (partAt "data" j).member? field = none)
    (held : (partAt "stringData" j).member? field = some (.text text)) : Decides j field (Text.utf8 text)

/-- What a Secret holds in a field is what its document does. -/
theorem entries_of_read {secret : Kubernetes.Secret} (read : Kubernetes.Secret.ofJson? j = some secret)
    (field : String) :
    secret.data.get? field = ((partAt "data" j).member? field).map Kubernetes.bytesOfJson ∧
    secret.stringData.get? field =
      ((partAt "stringData" j).member? field).map (fun v => v.text?.getD "") := by
  unfold Kubernetes.Secret.ofJson? at read
  split at read
  · cases read
    refine ⟨?_, ?_⟩
    · rw [Kubernetes.get?_ofMembers Kubernetes.bytesOfJson, Kubernetes.partAt_members]
    · rw [Kubernetes.get?_ofMembers fun v => v.text?.getD "", Kubernetes.partAt_members]
  · cases read

theorem data_of_read {secret : Kubernetes.Secret} (read : Kubernetes.Secret.ofJson? j = some secret)
    {v : Json} (held : (partAt "data" j).member? field = some v) :
    (∃ text bytes, v = .text text ∧ text.toList = Text.Base64.encode bytes) ∨ v = .null := by
  obtain ⟨n, admitted⟩ := Kubernetes.Shape.admits_entry (Kubernetes.accepts_of_read read) rfl held
  cases v with
  | null => exact .inr rfl
  | text s =>
    simp only [Kubernetes.Shape.admits] at admitted
    obtain ⟨bytes, decoded⟩ := Option.isSome_iff_exists.1 admitted
    exact .inl ⟨s, bytes, rfl, Text.Base64.decode_eq_some_iff.1 decoded⟩
  | _ => simp [Kubernetes.Shape.admits] at admitted

theorem stringData_of_read {secret : Kubernetes.Secret} (read : Kubernetes.Secret.ofJson? j = some secret)
    {v : Json} (held : (partAt "stringData" j).member? field = some v) : ∃ text, v = .text text := by
  obtain ⟨n, admitted⟩ := Kubernetes.Shape.admits_entry (Kubernetes.accepts_of_read read) rfl held
  cases v with
  | text s => exact ⟨s, rfl⟩
  | _ => simp [Kubernetes.Shape.admits] at admitted

/-- Bytes under `data` decide alone, whatever there is beside them. -/
theorem decides_data_iff {text : String} {bytes' : List UInt8}
    (held : (partAt "data" j).member? field = some (.text text))
    (form : text.toList = Text.Base64.encode bytes) : Decides j field bytes' ↔ bytes' = bytes := by
  constructor
  · intro decides
    cases decides with
    | data held' form' =>
      obtain rfl := Json.text.inj (Option.some.inj (held.symm.trans held'))
      have written := form.symm.trans form'
      have read := Text.Base64.decode_encode bytes
      rw [written, Text.Base64.decode_encode] at read
      exact Option.some.inj read
    | null held' => cases held.symm.trans held'
    | stringData missing => cases held.symm.trans missing
  · intro same
    subst same
    exact .data held form

theorem decides_null_iff {bytes' : List UInt8} (held : (partAt "data" j).member? field = some .null) :
    Decides j field bytes' ↔ bytes' = [] := by
  constructor
  · intro decides
    cases decides with
    | data held' => cases held.symm.trans held'
    | null => rfl
    | stringData missing => cases held.symm.trans missing
  · intro same
    subst same
    exact .null held

theorem decides_stringData_iff {bytes' : List UInt8} (missing : (partAt "data" j).member? field = none) :
    Decides j field bytes' ↔
      ∃ text, (partAt "stringData" j).member? field = some (.text text) ∧ bytes' = Text.utf8 text := by
  constructor
  · intro decides
    cases decides with
    | data held => cases missing.symm.trans held
    | null held => cases missing.symm.trans held
    | stringData _ held => exact ⟨_, held, rfl⟩
  · intro ⟨text, held, same⟩
    subst same
    exact .stringData missing held

/-- Of a Secret that can be read some bytes decide, and the password is the text of which they are the UTF-8;
or no bytes do, because there is no entry, and there is no password. -/
theorem decides_of_read {secret : Kubernetes.Secret} (read : Kubernetes.Secret.ofJson? j = some secret)
    (field : String) :
    (∃ bytes, password? secret field = Text.decodeUtf8 bytes ∧
      ∀ bytes', Decides j field bytes' ↔ bytes' = bytes) ∨
    password? secret field = none ∧ (∀ bytes, ¬ Decides j field bytes) ∧
      (partAt "data" j).member? field = none ∧ (partAt "stringData" j).member? field = none := by
  obtain ⟨data, stringData⟩ := entries_of_read read field
  cases held : (partAt "data" j).member? field with
  | some v =>
    rw [held, Option.map_some] at data
    refine .inl ⟨Kubernetes.bytesOfJson v, by rw [password?, data], fun bytes' => ?_⟩
    obtain ⟨text, bytes, rfl, form⟩ | rfl := data_of_read read held
    · have value : Kubernetes.bytesOfJson (.text text) = bytes := by
        simp [Kubernetes.bytesOfJson, Json.text?, form, Text.Base64.decode_encode]
      rw [value, decides_data_iff held form]
    · exact decides_null_iff held
  | none =>
    rw [held, Option.map_none] at data
    cases beside : (partAt "stringData" j).member? field with
    | some v =>
      obtain ⟨text, rfl⟩ := stringData_of_read read beside
      have password : password? secret field = some text := by
        rw [password?, data, stringData, beside]
        rfl
      refine .inl ⟨Text.utf8 text, ?_, fun bytes' => ?_⟩
      · rw [password, Text.decodeUtf8_eq_some_iff.2 rfl]
      · rw [decides_stringData_iff held, beside]
        simp
    | none =>
      refine .inr ⟨?_, fun bytes decides => ?_, rfl, rfl⟩
      · rw [password?, data, stringData, beside]
        rfl
      · obtain ⟨text, there, -⟩ := (decides_stringData_iff held).1 decides
        cases beside.symm.trans there

theorem Given.result (given : Given d j w) : ∃ secret, Kubernetes.Secret.ofJson? j = some secret ∧
    ((resolve d).attempt w).1 = ofSecret d (some secret) := by
  obtain ⟨t, sendable⟩ := given.sendable
  obtain ⟨status, body, answer, fine, text⟩ := given.answered
  obtain ⟨secret, read⟩ := given.secret
  have found := (@Kubernetes.Answer.decode?_eq_some_iff _ (lookup d).path _ _ _).2
    ⟨status, body, j, answer, fine, text, read⟩
  refine ⟨secret, read, ?_⟩
  rw [attempt_resolve sendable, found]
  rfl

theorem ofSecret_eq_ok_iff {secret : Kubernetes.Secret} {p : String} :
    ofSecret d (some secret) = .ok (ofPassword d p) ↔ password? secret (secretRef d).field = some p := by
  unfold ofSecret
  rw [Option.bind_some]
  cases password? secret (secretRef d).field with
  | none => simp
  | some q => simp [ofPassword]

/-- Credentials are only read from a Secret that was given. -/
theorem given_of_resolve {p : String} (resolved : ((resolve d).attempt w).1 = .ok (ofPassword d p)) :
    ∃ j, Given d j w := by
  obtain ⟨-, t, sendable⟩ :=
    @of_resolve d (ofPassword d p) w ((resolve d).attempt w).2 (Prod.ext resolved rfl)
  rw [attempt_resolve sendable] at resolved
  cases decoded : (w.answers.headD .missing).decode? (lookup d).path Kubernetes.Secret.ofJson? with
  | error f =>
    rw [decoded] at resolved
    cases resolved
  | ok found =>
    rw [decoded] at resolved
    change ofSecret d found = _ at resolved
    cases found with
    | none => cases resolved
    | some secret =>
      obtain ⟨status, body, j, answer, fine, text, read⟩ := Kubernetes.Answer.decode?_eq_some_iff.1 decoded
      exact ⟨j, ⟨t, sendable⟩, ⟨status, body, answer, fine, text⟩, secret, read⟩

/-- Of a Secret that is given, the bytes that decide give the password that they are the UTF-8 of, or there
is none. -/
theorem Given.cases (given : Given d j w) :
    (∃ bytes, (∀ bytes', Decides j (secretRef d).field bytes' ↔ bytes' = bytes) ∧
      (∀ p, ((resolve d).attempt w).1 = .ok (ofPassword d p) ↔ bytes = Text.utf8 p) ∧
      ((∀ p, bytes ≠ Text.utf8 p) → ((resolve d).attempt w).1 = .error (unavailable d))) ∨
    (∀ bytes, ¬ Decides j (secretRef d).field bytes) ∧
      (partAt "data" j).member? (secretRef d).field = none ∧
      (partAt "stringData" j).member? (secretRef d).field = none ∧
      ((resolve d).attempt w).1 = .error (unavailable d) := by
  obtain ⟨secret, read, result⟩ := given.result
  have failed (none : password? secret (secretRef d).field = none) :
      ((resolve d).attempt w).1 = .error (unavailable d) := by
    rw [result, ofSecret, Option.bind_some, none]
  obtain ⟨bytes, password, decides⟩ | ⟨password, none, data, stringData⟩ :=
    decides_of_read read (secretRef d).field
  · refine .inl ⟨bytes, decides, fun p => ?_, fun other => failed ?_⟩
    · rw [result, ofSecret_eq_ok_iff, password, Text.decodeUtf8_eq_some_iff]
    · rw [password]
      cases decoded : Text.decodeUtf8 bytes with
      | none => rfl
      | some p => exact absurd (Text.decodeUtf8_eq_some_iff.1 decoded) (other p)
  · exact .inr ⟨none, data, stringData, failed password⟩

/-- The entries that decide are the same in two documents. -/
structure SameEntry (field : String) (j j' : Json) : Prop where
  data : (partAt "data" j').member? field = (partAt "data" j).member? field
  stringData : (partAt "data" j).member? field = none →
    (partAt "stringData" j').member? field = (partAt "stringData" j).member? field

theorem SameEntry.symm {j' : Json} (same : SameEntry field j j') : SameEntry field j' j :=
  ⟨same.data.symm, fun missing => (same.stringData (same.data.symm.trans missing)).symm⟩

theorem SameEntry.decides {j' : Json} (same : SameEntry field j j') (decides : Decides j field bytes) :
    Decides j' field bytes := by
  cases decides with
  | data held form => exact .data (same.data.trans held) form
  | null held => exact .null (same.data.trans held)
  | stringData missing held =>
    exact .stringData (same.data.trans missing) ((same.stringData missing).trans held)

theorem SameEntry.result {j' : Json} {w' : World} (same : SameEntry (secretRef d).field j j')
    (given : Given d j w) (given' : Given d j' w') :
    ((resolve d).attempt w').1 = ((resolve d).attempt w).1 := by
  obtain ⟨bytes, decides, read, other⟩ | ⟨none, -, -, failed⟩ := given.cases
  · obtain ⟨bytes', decides', read', other'⟩ | ⟨none', -⟩ := given'.cases
    · obtain rfl : bytes = bytes' := (decides' bytes).1 (same.decides ((decides bytes).2 rfl))
      by_cases text : ∃ p, bytes = Text.utf8 p
      · obtain ⟨p, form⟩ := text
        rw [(read p).2 form, (read' p).2 form]
      · have none : ∀ p, bytes ≠ Text.utf8 p := fun p form => text ⟨p, form⟩
        rw [other none, other' none]
    · exact absurd (same.decides ((decides bytes).2 rfl)) (none' bytes)
  · obtain ⟨bytes', decides', -⟩ | ⟨-, -, -, failed'⟩ := given'.cases
    · exact absurd (same.symm.decides ((decides' bytes').2 rfl)) (none bytes')
    · rw [failed, failed']

/-- **A password is read exactly or not at all.** Credentials with a password are read if and only if a Secret
is given in which the UTF-8 of this password decides. In a Secret that is given either one sequence of bytes
decides, or there is no entry in either place and the password is unavailable. The bytes give the password
that they are the UTF-8 of, and if they are that of no text it is unavailable, whatever else is there: a
Secret with the same entry gives the same, and two that give the same password have the same bytes in it. -/
theorem password_is_read_exactly (d : Descriptor) (w : World) :
    (∀ p, ((resolve d).attempt w).1 = .ok (ofPassword d p) ↔
      ∃ j, Given d j w ∧ Decides j (secretRef d).field (Text.utf8 p)) ∧
    ∀ j, Given d j w →
      ((∃! bytes, Decides j (secretRef d).field bytes) ∨
        (partAt "data" j).member? (secretRef d).field = none ∧
        (partAt "stringData" j).member? (secretRef d).field = none ∧
        ((resolve d).attempt w).1 = .error (unavailable d)) ∧
      (∀ bytes, Decides j (secretRef d).field bytes →
        (∀ p, ((resolve d).attempt w).1 = .ok (ofPassword d p) ↔ bytes = Text.utf8 p) ∧
        ((∀ p, bytes ≠ Text.utf8 p) → ((resolve d).attempt w).1 = .error (unavailable d))) ∧
      ∀ j' w', Given d j' w' →
        (SameEntry (secretRef d).field j j' →
          ((resolve d).attempt w').1 = ((resolve d).attempt w).1) ∧
        ∀ p, ((resolve d).attempt w).1 = .ok (ofPassword d p) →
          ((resolve d).attempt w').1 = .ok (ofPassword d p) →
          ∃ bytes, Decides j (secretRef d).field bytes ∧ Decides j' (secretRef d).field bytes := by
  have decided {j : Json} {w : World} {p : String} (given : Given d j w)
      (read : ((resolve d).attempt w).1 = .ok (ofPassword d p)) :
      Decides j (secretRef d).field (Text.utf8 p) := by
    obtain ⟨bytes, decides, passes, -⟩ | ⟨-, -, -, failed⟩ := given.cases
    · exact (decides _).2 ((passes p).1 read).symm
    · cases failed.symm.trans read
  have exactly {j : Json} {bytes : List UInt8} (given : Given d j w)
      (deciding : Decides j (secretRef d).field bytes) :
      (∀ p, ((resolve d).attempt w).1 = .ok (ofPassword d p) ↔ bytes = Text.utf8 p) ∧
        ((∀ p, bytes ≠ Text.utf8 p) → ((resolve d).attempt w).1 = .error (unavailable d)) := by
    obtain ⟨bytes', decides, read⟩ | ⟨none, -⟩ := given.cases
    · obtain rfl := (decides bytes).1 deciding
      exact read
    · exact absurd deciding (none bytes)
  refine ⟨fun p => ⟨fun read => ?_, ?_⟩, fun j given => ⟨?_, fun bytes => exactly given,
    fun j' w' given' => ⟨fun same => same.result given given', fun p read read' => ?_⟩⟩⟩
  · obtain ⟨j, given⟩ := given_of_resolve read
    exact ⟨j, given, decided given read⟩
  · intro ⟨j, given, deciding⟩
    exact ((exactly given deciding).1 p).2 rfl
  · obtain ⟨bytes, decides, -⟩ | ⟨-, data, stringData, failed⟩ := given.cases
    · exact .inl ⟨bytes, (decides bytes).2 rfl, fun bytes' => (decides bytes').1⟩
    · exact .inr ⟨data, stringData, failed⟩
  · exact ⟨Text.utf8 p, decided given read, decided given' read'⟩

/-- A Secret with a text under `stringData`, and what stands under `data`. -/
def twofold (data : List (String × Json)) : Json :=
  .object [("data", .object data), ("stringData", .object [("password", .text " one ")])]

/-- A cluster whose Secret is answered. -/
def asked : Descriptor := { engine := .postgresql, ns := "default", name := "db", replicas := 0 }

def answering (j : Json) : World := { answers := [.response 200 j.compact] }

theorem given_twofold {data : List (String × Json)}
    (read : Json.read? (twofold data).compact = some (twofold data))
    (secret : (Kubernetes.Secret.ofJson? (twofold data)).isSome) :
    Given asked (twofold data) (answering (twofold data)) := by
  have sendable : (lookup asked).target.isOk = true := by decide +kernel
  refine ⟨?_, ⟨200, _, rfl, rfl, read⟩, Option.isSome_iff_exists.1 secret⟩
  cases target : (lookup asked).target with
  | error reason => simp [target, Except.isOk, Except.toBool] at sendable
  | ok t => exact ⟨t, rfl⟩

/-- Of a Secret with an entry in either place the bytes under `data` decide, none as well as those that are no
UTF-8; without them the text beside decides, with its blanks. -/
theorem data_decides_before_text :
    ((resolve asked).attempt (answering (twofold [("password", .text "")]))).1 = .ok (ofPassword asked "") ∧
      ((resolve asked).attempt (answering (twofold [("password", .text "/w==")]))).1 =
        .error (unavailable asked) ∧
      ((resolve asked).attempt (answering (twofold [("user", .text "/w==")]))).1 =
        .ok (ofPassword asked " one ") := by
  have empty : Given asked (twofold [("password", .text "")]) _ := given_twofold rfl (by decide +kernel)
  have broken : Given asked (twofold [("password", .text "/w==")]) _ := given_twofold rfl (by decide +kernel)
  have beside : Given asked (twofold [("user", .text "/w==")]) _ := given_twofold rfl (by decide +kernel)
  have none : ∀ p, ([0xff] : List UInt8) ≠ Text.utf8 p := by
    intro p same
    have invalid : Text.decodeUtf8 [0xff] = none := by decide +kernel
    cases invalid.symm.trans (Text.decodeUtf8_eq_some_iff.2 same)
  refine ⟨((password_is_read_exactly asked _).1 "").2 ⟨_, empty, .data rfl rfl⟩, ?_,
    ((password_is_read_exactly asked _).1 " one ").2 ⟨_, beside, .stringData rfl rfl⟩⟩
  obtain ⟨-, deciding, -⟩ := (password_is_read_exactly asked _).2 _ broken
  exact (deciding [0xff] (.data rfl rfl)).2 none

end Credentials
end ManagedDatabase
