/-
A password that was stored is the one that is read. The server merges the change into the Secret and puts
the text under `data`, where it comes before anything else; all other entries stay as they are. So after
one store with success (`Session.stored_spec`), or several, the next session has the password that was
stored last (`Session.last_stored_password_is_read`).
-/
import ManagedDatabase.Proofs.Kubernetes.ApiServer
import ManagedDatabase.Proofs.Session.Publishing

namespace ManagedDatabase

open Kubernetes (Registry SameBesides)

/-- The requests that were sent between two worlds, each with the answer that it got. -/
def World.exchanges (w v : World) : List (Kubernetes.Request × Kubernetes.Answer) :=
  (v.requests.drop w.requests.length).mapIdx fun i r => (r, w.answers.getD i .missing)

namespace Session

/-- Where the Secret of a cluster is kept. -/
def secretPath (d : Descriptor) : String := (Credentials.lookup d).path

variable {d : Descriptor} {s : Session} {known password : String} {docs after : Registry}

theorem storing_path (own : s.descriptor = d) (read : s.credentials = .ofPassword d known)
    {t : Target} (sendable : (s.storing password).target = .ok t) :
    (s.storing password).path = secretPath d ∧ ∃ t', (Credentials.lookup d).target = .ok t' := by
  have place : (s.storing password).resource = (Credentials.lookup d).resource := by
    rw [storing, read, own]
    rfl
  have question : Target.ofText ((Credentials.lookup d).resource ++ "?") = .ok t := by
    rw [← place]
    exact sendable
  obtain ⟨t', target, same⟩ := Target.of_ofText_question question
  have target : (Credentials.lookup d).target = .ok t' := target
  refine ⟨?_, t', target⟩
  simp only [secretPath, Kubernetes.Request.path, sendable, target, same]

theorem exchanges_stored {w v : World} (stored : (s.setCredentials password).attempt w = (.ok (), v)) :
    s.Stored password w ∧
      w.exchanges v = [(s.storing password, w.answers.headD .missing)] := by
  obtain ⟨result, v', sent, ran, deeds, -, sendable, success⟩ := s.setCredentials_spec password w
  obtain ⟨rfl, rfl⟩ := Prod.mk.inj (ran.symm.trans stored)
  have kept := success.1 rfl
  obtain rfl := sendable.2 kept.1
  have requested : v'.requests = w.requests ++ [s.storing password] :=
    (@World.of_deeds v' w [] [s.storing password] (by rw [deeds, List.map_nil, List.append_nil])).2
  refine ⟨kept, ?_⟩
  simp only [World.exchanges, requested, List.drop_left, List.mapIdx_cons, List.mapIdx_nil,
    w.headD_answers]

/-- The server holds a password of a cluster, where it can be looked up. -/
structure Holds (d : Descriptor) (password : String) (docs : Registry) : Prop where
  sendable : ∃ t, (Credentials.lookup d).target = .ok t
  held : ∃ kept secret, docs (secretPath d) = some kept ∧
    Kubernetes.Secret.ofJson? kept = some secret ∧
    Credentials.password? secret (Credentials.secretRef d).field = some password

/-- Of all that is kept only the entry of the password has changed. -/
structure ChangesPassword (d : Descriptor) (docs after : Registry) : Prop where
  secret : ∃ old new, docs (secretPath d) = some old ∧ after (secretPath d) = some new ∧
    SameBesides (Credentials.secretRef d).field old new
  others : ∀ path, path ≠ secretPath d → after path = docs path

theorem ChangesPassword.trans {between : Registry} (h : ChangesPassword d docs between)
    (k : ChangesPassword d between after) : ChangesPassword d docs after := by
  obtain ⟨old, new, was, is, same⟩ := h.secret
  obtain ⟨new', newer, is', isNow, same'⟩ := k.secret
  obtain rfl : new' = new := Option.some.inj (is'.symm.trans is)
  exact ⟨⟨old, newer, was, isNow, same.trans same'⟩,
    fun path other => (k.others path other).trans (h.others path other)⟩

theorem Holds.resolve (holds : Holds d password docs) {w : World}
    (told : docs.Tells (secretPath d) (w.answers.headD .missing)) :
    ((Credentials.resolve d).attempt w).1 = .ok (.ofPassword d password) := by
  obtain ⟨t, sendable⟩ := holds.sendable
  obtain ⟨kept, secret, found, read, field⟩ := holds.held
  rw [Credentials.attempt_resolve sendable, told.decode? found read]
  show Credentials.ofSecret d (some secret) = _
  rw [Credentials.ofSecret, Option.bind_some, field]

/-- A Secret is kept without `stringData`. -/
def Settled (d : Descriptor) (docs : Registry) : Prop :=
  ∀ kept, docs (secretPath d) = some kept → kept.member? "stringData" = none

theorem ChangesPassword.settled (h : ChangesPassword d docs after) (settled : Settled d docs) :
    Settled d after := by
  intro kept found
  obtain ⟨old, new, was, is, same⟩ := h.secret
  obtain rfl : kept = new := Option.some.inj (found.symm.trans is)
  rw [same.others "stringData" (by decide), settled old was]

/-- The server puts a password that is stored into the Secret of the cluster. -/
theorem carryOut_storing (docs : Registry) (read : s.credentials = .ofPassword d known)
    (path : (s.storing password).path = secretPath d) (place : String) :
    docs.carryOut (s.storing password) place =
      if place = secretPath d then
        (docs place).map fun old => (old.merge (.object
          [("stringData", .object [((Credentials.secretRef d).field, .text password)])])).settled
      else docs place := by
  rw [← path]
  simp only [Registry.carryOut, Kubernetes.Request.body?, storing, read]
  rfl

/-- After a store with success the server holds the password, and nothing else has changed. -/
theorem stored_spec {w v : World} (own : s.descriptor = d) (read : s.credentials = .ofPassword d known)
    (stored : (s.setCredentials password).attempt w = (.ok (), v))
    (served : docs.ServesAll (w.exchanges v) after) (settled : Settled d docs) :
    Holds d password after ∧ ChangesPassword d docs after := by
  obtain ⟨⟨⟨t, sendable⟩, secret, decoded⟩, exchanged⟩ := exchanges_stored stored
  obtain ⟨path, lookedUp⟩ := storing_path own read sendable
  rw [exchanged] at served
  obtain ⟨rfl, new, found, isSecret⟩ := served.single.read decoded
  rw [path] at found
  have carried := carryOut_storing docs read path
  -- the document that was told is that of the cluster's Secret with the change in it
  rw [carried, if_pos rfl] at found
  obtain ⟨old, was, rfl⟩ := Option.map_eq_some_iff.1 found
  have kept := settled old was
  rw [Kubernetes.settled_merge _ _ _ kept] at found isSecret
  have held : docs.carryOut (s.storing password) (secretPath d) =
      some (Kubernetes.withText (Credentials.secretRef d).field password old) := by
    rw [carried, if_pos rfl, found]
  have changed := Kubernetes.sameBesides_withText (Credentials.secretRef d).field password old kept
  refine ⟨⟨lookedUp, _, secret, held, isSecret, Kubernetes.password?_withText _ _ _ isSecret⟩,
    ⟨old, _, was, held, changed⟩, fun place other => ?_⟩
  rw [carried, if_neg other]

/-- Passwords are put into the Secret of a cluster one after the other, each with success, by sessions
that know whatever password, and a server serves the requests for it. -/
inductive Rotation (d : Descriptor) : Registry → List String → Registry → Prop
  | start (docs : Registry) : Rotation d docs [] docs
  | store {docs between after : Registry} {passwords : List String} {s : Session}
      {known password : String} {w v : World} (earlier : Rotation d docs passwords between)
      (own : s.descriptor = d) (read : s.credentials = .ofPassword d known)
      (stored : (s.setCredentials password).attempt w = (.ok (), v))
      (served : between.ServesAll (w.exchanges v) after) :
      Rotation d docs (passwords ++ [password]) after

/-- After a run the server holds the last password, and but for it all is as before. -/
theorem Rotation.spec {passwords : List String} (run : Rotation d docs passwords after)
    (settled : Settled d docs) : passwords = [] ∧ after = docs ∨
      ∃ password, passwords.getLast? = some password ∧ Holds d password after ∧
        ChangesPassword d docs after := by
  induction run with
  | start => exact .inl ⟨rfl, rfl⟩
  | store earlier own read stored served ih =>
    refine .inr ⟨_, List.getLast?_concat, ?_⟩
    rcases ih with ⟨-, rfl⟩ | ⟨-, -, -, changed⟩
    · exact stored_spec own read stored served settled
    · obtain ⟨holds, changes⟩ := stored_spec own read stored served (changed.settled settled)
      exact ⟨holds, changed.trans changes⟩

/-- **The password that was stored last is read.** A server keeps the Secret of a cluster, whatever is in
it, and passwords are stored there, one or more, each with success. Then whoever resolves the credentials
of the cluster, and is told what the server keeps, gets the last of them, with the user, Secret and field
of the cluster. In the Secret no entry but that of the field has changed and no member but `data`, and
nothing has changed elsewhere. -/
theorem last_stored_password_is_read {passwords : List String}
    (run : Rotation d docs (passwords ++ [password]) after)
    (settled : ∀ kept, docs (secretPath d) = some kept → kept.member? "stringData" = none) :
    (∀ w : World, after.Tells (secretPath d) (w.answers.headD .missing) →
      ((Credentials.resolve d).attempt w).1 = .ok {
        username := d.engine.adminUser, secret := Credentials.secretRef d, password }) ∧
    (∃ old new, docs (secretPath d) = some old ∧ after (secretPath d) = some new ∧
      SameBesides (Credentials.secretRef d).field old new) ∧
    ∀ path, path ≠ secretPath d → after path = docs path := by
  rcases run.spec settled with ⟨none, -⟩ | ⟨last, same, holds, changes⟩
  · simp at none
  · obtain rfl : password = last := Option.some.inj (List.getLast?_concat.symm.trans same)
    exact ⟨fun w told => holds.resolve told, changes.secret, changes.others⟩

/-- A cluster, and its Secret with a value under the field of the password. -/
def rotated : Descriptor := { engine := .postgresql, ns := "default", name := "db", replicas := 0 }

def secretOf (value : String) : Json :=
  .object [("data", .object [("other", .text "AA=="), ("password", .text value)])]

/-- The server keeps this Secret and nothing else, and tells it. -/
def keeping (value : String) : Registry := fun path =>
  if path = secretPath rotated then some (secretOf value) else none

def telling (value : String) : World := { answers := [.response 200 (secretOf value).compact] }

def knowing (password : String) : Session where
  descriptor := rotated
  topology := {
    masterEndpoint := "kuberlogic-db", replicaEndpoints := [], accessPort := 5432
    replicaPort := 5432, masterLabels := .empty, replicaLabels := .empty }
  credentials := .ofPassword rotated password
  database := ""
  config := {}

theorem secretOf_changed {old new : String}
    (written : Text.Base64.encode (Text.encodeUtf8 password) = new.toList) :
    ((secretOf old).merge (.object [("stringData", .object [("password", .text password)])])).settled =
      secretOf new := by
  rw [Kubernetes.settled_merge _ _ _ rfl, Kubernetes.withText, Json.bytesText, written,
    String.ofList_toList]
  rfl

theorem Rotation.next {passwords : List String} {old new : String}
    (earlier : Rotation rotated docs passwords (keeping old))
    (written : Text.Base64.encode (Text.encodeUtf8 password) = new.toList)
    (text : Json.read? (secretOf new).compact = some (secretOf new))
    (success : (((knowing known).setCredentials password).attempt (telling new)).1 = .ok ()) :
    Rotation rotated docs (passwords ++ [password]) (keeping new) := by
  have stored : ((knowing known).setCredentials password).attempt (telling new) =
      (.ok (), (((knowing known).setCredentials password).attempt (telling new)).2) := by
    rw [← success]
  obtain ⟨⟨⟨t, sendable⟩, -⟩, exchanged⟩ := exchanges_stored stored
  have read : (knowing known).credentials = .ofPassword rotated known := rfl
  have path := (@storing_path rotated _ _ _ rfl read _ sendable).1
  have carried : (keeping old).carryOut ((knowing known).storing password) = keeping new := by
    funext place
    rw [carryOut_storing _ read path]
    by_cases own : place = secretPath rotated
    · rw [if_pos own, keeping, if_pos own, keeping, if_pos own]
      exact congrArg some (secretOf_changed written)
    · rw [if_neg own, keeping, if_neg own, keeping, if_neg own]
  have told : ((keeping old).carryOut ((knowing known).storing password)).Tells
      ((knowing known).storing password).path (.response 200 (secretOf new).compact) := by
    rw [carried, path]
    exact ⟨200, _, secretOf new, rfl, rfl, if_pos rfl, text⟩
  have served : (keeping old).ServesAll
      ((telling new).exchanges (((knowing known).setCredentials password).attempt (telling new)).2)
      (keeping new) := by
    rw [exchanged, ← carried]
    exact .cons (.done told) (.nil _)
  exact @Rotation.store rotated _ _ _ _ (knowing known) known _ _ _ earlier rfl read stored served

/-- Two passwords are put where none could be read, and the second one is read. -/
theorem second_password_is_read :
    ((Credentials.resolve rotated).attempt (telling "dHdv")).1 =
      .ok (.ofPassword rotated "two") := by
  have none : Rotation rotated (keeping "/w==") [] _ := .start _
  have one : Rotation rotated _ ["one"] (keeping "b25l") :=
    @Rotation.next "lost" _ _ _ _ _ none (by decide +kernel) rfl (by decide +kernel)
  have two : Rotation rotated _ ["one", "two"] (keeping "dHdv") :=
    @Rotation.next "one" _ _ _ _ _ one (by decide +kernel) rfl (by decide +kernel)
  have settled : Settled rotated (keeping "/w==") := by
    intro kept found
    obtain rfl := Option.some.inj ((if_pos rfl).symm.trans found)
    rfl
  have told : (keeping "dHdv").Tells (secretPath rotated)
      (.response 200 (secretOf "dHdv").compact) :=
    ⟨200, _, secretOf "dHdv", rfl, rfl, if_pos rfl, rfl⟩
  exact (@last_stored_password_is_read _ "two" _ _ ["one"] two settled).1 _ told

end Session
end ManagedDatabase
