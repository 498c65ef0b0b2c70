/-
The Secret follows the server. `Stores` is what the two keep over a run of edits of users, on sessions
for one cluster: the server sets a password with each statement to do so that it answers with
success, and the Secret takes each change that is answered with success, and maybe others. An edit
does one of three things to them (`Edit.effect_apply`): nothing, or it sets a password with the server,
or it sets the administrative one and then puts it into the Secret. So what is published is always a
password that the server has set, and after an edit that succeeded the one that counts
(`secret_follows_server`).
-/
import ManagedDatabase.Proofs.Session.Publishing
import ManagedDatabase.Proofs.Sql.Passwords

namespace ManagedDatabase

namespace Sql

/-- The statements that are answered with success, up to the first one that is not. -/
def answered : List Reply → List String → List String
  | _, [] => []
  | replies, x :: rest =>
    match replies.headD (.answer {}) with
    | .answer _ => x :: answered replies.tail rest
    | _ => []

theorem answered_exchange (e : Engine) : ∀ (replies : List Reply) (texts : List String),
    answered replies (exchange e replies texts).1 = answered replies texts
  | _, [] => rfl
  | replies, x :: rest => by
    have ih := answered_exchange e replies.tail rest
    unfold exchange
    cases hr : replies.headD (.answer {}) with
    | answer a => simp only [Reply.answer?, answered, hr, ih]
    | refuse _ | hang | drop => simp only [Reply.answer?, answered, hr]

namespace Peer

/-- The statements that a server carries out: those it answers with success. -/
def carriedOut (peer : Peer) (texts : List String) : List String :=
  if peer.greeting = .accepted then answered peer.replies texts else []

/-- A server lets the client in and answers its first statement with success. -/
def obliges (peer : Peer) : Bool :=
  match peer.greeting, peer.replies.headD (.answer {}) with
  | .accepted, .answer _ => true
  | _, _ => false

theorem Grants.obliges {peer : Peer} {text : String} {rest : List String}
    (grants : peer.Grants (text :: rest)) : peer.obliges = true := by
  obtain ⟨accepted, all⟩ := grants
  obtain ⟨a, first⟩ := all 0 (by simp)
  have head : peer.replies.headD (.answer {}) = .answer a := List.headD_eq_getD.trans first
  simp only [Peer.obliges, accepted, head]

/-- The first statement is carried out by a server that obliges; the others set no password. -/
theorem passwords_carriedOut {e : Engine} {peer : Peer} {text : String} {rest : List String}
    (others : ∀ x ∈ rest, passwordSet? e x = none) :
    (peer.carriedOut (text :: rest)).filterMap (passwordSet? e) =
      if peer.obliges then (passwordSet? e text).toList else [] := by
  have part : ∀ (replies : List Reply) (texts : List String),
      ∀ x ∈ answered replies texts, x ∈ texts := by
    intro replies texts
    induction texts generalizing replies with
    | nil => simp [answered]
    | cons y texts ih =>
      intro x hx
      unfold answered at hx
      split at hx
      · rcases List.mem_cons.1 hx with rfl | hx
        · exact List.mem_cons_self ..
        · exact List.mem_cons_of_mem _ (ih _ x hx)
      · cases hx
  have none : ∀ replies, (answered replies rest).filterMap (passwordSet? e) = [] := fun replies =>
    List.filterMap_eq_nil_iff.2 fun x hx => others x (part _ _ x hx)
  unfold carriedOut obliges
  cases peer.greeting with
  | accepted =>
    cases hr : peer.replies.headD (.answer {}) with
    | answer a =>
      simp only [answered, hr, List.filterMap_cons, none, if_true]
      cases passwordSet? e text <;> rfl
    | refuse _ | hang | drop =>
      simp only [answered, hr, if_true, List.filterMap_nil, Bool.false_eq_true, if_false]
  | rejected | refused | unresolved | unreachable | hung | dropped => simp

end Peer
end Sql

/-- The administrative user of a cluster as its sessions know it, and where its password is kept. -/
structure Account where
  descriptor : Descriptor
  username : String
  secret : SecretRef

namespace Account

/-- The account of a cluster. -/
def ofDescriptor (d : Descriptor) : Account where
  descriptor := d
  username := d.engine.adminUser
  secret := Credentials.secretRef d

/-- The password that a request puts into the Secret of an account. -/
def published? (a : Account) : Kubernetes.Request → Option String
  | .patchSecret ns name field value =>
    if ns = a.descriptor.ns ∧ name = a.secret.name ∧ field = a.secret.field then some value else none
  | _ => none

end Account

/-- What the server and the Secret of a cluster keep. -/
@[ext]
structure Stores where
  /-- The passwords that the server has set, of whom and to what, the first one first. -/
  passwords : List (String × String) := []
  /-- The password that was last put into the Secret. -/
  published : Option String := none

namespace Stores

/-- The password of a user that counts with the server. -/
def current (st : Stores) (user : String) : Option String :=
  ((st.passwords.filter (·.1 = user)).getLast?).map (·.2)

/-- A change of a Secret is made if it is answered with success, and maybe otherwise. -/
def taken (late : Kubernetes.Answer → Bool) (r : Kubernetes.Request) (answer : Kubernetes.Answer) :
    Bool :=
  (answer.decode r.path Kubernetes.Secret.ofJson?).isOk || late answer

/-- The stores after something was done between two worlds: each connection that was made met one of
the waiting servers, and each request that was sent got one of the waiting answers. -/
def after (a : Account) (late : Kubernetes.Answer → Bool) (w v : World) (st : Stores) : Stores where
  passwords := st.passwords ++
    ((v.connections.drop w.connections.length).mapIdx fun i c =>
      (w.peer i).carriedOut c.statements).flatten.filterMap (Sql.passwordSet? a.descriptor.engine)
  published :=
    ((v.requests.drop w.requests.length).mapIdx fun i r =>
      if taken late r (w.answers.getD i .missing) then a.published? r else none).foldl
        (fun old new => new.or old) st.published

/-- A password that was set last counts for its user, and for others what counted before. -/
theorem current_of_set (old : Stores) {new : Stores} {name password : String}
    (set : new.passwords = old.passwords ++ [(name, password)]) (user : String) :
    new.current user = if name = user then some password else old.current user := by
  unfold current
  rw [set, List.filter_append]
  by_cases same : name = user <;> simp [same]

end Stores

/-! ## Edits -/

/-- An edit of a user on some session for an account. The session may be as old as it likes: what it
knows of the topology and of the password was read when it was built. -/
structure Edit where
  topology : Topology
  known : String
  database : String
  config : SessionConfig
  name : String
  password : String

namespace Edit

variable (a : Account) (late : Kubernetes.Answer → Bool) (edit : Edit) (st : World × Stores)

/-- The session that an edit is made on. -/
def session : Session where
  descriptor := a.descriptor
  topology := edit.topology
  credentials := { username := a.username, secret := a.secret, password := edit.known }
  database := edit.database
  config := edit.config

/-- What comes of an edit, and the world and the stores after it. -/
def apply : Except Fault Unit × World × Stores :=
  let outcome := ((edit.session a).editUser edit.name edit.password).attempt st.1
  (outcome.1, outcome.2, st.2.after a late st.1 outcome.2)

/-- The world and the stores after some edits, the first one first. -/
def run (edits : List Edit) (st : World × Stores) : World × Stores :=
  edits.foldl (fun st edit => (edit.apply a late st).2) st

/-- What an edit can do to the stores. -/
inductive Effect (old : Stores) : Except Fault Unit → Stores → Prop
  /-- The server has not set the password. -/
  | refused (fault : Fault) : Effect old (.error fault) old
  /-- The server has set the password, and the Secret is as it was. -/
  | set (result : Except Fault Unit) (ordinary : result = .ok () → edit.name ≠ a.username) :
    Effect old result { old with passwords := old.passwords ++ [(edit.name, edit.password)] }
  /-- The server has set the administrative password, and then the Secret has taken it. -/
  | stored (result : Except Fault Unit) (administrative : edit.name = a.username) :
    Effect old result {
      passwords := old.passwords ++ [(edit.name, edit.password)]
      published := some edit.password }

end Edit

namespace Session

theorem carriedOut_visit {α : Type} (s : Session) (op : Operation)
    (read : List Sql.Answer → Except Sql.Fault α) (peer : Sql.Peer) :
    peer.carriedOut (s.visit op read peer).statements = peer.carriedOut (s.textsOf op) := by
  obtain ⟨closed, attempt⟩ := peer.converse_attempt (s.loginFor op) (s.textsOf op) read
  unfold visit Sql.Peer.carriedOut
  rw [attempt]
  by_cases accepted : peer.greeting = .accepted
  · simp only [accepted, if_true, Sql.answered_exchange]
  · simp only [accepted, if_false]

theorem textsOf_editUser (s : Session) (name password : String) : ∃ rest,
    s.textsOf (.editUser name password) =
      (Sql.Statement.setPassword name password).text s.engine :: rest ∧
    ∀ x ∈ rest, Sql.passwordSet? s.engine x = none := by
  unfold textsOf
  cases s.engine with
  | postgresql => exact ⟨[], rfl, fun _ h => by cases h⟩
  | mysql =>
    refine ⟨[Sql.Statement.flushPrivileges.text .mysql], rfl, fun x h => ?_⟩
    rw [List.mem_singleton.1 h]
    exact Sql.passwordSet?_flushPrivileges .mysql

theorem passwords_editUser (s : Session) (name password : String) (peer : Sql.Peer) :
    (peer.carriedOut (s.visit (.editUser name password) Sql.readNothing peer).statements).filterMap
        (Sql.passwordSet? s.engine) =
      if peer.obliges then [(name, password)] else [] := by
  obtain ⟨rest, texts, others⟩ := s.textsOf_editUser name password
  rw [carriedOut_visit, texts, Sql.Peer.passwords_carriedOut others, Sql.passwordSet?_setPassword]
  rfl

end Session

namespace Stores

variable {a : Account} {late : Kubernetes.Answer → Bool} {w v : World} {st : Stores}

/-- The stores after one attempt to connect, or none, and one request, or none. -/
theorem passwords_after_single {c : Sql.Connection} (made : v.connections = w.connections ++ [c]) :
    (st.after a late w v).passwords = st.passwords ++
      ((w.peer 0).carriedOut c.statements).filterMap (Sql.passwordSet? a.descriptor.engine) := by
  simp only [after, made, List.drop_left, List.mapIdx_cons, List.mapIdx_nil, List.flatten_cons,
    List.flatten_nil, List.append_nil]

theorem passwords_after_none (made : v.connections = w.connections) :
    (st.after a late w v).passwords = st.passwords := by
  simp only [after, made, List.drop_length, List.mapIdx_nil, List.flatten_nil, List.filterMap_nil,
    List.append_nil]

theorem published_after_single {r : Kubernetes.Request} (sent : v.requests = w.requests ++ [r]) :
    (st.after a late w v).published =
      if taken late r (w.answers.headD .missing) then (a.published? r).or st.published
      else st.published := by
  simp only [after, sent, List.drop_left, List.mapIdx_cons, List.mapIdx_nil, List.foldl_cons,
    List.foldl_nil, w.headD_answers]
  split
  · rfl
  · exact Option.none_or

theorem published_after_none (sent : v.requests = w.requests) :
    (st.after a late w v).published = st.published := by
  simp only [after, sent, List.drop_length, List.mapIdx_nil, List.foldl_nil]

end Stores

namespace Edit

variable (a : Account) (late : Kubernetes.Answer → Bool) (edit : Edit) (st : World × Stores)

theorem published?_storing :
    a.published? ((edit.session a).storing edit.password) = some edit.password :=
  if_pos ⟨rfl, rfl, rfl⟩

theorem taken_of_stored {w : World} (stored : (edit.session a).Stored edit.password w) :
    Stores.taken late ((edit.session a).storing edit.password) (w.answers.headD .missing) = true := by
  obtain ⟨-, secret, ok⟩ := stored
  simp only [Stores.taken, ok, Except.isOk, Except.toBool, Bool.true_or]

/-- The server sets the password of an edit that is not refused before it is asked, if it obliges. -/
def Sets (w : World) : Prop :=
  edit.name ∉ a.descriptor.engine.protectedUsers ∧ (w.peer 0).obliges = true

instance (w : World) : Decidable (edit.Sets a w) := inferInstanceAs (Decidable (_ ∧ _))

theorem sets_of_granted {w : World} (free : edit.name ∉ a.descriptor.engine.protectedUsers)
    (grants : (w.peer 0).Grants ((edit.session a).textsOf (.editUser edit.name edit.password))) :
    edit.Sets a w := by
  obtain ⟨rest, texts, -⟩ := (edit.session a).textsOf_editUser edit.name edit.password
  rw [texts] at grants
  exact ⟨free, grants.obliges⟩

theorem passwords_after_edit {v : World}
    (connected : v.connections = st.1.connections ++
      if edit.name ∈ a.descriptor.engine.protectedUsers then []
      else [(edit.session a).visit (.editUser edit.name edit.password) Sql.readNothing (st.1.peer 0)]) :
    (st.2.after a late st.1 v).passwords =
      st.2.passwords ++ if edit.Sets a st.1 then [(edit.name, edit.password)] else [] := by
  by_cases kept : edit.name ∈ a.descriptor.engine.protectedUsers
  · rw [if_pos kept, List.append_nil] at connected
    rw [Stores.passwords_after_none connected, if_neg fun sets : edit.Sets a st.1 => sets.1 kept,
      List.append_nil]
  · rw [if_neg kept] at connected
    have set := (edit.session a).passwords_editUser edit.name edit.password (st.1.peer 0)
    rw [Stores.passwords_after_single connected]
    refine congrArg _ (set.trans ?_)
    simp only [Sets, kept, not_false_eq_true, true_and]

/-- An edit does one of the three things to the stores. -/
theorem effect_apply : edit.Effect a st.2 (edit.apply a late st).1 (edit.apply a late st).2.2 := by
  obtain ⟨w, old⟩ := st
  let s := edit.session a
  obtain ⟨result, v, sent, ran, deeds, either, due, success⟩ :=
    s.editUser_spec edit.name edit.password w
  obtain ⟨connected, requested⟩ := World.of_deeds deeds
  have applied : edit.apply a late (w, old) = (result, v, old.after a late w v) := by
    simp only [apply, show edit.session a = s from rfl, ran]
  rw [applied]
  show edit.Effect a old result (old.after a late w v)
  have passwords := edit.passwords_after_edit a late (w, old) connected
  by_cases set : edit.Sets a w
  · rw [if_pos set] at passwords
    by_cases published : sent = [s.storing edit.password] ∧
        Stores.taken late (s.storing edit.password) (w.answers.headD .missing) = true
    · -- the change was sent, so it was due, and it was taken
      obtain ⟨rfl, taken⟩ := published
      have new : old.after a late w v =
          { passwords := old.passwords ++ [(edit.name, edit.password)]
            published := some edit.password } := by
        refine Stores.ext passwords ?_
        rw [Stores.published_after_single requested, if_pos taken, published?_storing]
        rfl
      rw [new]
      exact .stored result (due.1 rfl).1.2
    · have same : (old.after a late w v).published = old.published := by
        rcases either with rfl | rfl
        · exact Stores.published_after_none (requested.trans (List.append_nil _))
        · rw [Stores.published_after_single requested, if_neg fun taken => published ⟨rfl, taken⟩]
      have new : old.after a late w v =
          { old with passwords := old.passwords ++ [(edit.name, edit.password)] } :=
        Stores.ext passwords same
      rw [new]
      refine .set result fun ok administrative => published ?_
      obtain ⟨granted, stores⟩ := success.1 ok
      have stored := stores administrative
      exact ⟨due.2 ⟨⟨granted, administrative⟩, stored.1⟩, edit.taken_of_stored a late stored⟩
  · -- the server has set nothing, so nothing was due and the edit failed
    rw [if_neg set, List.append_nil] at passwords
    have same : (old.after a late w v).published = old.published := by
      rcases either with rfl | sentIt
      · exact Stores.published_after_none (requested.trans (List.append_nil _))
      · obtain ⟨free, grants⟩ := (due.1 sentIt).1.1
        exact absurd (edit.sets_of_granted a free grants.1) set
    rw [show old.after a late w v = old from Stores.ext passwords same]
    cases result with
    | error fault => exact .refused fault
    | ok =>
      obtain ⟨free, grants⟩ := (success.1 rfl).1
      exact absurd (edit.sets_of_granted a free grants.1) set

theorem session_of_built {d : Descriptor} {database : String} {config : SessionConfig} {s : Session}
    {v v' : World} (built : (Session.build d database config).attempt v = (.ok s, v'))
    (name password : String) :
    ({ topology := s.topology, known := s.credentials.password, database := s.database
       config := s.config, name, password } : Edit).session (.ofDescriptor d) = s := by
  obtain ⟨own, -, u, u', -, read⟩ := Session.of_build d database config built
  obtain ⟨credentials, -⟩ := Credentials.of_resolve read
  obtain ⟨d', topology, c, database', config'⟩ := s
  obtain rfl : d' = d := own
  rw [show c = .ofPassword d' c.password from credentials]
  rfl

variable {a edit} {old new : Stores} {result : Except Fault Unit}

/-- What is published stays a password that the server has set for the administrative user. -/
theorem Effect.sound (effect : edit.Effect a old result new)
    (h : ∀ p, old.published = some p → (a.username, p) ∈ old.passwords) :
    ∀ p, new.published = some p → (a.username, p) ∈ new.passwords := by
  intro p published
  cases effect with
  | refused => exact h p published
  | set => exact List.mem_append_left _ (h p published)
  | stored _ administrative =>
    cases published
    rw [← administrative]
    exact List.mem_append_right _ (List.mem_singleton.2 rfl)

/-- After an edit of the administrative user that succeeded the password counts and is published. -/
theorem Effect.current_of_ok (effect : edit.Effect a old result new) (ok : result = .ok ())
    (administrative : edit.name = a.username) :
    new.published = some edit.password ∧ new.current a.username = some edit.password := by
  cases effect with
  | refused => cases ok
  | set _ ordinary => exact absurd administrative (ordinary ok)
  | stored =>
    refine ⟨rfl, ?_⟩
    rw [Stores.current_of_set old rfl, if_pos administrative]

/-- An edit of another user leaves the Secret and the administrative password alone. -/
theorem Effect.other (effect : edit.Effect a old result new) (other : edit.name ≠ a.username) :
    new.published = old.published ∧ new.current a.username = old.current a.username := by
  cases effect with
  | refused => exact ⟨rfl, rfl⟩
  | set =>
    refine ⟨rfl, ?_⟩
    rw [Stores.current_of_set old rfl, if_neg other]
  | stored _ administrative => exact absurd administrative other

theorem sound_run : ∀ (edits : List Edit) (st : World × Stores),
    (∀ p, st.2.published = some p → (a.username, p) ∈ st.2.passwords) →
    ∀ p, (run a late edits st).2.published = some p →
      (a.username, p) ∈ (run a late edits st).2.passwords
  | [], _, h => h
  | edit :: edits, st, h =>
    sound_run edits (edit.apply a late st).2 ((edit.effect_apply a late st).sound h)

end Edit

/-- **The Secret follows the server.** An edit of a user whose name is not protected connects once. Then
it sends one request, to put the password into the field of the session's own Secret, or none; it sends
it only if the server answered all statements with success and the user is the administrative one, and it
succeeds only if the server answered all statements with success and, for the administrative user, the
request was sent and answered with success. Where the server takes the goodbye, all this is enough, as
long as the request can be sent; sessions that were built can send it, if its path is not of the greatest
length. So over all runs of edits, what is published is a password that the server has set for the
administrative user; after each edit of that user that succeeded it is the one that counts; and edits of
others change neither. -/
theorem secret_follows_server :
    (∀ (s : Session) (name password : String) (w : World),
      let op := Operation.editUser name password
      let granted := name ∉ s.engine.protectedUsers ∧ (w.peer 0).Grants (s.textsOf op)
      let made := if name ∈ s.engine.protectedUsers then []
        else [s.visit op Sql.readNothing (w.peer 0)]
      let change := Kubernetes.Request.patchSecret s.descriptor.ns s.credentials.secret.name
        s.credentials.secret.field password
      ∃ result v sent, (s.editUser name password).attempt w = (result, v) ∧
        v.deeds = w.deeds ++ made.map .connection ++ sent.map .request ∧
        (sent = [] ∨ sent = [change]) ∧
        (sent = [change] → granted ∧ name = s.credentials.username) ∧
        (result = .ok () → granted ∧ (name = s.credentials.username → s.Stored password w)) ∧
        ((w.peer 0).goodbye = .taken →
          (sent = [change] ↔ (granted ∧ name = s.credentials.username) ∧ ∃ t, change.target = .ok t) ∧
          (result = .ok () ↔ granted ∧ (name = s.credentials.username → s.Stored password w))) ∧
        change.method = "PATCH" ∧ change.body? = some (.object
          [("stringData", .object [(s.credentials.secret.field, .text password)])])) ∧
    (∀ (d : Descriptor) (database : String) (config : SessionConfig) (s : Session) (v v' : World),
      (Session.build d database config).attempt v = (.ok s, v') → ∀ name password : String,
        ((s.storing password).resource.utf8ByteSize < Target.maxLength →
          ∃ t, (s.storing password).target = .ok t) ∧
        ∃ edit : Edit, edit.session (.ofDescriptor d) = s ∧ edit.name = name ∧
          edit.password = password) ∧
    ∀ (a : Account) (late : Kubernetes.Answer → Bool) (edits : List Edit) (edit : Edit) (w : World),
      let before := Edit.run a late edits (w, {})
      let after := edit.apply a late before
      (∀ p, before.2.published = some p → (a.username, p) ∈ before.2.passwords) ∧
      (after.1 = .ok () → edit.name = a.username →
        after.2.2.published = some edit.password ∧
        after.2.2.current a.username = some edit.password) ∧
      (edit.name ≠ a.username →
        after.2.2.published = before.2.published ∧
        after.2.2.current a.username = before.2.current a.username) := by
  refine ⟨fun s name password w => ?_, fun d database config s v v' built name password => ?_,
    fun a late edits edit w => ?_⟩
  · obtain ⟨result, v, sent, ran, deeds, either, due, success⟩ := s.editUser_spec name password w
    refine ⟨result, v, sent, ran, deeds, either, fun sending => ?_, fun ok => ?_, fun taken => ?_,
      rfl, rfl⟩
    · obtain ⟨⟨⟨free, grants, -⟩, admin⟩, -⟩ := due.1 sending
      exact ⟨⟨free, grants⟩, admin⟩
    · obtain ⟨⟨free, grants, -⟩, stored⟩ := success.1 ok
      exact ⟨⟨free, grants⟩, stored⟩
    · simp only [taken, and_true] at due success
      exact ⟨due, success⟩
  · exact ⟨s.storing_sendable built password, _, Edit.session_of_built built name password, rfl, rfl⟩
  · intro before after
    have effect : edit.Effect a before.2 after.1 after.2.2 := edit.effect_apply a late before
    refine ⟨Edit.sound_run late edits (w, {}) fun p none => ?_, effect.current_of_ok, effect.other⟩
    cases none

/-- An edit on a session for a cluster without replicas. -/
def plainEdit (name password : String) : Edit where
  topology := {
    masterEndpoint := "db", accessPort := 5432, masterLabels := .empty
    replicaEndpoints := [], replicaPort := 5432, replicaLabels := .empty }
  known := "old"
  database := ""
  config := {}
  name := name
  password := password

/-- Servers that take all edits, and a Secret that takes the second change of it. -/
def taking : World where
  answers := [.missing, .response 200 "\x7b\x7d"]
  peers := [{}, {}, {}]

/-- After a change that did not reach the Secret the next one does, and an edit of another user leaves
it there. -/
theorem later_password_is_published :
    let a := Account.ofDescriptor { engine := .postgresql, ns := "default", name := "db", replicas := 0 }
    let edits := [plainEdit "kuberlogic" "lost"]
    let second := (plainEdit "kuberlogic" "new").apply a (fun _ => false)
      (Edit.run a (fun _ => false) edits (taking, {}))
    let third := (plainEdit "app" "x").apply a (fun _ => false) second.2
    second.1 = .ok () ∧ third.1 = .ok () ∧ second.2.2.published = some "new" ∧
      third.2.2.current "kuberlogic" = some "new" ∧
      ("kuberlogic", "new") ∈ second.2.2.passwords := by
  intro a edits second third
  obtain ⟨-, -, runs⟩ := secret_follows_server
  have taken : second.1 = .ok () := by decide +kernel
  obtain ⟨-, published, -⟩ := runs a (fun _ => false) edits (plainEdit "kuberlogic" "new") taking
  obtain ⟨sound, -, others⟩ := runs a (fun _ => false) (edits ++ [plainEdit "kuberlogic" "new"])
    (plainEdit "app" "x") taking
  have counts := published taken rfl
  refine ⟨taken, by decide +kernel, counts.1, ?_, ?_⟩
  · exact (others (by decide)).2.trans counts.2
  · exact sound "new" counts.1

/-- An edit of the administrative user that the server grants, on a session for a cluster in a namespace
that no request can name, where no change of the Secret is sent; and one where the server is lost before
the goodbye, and none is sent either. -/
theorem granted_change_is_not_sent :
    let named (ns : String) : Session :=
      (plainEdit "kuberlogic" "new").session
        (.ofDescriptor { engine := .postgresql, ns, name := "db", replicas := 0 })
    let op := Operation.editUser "kuberlogic" "new"
    let silent (s : Session) (w : World) : Prop :=
      "kuberlogic" ∉ s.engine.protectedUsers ∧ (w.peer 0).Grants (s.textsOf op) ∧
        "kuberlogic" = s.credentials.username ∧ ((s.editUser "kuberlogic" "new").attempt w).2.requests = [] ∧
        ((s.editUser "kuberlogic" "new").attempt w).1 ≠ .ok ()
    silent (named "n s") { peers := [{}] } ∧
      silent (named "default") { peers := [{ goodbye := .lost "connection reset" }] } := by
  intro named op silent
  have granted : ∀ peer : Sql.Peer, peer.greeting = .accepted → peer.replies = [] →
      ∀ texts, peer.Grants texts := by
    intro peer accepted none texts
    exact ⟨accepted, fun i _ => ⟨{}, by rw [none]; rfl⟩⟩
  exact ⟨⟨by decide, granted _ rfl rfl _, rfl, by decide +kernel⟩,
    by decide, granted _ rfl rfl _, rfl, by decide +kernel⟩

end ManagedDatabase
