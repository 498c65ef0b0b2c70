/-
The watcher keeps passwords to itself as its sessions do. A probe of a cluster comes to the same report
whatever the password in the Secret is (`Probe.alike_run`), so all that is made of the report is the same:
warnings, gauges, the event of a failure and the delay. Only times may differ, those at which the runs
are made.

All of it together is `passwords_are_not_seen`: no operation of a session and no turn of the watcher shows
a password to anyone but the database servers and the Secret.
-/
import ManagedDatabase.Proofs.Session.Secrecy
import ManagedDatabase.Proofs.Watcher.Turns

namespace ManagedDatabase

/-- A report without the time of its probe. -/
def Report.untimed (r : Report) : Report := { r with checkedAt := none }

/-- What a watcher knows, without the times. -/
def Watcher.untimed (w : Watcher) : Watcher where
  lastEvent := 0
  reports := w.reports.map fun _ report => report.untimed
  metrics := w.metrics

/-! ## Probes -/

namespace Probe

variable (settings : Settings) (s : Session) (known : String)

theorem attempt_createDatabase (name : String) (w : World) : (createDatabase s name).attempt w =
    (match ((s.execute (.createDatabase name)).attempt w).1 with
      | .ok () => .ok ()
      | .error f => if f.sqlKind? = some .alreadyExists then .ok () else .error f,
      ((s.execute (.createDatabase name)).attempt w).2) := by
  unfold Act.attempt createDatabase
  cases s.execute (.createDatabase name) w with
  | ok _ v => rfl
  | error f v =>
    by_cases there : f.sqlKind? = some .alreadyExists
    · simp only [there, if_true]
    · simp only [there, if_false]

theorem alike_createDatabase (name : String) :
    Act.Alike Eq (createDatabase s name) (createDatabase (s.withPassword known) name) := by
  intro w w' worlds
  obtain ⟨outcome, after⟩ := s.alike_execute (.createDatabase name) known "" w w' worlds
  rw [attempt_createDatabase, attempt_createDatabase]
  refine ⟨?_, after⟩
  have outcome : SameOutcome Fault.Alike Eq ((s.execute (.createDatabase name)).attempt w).1
      (((s.withPassword known).execute (.createDatabase name)).attempt w').1 := outcome
  generalize ((s.execute (.createDatabase name)).attempt w).1 = x,
    (((s.withPassword known).execute (.createDatabase name)).attempt w').1 = x' at outcome ⊢
  cases outcome with
  | ok _ => exact .ok rfl
  | @error f f' faults =>
    have kinds : f.sqlKind? = f'.sqlKind? := congrArg (·.2.2.2) faults.told
    dsimp only
    rw [kinds]
    split
    · exact .ok rfl
    · exact .error faults

theorem ofResult_alike {x x' : Except Fault (Option Int64)} (h : SameOutcome Fault.Alike Eq x x') :
    Reading.ofResult x = Reading.ofResult x' := by
  cases h with
  | ok same => rw [same]
  | @error f f' faults =>
    have message : f.message = f'.message := congrArg Prod.fst faults.told
    simp only [Reading.ofResult, message]

theorem alike_readEach (table : String) : ∀ (endpoints : List String) {w w' : World}, w.Alike w' →
    (readEach s table endpoints w).1 = (readEach (s.withPassword known) table endpoints w').1 ∧
      (readEach s table endpoints w).2.Alike (readEach (s.withPassword known) table endpoints w').2
  | [], _, _, worlds => ⟨rfl, worlds⟩
  | endpoint :: rest, w, w', worlds => by
    obtain ⟨outcome, after⟩ := s.alike_perform (.readRecord endpoint table) known "" Sql.readFirstId? w w'
      worlds
    obtain ⟨later, worlds'⟩ := alike_readEach table rest after
    exact ⟨congrArg₂ (fun reading later => (endpoint, reading) :: later) (ofResult_alike outcome) later,
      worlds'⟩

theorem alike_readAll (table : String) :
    Act.Alike Eq (readAll s table) (readAll (s.withPassword known) table) := by
  intro w w' worlds
  obtain ⟨readings, after⟩ := alike_readEach s known table s.topology.replicaEndpoints worlds
  exact ⟨.ok (congrArg KeyMap.ofList readings), after⟩

/-- A probe comes to the same report but for its time. -/
theorem alike_run (d : Descriptor) :
    Act.Alike (fun report report' => report'.untimed = report.untimed) (run settings d)
      (run settings d) := by
  rw [run_eq]
  refine (Session.alike_build d "" settings.session).bind ?_
  rintro s _ ⟨known, rfl⟩
  refine (alike_createDatabase s known _).bind fun _ _ _ => ?_
  refine ((targeted settings s).alike_execute (.createTable settings.watcher.probeTable) known "").bind
    fun _ _ _ => ?_
  refine ((targeted settings s).alike_writeRecord s.masterEndpoint settings.watcher.probeTable known).bind
    fun row _ same => ?_
  subst same
  refine (alike_readAll (targeted settings s) known settings.watcher.probeTable).bind
    fun replicas _ same => ?_
  subst same
  exact fun _ _ worlds => ⟨.ok rfl, worlds⟩

end Probe

/-! ## Turns of the watcher -/

namespace Watcher

theorem untimed_record (watcher : Watcher) (service : String) (report : Report) :
    (watcher.record service report).untimed = watcher.untimed.record service report.untimed := by
  have reports : ((watcher.reports.insert service report).map fun _ r => r.untimed) =
      (watcher.reports.map fun _ r => r.untimed).insert service report.untimed := by
    refine KeyMap.ext fun key => ?_
    by_cases own : key = service
    · subst own
      simp only [KeyMap.get?_map, KeyMap.get?_insert_self, Option.map_some]
    · simp only [KeyMap.get?_map, KeyMap.get?_insert_other _ _ own]
  have last : unmeasured ((watcher.reports.map fun _ r => r.untimed).get? service) report.untimed =
      unmeasured (watcher.reports.get? service) report := by
    rw [KeyMap.get?_map]
    cases watcher.reports.get? service <;> rfl
  unfold record untimed
  simp only [reports, align, last]
  rfl

/-- The watcher after a probe of a service. -/
def probed (watcher : Watcher) (service : String) (report : Report) : Watcher :=
  let watcher := { watcher with metrics := watcher.metrics.countProbe }.record service report
  { watcher with metrics := watcher.metrics.observeDuration }

theorem untimed_probed (watcher : Watcher) (service : String) (report : Report) :
    (watcher.probed service report).untimed = watcher.untimed.probed service report.untimed := by
  have recorded := untimed_record { watcher with metrics := watcher.metrics.countProbe } service report
  exact congrArg (fun u : Watcher => { u with metrics := u.metrics.observeDuration }) recorded

theorem alike_publish {event event' : Kubernetes.ProbeEvent} {w w' : World} (worlds : w.Alike w')
    (same : (Kubernetes.Request.createEvent event).Alike (.createEvent event')) :
    (publish event w).Alike (publish event' w') := by
  obtain ⟨outcome, after⟩ := Act.alike_fetch same (fun _ _ alike => rel_of_eq alike.event) w w' worlds
  unfold publish
  generalize (Act.fetch (.createEvent event) Kubernetes.eventOfJson?).attempt w = x,
    (Act.fetch (.createEvent event') Kubernetes.eventOfJson?).attempt w' = x' at outcome after ⊢
  obtain ⟨r, v⟩ := x
  obtain ⟨r', v'⟩ := x'
  cases outcome with
  | ok _ => exact after
  | @error f f' faults =>
    cases faults with
    | kubernetes h => cases h <;> exact after.log _
    | same =>
      cases f with
      | kubernetes f => exact after.log _
      | _ => exact after

/-- Two turns that come to the same delay or to faults of which the same is told, with the same watcher
but for times, and that look the same to all who see neither passwords nor times. -/
structure SameTurn (turn turn' : Except Fault Nat × Watcher × World) : Prop where
  outcome : turn'.1.mapError Fault.told = turn.1.mapError Fault.told
  watcher : turn'.2.1.untimed = turn.2.1.untimed
  seen : turn'.2.2.seen = turn.2.2.seen
  worlds : turn.2.2.Alike turn'.2.2

/-- Two turns whose outcomes are alike, and the watchers and worlds after them. -/
structure AlikeTurn (turn turn' : Except Fault Nat × Watcher × World) : Prop where
  outcome : SameOutcome Fault.Alike Eq turn.1 turn'.1
  watcher : turn'.2.1.untimed = turn.2.1.untimed
  worlds : turn.2.2.Alike turn'.2.2

theorem AlikeTurn.same {turn turn' : Except Fault Nat × Watcher × World} (h : AlikeTurn turn turn') :
    SameTurn turn turn' :=
  ⟨h.outcome.told.symm, h.watcher, h.worlds.seen.symm, h.worlds⟩

variable (settings : Settings) (s : ManagedService) {watcher watcher' : Watcher} {w w' : World}

theorem alikeTurn_probe (d : Descriptor) (known : watcher'.untimed = watcher.untimed)
    (worlds : w.Alike w') :
    AlikeTurn (probe settings s d watcher w) (probe settings s d watcher' w') := by
  obtain ⟨outcome, after⟩ := Probe.alike_run settings d _ _ (worlds.log (probingLine d))
  have recorded : ∀ report report' : Report, report'.untimed = report.untimed →
      (watcher'.probed d.display report').untimed = (watcher.probed d.display report).untimed := by
    intro report report' same
    rw [untimed_probed, untimed_probed, known, same]
  have lines : ∀ report report' : Report, report'.untimed = report.untimed →
      unreadableLines d report' ++ laggingLines d report' =
        unreadableLines d report ++ laggingLines d report := by
    intro report report' same
    show unreadableLines d report'.untimed ++ laggingLines d report'.untimed = _
    rw [same]
    rfl
  unfold probe
  generalize (Probe.run settings d).attempt (w.log (probingLine d)) = x,
    (Probe.run settings d).attempt (w'.log (probingLine d)) = x' at outcome after ⊢
  obtain ⟨r, v⟩ := x
  obtain ⟨r', v'⟩ := x'
  cases outcome with
  | @ok report report' same =>
    refine ⟨.ok rfl, recorded report report' same, ?_⟩
    show ((unreadableLines d report ++ laggingLines d report).foldl World.log v).Alike
      ((unreadableLines d report' ++ laggingLines d report').foldl World.log v')
    rw [lines report report' same]
    exact World.Alike.logAll _ after
  | @error f f' faults =>
    have message : f'.message = f.message := (congrArg Prod.fst faults.told).symm
    have same : (Report.ofFault v'.now f').untimed = (Report.ofFault v.now f).untimed := by
      simp only [Report.ofFault, Report.untimed, message]
    refine ⟨.error faults, recorded _ _ same, ?_⟩
    -- a fault is reported without replicas, so no lines come before its event
    show (publish (failureEvent s f v.now) v).Alike (publish (failureEvent s f' v'.now) v')
    have event : failureEvent s f' v'.now = { failureEvent s f v.now with time := v'.now } := by
      simp only [failureEvent, message]
    rw [event]
    exact alike_publish after (.createEvent (failureEvent s f v.now) v'.now)

/-- A turn comes to the same whatever the password in the Secret is. -/
theorem alikeTurn_takeUp (known : watcher'.untimed = watcher.untimed) (worlds : w.Alike w') :
    AlikeTurn (takeUp settings s watcher w) (takeUp settings s watcher' w') := by
  have begun : ({ watcher' with lastEvent := w'.now } : Watcher).untimed =
      ({ watcher with lastEvent := w.now } : Watcher).untimed := known
  unfold takeUp
  cases s.descriptor with
  | error f => exact ⟨.error (.same f), begun, worlds⟩
  | ok d =>
    cases s.isReady with
    | true => exact alikeTurn_probe settings s d begun worlds
    | false => exact ⟨.ok rfl, begun, worlds.log _⟩

/-- What is done about its fault is the same, but for the answer that the log shows where it is not what
was asked for. -/
theorem same_attend (known : watcher'.untimed = watcher.untimed) (worlds : w.Alike w') :
    let turn := attend settings s watcher w
    let turn' := attend settings s watcher' w'
    turn'.1 = turn.1 ∧ turn'.2.1.untimed = turn.2.1.untimed ∧
      ((∀ path body, (takeUp settings s watcher w).1 ≠ .error (.kubernetes (.undecodable path body))) →
        turn'.2.2.seen = turn.2.2.seen) := by
  obtain ⟨outcome, watchers, after⟩ := alikeTurn_takeUp settings s known worlds
  unfold attend
  generalize takeUp settings s watcher w = x, takeUp settings s watcher' w' = x' at outcome watchers after ⊢
  obtain ⟨r, u, v⟩ := x
  obtain ⟨r', u', v'⟩ := x'
  cases outcome with
  | ok same => exact ⟨same.symm, watchers, fun _ => after.seen.symm⟩
  | @error f f' faults =>
    have told := faults.told
    have label : f'.label = f.label := (congrArg (·.2.1) told).symm
    have transient : f'.isTransient = f.isTransient := (congrArg (·.2.2.1) told).symm
    refine ⟨by simp only [handleFault, retryDelay, transient], ?_, fun decodable => ?_⟩
    · simp only [handleFault, countFailure, label]
      cases s.descriptor with
      | error _ => exact watchers
      | ok d =>
        exact congrArg (fun u : Watcher => { u with metrics := u.metrics.countFailure d.display f.label })
          watchers
    · have same : f' = f := by
        cases faults with
        | same _ => rfl
        | kubernetes h =>
          cases h with
          | same _ => rfl
          | undecodable path body _ => exact absurd rfl (decodable path body)
      subst same
      exact (after.log _).seen.symm

/-- **Passwords are not seen.** Take two runs in worlds with the same servers and the same answers of the
API, but for the password in a Secret that an answer tells. Whatever a session is asked to do, and whatever
password it knows or is to set, it comes to the same value or to a fault of the same text, label, kind and
transience, and it looks the same: the lines of the log, the methods, paths and queries of the requests and
the bodies of the events, and hosts, ports, users, databases, greetings, numbers of statements and goodbyes
of the connections. The same holds if the session is first built from the Secret, and for a turn of the
watcher, whose reports and metrics come out the same as well. Times may differ; but for these the only
differences are the passwords of logins, those in statements that set one, and the value in the change of a
Secret.

What is done about the fault of a turn is the same too, with one line of the log apart: it shows the fault
in full, and with it an answer that is not what was asked for. -/
theorem passwords_are_not_seen {w w' : World} (worlds : w.Alike w') :
    (∀ {α : Type} (s : Session) (job : Session.Job α) (known password : String),
      SameRun ((job.act s).attempt w)
        (((job.withPassword password).act (s.withPassword known)).attempt w')) ∧
    (∀ {α : Type} (d : Descriptor) (database : String) (config : SessionConfig) (job : Session.Job α)
      (password : String),
      SameRun ((Session.build d database config >>= fun s => job.act s).attempt w)
        ((Session.build d database config >>= fun s => (job.withPassword password).act s).attempt w')) ∧
    ∀ (settings : Settings) (s : ManagedService) (watcher watcher' : Watcher),
      watcher'.untimed = watcher.untimed →
        SameTurn (takeUp settings s watcher w) (takeUp settings s watcher' w') ∧
          let turn := attend settings s watcher w
          let turn' := attend settings s watcher' w'
          turn'.1 = turn.1 ∧ turn'.2.1.untimed = turn.2.1.untimed ∧
            ((∀ path body, (takeUp settings s watcher w).1 ≠
                .error (.kubernetes (.undecodable path body))) →
              turn'.2.2.seen = turn.2.2.seen) := by
  refine ⟨fun s job known password => (job.alike_act s known password).sameRun worlds,
    fun d database config job password => Act.Alike.sameRun ?_ worlds,
    fun settings s watcher watcher' known =>
      ⟨(alikeTurn_takeUp settings s known worlds).same, same_attend settings s known worlds⟩⟩
  refine (Session.alike_build d database config).bind ?_
  rintro s _ ⟨known, rfl⟩
  exact job.alike_act s known password

/-- A world at some time, with the objects of a cluster, a password in its Secret, and one server. -/
def holding (now : Moment) (password : String) : World where
  now
  answers :=
    let secret : Json := .object [("stringData", .object [("password", .text password)])]
    [.response 200 "\x7b\x7d", .response 200 secret.compact, .response 200 secret.compact]
  peers := [{}]

/-- A service that describes this cluster, which is ready. -/
def ready : ManagedService :=
  { unspaced with spec := { unspaced.spec with replicas := 0 } }

/-- The administrator's password is changed, and the cluster is probed, at different times and with
different passwords. -/
theorem two_passwords_look_the_same :
    let edit (password : String) : Act Unit :=
      Session.build Session.lone "" {} >>= fun s =>
        (Session.Job.guarded (.editUser "kuberlogic" password)).act s
    ((edit "three").attempt (holding 1 "one")).1 = .ok () ∧
      SameRun ((edit "three").attempt (holding 1 "one")) ((edit "four").attempt (holding 2 "two")) ∧
      SameTurn (takeUp {} ready (start 1) (holding 1 "one"))
        (takeUp {} ready (start 2) (holding 2 "two")) := by
  intro edit
  have member : Kubernetes.MemberAlike ("stringData", .object [("password", .text "one")])
      ("stringData", .object [("password", .text "two")]) :=
    .entries (.cons (.password "password" (.stringData _) (.stringData _)) .nil)
  have told : Kubernetes.Answer.Alike
      (.response 200 (Json.object [("stringData", .object [("password", .text "one")])]).compact)
      (.response 200 (Json.object [("stringData", .object [("password", .text "two")])]).compact) :=
    .secret rfl rfl rfl (.object (.cons member .nil))
  have worlds : (holding 1 "one").Alike (holding 2 "two") :=
    ⟨rfl, .cons (.same _) (.cons told (.cons told .nil)), .nil⟩
  obtain ⟨-, built, turns⟩ := passwords_are_not_seen worlds
  exact ⟨by decide +kernel, built Session.lone "" {} (.guarded (.editUser "kuberlogic" "three")) "four",
    (turns {} ready (start 1) (start 2) rfl).1⟩

end Watcher
end ManagedDatabase
