/-
What the watcher does when a service comes up: probe it if its cluster is ready, record what came of
it, and say when it is to come up again. A probe that fails is recorded like any other and published
as an event; what goes wrong with the service itself ends before anything is counted.
-/
import ManagedDatabase.Watcher.Basic
import ManagedDatabase.Watcher.Probe
import ManagedDatabase.Watcher.Roster

namespace ManagedDatabase.Watcher

/-- A service whose cluster is not ready. -/
def notReadyLine (d : Descriptor) : LogLine where
  level := .debug
  message := "\x22" ++ d.display ++ "\x22 is not ready yet"

def probingLine (d : Descriptor) : LogLine where
  level := .info
  message := "Probing replication of \x22" ++ d.display ++ "\x22"

/-- The warnings about replicas that could not be read. -/
def unreadableLines (d : Descriptor) (r : Report) : List LogLine :=
  r.replicas.entries.filterMap fun e =>
    e.2.error.map fun error => {
      level := .warn
      message := "replica of \x22" ++ d.display ++ "\x22 could not be read"
      fields := [("replica", .text e.1), ("error", .text error)] }

/-- The warnings about replicas that are behind. -/
def laggingLines (d : Descriptor) (r : Report) : List LogLine :=
  (r.gaps.entries.filter fun e => 0 < e.2).map fun e => {
    level := .warn
    message := "replica of \x22" ++ d.display ++ "\x22 is lagging"
    fields := [("replica", .text e.1), ("gap", .number e.2.toInt)] }

/-- The event about a probe that failed. -/
def failureEvent (s : ManagedService) (f : Fault) (now : Moment) : Kubernetes.ProbeEvent where
  regarding := s.reference
  note := f.message
  time := now

/-- Publish an event; that it cannot be published is only worth a line. -/
def publish (event : Kubernetes.ProbeEvent) (w : World) : World :=
  match (Act.fetch (.createEvent event) Kubernetes.eventOfJson?).attempt w with
  | (.ok (), w) => w
  | (.error (.kubernetes f), w) =>
    w.log { level := .warn, message := "failed to publish probe event: " ++ f.message }
  | (.error _, w) => w

/-- The report of a probe. -/
def reportOf (now : Moment) : Except Fault Report → Report
  | .ok report => report
  | .error f => Report.ofFault now f

/-- Probe a service and record what came of it. -/
def probe (settings : Settings) (s : ManagedService) (d : Descriptor) (watcher : Watcher)
    (w : World) : Except Fault Nat × Watcher × World :=
  let (result, w) := (Probe.run settings d).attempt (w.log (probingLine d))
  let report := reportOf w.now result
  let w := (unreadableLines d report ++ laggingLines d report).foldl World.log w
  let watcher := { watcher with metrics := watcher.metrics.countProbe }.record d.display report
  let watcher := { watcher with metrics := watcher.metrics.observeDuration }
  match result with
  | .ok _ => (.ok settings.watcher.interval, watcher, w)
  | .error f => (.error f, watcher, publish (failureEvent s f w.now) w)

/-- Take up a service: the seconds until it is to come up again, or a fault. -/
def takeUp (settings : Settings) (s : ManagedService) (watcher : Watcher) (w : World) :
    Except Fault Nat × Watcher × World :=
  let watcher := { watcher with lastEvent := w.now }
  match s.descriptor with
  | .error f => (.error f, watcher, w)
  | .ok d =>
    if s.isReady then probe settings s d watcher w
    else (.ok settings.watcher.interval, watcher, w.log (notReadyLine d))

/-- After how many seconds a service comes up again that ended in a fault. -/
def retryDelay (settings : Settings) (f : Fault) : Nat :=
  if f.isTransient then 5 else settings.watcher.interval

/-- The watcher after a fault of a service; a service without a cluster is in no metric. -/
def countFailure (watcher : Watcher) (s : ManagedService) (f : Fault) : Watcher :=
  match s.descriptor with
  | .ok d => { watcher with metrics := watcher.metrics.countFailure d.display f.label }
  | .error _ => watcher

def failureLine (words : Wording) (s : ManagedService) (f : Fault) : LogLine where
  level := .error
  message := "probe of " ++ s.shownName ++ " failed: " ++ f.shown words

/-- Deal with a service that ended in a fault: the seconds until it is to come up again. -/
def handleFault (settings : Settings) (s : ManagedService) (f : Fault) (watcher : Watcher)
    (w : World) : Nat × Watcher × World :=
  (retryDelay settings f, watcher.countFailure s f, w.log (failureLine settings.wording s f))

/-- Take up a service and deal with its fault if it has one. -/
def attend (settings : Settings) (s : ManagedService) (watcher : Watcher) (w : World) :
    Nat × Watcher × World :=
  match takeUp settings s watcher w with
  | (.ok delay, watcher, w) => (delay, watcher, w)
  | (.error f, watcher, w) => handleFault settings s f watcher w

/-- The lines about services that are forgotten. -/
def forgettingLines (watcher : Watcher) (live : List String) : List LogLine :=
  (watcher.deleted live).keys.map fun service => {
    level := .debug, message := "forgetting deleted service \x22" ++ service ++ "\x22" }

/-- Forget the services that exist no longer. -/
def prune (roster : Roster) (watcher : Watcher) (w : World) : Watcher × World :=
  (watcher.retain roster.keys, (forgettingLines watcher roster.keys).foldl World.log w)

end ManagedDatabase.Watcher
