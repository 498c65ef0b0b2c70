/-
The watcher at work: it makes sure that the custom resource is installed, takes up every service
that the API lists or announces, and forgets those that are gone.
-/
import ManagedDatabase.Watcher.Attend

namespace ManagedDatabase.Watcher

/-- A change in the stream of changes. -/
inductive Change
  | applied (s : ManagedService)
  | deleted (s : ManagedService)

/-- The roster after a change. -/
def Change.update (r : Roster) : Change → Roster
  | applied s => r.apply s
  | deleted s => r.remove s

/-- The services in a list; one that is no managed service spoils the list. -/
def servicesOfJson? (j : Json) : Option (List ManagedService) := do
  (← Kubernetes.listItems? .anything j).mapM ManagedService.ofJson?

/-- Why the watcher does not start. -/
def notInstalled : String := "KuberLogicService CRD is not installed"

/-- The lines about a custom resource that cannot be listed. -/
def notInstalledLines (words : Wording) (f : Kubernetes.Fault) : List LogLine := [
  { level := .error
    message := "CRD is not queryable; " ++ words.kubernetes f ++ ". Is the CRD installed?" },
  { level := .info, message := "Installation: cargo run --bin crdgen | kubectl apply -f -" }]

/-- Take up services one after the other. -/
def attendAll (settings : Settings) :
    List ManagedService → Watcher → World → Watcher × World
  | [], watcher, w => (watcher, w)
  | s :: rest, watcher, w =>
    let (_, watcher, w) := attend settings s watcher w
    attendAll settings rest watcher w

/-- Run on the answer to the first list, the services that a second list holds and the changes that
follow. -/
def run (settings : Settings) (check : Kubernetes.Answer) (listed : List ManagedService)
    (changes : List Change) (watcher : Watcher) (w : World) :
    Except String Unit × Watcher × World :=
  match check.decode CustomResource.listPath servicesOfJson? with
  | .error f => (.error notInstalled, watcher, (notInstalledLines settings.wording f).foldl World.log w)
  | .ok _ =>
    let roster := changes.foldl Change.update (Roster.ofList listed)
    let (watcher, w) := prune roster watcher w
    let (watcher, w) := attendAll settings roster.services watcher w
    (.ok (), watcher, w)

end ManagedDatabase.Watcher
