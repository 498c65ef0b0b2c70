/-
The services that exist, as the API's stream of changes tells: a start over with all of them, or
one that appeared, changed or went away. A service is known by its namespace and its name.
-/
import ManagedDatabase.Service

namespace ManagedDatabase

/-- Whether two resources are versions of one service. -/
def ManagedService.isSame (s t : ManagedService) : Bool := s.ns = t.ns && s.shownName = t.shownName

/-- The services that exist, each in one version. -/
structure Roster where
  services : List ManagedService
  distinct : services.Pairwise fun s t => s.isSame t = false

namespace Roster

def empty : Roster := ⟨[], .nil⟩

/-- A service is gone. -/
def remove (r : Roster) (s : ManagedService) : Roster :=
  ⟨r.services.filter fun t => !t.isSame s, r.distinct.filter _⟩

/-- A service has appeared or changed; it becomes the last one. -/
def apply (r : Roster) (s : ManagedService) : Roster where
  services := (r.remove s).services ++ [s]
  distinct := by
    refine List.pairwise_append.2 ⟨(r.remove s).distinct, List.pairwise_singleton _ _, ?_⟩
    intro t ht u hu
    obtain rfl := List.mem_singleton.1 hu
    simpa using (List.mem_filter.1 ht).2

/-- All services anew; of two versions of one service the later counts. -/
def ofList (services : List ManagedService) : Roster := services.foldl apply empty

/-- The names under which the services are reported. -/
def keys (r : Roster) : List String := r.services.filterMap ManagedService.key?

end Roster
end ManagedDatabase
