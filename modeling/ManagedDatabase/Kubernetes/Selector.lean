/-
Label selectors: a set of labels as the comma separated equations that the Kubernetes API takes,
in the order of the keys.
-/
import ManagedDatabase.Engine

namespace ManagedDatabase.Kubernetes

/-- The selector of the pods that have all of the labels. -/
def selectorText (labels : Labels) : String :=
  ",".intercalate (labels.entries.map fun l => l.1 ++ "=" ++ l.2)

end ManagedDatabase.Kubernetes
