/-
What the watcher counts and gauges: probes, how long they took, failures by service and cause, and
for every readable replica how far it is behind.

A series is found by one number, the fingerprint of the values of its labels run together with
nothing between them. So two services share a series where one name goes on as the other's label
begins, and where two texts happen to have one fingerprint; it is shown under the labels that it had
first.
-/
import ManagedDatabase.KeyMap
import ManagedDatabase.Service
import ManagedDatabase.Text.Fingerprint

namespace ManagedDatabase

/-- A series of values: the service, what distinguishes its series, and the latest value. -/
structure Series (α : Type) where
  service : String
  detail : String
  value : α
  deriving DecidableEq, Repr

namespace Series

/-- The number by which a series is found. -/
def key (service detail : String) : UInt64 :=
  Text.fingerprint (Text.encodeUtf8 service ++ Text.encodeUtf8 detail)

/-- Services of one fingerprint share the number of every series. -/
theorem key_congr {service service' : String}
    (same : Text.fingerprint (Text.encodeUtf8 service) = Text.fingerprint (Text.encodeUtf8 service'))
    (detail : String) : key service detail = key service' detail := by
  rw [key, key, Text.fingerprint_append, Text.fingerprint_append, same]

example (detail : String) :
    key "default/a64oztmmitldlj" detail = key "default/apvgijtzdyumch" detail :=
  key_congr (by decide +kernel) detail

/-- The series after one got a new value, made from its last one. -/
def update {α : Type} (m : KeyMap UInt64 (Series α)) (service detail : String) (f : Option α → α) :
    KeyMap UInt64 (Series α) :=
  m.insert (key service detail) <|
    match m.get? (key service detail) with
    | some s => { s with value := f (some s.value) }
    | none => { service, detail, value := f none }

end Series

structure Metrics where
  probes : Nat
  /-- How many durations have been observed. -/
  durations : Nat
  /-- Failed probes by service and cause. -/
  failures : KeyMap UInt64 (Series Nat)
  /-- How many records a replica is behind, by service and replica. -/
  gaps : KeyMap UInt64 (Series Int64)

namespace Metrics

def empty : Metrics := ⟨0, 0, .empty, .empty⟩

/-- Metrics can be exported once; this is the refusal of a second set of the same names. -/
def alreadyRegistered : String := "Duplicate metrics collector registration attempted"

/-- A probe begins. -/
def countProbe (m : Metrics) : Metrics := { m with probes := m.probes + 1 }

/-- A probe has ended. -/
def observeDuration (m : Metrics) : Metrics := { m with durations := m.durations + 1 }

/-- One more failure of a service with some cause. -/
def countFailure (m : Metrics) (service label : String) : Metrics :=
  { m with failures := Series.update m.failures service label fun n => n.getD 0 + 1 }

def setGap (m : Metrics) (service replica : String) (gap : Int64) : Metrics :=
  { m with gaps := Series.update m.gaps service replica fun _ => gap }

/-- Gauge a replica no longer; nothing happens if it was not. -/
def dropGap (m : Metrics) (service replica : String) : Metrics :=
  { m with gaps := m.gaps.erase (Series.key service replica) }

end Metrics
end ManagedDatabase
