/-
The metrics as a scraper reads them: text lines, grouped by family. Families stand in the order of
their names and only where they have a sample; the samples of one family stand in the order of
their label values, the labels being in the order of their names.

A sample is read as a floating point number, so a gauge shows the one nearest to its value; its
digits are written out, without exponent.
-/
import ManagedDatabase.Decimal.Shortest
import ManagedDatabase.Metrics.Basic

namespace ManagedDatabase.Metrics

/-- One line of a family: the end of its name, its labels and its value. -/
structure Sample where
  ending : String := ""
  labels : List (String × String)
  value : Int
  deriving DecidableEq, Repr

/-- The samples of one metric. -/
structure Family where
  name : String
  help : String
  kind : String
  samples : List Sample
  deriving DecidableEq, Repr

/-- The floating point number nearest to a size. -/
def nearestDouble (n : Nat) : Binary64 := (Binary64.nearest? n 1).getD ⟨n, 0⟩

/-- The value of a gauge as it is read back: the nearest floating point number, cut to a signed
number of 64 bits. -/
def readBack (n : Int) : Int :=
  let size := (nearestDouble n.natAbs).floor
  let bound := Nat.pow 2 63
  if n < 0 then -(min bound size : Nat) else (min (bound - 1) size : Nat)

/-- A value in digits. -/
def valueText (n : Int) : String :=
  (if n < 0 then "-" else "") ++ (Decimal.shortest (nearestDouble n.natAbs)).plain

/-- A character of a label's value. -/
def labelChar (c : Char) : List Char :=
  if c = '\\' then ['\\', '\\']
  else if c = '\n' then ['\\', 'n']
  else if c = '\x22' then ['\\', '\x22']
  else [c]

/-- The value of a label in double quotes. -/
def labelText (value : String) : String :=
  String.ofList ('\x22' :: (value.toList.flatMap labelChar ++ ['\x22']))

/-- The labels of a sample; nothing where there are none. -/
def labelsText : List (String × String) → String
  | [] => ""
  | labels =>
    "\x7b" ++ String.intercalate "," (labels.map fun l => l.1 ++ "=" ++ labelText l.2) ++ "\x7d"

def Sample.line (family : String) (s : Sample) : String :=
  family ++ s.ending ++ labelsText s.labels ++ " " ++ valueText s.value

def Family.lines (f : Family) : List String :=
  ["# HELP " ++ f.name ++ " " ++ f.help, "# TYPE " ++ f.name ++ " " ++ f.kind]
    ++ f.samples.map (Sample.line f.name)

/-- The upper bounds of the buckets of durations, in seconds. -/
def bucketBounds : List String := ["0.01", "0.1", "0.25", "0.5", "1", "5", "15", "60", "+Inf"]

/-- The durations that were observed. The clock of a world stands still, so all are in all buckets
and their sum is 0; before the first one there are no samples. -/
def durationSamples (m : Metrics) : List Sample :=
  if m.durations = 0 then []
  else
    bucketBounds.map
        (fun bound =>
          { ending := "_bucket", labels := [("le", bound)], value := m.durations : Sample })
      ++ [{ ending := "_sum", labels := [], value := 0 },
        { ending := "_count", labels := [], value := m.durations }]

/-- Whether a series stands before another one, by the detail and then by the service. -/
def isBefore {α : Type} (s t : Series α) : Bool :=
  s.detail < t.detail || (s.detail = t.detail && s.service < t.service)

/-- Series with a label that comes before the service, in the order of both values. -/
def samplesOf {α : Type} (label : String) (value : α → Int) (m : KeyMap UInt64 (Series α)) :
    List Sample :=
  let ordered := (m.entries.map (·.2)).mergeSort fun s t => !isBefore t s
  ordered.map fun s =>
    { labels := [(label, s.detail), ("service", s.service)], value := value s.value }

/-- All families, in the order of their names. -/
def families (m : Metrics) : List Family := [
  { name := "kuberlogic_watcher_probe_duration_seconds"
    help := "The duration of replication probes in seconds"
    kind := "histogram"
    samples := m.durationSamples },
  { name := "kuberlogic_watcher_probe_failures_total"
    help := "probe failures per service"
    kind := "counter"
    samples := samplesOf "error" Int.ofNat m.failures },
  { name := "kuberlogic_watcher_probes_total"
    help := "replication probes"
    kind := "counter"
    samples := [{ labels := [], value := m.probes }] },
  { name := "kuberlogic_watcher_replication_gap"
    help := "probe records written on the master and not yet seen on a replica"
    kind := "gauge"
    samples := samplesOf "replica" Int64.toInt m.gaps }]

/-- The lines that a scraper reads. -/
def lines (m : Metrics) : List String :=
  (m.families.filter fun f => !f.samples.isEmpty).flatMap Family.lines

/-- The text that a scraper reads. -/
def exposition (m : Metrics) : String := String.join (m.lines.map (· ++ "\n"))

end ManagedDatabase.Metrics
