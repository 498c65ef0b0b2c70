/-
Reports of replication probes: the record written on the master, and what every replica showed of
the table afterwards. The gap of a replica is the number of records it has not seen yet; a replica
that could not be read has none. Records and gaps are numbers of 64 bits, and a difference that does
not fit wraps around.
-/
import ManagedDatabase.Fault
import ManagedDatabase.Json.Basic
import ManagedDatabase.KeyMap
import ManagedDatabase.Moment

namespace ManagedDatabase

/-- The last record on a replica, none while the table is empty, or why it could not be read. -/
structure Reading where
  record : Option Int64 := none
  error : Option String := none
  deriving DecidableEq, Repr

/-- The outcome of one probe. -/
structure Report where
  checkedAt : Option Moment := none
  /-- The record written on the master. -/
  masterRecord : Option Int64 := none
  /-- What the replicas showed, by endpoint. -/
  replicas : KeyMap String Reading := .empty
  error : Option String := none

namespace Reading

/-- The reading of a replica that was or could not be read. -/
def ofResult : Except Fault (Option Int64) → Reading
  | .ok record => { record }
  | .error f => { error := some f.message }

/-- The document of a reading. -/
def toJson (r : Reading) : Json :=
  .object (("record", Json.ofOption (fun n => .whole n.toInt) r.record) :: Json.optional "error" .text r.error)

end Reading

namespace Report

/-- How many records a replica is behind the master; the empty table counts as record 0. -/
def gap (r : Report) (reading : Reading) : Int64 :=
  r.masterRecord.getD 0 - reading.record.getD 0

/-- Between records that are not negative nothing wraps around. -/
theorem toInt_gap {r : Report} {reading : Reading} (written : 0 ≤ r.masterRecord.getD 0)
    (seen : 0 ≤ reading.record.getD 0) :
    (r.gap reading).toInt = (r.masterRecord.getD 0).toInt - (reading.record.getD 0).toInt := by
  have hw := Int64.le_iff_toInt_le.1 written
  have hs := Int64.le_iff_toInt_le.1 seen
  have := Int64.toInt_lt (r.masterRecord.getD 0)
  have := Int64.toInt_lt (reading.record.getD 0)
  rw [Int64.toInt_zero] at hw hs
  rw [gap, Int64.toInt_sub]
  exact Int.bmod_eq_of_le_mul_two (by omega) (by omega)

/-- The gaps of the replicas that could be read. -/
def gaps (r : Report) : KeyMap String Int64 :=
  (r.replicas.filter fun _ reading => reading.error.isNone).map fun _ reading => r.gap reading

theorem get?_gaps {r : Report} {replica : String} {gap : Int64} : r.gaps.get? replica = some gap ↔
    ∃ reading, r.replicas.get? replica = some reading ∧ reading.error = none ∧
      gap = r.masterRecord.getD 0 - reading.record.getD 0 := by
  simp only [Report.gaps, KeyMap.get?_map, KeyMap.get?_filter, Option.map_eq_some_iff,
    Option.filter_eq_some_iff, Option.isNone_iff_eq_none, Report.gap]
  constructor
  · rintro ⟨reading, ⟨hr, he⟩, rfl⟩
    exact ⟨reading, hr, he, rfl⟩
  · rintro ⟨reading, hr, he, rfl⟩
    exact ⟨reading, ⟨hr, he⟩, rfl⟩

/-- A replica with a gap is one of those that the report lists. -/
theorem mem_keys_of_gaps {r : Report} {replica : String} (h : replica ∈ r.gaps.keys) :
    replica ∈ r.replicas.keys := by
  obtain ⟨gap, measured⟩ := KeyMap.mem_keys_iff.1 h
  obtain ⟨reading, listed, -⟩ := get?_gaps.1 measured
  exact KeyMap.mem_keys_iff.2 ⟨reading, listed⟩

/-- The report of a probe that came to a fault. -/
def ofFault (now : Moment) (f : Fault) : Report where
  checkedAt := some now
  error := some f.message

/-- The document of a report. -/
def toJson (r : Report) : Json :=
  .object <|
    [("checkedAt", Json.ofOption (fun t => .text (Moment.text 0 t)) r.checkedAt),
      ("masterRecord", Json.ofOption (fun n => .whole n.toInt) r.masterRecord),
      ("replicas", .object (r.replicas.entries.map fun e => (e.1, e.2.toJson)))]
      ++ Json.optional "error" .text r.error

end Report
end ManagedDatabase
