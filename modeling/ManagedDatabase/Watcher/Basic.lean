/-
The watcher's memory: the latest report of every service and the metrics it exports. Recording a
report replaces the one before and brings the gauges of the service into line with it; forgetting
drops the services that are no longer there.

The gauges are never rebuilt. A new report takes away the gauges of the replicas that the last one
listed and the new one does not measure, and sets those it does measure.
-/
import ManagedDatabase.Metrics.Basic
import ManagedDatabase.Watcher.Report

namespace ManagedDatabase

structure Watcher where
  /-- When the watcher last took up a service. -/
  lastEvent : Moment
  /-- The latest report of each service. -/
  reports : KeyMap String Report
  metrics : Metrics

namespace Watcher

/-- A watcher that has seen nothing. -/
def start (now : Moment) : Watcher where
  lastEvent := now
  reports := .empty
  metrics := .empty

/-- The replicas of the last report that a new one does not measure. -/
def unmeasured (last : Option Report) (report : Report) : List String :=
  match last with
  | none => []
  | some last => last.replicas.keys.filter fun replica => !report.gaps.keys.contains replica

/-- The metrics after a report of a service, where `last` is the report before. -/
def align (m : Metrics) (service : String) (last : Option Report) (report : Report) : Metrics :=
  report.gaps.entries.foldl (fun m e => m.setGap service e.1 e.2)
    ((unmeasured last report).foldl (fun m replica => m.dropGap service replica) m)

/-- The watcher with a new report of a service. -/
def record (w : Watcher) (service : String) (report : Report) : Watcher :=
  { w with
    reports := w.reports.insert service report
    metrics := align w.metrics service (w.reports.get? service) report }

/-- The reports of the services that are not among the living. -/
def deleted (w : Watcher) (live : List String) : KeyMap String Report :=
  w.reports.filter fun service _ => !live.contains service

/-- The watcher without the services that are not among the living. -/
def retain (w : Watcher) (live : List String) : Watcher :=
  { w with
    reports := w.reports.filter fun service _ => live.contains service
    metrics :=
      (w.deleted live).entries.foldl
        (fun m e => e.2.replicas.keys.foldl (fun m replica => m.dropGap e.1 replica) m)
        w.metrics }

/-- The reports as documents, by service. -/
def reportsJson (w : Watcher) : Json :=
  .object (w.reports.entries.map fun e => (e.1, e.2.toJson))

/-- What the watcher knows, as a document. -/
def toJson (w : Watcher) : Json :=
  .object [("lastEvent", .text (Moment.text 0 w.lastEvent)), ("services", w.reportsJson)]

end Watcher
end ManagedDatabase
