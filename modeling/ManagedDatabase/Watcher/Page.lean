/-
The pages that the watcher serves: metrics for a scraper, a sign of life, and what it knows of every
service. A page can be read and nothing else; asked for its head only, it has no body.
-/
import ManagedDatabase.Json.Printer
import ManagedDatabase.Metrics.Exposition
import ManagedDatabase.Network.Target
import ManagedDatabase.Watcher.Basic

namespace ManagedDatabase.Watcher

/-- The answer to a request for a page. -/
structure Page where
  status : Nat
  contentType : Option String := none
  body : String := ""
  deriving DecidableEq, Repr

def Page.ofJson (j : Json) : Page where
  status := 200
  contentType := some "application/json"
  body := j.compact

/-- The page of metrics. -/
def metricsPage (w : Watcher) : Page where
  status := 200
  contentType := some "application/octet-stream"
  body := w.metrics.exposition

/-- The page at a path, if there is one. -/
def page? (w : Watcher) (path : String) : Option Page :=
  if path = "/metrics" then some w.metricsPage
  else if path = "/health" then some (.ofJson (.text "healthy"))
  else if path = "/" then some (.ofJson w.toJson)
  else none

/-- The answer to a request with some method for some target. -/
def respond (w : Watcher) (method target : String) : Page :=
  match w.page? (Target.receivedPath target) with
  | none => { status := 404 }
  | some page =>
    if method = "GET" then page
    else if method = "HEAD" then { page with body := "" }
    else { status := 405 }

end ManagedDatabase.Watcher
