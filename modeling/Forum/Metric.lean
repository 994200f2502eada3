import Forum.Action
import Forum.Event
import Forum.Search.Query

/-!
# Metrics

* `AwardOutcome`, `Metric`: what is counted;
* `Metric.series`: the series that grow by one, each written as a name with its labels in order.
-/

namespace Forum

/-- Whether an award was made. -/
inductive AwardOutcome where
  | awarded
  | skipped
deriving DecidableEq, Repr

def AwardOutcome.name : AwardOutcome → String
  | awarded => "awarded"
  | skipped => "skipped"

/-- What is counted. -/
inductive Metric where
  | permissionCheck (action : Action) (allowed : Bool)
  | badgeAward (handler : String) (outcome : AwardOutcome)
  | searchQuery (form : SearchForm)
  | httpRequest (method path : String) (status : Nat)
  | eventEnqueued (type : EventType)
  | eventDropped (type : EventType)
  | handlerFailure (handler : String)
deriving DecidableEq, Repr

namespace Metric

/-- A series: a name and its labels. -/
def seriesText (name : String) (labels : List (String × String)) : String :=
  name ++ "\x7b" ++ ",".intercalate (labels.map fun (k, v) => k ++ "=" ++ v) ++ "\x7d"

/-- The series that grow by one. A request and a search are also timed. -/
def series : Metric → List String
  | permissionCheck a allowed =>
    [seriesText "permission_checks_total"
      [("action", a.name), ("allowed", if allowed then "true" else "false")]]
  | badgeAward h o => [seriesText "badge_awards_total" [("handler", h), ("outcome", o.name)]]
  | searchQuery f =>
    ["search_queries_total", "search_query_duration_seconds"].map
      (seriesText · [("syntax", f.name)])
  | httpRequest m p s =>
    ["http_requests_total", "http_request_duration_seconds"].map
      (seriesText · [("method", m), ("path", p), ("status", s.repr)])
  | eventEnqueued t => [seriesText "events_enqueued_total" [("event_type", t.name)]]
  | eventDropped t => [seriesText "events_dropped_total" [("event_type", t.name)]]
  | handlerFailure h => [seriesText "event_handler_failures_total" [("handler", h)]]

/-- How far each series has grown. -/
def totals (ms : List Metric) : List (String × Nat) :=
  (ms.flatMap series).foldl bump []
where
  /-- One more of a series. -/
  bump (acc : List (String × Nat)) (s : String) : List (String × Nat) :=
    match acc.lookup s with
    | some _ => acc.map fun (k, n) => if k = s then (k, n + 1) else (k, n)
    | none => acc ++ [(s, 1)]

/-- `totals` as a JSON object. -/
def totalsJson (ms : List Metric) : Json := .object ((totals ms).map fun (s, n) => (s, .int n))

end Metric

end Forum
