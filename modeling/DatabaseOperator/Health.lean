import DatabaseOperator.Http.Target
import DatabaseOperator.Metrics.Written

/-!
# Health of the operator

What the operator shows to those who watch it: that it is alive, whether it is
ready, and its metrics.

- `Health`: what there is to show.
- `Health.page`: the page that a request asks for.
-/

namespace DatabaseOperator

/-- What there is to show: whether the operator serves, and what it counts. -/
structure Health where
  ready : Bool := false
  metrics : Metrics := {}

namespace Health

/-- A page: its HTTP status, the type of its content if it has any, and the
content. -/
structure Page where
  status : Nat
  contentType : Option String
  body : String
deriving DecidableEq, Repr

/-- A page of plain text. -/
def plain (status : Nat) (body : String) : Page where
  status
  contentType := some "text/plain; charset=utf-8"
  body

/-- The page at a path; a query does not matter. The operator is alive if it
answers at all. -/
def page (h : Health) (target : RequestTarget) : Page :=
  match target.path with
  | "/healthz" => plain 200 "ok"
  | "/readyz" => if h.ready then plain 200 "ready" else plain 503 "not ready"
  | "/metrics" =>
    { status := 200
      contentType := some "text/plain; version=0.0.4; charset=utf-8"
      body := h.metrics.text }
  | _ => { status := 404, contentType := none, body := "" }

end Health

end DatabaseOperator
