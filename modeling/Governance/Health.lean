import Governance.Json.Coded

/-!
# Health reports

A report lists the parts of the gateway that were looked at. A part that is not healthy has a message,
and then the whole is not healthy either.
-/

namespace Governance

/-- What was found when a part was looked at: nothing, or what is wrong with it. -/
structure HealthCheck where
  part : String
  problem : Option String
  deriving DecidableEq, Repr

/-- What was found when the parts were looked at. -/
structure HealthReport where
  checks : List HealthCheck
  deriving DecidableEq, Repr

/-- Whether nothing is wrong. -/
def HealthReport.healthy (r : HealthReport) : Bool := r.checks.all (·.problem.isNone)

def HealthCheck.toJson (c : HealthCheck) : Json :=
  .object ([("name", .string c.part), ("healthy", .bool c.problem.isNone)] ++
    match c.problem with
    | some problem => [("message", .string problem)]
    | none => [])

def HealthReport.toJson (r : HealthReport) : Json := .object [
  ("status", .string (if r.healthy then "healthy" else "unhealthy")),
  ("checks", .array (r.checks.map HealthCheck.toJson))]

end Governance
