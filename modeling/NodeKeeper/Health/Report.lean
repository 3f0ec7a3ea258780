/-
# Health reports

A component reports its health under a name, with a status and a text.  An
error record keeps the last error of a component until it is cleared.
-/
import NodeKeeper.Json.Decode
import NodeKeeper.Text.Shown

namespace NodeKeeper

open Json

inductive HealthStatus where
  | ok
  | error
  | info
  deriving DecidableEq, Repr

namespace HealthStatus

def word : HealthStatus → String
  | .ok => "ok"
  | .error => "error"
  | .info => "info"

def ofWord? : String → Option HealthStatus
  | "ok" => some .ok
  | "error" => some .error
  | "info" => some .info
  | _ => none

end HealthStatus

structure HealthReport where
  name : String
  status : HealthStatus
  details : Option String
  updatedAt : Option Timestamp
  deriving DecidableEq

namespace HealthReport

/-- A report that only informs. -/
def info (name details : String) (now : Timestamp) : HealthReport :=
  ⟨name, .info, some details, some now⟩

def toJson (r : HealthReport) : Value :=
  .object <|
    [("name", .text r.name), ("status", .text r.status.word)] ++
    (r.details.map fun s => ("details", Value.text s)).toList ++
    (r.updatedAt.map fun t => ("updated_at", Value.text t.text)).toList

def decoder : Decoder HealthReport := fun t => do
  match ← Decode.fields ["name", "status", "details", "updated_at"] t with
  | [name, status, details, updatedAt] =>
    pure {
      name := ← Decode.required Decode.text name
      status := ← HealthStatus.ofWord? (← Decode.required Decode.caseName status)
      details := ← Decode.defaulted none (Decode.option Decode.text) details
      updatedAt := ← Decode.defaulted none (Decode.option Decode.timestamp) updatedAt }
  | _ => none

end HealthReport

/-- The last error of a component and when it happened. -/
structure ErrorRecord where
  last : Option (String × Timestamp)
  deriving DecidableEq

namespace ErrorRecord

def clear : ErrorRecord := ⟨none⟩

def keep (text : String) (now : Timestamp) : ErrorRecord := ⟨some (text, now)⟩

def text? (r : ErrorRecord) : Option String := r.last.map (·.1)

/-- The record as a report: an error with its text, or all well. -/
def report (r : ErrorRecord) (name : String) : HealthReport :=
  match r.last with
  | some (text, at_) => ⟨name, .error, some text, some at_⟩
  | none => ⟨name, .ok, none, none⟩

/-- The record shown for diagnostics. -/
def shown (r : ErrorRecord) : String :=
  Text.shownRecord "ErrorTracker" [("last", Text.shownOption (r.text?.map Text.quoted))]

end ErrorRecord

/-- What a component that reports its health shows. -/
structure Reporter where
  name : String
  reports : List HealthReport

end NodeKeeper
