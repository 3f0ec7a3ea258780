/-
# What an attempt at an inspection yields
-/
import NodeKeeper.Message.Inspection

namespace NodeKeeper

inductive InspectionError where
  /-- an attempt was not over after this time -/
  | timeout (after : Duration)
  /-- the inspection found something wrong -/
  | routine (text : String)
  /-- the last of several attempts failed -/
  | exhausted (attempts : Nat) (elapsed : Duration) (last : String)
  /-- the chain could not be asked -/
  | http (text : String)
  /-- the chain answered with an error -/
  | rpc (text : String)
  | alreadyStarted
  | cancelled
  deriving DecidableEq

def InspectionError.message : InspectionError → String
  | .timeout after => "inspection attempt timed out after " ++ after.text
  | .routine text => "inspection failed: " ++ text
  | .exhausted attempts elapsed last =>
    "gave up after " ++ toString attempts ++ " attempts in " ++ elapsed.text ++ ": " ++ last
  | .http text => "chain rpc request failed: " ++ text
  | .rpc text => "chain rpc error: " ++ text
  | .alreadyStarted => "inspection scheduler already started"
  | .cancelled => "inspection cancelled"

/-- What one attempt yields: results, an error, or partial results together
with the error that kept them partial. -/
structure InspectionOutcome where
  results : Option InspectionResults
  error : Option InspectionError

namespace InspectionOutcome

def success (r : InspectionResults) : InspectionOutcome := ⟨some r, none⟩

def failure (e : InspectionError) : InspectionOutcome := ⟨none, some e⟩

def incomplete (r : InspectionResults) (e : InspectionError) : InspectionOutcome :=
  ⟨some r, some e⟩

def isSuccess (o : InspectionOutcome) : Bool := o.error.isNone

end InspectionOutcome

end NodeKeeper
