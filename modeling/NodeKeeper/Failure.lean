/-
# Failures of the node's parts

One type for what goes wrong in any part, with a word for the part in front of
the text.
-/
import NodeKeeper.Bus.Error
import NodeKeeper.Fleet.Error
import NodeKeeper.Inspection.Outcome

namespace NodeKeeper

inductive Failure where
  | io (text : String)
  | bus (cause : BusError)
  | runtime (cause : RuntimeError)
  | fleet (cause : FleetError)
  | inspection (cause : InspectionError)
  | cancelled (what : String)
  | internal (text : String)

def Failure.message : Failure → String
  | .io text => "IO error: " ++ text
  | .bus cause => "Bus error: " ++ cause.message
  | .runtime cause => "Container runtime error: " ++ cause.message
  | .fleet cause => "Fleet error: " ++ cause.message
  | .inspection cause => "Inspection error: " ++ cause.message
  | .cancelled what => "Operation cancelled: " ++ what
  | .internal text => "Internal error: " ++ text

end NodeKeeper
