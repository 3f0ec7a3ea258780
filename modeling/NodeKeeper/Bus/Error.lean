/-
# What can go wrong on the message bus
-/
namespace NodeKeeper

inductive BusError where
  | alreadySubscribed (subject : String)
  | closed
  /-- a payload that has no JSON form -/
  | encode (subject : String)
  /-- a payload that is not what the subject carries -/
  | decode (subject : String)
  | handler (subject message : String)
  deriving DecidableEq, Repr

def BusError.message : BusError → String
  | .alreadySubscribed subject => "subject '" ++ subject ++ "' already has a handler"
  | .closed => "bus is closed"
  | .encode subject => "failed to encode payload for '" ++ subject ++ "'"
  | .decode subject => "failed to decode payload for '" ++ subject ++ "'"
  | .handler subject text => "handler for '" ++ subject ++ "' failed: " ++ text

end NodeKeeper
