/-
# What can go wrong in the fleet
-/
import NodeKeeper.Fleet.Runtime

namespace NodeKeeper

inductive FleetError where
  | imageNotLocal (label image : String)
  | image (label image : String) (cause : RuntimeError)
  | network (container : String) (cause : RuntimeError)
  | startContainer (container : String) (cause : RuntimeError)
  | attachNetwork (container network : String) (cause : RuntimeError)
  | stopContainer (container : String) (cause : RuntimeError)
  deriving DecidableEq, Repr

def FleetError.message : FleetError → String
  | .imageNotLocal label reference =>
    "image '" ++ reference ++ "' for " ++ label ++
      " is not present locally and pulling is disabled"
  | .image label reference cause =>
    "failed to ensure image '" ++ reference ++ "' for " ++ label ++ ": " ++ cause.message
  | .network container cause =>
    "failed to create network for '" ++ container ++ "': " ++ cause.message
  | .startContainer container cause =>
    "failed to start container '" ++ container ++ "': " ++ cause.message
  | .attachNetwork container networkId cause =>
    "failed to attach container '" ++ container ++ "' to network '" ++ networkId ++ "': " ++
      cause.message
  | .stopContainer container cause =>
    "failed to stop container '" ++ container ++ "': " ++ cause.message

end NodeKeeper
