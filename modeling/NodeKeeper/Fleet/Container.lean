/-
# Containers

How a container is asked for, what the engine says about one it has started,
and what the fleet records of it.
-/
import NodeKeeper.Fleet.Policy

namespace NodeKeeper

open Json

/-- Everything the engine needs to start a container. -/
structure ContainerSpec where
  name : String
  image : String
  network : String
  linkedNetworks : List String
  env : Dictionary String
  log : LogRotation
  limits : Limits
  deriving DecidableEq

/-- A started container as the engine reports it. -/
structure Handle where
  id : String
  name : String
  image : String
  deriving DecidableEq, Repr

namespace Handle

def toJson (h : Handle) : Value :=
  .object [("id", .text h.id), ("name", .text h.name), ("image", .text h.image)]

def decoder : Decoder Handle := fun t => do
  match ← Decode.fields ["id", "name", "image"] t with
  | [id, name, image] =>
    pure {
      id := ← Decode.required Decode.text id
      name := ← Decode.required Decode.text name
      image := ← Decode.required Decode.text image }
  | _ => none

end Handle

/-- Why a container runs. -/
inductive Role where
  | agent (agent : Agent)
  | scanner
  | jsonRpcProxy
  deriving DecidableEq, Repr

namespace Role

def isAgent : Role → Bool
  | .agent _ => true
  | _ => false

def toJson : Role → Value
  | .agent a => .object [("role", .text "agent"), ("agent", a.toJson)]
  | .scanner => .object [("role", .text "scanner")]
  | .jsonRpcProxy => .object [("role", .text "json_rpc_proxy")]

/-- The role named by a tag, with the rest of what was written beside it. -/
def ofTag (tag : String) (rest : Tree) : Option Role :=
  match tag with
  | "agent" => do
    match ← Decode.fields ["agent"] rest with
    | [field] => pure (.agent (← Decode.required Agent.decoder field))
    | _ => none
  | "scanner" => if isBare rest then some .scanner else none
  | "json_rpc_proxy" => if isBare rest then some .jsonRpcProxy else none
  | _ => none
where
  /-- A role without data ignores members, but an array must end. -/
  isBare : Tree → Bool
    | .array items => items.isEmpty
    | _ => true

/-- How deep the containers of a role may be nested, inside that of a record. -/
def depth : Nat := depthLimit - 1

/-- A role is an object with a member `role` that names it, or an array that
begins with the name.  What else is in there must be sound, whether it is used
or not. -/
def decoder : Decoder Role := fun t => do
  let _ ← t.value? depth
  match t with
  | .object members =>
    let isTag (m : Option String × Tree) : Bool := m.1 == some "role"
    match members.filter isTag with
    | [(_, .text tag)] => ofTag (← tag) (.object (members.filter (! isTag ·)))
    | _ => none
  | .array (.text tag :: items) => ofTag (← tag) (.array items)
  | _ => none

end Role

/-- A container as the fleet records it. -/
structure ContainerRecord where
  handle : Handle
  role : Role
  /-- the private network, for agents -/
  network : Option String
  startedAt : Timestamp
  deriving DecidableEq

namespace ContainerRecord

def name (r : ContainerRecord) : String := r.handle.name

def id (r : ContainerRecord) : String := r.handle.id

def toJson (r : ContainerRecord) : Value :=
  .object <|
    [("handle", r.handle.toJson), ("role", r.role.toJson)] ++
    (r.network.map fun n => ("network_id", Value.text n)).toList ++
    [("started_at", .text r.startedAt.text)]

def decoder : Decoder ContainerRecord := fun t => do
  match ← Decode.fields ["handle", "role", "network_id", "started_at"] t with
  | [handle, role, network, startedAt] =>
    pure {
      handle := ← Decode.required Handle.decoder handle
      role := ← Decode.required Role.decoder role
      network := ← Decode.defaulted none (Decode.option Decode.text) network
      startedAt := ← Decode.required Decode.timestamp startedAt }
  | _ => none

end ContainerRecord

end NodeKeeper
