/-
# Reading values of a known shape

A decoder takes a tree to a value of some type or refuses it.  A record is an
object with each of its fields at most once, other members ignored, or an array
of its fields in their order.
-/
import NodeKeeper.Json.Value
import NodeKeeper.Time.Duration
import NodeKeeper.Time.Timestamp

namespace NodeKeeper.Json

open Number

abbrev Decoder (α : Type) := Tree → Option α

namespace Decode

def text : Decoder String
  | .text s => s
  | _ => none

def bool : Decoder Bool
  | .bool b => some b
  | _ => none

/-- An integer from 0 to `limit`, written without fraction or exponent. -/
def unsigned (limit : Nat) : Decoder Nat
  | .numeral n =>
    match n.quantity? with
    | some (.integer i) => if 0 ≤ i ∧ i.toNat ≤ limit then some i.toNat else none
    | _ => none
  | _ => none

/-- A signed 64-bit integer. -/
def i64 : Decoder Int
  | .numeral n =>
    match n.quantity? with
    | some (.integer i) => if -0x8000000000000000 ≤ i ∧ i < 0x8000000000000000 then some i else none
    | _ => none
  | _ => none

def u64 : Decoder UInt64 := fun t => (unsigned maxU64 t).map Nat.toUInt64

/-- A double, or an integer that is taken as the nearest double. -/
def double : Decoder Float
  | .numeral n =>
    n.quantity?.map fun
      | .float x => x
      | .integer i =>
        if i < 0 then -(doubleOfNat i.natAbs) else doubleOfNat i.natAbs
  | _ => none

def list {α : Type} (item : Decoder α) : Decoder (List α)
  | .array items => items.mapM item
  | _ => none

/-- `null`, or a value. -/
def option {α : Type} (item : Decoder α) : Decoder (Option α)
  | .null => some none
  | t => (item t).map some

/-- An object whose members all have the same shape; the last one of a key
stands. -/
def dictionary {α : Type} (item : Decoder α) : Decoder (Dictionary α)
  | .object members =>
    members.foldlM (fun d (key, t) => do
      let key ← key
      let v ← item t
      pure (d.put key v)) .empty
  | _ => none

def timestamp : Decoder Timestamp := fun t => (text t).bind Timestamp.read?

/-- Adds a member to the fields of a record, unless the field is taken. -/
def fill (names : List String) (key : String) (t : Tree) (fields : List (Option Tree)) :
    Option (List (Option Tree)) :=
  match names, fields with
  | name :: names, field :: fields =>
    if name = key then
      match field with
      | some _ => none
      | none => some (some t :: fields)
    else (fill names key t fields).map (field :: ·)
  | _, _ => some fields

/-- The fields of a record, in the order of their names. -/
def fields (names : List String) : Tree → Option (List (Option Tree))
  | .object members =>
    members.foldlM (fun fields (key, t) => do
      let key ← key
      fill names key t fields) (names.map fun _ => none)
  | .array items =>
    if items.length ≤ names.length then
      some (items.map some ++ List.replicate (names.length - items.length) none)
    else none
  | _ => none

/-- Was the record written as an array? -/
def isPositional : Tree → Bool
  | .array _ => true
  | _ => false

/-- A field that must be there. -/
def required {α : Type} (item : Decoder α) (field : Option Tree) : Option α :=
  field.bind item

/-- A field with a default. -/
def defaulted {α : Type} (fallback : α) (item : Decoder α) : Option Tree → Option α
  | none => some fallback
  | some t => item t

/-- A field that may be `null`; in an object it may also be left out. -/
def nullable {α : Type} (record : Tree) (item : Decoder α) : Option Tree → Option (Option α)
  | none => if isPositional record then none else some none
  | some t => option item t

/-- The name of a case without data: a text, or an object from the name to
`null`. -/
def caseName : Decoder String
  | .text s => s
  | .object [(key, .null)] => key
  | _ => none

/-- Seconds and nanoseconds; nanoseconds of a second or more carry over.  No
other members are allowed. -/
def duration : Decoder Duration := fun t => do
  match t with
  | .object members =>
    if ¬ members.all (fun m => m.1 == some "secs" || m.1 == some "nanos") then none
  | _ => pure ()
  match ← fields ["secs", "nanos"] t with
  | [secs, nanos] =>
    Duration.ofParts? (← required (unsigned maxU64) secs) (← required (unsigned maxU32) nanos)
  | _ => none

end Decode

/-- Reads a text of a known shape. -/
def decode {α : Type} (decoder : Decoder α) (bytes : List UInt8) : Option α :=
  (Tree.read? bytes).bind decoder

end NodeKeeper.Json
