/-
# The table of running containers

At most one record stands under a name, and it stands under its own name.  The
records are listed in the order of their names.
-/
import NodeKeeper.Fleet.Container

namespace NodeKeeper

structure FleetTable where
  records : Dictionary ContainerRecord
  /-- each record stands under its own name -/
  named : ∀ e ∈ records.entries, e.2.name = e.1

namespace FleetTable

def empty : FleetTable := ⟨.empty, fun _ h => absurd h List.not_mem_nil⟩

def get? (t : FleetTable) (name : String) : Option ContainerRecord := t.records.get? name

def contains (t : FleetTable) (name : String) : Bool := (t.get? name).isSome

/-- The table with a record under its name. -/
def put (t : FleetTable) (r : ContainerRecord) : FleetTable where
  records := t.records.put r.name r
  named := fun e h => (mem_putSorted h).elim (fun h => h ▸ rfl) (t.named e)

/-- Adds a record unless its name is taken; also says whether it was added. -/
def insert (t : FleetTable) (r : ContainerRecord) : Bool × FleetTable :=
  if t.contains r.name then (false, t) else (true, t.put r)

/-- The records that pass a test. -/
def filter (t : FleetTable) (keep : ContainerRecord → Bool) : FleetTable where
  records := ⟨t.records.entries.filter (keep ·.2),
    t.records.keysIncrease.sublist List.filter_sublist⟩
  named := fun e h => t.named e (List.mem_filter.1 h).1

def size (t : FleetTable) : Nat := t.records.entries.length

def isEmpty (t : FleetTable) : Bool := t.records.isEmpty

/-- The records in the order of their names. -/
def snapshot (t : FleetTable) : List ContainerRecord := t.records.entries.map (·.2)

/-- Takes out the records with one of these ids. -/
def removeIds (t : FleetTable) (ids : List String) : List ContainerRecord × FleetTable :=
  (t.snapshot.filter fun r => ids.contains r.id, t.filter fun r => ! ids.contains r.id)

/-- All records, agents before the shared containers, each group in the order
of names. -/
def shutdownOrder (t : FleetTable) : List ContainerRecord :=
  t.snapshot.filter (·.role.isAgent) ++ t.snapshot.filter (! ·.role.isAgent)

/-- Empties the table. -/
def drain (t : FleetTable) : List ContainerRecord × FleetTable := (t.shutdownOrder, empty)

end FleetTable

end NodeKeeper
