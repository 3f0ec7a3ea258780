/-
# Tables that are being filled

A table of a settings file is written in pieces: by headers, by dotted keys,
and as the parent of other tables.  What may still be added to a table depends
on how it came about, so an open table remembers that.
-/
import NodeKeeper.Toml.Value

namespace NodeKeeper.Toml

/-- How a table came about. -/
inductive Origin where
  /-- by a header of its own -/
  | header
  /-- as the parent of a table with a header -/
  | implied
  /-- by a dotted key -/
  | dotted
  deriving DecidableEq, Repr

/-- What stands under a key while a file is read. -/
inductive Node where
  | value (v : Value)
  | table (origin : Origin) (entries : List (String × Node))
  /-- a list of tables that grows by headers, the last one first -/
  | tables (items : List (List (String × Node)))

abbrev Entries := List (String × Node)

namespace Entries

def find? (es : Entries) (key : String) : Option Node := es.lookup key

/-- Sets a key; a new one comes last. -/
def set (key : String) (node : Node) : Entries → Entries
  | [] => [(key, node)]
  | (k, n) :: es => if k = key then (k, node) :: es else (k, n) :: set key node es

/-- Changes the table that a path of headers leads to; missing tables on the way
are implied.  A list of tables stands for its last one. -/
def within (change : Entries → Option Entries) : List String → Entries → Option Entries
  | [], es => change es
  | key :: path, es =>
    match es.find? key with
    | none => do pure (es.set key (.table .implied (← within change path [])))
    | some (.table origin sub) => do pure (es.set key (.table origin (← within change path sub)))
    | some (.tables (last :: others)) => do
      pure (es.set key (.tables ((← within change path last) :: others)))
    | _ => none

/-- Opens a table by its header.  Only an implied one may be there already. -/
def openTable (key : String) (es : Entries) : Option Entries :=
  match es.find? key with
  | none => some (es.set key (.table .header []))
  | some (.table .implied sub) => some (es.set key (.table .header sub))
  | _ => none

/-- Adds a table to a list of tables by its header. -/
def addTable (key : String) (es : Entries) : Option Entries :=
  match es.find? key with
  | none => some (es.set key (.tables [[]]))
  | some (.tables items) => some (es.set key (.tables ([] :: items)))
  | _ => none

/-- Sets a new key under a dotted path.  The path leads through tables without
a header, and the last of them was made by a dotted key. -/
def put (value : Value) (key : String) : List String → Entries → Option Entries
  | [], es =>
    match es.find? key with
    | none => some (es.set key (.value value))
    | some _ => none
  | k :: path, es =>
    match es.find? k with
    | none => do pure (es.set k (.table .dotted (← put value key path [])))
    | some (.table .header _) => none
    | some (.table origin sub) =>
      if path.isEmpty ∧ origin ≠ .dotted then none
      else do pure (es.set k (.table origin (← put value key path sub)))
    | _ => none

end Entries

mutual

/-- The finished value. -/
def Node.finish : Node → Value
  | .value v => v
  | .table _ entries => .table (Node.finishEntries entries)
  | .tables items => .array (Node.finishTables items).reverse

def Node.finishEntries : List (String × Node) → List (String × Value)
  | [] => []
  | (k, n) :: rest => (k, n.finish) :: Node.finishEntries rest

def Node.finishTables : List (List (String × Node)) → List Value
  | [] => []
  | es :: rest => .table (Node.finishEntries es) :: Node.finishTables rest

end

end NodeKeeper.Toml
