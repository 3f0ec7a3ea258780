/-
# Directories of files

The files below a directory, by the parts of their paths, and what a path from
there leads to.
-/
import NodeKeeper.Config.Load
import NodeKeeper.Text.Pieces

namespace NodeKeeper

/-- Files and directories by the parts of their paths. -/
abbrev Files := List (List String × FileEntry)

namespace Files

/-- Adds the part of a path to those before it; none if the path leads out of
the directory. -/
def addPart (done : List String) (part : String) : Option (List String) :=
  if part = "" ∨ part = "." then some done
  else if part = ".." then (if done.isEmpty then none else some done.dropLast)
  else some (done ++ [part])

/-- The parts of a path. -/
def parts? (path : String) : Option (List String) :=
  ((Text.pieces (· == '/') path.toList).map String.ofList).foldlM addPart []

def ofList (entries : List (String × FileEntry)) : Files :=
  entries.filterMap fun (path, e) => (parts? path).map (·, e)

/-- What a path leads to. -/
def entry (files : Files) (path : String) : FileEntry :=
  let asDirectory := path.toList.getLast? = some '/'
  match parts? path with
  | none => .absent
  | some parts =>
    if path.isEmpty ∨ path.toList.head? = some '/' then .absent
    else
      match files.lookup parts with
      | some (.file bytes) => if asDirectory then .absent else .file bytes
      | some found => found
      | none =>
        if parts.isEmpty || files.any fun (name, _) => parts.isPrefixOf name then .directory
        else .absent

/-- Answers a request from the files of a directory. -/
def answer (files : Files) : FileRequest → FileEntry
  | .entry path => files.entry path
  | .nearest name =>
    match files.entry name with
    | .file bytes => .file bytes
    | _ => .absent

/-- Carries out a dialogue with the files of a directory. -/
def run {α : Type} (files : Files) (d : FileDialogue α) : α :=
  (d.run (fun r (u : Unit) => (files.answer r, u)) ()).1

end Files

end NodeKeeper
