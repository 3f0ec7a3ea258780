/-
# Small readers

A reader takes characters off the front of a list, or fails.  The characters
that are left go to the next reader.
-/
import NodeKeeper.Text.Ascii

namespace NodeKeeper.Toml

/-- Takes a value off the front of the characters, or fails. -/
abbrev Reader := StateT (List Char) Option

namespace Reader

def fail {α : Type} : Reader α := fun _ => none

/-- The characters that are left. -/
def rest : Reader (List Char) := get

/-- The next character, which stays where it is. -/
def peek? : Reader (Option Char) := fun cs => some (cs.head?, cs)

/-- The next character. -/
def next : Reader Char
  | [] => none
  | c :: cs => some (c, cs)

/-- The given character. -/
def expect (c : Char) : Reader Unit := do
  if (← next) = c then pure () else fail

/-- Drops the given characters if they come next; says whether they did. -/
def accept (start : List Char) : Reader Bool := fun cs =>
  if start.isPrefixOf cs then some (true, cs.drop start.length) else some (false, cs)

/-- The characters up to the first that does not satisfy `p`. -/
def takeWhile (p : Char → Bool) : Reader (List Char) := fun cs =>
  some (cs.takeWhile p, cs.dropWhile p)

/-- Reads a whole list of characters. -/
def all? {α : Type} (r : Reader α) (cs : List Char) : Option α :=
  match r cs with
  | some (a, []) => some a
  | _ => none

end Reader

end NodeKeeper.Toml
