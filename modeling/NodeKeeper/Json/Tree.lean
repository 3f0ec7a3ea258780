/-
# The structure of a JSON text

`Tree.read` groups tokens into arrays and objects.  It keeps what a typed
reader may need to refuse or to ignore: numerals as they were written, members
in their order with repetitions, texts that have no content.

The reader is a machine with a stack of open containers, one token a step.
-/
import NodeKeeper.Json.Token

namespace NodeKeeper.Json

inductive Tree where
  | null
  | bool (value : Bool)
  | numeral (n : Numeral)
  | text (content : Option String)
  | array (items : List Tree)
  | object (members : List (Option String × Tree))

/-- A container that is still open, its parts so far in reverse. -/
inductive Frame where
  | array (items : List Tree)
  | object (members : List (Option String × Tree))
  /-- a member whose value comes next -/
  | member (key : Option String)

/-- What the next token may be. -/
inductive Stage where
  /-- a value -/
  | value
  /-- a value or the end of an array that was just opened -/
  | firstItem
  /-- a key or the end of an object that was just opened -/
  | firstKey
  /-- a key -/
  | key
  /-- the colon after a key -/
  | colon (key : Option String)
  /-- a comma or the end of the innermost container -/
  | next
  /-- nothing -/
  | finished (tree : Tree)

structure Builder where
  stage : Stage
  frames : List Frame

namespace Builder

def start : Builder := ⟨.value, []⟩

/-- Hands a complete value to the innermost open container. -/
def deliver (t : Tree) : List Frame → Option Builder
  | [] => some ⟨.finished t, []⟩
  | .array items :: frames => some ⟨.next, .array (t :: items) :: frames⟩
  | .member key :: .object members :: frames =>
    some ⟨.next, .object ((key, t) :: members) :: frames⟩
  | _ => none

/-- Starts or delivers the value that a token begins. -/
def beginValue (frames : List Frame) : Token → Option Builder
  | .openArray => some ⟨.firstItem, .array [] :: frames⟩
  | .openObject => some ⟨.firstKey, .object [] :: frames⟩
  | .null => deliver .null frames
  | .bool b => deliver (.bool b) frames
  | .numeral n => deliver (.numeral n) frames
  | .text s => deliver (.text s) frames
  | _ => none

/-- Closes the innermost container. -/
def close : Token → List Frame → Option Builder
  | .closeArray, .array items :: frames => deliver (.array items.reverse) frames
  | .closeObject, .object members :: frames => deliver (.object members.reverse) frames
  | _, _ => none

/-- Reads one token. -/
def step (b : Builder) (t : Token) : Option Builder :=
  match b.stage with
  | .value => beginValue b.frames t
  | .firstItem =>
    if t = .closeArray then close t b.frames else beginValue b.frames t
  | .firstKey =>
    match t with
    | .closeObject => close t b.frames
    | .text key => some ⟨.colon key, b.frames⟩
    | _ => none
  | .key =>
    match t with
    | .text key => some ⟨.colon key, b.frames⟩
    | _ => none
  | .colon key =>
    match t with
    | .colon => some ⟨.value, .member key :: b.frames⟩
    | _ => none
  | .next =>
    match t, b.frames with
    | .comma, .array _ :: _ => some ⟨.value, b.frames⟩
    | .comma, .object _ :: _ => some ⟨.key, b.frames⟩
    | t, frames => close t frames
  | .finished _ => none

/-- The tree, if the tokens made exactly one value. -/
def finish (b : Builder) : Option Tree :=
  match b.stage with
  | .finished t => some t
  | _ => none

end Builder

/-- The tree of a list of tokens. -/
def Tree.ofTokens? (ts : List Token) : Option Tree :=
  (ts.foldlM Builder.step Builder.start).bind Builder.finish

/-- The tree of a JSON text. -/
def Tree.read? (bytes : List UInt8) : Option Tree :=
  (tokens bytes).bind Tree.ofTokens?

end NodeKeeper.Json
