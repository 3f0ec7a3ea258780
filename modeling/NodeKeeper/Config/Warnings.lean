/-
# Warnings about a configuration
-/
import NodeKeeper.Json.Value
import NodeKeeper.Text.Ascii

namespace NodeKeeper

structure Warning where
  message : String
  /-- what could be done about it -/
  hint : Option String
  deriving DecidableEq, Repr

/-- Warnings in the order in which they came up. -/
structure Warnings where
  items : List Warning
  deriving DecidableEq, Repr

namespace Warnings

open Json

def none : Warnings := ⟨[]⟩

def push (w : Warnings) (message : String) : Warnings := ⟨w.items ++ [⟨message, .none⟩]⟩

def pushWithHint (w : Warnings) (message hint : String) : Warnings :=
  ⟨w.items ++ [⟨message, some hint⟩]⟩

def isEmpty (w : Warnings) : Bool := w.items.isEmpty

def size (w : Warnings) : Nat := w.items.length

/-- Does a message contain the text? -/
def mentions (w : Warnings) (needle : String) : Bool :=
  w.items.any fun item => Text.contains item.message needle

def itemToJson (item : Warning) : Value :=
  .object <|
    ("message", .text item.message) ::
    (item.hint.map fun h => ("hint", Value.text h)).toList

def toJson (w : Warnings) : Value := .object [("items", .array (w.items.map itemToJson))]

end Warnings

end NodeKeeper
