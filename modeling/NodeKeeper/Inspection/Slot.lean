/-
# The slot of the pending block

Room for the one block that is inspected next.  An offer never waits: a block
offered while another is pending is dropped.  The receiving end is handed out
once; when it is gone no offer is taken any more.
-/
import NodeKeeper.Text.Shown

namespace NodeKeeper

inductive TriggerOutcome where
  /-- the block is now pending -/
  | queued
  /-- another block is pending -/
  | busy
  /-- nobody will take it -/
  | closed
  deriving DecidableEq, Repr

/-- Where the receiving end of a slot is. -/
inductive Receiver where
  /-- with the slot -/
  | home
  /-- handed out -/
  | taken
  /-- handed out, and takes no new blocks -/
  | shut
  | gone
  deriving DecidableEq, Repr

structure PendingSlot where
  pending : Option UInt64
  receiver : Receiver
  deriving DecidableEq, Repr

namespace PendingSlot

def empty : PendingSlot := ⟨none, .home⟩

/-- Does the receiving end still take new blocks? -/
def isOpen (s : PendingSlot) : Bool := s.receiver == .home || s.receiver == .taken

def offer (s : PendingSlot) (block : UInt64) : TriggerOutcome × PendingSlot :=
  if ¬ s.isOpen then (.closed, s)
  else if s.pending.isSome then (.busy, s)
  else (.queued, { s with pending := some block })

/-- Hands out the receiving end; also says whether it was still there. -/
def takeReceiver (s : PendingSlot) : Bool × PendingSlot :=
  if s.receiver = .home then (true, { s with receiver := .taken }) else (false, s)

/-- Takes out the pending block while the receiving end is with the slot. -/
def tryTake (s : PendingSlot) : Option UInt64 × PendingSlot :=
  if s.receiver = .home then (s.pending, { s with pending := none }) else (none, s)

/-- Takes out the pending block through the receiving end that was handed out. -/
def receive (s : PendingSlot) : Option UInt64 × PendingSlot :=
  if s.receiver = .taken ∨ s.receiver = .shut then (s.pending, { s with pending := none })
  else (none, s)

/-- The receiving end takes no new blocks; the pending one can still be taken. -/
def close (s : PendingSlot) : PendingSlot :=
  if s.receiver = .taken then { s with receiver := .shut } else s

/-- The receiving end is dropped, and the pending block with it. -/
def dropReceiver (s : PendingSlot) : PendingSlot :=
  if s.receiver = .home then s else ⟨none, .gone⟩

def shown (s : PendingSlot) : String :=
  Text.shownRecord "PendingSlot" [("occupied", Text.shownBool s.pending.isSome)]

end PendingSlot

end NodeKeeper
