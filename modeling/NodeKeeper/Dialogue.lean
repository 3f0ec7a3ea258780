/-
# Dialogues

A computation that acts on its surroundings is a tree of requests.  A request
`r` is met by an answer of type `Answer r`, and the computation goes on with
it.  What the surroundings do is not part of the tree, so a statement about a
dialogue is one about every way of answering it.
-/
namespace NodeKeeper

/-- A computation that ends in a value or asks its surroundings and goes on. -/
inductive Dialogue (Request : Type) (Answer : Request → Type) (α : Type) where
  | done (value : α)
  | ask (request : Request) (next : Answer request → Dialogue Request Answer α)

namespace Dialogue

variable {Request : Type} {Answer : Request → Type} {α β γ : Type}

/-- First one dialogue, then another that depends on its value. -/
def bind : Dialogue Request Answer α → (α → Dialogue Request Answer β) →
    Dialogue Request Answer β
  | .done a, f => f a
  | .ask r next, f => .ask r fun answer => (next answer).bind f

instance : Monad (Dialogue Request Answer) where
  pure := .done
  bind := bind

@[simp] theorem pure_eq (a : α) : (pure a : Dialogue Request Answer α) = .done a := rfl

@[simp] theorem done_bind (a : α) (f : α → Dialogue Request Answer β) :
    (Dialogue.done a >>= f) = f a := rfl

@[simp] theorem ask_bind (r : Request) (next : Answer r → Dialogue Request Answer α)
    (f : α → Dialogue Request Answer β) :
    (Dialogue.ask r next >>= f) = .ask r fun answer => next answer >>= f := rfl

theorem bind_done (d : Dialogue Request Answer α) : d >>= .done = d := by
  induction d with
  | done a => rfl
  | ask r next ih => exact congrArg (ask r) (funext ih)

theorem bind_bind (d : Dialogue Request Answer α) (f : α → Dialogue Request Answer β)
    (g : β → Dialogue Request Answer γ) : d >>= f >>= g = d >>= fun a => f a >>= g := by
  induction d with
  | done a => rfl
  | ask r next ih => exact congrArg (ask r) (funext ih)

instance : LawfulMonad (Dialogue Request Answer) :=
  .mk' _ bind_done (fun _ _ => rfl) bind_bind

/-- One request, with its answer as the value. -/
def request (r : Request) : Dialogue Request Answer (Answer r) := .ask r .done

/-- Carries a dialogue out in surroundings with a state: `respond` answers each
request and changes the state. -/
def run {σ : Type} (respond : (r : Request) → σ → Answer r × σ) :
    Dialogue Request Answer α → σ → α × σ
  | .done a, s => (a, s)
  | .ask r next, s =>
    let (answer, s') := respond r s
    (next answer).run respond s'

/-- Meets each request by a dialogue with other surroundings. -/
def meet {Request' : Type} {Answer' : Request' → Type}
    (by' : (r : Request) → Dialogue Request' Answer' (Answer r)) :
    Dialogue Request Answer α → Dialogue Request' Answer' α
  | .done a => .done a
  | .ask r next => by' r >>= fun answer => (next answer).meet by'

end Dialogue

end NodeKeeper
