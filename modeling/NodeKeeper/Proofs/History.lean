/-
# Histories of dialogues

A history is what passes between a dialogue and its surroundings: the requests
in order, each with the answer it met.  Nothing is said about where the answers
come from, so a statement about every history of a dialogue is one about all
surroundings, whatever they do.

    d.Leads h e     with the history `h` the dialogue `d` becomes `e`
    d.Yields h a    with the history `h` the dialogue `d` ends in the value `a`

**Proved here.**

    a history of `d >>= f` is one of `d`, then one of `f a`      (`yields_bind`, `leads_bind`)
    surroundings with a state carry out one history              (`yields_run`)
    a history of a met dialogue is made of those that meet it    (`yields_meet`)
    what all requests of a dialogue are like, and its value      (`Within.of_yields`)
-/
import NodeKeeper.Dialogue

namespace NodeKeeper

/-- A request with the answer it met. -/
structure Exchange (Request : Type) (Answer : Request → Type) where
  request : Request
  answer : Answer request

namespace Dialogue

variable {Request : Type} {Answer : Request → Type} {α β σ : Type}

/-- `d.Leads h e`: after the exchanges `h`, what is left of `d` is `e`. -/
inductive Leads : Dialogue Request Answer α → List (Exchange Request Answer) →
    Dialogue Request Answer α → Prop
  | refl (d : Dialogue Request Answer α) : Leads d [] d
  | ask {r : Request} {next : Answer r → Dialogue Request Answer α} (answer : Answer r)
      {h : List (Exchange Request Answer)} {e : Dialogue Request Answer α} :
      Leads (next answer) h e → Leads (.ask r next) (⟨r, answer⟩ :: h) e

/-- `d.Yields h a`: the exchanges `h` carry `d` to its end, with the value `a`. -/
def Yields (d : Dialogue Request Answer α) (h : List (Exchange Request Answer)) (a : α) : Prop :=
  d.Leads h (.done a)

/-! ## One request at a time -/

theorem leads_done {a : α} {h : List (Exchange Request Answer)} {e : Dialogue Request Answer α} :
    (done a).Leads h e ↔ h = [] ∧ e = .done a := by
  constructor
  · intro hl; cases hl; exact ⟨rfl, rfl⟩
  · rintro ⟨rfl, rfl⟩; exact .refl _

theorem leads_ask {r : Request} {next : Answer r → Dialogue Request Answer α}
    {h : List (Exchange Request Answer)} {e : Dialogue Request Answer α} :
    (ask r next).Leads h e ↔ (h = [] ∧ e = .ask r next) ∨
      ∃ answer rest, h = ⟨r, answer⟩ :: rest ∧ (next answer).Leads rest e := by
  constructor
  · intro hl
    cases hl with
    | refl => exact .inl ⟨rfl, rfl⟩
    | ask answer hl => exact .inr ⟨answer, _, rfl, hl⟩
  · rintro (⟨rfl, rfl⟩ | ⟨answer, rest, rfl, hl⟩)
    · exact .refl _
    · exact .ask answer hl

@[simp] theorem yields_done {a b : α} {h : List (Exchange Request Answer)} :
    (done a).Yields h b ↔ h = [] ∧ b = a := by
  simp [Yields, leads_done]

@[simp] theorem yields_ask {r : Request} {next : Answer r → Dialogue Request Answer α} {b : α}
    {h : List (Exchange Request Answer)} :
    (ask r next).Yields h b ↔ ∃ answer rest, h = ⟨r, answer⟩ :: rest ∧ (next answer).Yields rest b := by
  simp [Yields, leads_ask]

@[simp] theorem yields_request {r : Request} {a : Answer r} {h : List (Exchange Request Answer)} :
    (request r).Yields h a ↔ h = [⟨r, a⟩] := by
  simp only [request, yields_ask, yields_done]
  constructor
  · rintro ⟨answer, rest, rfl, rfl, rfl⟩; rfl
  · rintro rfl; exact ⟨a, [], rfl, rfl, rfl⟩

/-! ## Sequences -/

theorem Leads.trans {d e f : Dialogue Request Answer α} {h h' : List (Exchange Request Answer)}
    (hd : d.Leads h e) (he : e.Leads h' f) : d.Leads (h ++ h') f := by
  induction hd with
  | refl _ => exact he
  | ask answer _ ih => exact .ask answer (ih he)

theorem leads_append {d e : Dialogue Request Answer α} {h h' : List (Exchange Request Answer)} :
    d.Leads (h ++ h') e ↔ ∃ m, d.Leads h m ∧ m.Leads h' e := by
  constructor
  · intro hl
    induction h generalizing d with
    | nil => exact ⟨d, .refl d, hl⟩
    | cons x h ih =>
        cases hl with
        | ask answer hl =>
            obtain ⟨m, hm, he⟩ := ih hl
            exact ⟨m, .ask answer hm, he⟩
  · rintro ⟨m, hm, he⟩
    exact hm.trans he

theorem Leads.snoc {d : Dialogue Request Answer α} {h : List (Exchange Request Answer)} {r : Request}
    {next : Answer r → Dialogue Request Answer α} (hd : d.Leads h (.ask r next)) (answer : Answer r) :
    d.Leads (h ++ [⟨r, answer⟩]) (next answer) :=
  hd.trans (.ask answer (.refl _))

theorem Leads.bind {d e : Dialogue Request Answer α} {h : List (Exchange Request Answer)}
    (hd : d.Leads h e) (f : α → Dialogue Request Answer β) : (d >>= f).Leads h (e >>= f) := by
  induction hd with
  | refl _ => exact .refl _
  | ask answer _ ih => exact .ask answer ih

/-- What is left of a sequence is left of its first part, or the first part has
ended and it is left of the second. -/
theorem leads_bind {d : Dialogue Request Answer α} {f : α → Dialogue Request Answer β}
    {h : List (Exchange Request Answer)} {e : Dialogue Request Answer β} :
    (d >>= f).Leads h e ↔ (∃ d', d.Leads h d' ∧ e = d' >>= f) ∨
      ∃ h₁ a h₂, h = h₁ ++ h₂ ∧ d.Yields h₁ a ∧ (f a).Leads h₂ e := by
  constructor
  · induction d generalizing h with
    | done a => exact fun hl => .inr ⟨[], a, h, rfl, .refl _, hl⟩
    | ask r next ih =>
        intro hl
        rcases leads_ask.1 hl with ⟨rfl, rfl⟩ | ⟨answer, rest, rfl, hrest⟩
        · exact .inl ⟨_, .refl _, rfl⟩
        · rcases ih answer hrest with ⟨d', hd, rfl⟩ | ⟨h₁, a, h₂, rfl, hd, hf⟩
          · exact .inl ⟨d', .ask answer hd, rfl⟩
          · exact .inr ⟨⟨r, answer⟩ :: h₁, a, h₂, rfl, .ask answer hd, hf⟩
  · rintro (⟨d', hd, rfl⟩ | ⟨h₁, a, h₂, rfl, hd, hf⟩)
    · exact hd.bind f
    · exact (hd.bind f).trans hf

theorem yields_bind {d : Dialogue Request Answer α} {f : α → Dialogue Request Answer β}
    {h : List (Exchange Request Answer)} {b : β} :
    (d >>= f).Yields h b ↔ ∃ h₁ a h₂, h = h₁ ++ h₂ ∧ d.Yields h₁ a ∧ (f a).Yields h₂ b := by
  constructor
  · intro hl
    rcases leads_bind.1 hl with ⟨d', hd, he⟩ | hf
    · cases d' with
      | done a =>
          have hb : (f a).Yields [] b := by
            rw [← done_bind a f, ← he]
            exact .refl _
          exact ⟨h, a, [], (List.append_nil h).symm, hd, hb⟩
      | ask r next => exact nomatch he
    · exact hf
  · rintro ⟨h₁, a, h₂, rfl, hd, hf⟩
    exact leads_bind.2 (.inr ⟨h₁, a, h₂, rfl, hd, hf⟩)

theorem yields_request_bind {r : Request} {f : Answer r → Dialogue Request Answer β}
    {h : List (Exchange Request Answer)} {b : β} :
    (request r >>= f).Yields h b ↔ ∃ answer rest, h = ⟨r, answer⟩ :: rest ∧ (f answer).Yields rest b :=
  yields_ask

/-! ## Surroundings with a state -/

/-- What passes when a dialogue is carried out by `run`. -/
def history (respond : (r : Request) → σ → Answer r × σ) :
    Dialogue Request Answer α → σ → List (Exchange Request Answer)
  | .done _, _ => []
  | .ask r next, s => ⟨r, (respond r s).1⟩ :: history respond (next (respond r s).1) (respond r s).2

/-- To run a dialogue is to carry out one of its histories. -/
theorem yields_run (respond : (r : Request) → σ → Answer r × σ) :
    ∀ (d : Dialogue Request Answer α) (s : σ), d.Yields (d.history respond s) (d.run respond s).1
  | .done _, _ => .refl _
  | .ask _ next, s => .ask _ (yields_run respond (next (respond _ s).1) (respond _ s).2)

theorem run_bind (respond : (r : Request) → σ → Answer r × σ) (f : α → Dialogue Request Answer β) :
    ∀ (d : Dialogue Request Answer α) (s : σ),
      (d >>= f).run respond s = (f (d.run respond s).1).run respond (d.run respond s).2
  | .done _, _ => rfl
  | .ask _ next, s => run_bind respond f (next (respond _ s).1) (respond _ s).2

/-! ## Dialogues met by dialogues -/

section Meet

variable {Request' : Type} {Answer' : Request' → Type}
  (by' : (r : Request) → Dialogue Request' Answer' (Answer r))

/-- `h'` is what passes beyond when the requests of `h` are met by dialogues. -/
inductive MetBy : List (Exchange Request Answer) → List (Exchange Request' Answer') → Prop
  | nil : MetBy [] []
  | cons {e : Exchange Request Answer} {h : List (Exchange Request Answer)}
      {p h' : List (Exchange Request' Answer')} :
      (by' e.request).Yields p e.answer → MetBy h h' → MetBy (e :: h) (p ++ h')

variable {by'}

/-- A met dialogue has the histories that its own are met by. -/
theorem yields_meet {d : Dialogue Request Answer α} {h' : List (Exchange Request' Answer')} {a : α} :
    (d.meet by').Yields h' a ↔ ∃ h, MetBy by' h h' ∧ d.Yields h a := by
  constructor
  · induction d generalizing h' with
    | done b =>
        intro hy
        obtain ⟨rfl, rfl⟩ := yields_done.1 hy
        exact ⟨[], .nil, .refl _⟩
    | ask r next ih =>
        intro hy
        obtain ⟨p, answer, rest, rfl, hp, hrest⟩ := yields_bind.1 hy
        obtain ⟨h, hm, hn⟩ := ih answer hrest
        exact ⟨⟨r, answer⟩ :: h, .cons hp hm, .ask answer hn⟩
  · rintro ⟨h, hm, hy⟩
    induction d generalizing h h' with
    | done b =>
        obtain ⟨rfl, rfl⟩ := yields_done.1 hy
        cases hm
        exact .refl _
    | ask r next ih =>
        obtain ⟨answer, rest, rfl, hn⟩ := yields_ask.1 hy
        cases hm with
        | cons hp hm => exact yields_bind.2 ⟨_, answer, _, rfl, hp, ih answer rest hm hn⟩

end Meet

/-! ## What dialogues ask -/

/-- Whatever is answered, the requests are among `P` and the value is in `Q`. -/
inductive Within (P : Request → Prop) (Q : α → Prop) : Dialogue Request Answer α → Prop
  | done {a : α} : Q a → Within P Q (.done a)
  | ask {r : Request} {next : Answer r → Dialogue Request Answer α} :
      P r → (∀ answer, Within P Q (next answer)) → Within P Q (.ask r next)

section Within

variable {P P' : Request → Prop} {Q Q' : α → Prop} {R : β → Prop} {d : Dialogue Request Answer α}

theorem Within.bind {f : α → Dialogue Request Answer β} (hd : d.Within P Q)
    (hf : ∀ a, Q a → (f a).Within P R) : (d >>= f).Within P R := by
  induction hd with
  | done ha => exact hf _ ha
  | ask hr _ ih => exact .ask hr ih

theorem Within.mono (hd : d.Within P Q) (hP : ∀ r, P r → P' r) (hQ : ∀ a, Q a → Q' a) :
    d.Within P' Q' := by
  induction hd with
  | done ha => exact .done (hQ _ ha)
  | ask hr _ ih => exact .ask (hP _ hr) ih

theorem Within.of_yields (hd : d.Within P Q) {h : List (Exchange Request Answer)} {a : α}
    (hy : d.Yields h a) : (∀ x ∈ h, P x.request) ∧ Q a := by
  induction hd generalizing h with
  | done ha =>
      obtain ⟨rfl, rfl⟩ := yields_done.1 hy
      exact ⟨nofun, ha⟩
  | ask hr _ ih =>
      obtain ⟨answer, rest, rfl, hrest⟩ := yields_ask.1 hy
      obtain ⟨hrequests, ha⟩ := ih answer hrest
      exact ⟨List.forall_mem_cons.2 ⟨hr, hrequests⟩, ha⟩

end Within

end Dialogue

end NodeKeeper
