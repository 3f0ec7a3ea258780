/-
# Tables in no order

A fleet table keeps its records in the order of their names.  It need not: records
may as well lie in a pile, in an order that nobody knows and that changes from one
command to the next, as it does where they are found by a hash of the name.  Then
what is listed has to be sorted every time.

    p.insert r         nothing lies under the name, or the pile stays as it is
    p.removeIds ids    the names are looked up first, and then taken one by one
    p.snapshot         sorted by names
    p.drain            sorted by agents first, and then by names
    Runs p steps p'    steps that lead from one pile to another, each of which finds
                       the pile in some order

Names are distinct, so there is one way to sort (`snapshot_eq`, `drain_eq`), and
a pile answers as the table does, but for the order of what is taken out by ids
(`Runs.agrees`).
-/
import NodeKeeper.Proofs.Fleet.TableLaws

namespace NodeKeeper

open scoped List

/-- Records, each with the name it has been put under. -/
abbrev Pile : Type := List (String × ContainerRecord)

/-- Is the name of the first at most that of the second? -/
def byName (a b : ContainerRecord) : Bool := decide (a.name ≤ b.name)

/-- Is the first to be stopped before the second? -/
def agentsFirst (a b : ContainerRecord) : Bool :=
  if a.role.isAgent = b.role.isAgent then byName a b else a.role.isAgent

namespace Pile

def contains (p : Pile) (name : String) : Bool := p.any (·.1 == name)

def get? (p : Pile) (name : String) : Option ContainerRecord := List.lookup name p

def insert (p : Pile) (r : ContainerRecord) : Bool × Pile :=
  if p.contains r.name then (false, p) else (true, (r.name, r) :: p)

/-- Takes out what lies under the names, one after the other. -/
def takeNames : List String → Pile → List ContainerRecord × Pile
  | [], p => ([], p)
  | name :: names, p =>
    let (rest, left) := takeNames names (p.filter (·.1 != name))
    ((p.get? name).toList ++ rest, left)

/-- Is the record one of those with these ids? -/
def isWanted (ids : List String) (e : String × ContainerRecord) : Bool := ids.contains e.2.id

def removeIds (p : Pile) (ids : List String) : List ContainerRecord × Pile :=
  takeNames ((p.filter (isWanted ids)).map (·.1)) p

def snapshot (p : Pile) : List ContainerRecord := (p.map (·.2)).mergeSort byName

def drain (p : Pile) : List ContainerRecord × Pile := ((p.map (·.2)).mergeSort agentsFirst, [])

/-- Carries out a command. -/
def obey (p : Pile) : TableCommand → TableAnswer × Pile
  | .insert r => (.added (p.insert r).1, (p.insert r).2)
  | .removeIds ids => (.records (p.removeIds ids).1, (p.removeIds ids).2)
  | .list => (.records p.snapshot, p)
  | .drain => (.records p.drain.1, p.drain.2)

/-- Each command finds the pile in some order. -/
inductive Runs : Pile → List TableStep → Pile → Prop
  | nil {p q : Pile} : p ~ q → Runs p [] q
  | cons {p q p' : Pile} {c : TableCommand} {steps : List TableStep} :
      p ~ q → Runs (q.obey c).2 steps p' → Runs p ((c, (q.obey c).1) :: steps) p'

/-! ## Piles and tables -/

/-- The pile holds what the table holds. -/
def Holds (p : Pile) (t : FleetTable) : Prop := p ~ t.records.entries

variable {p q : Pile} {t : FleetTable}

theorem Holds.perm (h : p.Holds t) (hq : p ~ q) : q.Holds t := hq.symm.trans h

theorem Holds.records (h : p.Holds t) : p.map (·.2) ~ t.snapshot := h.map _

theorem Holds.mem_iff (h : p.Holds t) {name : String} {r : ContainerRecord} :
    (name, r) ∈ p ↔ t.get? name = some r :=
  (List.Perm.mem_iff h).trans Dictionary.mem_entries_iff

theorem Holds.unique (h : p.Holds t) {name : String} {r r' : ContainerRecord} (hr : (name, r) ∈ p)
    (hr' : (name, r') ∈ p) : r = r' :=
  Option.some.inj ((h.mem_iff.1 hr).symm.trans (h.mem_iff.1 hr'))

theorem Holds.contains_eq (h : p.Holds t) (name : String) : p.contains name = t.contains name := by
  rw [Bool.eq_iff_iff, contains, List.any_eq_true, FleetTable.contains_eq_true_iff]
  simp only [← h.mem_iff, beq_iff_eq, Prod.exists]
  constructor
  · rintro ⟨_, r, hr, rfl⟩
    exact ⟨r, hr⟩
  · rintro ⟨r, hr⟩
    exact ⟨name, r, hr, rfl⟩

/-! ## Taking records out -/

theorem get?_cons (e : String × ContainerRecord) (p : Pile) (name : String) :
    get? (e :: p) name = if name = e.1 then some e.2 else p.get? name :=
  Dictionary.lookup_cons_eq_ite name e p

theorem get?_of_mem {name : String} {r : ContainerRecord} (hmem : (name, r) ∈ p)
    (hunique : ∀ r', (name, r') ∈ p → r' = r) : p.get? name = some r := by
  induction p with
  | nil => exact nomatch hmem
  | cons e rest ih =>
      rw [get?_cons]
      split
      · next hname =>
        subst hname
        exact congrArg some (hunique e.2 List.mem_cons_self)
      · next hname =>
        have hrest : (name, r) ∈ rest :=
          (List.mem_cons.1 hmem).resolve_left fun heq => hname (congrArg Prod.fst heq)
        exact ih hrest fun r' hr' => hunique r' (List.mem_cons_of_mem _ hr')

theorem get?_filter_of_ne {name other : String} (h : other ≠ name) (p : Pile) :
    get? (p.filter (·.1 != name)) other = p.get? other := by
  induction p with
  | nil => rfl
  | cons e rest ih =>
      rw [List.filter_cons, get?_cons]
      split
      · rw [get?_cons, ih]
      · next hname =>
        have hother : other ≠ e.1 := fun heq => h (heq.trans (by simpa using hname))
        rw [if_neg hother, ih]

/-- To take names one after the other is to take them together. -/
theorem takeNames_eq {names : List String} (hnodup : names.Nodup) (p : Pile) :
    takeNames names p = (names.filterMap p.get?, p.filter fun e => ! names.contains e.1) := by
  induction names generalizing p with
  | nil => simp [takeNames]
  | cons name names ih =>
      obtain ⟨hnot, hrest⟩ := List.nodup_cons.1 hnodup
      have hget : names.filterMap (get? (p.filter (·.1 != name))) = names.filterMap p.get? :=
        List.filterMap_congr fun other hother =>
          get?_filter_of_ne (ne_of_mem_of_not_mem hother hnot) p
      rw [takeNames, ih hrest, hget, List.filter_filter]
      refine Prod.ext ?_ (List.filter_congr fun e _ => ?_)
      · cases hname : p.get? name with
        | none => simp [hname]
        | some r => simp [hname]
      · rw [List.contains_cons, Bool.not_or, Bool.and_comm]
        rfl

theorem Holds.names_nodup (h : p.Holds t) : (p.map (·.1)).Nodup := by
  have hkeys : (t.records.entries.map (·.1)).Nodup := by
    refine List.pairwise_map.2 (t.records.keysIncrease.imp fun {a b} hab heq => ?_)
    rw [heq] at hab
    exact String.lt_irrefl b.1 hab
  exact (h.map (·.1)).nodup_iff.2 hkeys

theorem Holds.removeIds_eq (h : p.Holds t) (ids : List String) :
    p.removeIds ids = ((p.filter (isWanted ids)).map (·.2), p.filter (! isWanted ids ·)) := by
  have hnames : ((p.filter (isWanted ids)).map (·.1)).Nodup :=
    h.names_nodup.sublist (List.filter_sublist.map _)
  rw [removeIds, takeNames_eq hnames]
  refine Prod.ext ?_ (List.filter_congr fun e he => congrArg (! ·) ?_)
  · show ((p.filter (isWanted ids)).map (·.1)).filterMap p.get? = (p.filter (isWanted ids)).map (·.2)
    rw [List.filterMap_map, ← List.filterMap_eq_map]
    refine List.filterMap_congr fun e he => ?_
    have hmem : (e.1, e.2) ∈ p := List.mem_of_mem_filter he
    exact get?_of_mem hmem fun r' hr' => h.unique hr' hmem
  · rw [Bool.eq_iff_iff, List.contains_iff_mem, List.mem_map]
    constructor
    · rintro ⟨e', he', hname⟩
      obtain ⟨hmem, hwanted⟩ := List.mem_filter.1 he'
      have hsame : e'.2 = e.2 := h.unique (show (e.1, e'.2) ∈ p from hname ▸ hmem) he
      rwa [isWanted, hsame] at hwanted
    · exact fun hwanted => ⟨e, List.mem_filter.2 ⟨he, hwanted⟩, rfl⟩

/-! ## Sorting -/

theorem byName_trans (a b c : ContainerRecord) (hab : byName a b = true) (hbc : byName b c = true) :
    byName a c = true :=
  decide_eq_true (String.le_trans (of_decide_eq_true hab) (of_decide_eq_true hbc))

theorem byName_total (a b : ContainerRecord) : (byName a b || byName b a) = true := by
  rw [Bool.or_eq_true, byName, byName, decide_eq_true_iff, decide_eq_true_iff]
  exact String.le_total a.name b.name

theorem byName_of_lt {a b : ContainerRecord} (h : a.name < b.name) : byName a b = true :=
  decide_eq_true (Std.le_of_lt h)

theorem agentsFirst_iff {a b : ContainerRecord} :
    agentsFirst a b = true ↔ a.role.isAgent = b.role.isAgent ∧ byName a b = true ∨
      a.role.isAgent = true ∧ b.role.isAgent = false := by
  unfold agentsFirst
  cases ha : a.role.isAgent <;> cases hb : b.role.isAgent <;> simp

theorem agentsFirst_trans (a b c : ContainerRecord) (hab : agentsFirst a b = true)
    (hbc : agentsFirst b c = true) : agentsFirst a c = true := by
  rw [agentsFirst_iff] at hab hbc ⊢
  rcases hab with ⟨hrole, hab⟩ | ⟨ha, hb⟩
  · rcases hbc with ⟨hrole', hbc⟩ | ⟨hb, hc⟩
    · exact .inl ⟨hrole.trans hrole', byName_trans a b c hab hbc⟩
    · exact .inr ⟨hrole.trans hb, hc⟩
  · rcases hbc with ⟨hrole', -⟩ | ⟨hb', -⟩
    · exact .inr ⟨ha, hrole'.symm.trans hb⟩
    · exact absurd (hb'.symm.trans hb) (by decide)

theorem agentsFirst_total (a b : ContainerRecord) :
    (agentsFirst a b || agentsFirst b a) = true := by
  have hname := Bool.or_eq_true_iff.1 (byName_total a b)
  rw [Bool.or_eq_true_iff, agentsFirst_iff, agentsFirst_iff]
  cases ha : a.role.isAgent <;> cases hb : b.role.isAgent <;> simp [hname]

theorem name_eq_of_byName {a b : ContainerRecord} (hab : byName a b = true)
    (hba : byName b a = true) : a.name = b.name :=
  String.le_antisymm (of_decide_eq_true hab) (of_decide_eq_true hba)

theorem name_eq_of_agentsFirst {a b : ContainerRecord} (hab : agentsFirst a b = true)
    (hba : agentsFirst b a = true) : a.name = b.name := by
  rcases agentsFirst_iff.1 hab with ⟨hrole, hname⟩ | ⟨ha, hb⟩
  · rcases agentsFirst_iff.1 hba with ⟨-, hname'⟩ | ⟨hb, ha⟩
    · exact name_eq_of_byName hname hname'
    · exact absurd (ha.symm.trans (hrole.trans hb)) (by decide)
  · rcases agentsFirst_iff.1 hba with ⟨hrole, -⟩ | ⟨hb', -⟩
    · exact absurd (hb.symm.trans (hrole.trans ha)) (by decide)
    · exact absurd (hb.symm.trans hb') (by decide)

/-- However the records lie, there is one way to sort them. -/
theorem Holds.mergeSort_eq (h : p.Holds t) {le : ContainerRecord → ContainerRecord → Bool}
    {l : List ContainerRecord} (htrans : ∀ a b c, le a b = true → le b c = true → le a c = true)
    (htotal : ∀ a b, (le a b || le b a) = true)
    (hname : ∀ a b, le a b = true → le b a = true → a.name = b.name) (hperm : l ~ t.snapshot)
    (hsorted : l.Pairwise fun a b => le a b = true) : (p.map (·.2)).mergeSort le = l := by
  have hsame : (p.map (·.2)).mergeSort le ~ t.snapshot :=
    (List.mergeSort_perm ..).trans h.records
  refine List.Perm.eq_of_pairwise ?_ (List.pairwise_mergeSort htrans htotal _) hsorted
    (hsame.trans hperm.symm)
  intro a b ha hb hab hba
  have hget := FleetTable.mem_snapshot_iff.1 (hsame.mem_iff.1 ha)
  rw [hname a b hab hba, FleetTable.mem_snapshot_iff.1 (hperm.mem_iff.1 hb)] at hget
  exact (Option.some.inj hget).symm

theorem Holds.snapshot_eq (h : p.Holds t) : p.snapshot = t.snapshot := by
  exact h.mergeSort_eq byName_trans byName_total (fun _ _ => name_eq_of_byName) (.refl _)
    (t.snapshot_increasing.imp byName_of_lt)

theorem shutdownOrder_sorted (t : FleetTable) :
    t.shutdownOrder.Pairwise fun a b => agentsFirst a b = true := by
  have hgroup : ∀ isIn : ContainerRecord → Bool,
      (∀ a b, isIn a = true → isIn b = true → a.role.isAgent = b.role.isAgent) →
      (t.snapshot.filter isIn).Pairwise fun a b => agentsFirst a b = true := by
    intro isIn hsame
    refine (t.snapshot_increasing.filter isIn).imp_of_mem fun {a b} ha hb hlt => ?_
    have hrole := hsame a b (List.mem_filter.1 ha).2 (List.mem_filter.1 hb).2
    exact agentsFirst_iff.2 (.inl ⟨hrole, byName_of_lt hlt⟩)
  refine List.pairwise_append.2 ⟨hgroup _ ?_, hgroup _ ?_, ?_⟩
  · exact fun _ _ ha hb => ha.trans hb.symm
  · exact fun _ _ ha hb => Bool.not_inj (ha.trans hb.symm)
  · intro a ha b hb
    have hshared : b.role.isAgent = false := by simpa using (List.mem_filter.1 hb).2
    exact agentsFirst_iff.2 (.inr ⟨(List.mem_filter.1 ha).2, hshared⟩)

theorem Holds.drain_eq (h : p.Holds t) : p.drain = (t.drain.1, []) :=
  Prod.ext (h.mergeSort_eq agentsFirst_trans agentsFirst_total
    (fun _ _ => name_eq_of_agentsFirst) t.shutdownOrder_perm (shutdownOrder_sorted t)) rfl

/-! ## Answers -/

end Pile

/-- The same answers to the same command, but for the order of what is taken out by
ids. -/
inductive TableStep.Agrees : TableStep → TableStep → Prop
  | same (s : TableStep) : Agrees s s
  | removed {ids : List String} {rs rs' : List ContainerRecord} : rs ~ rs' →
      Agrees (.removeIds ids, .records rs) (.removeIds ids, .records rs')

namespace Pile

variable {p p' : Pile} {t : FleetTable}

theorem Holds.insert (h : p.Holds t) (r : ContainerRecord) :
    (p.insert r).1 = (t.insert r).1 ∧ (p.insert r).2.Holds (t.insert r).2 := by
  have hcontains := h.contains_eq r.name
  unfold Pile.insert FleetTable.insert
  rw [hcontains]
  split
  · exact ⟨rfl, h⟩
  · next hfree =>
    have hnone := FleetTable.contains_eq_false_iff.1 (Bool.not_eq_true _ ▸ hfree)
    exact ⟨rfl, (h.cons _).trans (Dictionary.entries_put_perm r hnone).symm⟩

theorem Holds.removeIds (h : p.Holds t) (ids : List String) :
    (t.removeIds ids).1 ~ (p.removeIds ids).1 ∧ (p.removeIds ids).2.Holds (t.removeIds ids).2 := by
  rw [h.removeIds_eq]
  refine ⟨?_, h.filter _⟩
  show t.snapshot.filter _ ~ _
  rw [FleetTable.snapshot, List.filter_map]
  exact ((h.filter _).map _).symm

/-- A pile answers a command as the table does, and then holds what the table
holds. -/
theorem Holds.obey (h : p.Holds t) (c : TableCommand) :
    TableStep.Agrees (c, (t.obey c).1) (c, (p.obey c).1) ∧ (p.obey c).2.Holds (t.obey c).2 := by
  cases c with
  | insert r =>
      obtain ⟨hanswer, hholds⟩ := h.insert r
      refine ⟨?_, hholds⟩
      rw [Pile.obey, FleetTable.obey, hanswer]
      exact .same _
  | removeIds ids =>
      obtain ⟨hanswer, hholds⟩ := h.removeIds ids
      exact ⟨.removed hanswer, hholds⟩
  | list =>
      rw [Pile.obey, h.snapshot_eq]
      exact ⟨.same _, h⟩
  | drain =>
      rw [Pile.obey, h.drain_eq]
      exact ⟨.same _, .refl _⟩

theorem Runs.agrees {steps : List TableStep} (hr : Runs p steps p') (h : p.Holds t) :
    List.Forall₂ TableStep.Agrees (t.log (steps.map (·.1))) steps ∧
      p'.Holds (t.after (steps.map (·.1))) := by
  induction hr generalizing t with
  | nil hperm => exact ⟨.nil, h.perm hperm⟩
  | cons hperm _ ih =>
      obtain ⟨hstep, hholds⟩ := (h.perm hperm).obey _
      obtain ⟨hsteps, hend⟩ := ih hholds
      exact ⟨.cons hstep hsteps, hend⟩

theorem exists_runs (p : Pile) (commands : List TableCommand) :
    ∃ steps p', Runs p steps p' ∧ steps.map (·.1) = commands := by
  induction commands generalizing p with
  | nil => exact ⟨[], p, .nil (.refl _), rfl⟩
  | cons c commands ih =>
      obtain ⟨steps, p', hruns, hsteps⟩ := ih (p.obey c).2
      exact ⟨_, p', .cons (.refl _) hruns, congrArg (c :: ·) hsteps⟩

end Pile

/-- **A fleet table after any commands.**  Its laws hold: records stand under their
own names, a record is added just when its name is free, what is taken out by ids
and what is kept part the records, all records are listed in the order of names,
and when all are taken out the agents come first.  Over all commands, what has been
added is what has been handed out and what is there.

It is the records alone that say what is listed and taken out.  Another table with
the same records is the same; and where the records lie in a pile, in an order that
may change before each command, every answer is the same, but for the order of what
is taken out by ids. -/
theorem table_laws_after (commands : List TableCommand) :
    (FleetTable.empty.after commands).Laws ∧
    (FleetTable.empty.log commands).flatMap TableStep.added ~
      (FleetTable.empty.log commands).flatMap TableStep.handedOut ++
        (FleetTable.empty.after commands).snapshot ∧
    (∀ t : FleetTable, (∀ r, r ∈ t.snapshot ↔ r ∈ (FleetTable.empty.after commands).snapshot) →
      t.snapshot = (FleetTable.empty.after commands).snapshot ∧
        t.drain = (FleetTable.empty.after commands).drain) ∧
    (∃ steps p, Pile.Runs [] steps p ∧ steps.map (·.1) = commands) ∧
    (∀ steps p, Pile.Runs [] steps p → steps.map (·.1) = commands →
      List.Forall₂ TableStep.Agrees (FleetTable.empty.log commands) steps ∧
      p.Holds (FleetTable.empty.after commands) ∧
      p.snapshot = (FleetTable.empty.after commands).snapshot ∧
      p.drain = ((FleetTable.empty.after commands).drain.1, [])) := by
  have hconserves := FleetTable.empty.conserves commands
  rw [FleetTable.snapshot_empty, List.append_nil] at hconserves
  refine ⟨FleetTable.laws _, hconserves, fun t ht => ?_, Pile.exists_runs [] commands, ?_⟩
  · rw [FleetTable.ext_snapshot ht]
    exact ⟨rfl, rfl⟩
  · rintro steps p hruns rfl
    obtain ⟨hagrees, hholds⟩ := hruns.agrees (t := .empty) (.refl _)
    exact ⟨hagrees, hholds, hholds.snapshot_eq, hholds.drain_eq⟩

end NodeKeeper
