/-
# The laws of a fleet table

A table is changed by commands, and answers each of them:

    insert r         was the record added?
    removeIds ids    the records that were taken out
    list             all records
    drain            all records, which are taken out

What one command does to a table is said by its laws (`FleetTable.Laws`), which
every table has (`FleetTable.laws`).  What has been done in a whole run is said by
its log, from which the content can be read off: what has been added is what has
been handed out and what is there (`FleetTable.conserves`).
-/
import NodeKeeper.Proofs.Dictionaries
import NodeKeeper.Proofs.Fleet.Tables

namespace NodeKeeper

open scoped List

/-! ## One command -/

namespace FleetTable

/-- What can be relied on in one table. -/
structure Laws (t : FleetTable) : Prop where
  /-- a record is found under its own name -/
  keyed : ∀ name r, t.get? name = some r → r.name = name
  /-- what is found is listed, and nothing else is -/
  listed : ∀ r, r ∈ t.snapshot ↔ t.get? r.name = some r
  increasing : t.snapshot.Pairwise fun a b => a.name < b.name
  insert_free : ∀ r, (∀ r' ∈ t.snapshot, r'.name ≠ r.name) →
    (t.insert r).1 = true ∧ (t.insert r).2.snapshot.Perm (r :: t.snapshot)
  insert_taken : ∀ r, (∃ r' ∈ t.snapshot, r'.name = r.name) → t.insert r = (false, t)
  removed : ∀ ids r, r ∈ (t.removeIds ids).1 ↔ r ∈ t.snapshot ∧ r.id ∈ ids
  removed_once : ∀ ids, (t.removeIds ids).1.Nodup
  kept : ∀ ids r, r ∈ (t.removeIds ids).2.snapshot ↔ r ∈ t.snapshot ∧ r.id ∉ ids
  parted : ∀ ids, ((t.removeIds ids).1 ++ (t.removeIds ids).2.snapshot).Perm t.snapshot
  /-- agents come before the shared containers -/
  drained : ∃ agents shared, t.drain = (agents ++ shared, empty) ∧
    (agents ++ shared).Perm t.snapshot ∧
    (∀ r ∈ agents, r.role.isAgent = true) ∧ (∀ r ∈ shared, r.role.isAgent = false) ∧
    (agents.Pairwise fun a b => a.name < b.name) ∧ shared.Pairwise fun a b => a.name < b.name

variable {t t' : FleetTable} {r : ContainerRecord}

theorem snapshot_increasing (t : FleetTable) : t.snapshot.Pairwise fun a b => a.name < b.name := by
  refine List.pairwise_map.2 (t.records.keysIncrease.imp_of_mem ?_)
  intro a b ha hb hlt
  rw [t.named a ha, t.named b hb]
  exact hlt

theorem get?_eq_none_iff {name : String} :
    t.get? name = none ↔ ∀ r ∈ t.snapshot, r.name ≠ name := by
  simp only [Option.eq_none_iff_forall_ne_some, ne_eq, get?_eq_some_iff, not_and]

theorem insert_of_free (h : t.get? r.name = none) : t.insert r = (true, t.put r) := by
  rw [insert, contains_eq_false_iff.2 h]
  rfl

theorem insert_of_taken {r' : ContainerRecord} (h : t.get? r.name = some r') :
    t.insert r = (false, t) := by
  rw [insert, contains_eq_true_iff.2 ⟨r', h⟩]
  rfl

theorem snapshot_put_perm (h : t.get? r.name = none) :
    (t.put r).snapshot.Perm (r :: t.snapshot) :=
  (Dictionary.entries_put_perm r h).map Prod.snd

theorem removeIds_perm (t : FleetTable) (ids : List String) :
    ((t.removeIds ids).1 ++ (t.removeIds ids).2.snapshot).Perm t.snapshot := by
  show (t.snapshot.filter _ ++ (t.filter _).snapshot).Perm _
  rw [snapshot_filter]
  exact List.filter_append_perm _ _

theorem laws (t : FleetTable) : t.Laws where
  keyed name r h := (mem_snapshot_of_get? h).2
  listed r := mem_snapshot_iff
  increasing := t.snapshot_increasing
  insert_free r h := by
    have hfree := get?_eq_none_iff.2 h
    rw [insert_of_free hfree]
    exact ⟨rfl, snapshot_put_perm hfree⟩
  insert_taken r h := by
    obtain ⟨r', hr', hname⟩ := h
    exact insert_of_taken (get?_eq_some_iff.2 ⟨hr', hname⟩)
  removed ids r := by
    show r ∈ t.snapshot.filter _ ↔ _
    simp
  removed_once ids := t.snapshot_nodup.filter _
  kept ids r := mem_snapshot_removeIds
  parted ids := t.removeIds_perm ids
  drained := by
    refine ⟨_, _, rfl, t.shutdownOrder_perm, ?_, ?_, ?_, ?_⟩
    · exact fun r hr => (List.mem_filter.1 hr).2
    · exact fun r hr => Bool.not_eq_true' _ ▸ (List.mem_filter.1 hr).2
    · exact t.snapshot_increasing.filter _
    · exact t.snapshot_increasing.filter _

theorem ext_snapshot (h : ∀ r, r ∈ t.snapshot ↔ r ∈ t'.snapshot) : t = t' := by
  have hrecords : t.records = t'.records := by
    refine Dictionary.ext_get? fun name => Option.ext fun r => ?_
    show t.get? name = some r ↔ t'.get? name = some r
    rw [get?_eq_some_iff, get?_eq_some_iff, h]
  cases t
  cases t'
  cases hrecords
  rfl

end FleetTable

/-! ## Many commands -/

inductive TableCommand where
  | insert (r : ContainerRecord)
  | removeIds (ids : List String)
  | list
  | drain

inductive TableAnswer where
  | added (yes : Bool)
  | records (rs : List ContainerRecord)

/-- A command with its answer. -/
abbrev TableStep : Type := TableCommand × TableAnswer

namespace TableStep

/-- The record that was added. -/
def added : TableStep → List ContainerRecord
  | (.insert r, .added true) => [r]
  | _ => []

/-- The records that were taken out and handed over. -/
def handedOut : TableStep → List ContainerRecord
  | (.removeIds _, .records rs) => rs
  | (.drain, .records rs) => rs
  | _ => []

end TableStep

namespace FleetTable

/-- Carries out a command. -/
def obey (t : FleetTable) : TableCommand → TableAnswer × FleetTable
  | .insert r => (.added (t.insert r).1, (t.insert r).2)
  | .removeIds ids => (.records (t.removeIds ids).1, (t.removeIds ids).2)
  | .list => (.records t.snapshot, t)
  | .drain => (.records t.drain.1, t.drain.2)

/-- The table after commands. -/
def after (t : FleetTable) : List TableCommand → FleetTable
  | [] => t
  | c :: cs => (t.obey c).2.after cs

/-- Commands with their answers. -/
def log (t : FleetTable) : List TableCommand → List TableStep
  | [] => []
  | c :: cs => (c, (t.obey c).1) :: (t.obey c).2.log cs

/-- What one command adds to the records, it adds to those that are there or hands
out. -/
theorem obey_conserves (t : FleetTable) (c : TableCommand) :
    (TableStep.added (c, (t.obey c).1) ++ t.snapshot).Perm
      (TableStep.handedOut (c, (t.obey c).1) ++ (t.obey c).2.snapshot) := by
  cases c with
  | insert r =>
      cases hget : t.get? r.name with
      | none =>
          rw [obey, insert_of_free hget]
          exact (snapshot_put_perm hget).symm
      | some r' =>
          rw [obey, insert_of_taken hget]
          exact .refl _
  | removeIds ids => exact (t.removeIds_perm ids).symm
  | list => exact .refl _
  | drain =>
      show t.snapshot.Perm (t.shutdownOrder ++ [])
      rw [List.append_nil]
      exact t.shutdownOrder_perm.symm

/-- What has been added, and what was there before, has been handed out or is
there. -/
theorem conserves (t : FleetTable) (commands : List TableCommand) :
    ((t.log commands).flatMap TableStep.added ++ t.snapshot).Perm
      ((t.log commands).flatMap TableStep.handedOut ++ (t.after commands).snapshot) := by
  induction commands generalizing t with
  | nil => exact .refl _
  | cons c commands ih =>
      rw [log, after, List.flatMap_cons, List.flatMap_cons]
      let step : TableStep := (c, (t.obey c).1)
      let rest := (t.obey c).2.log commands
      calc step.added ++ rest.flatMap TableStep.added ++ t.snapshot
        _ ~ rest.flatMap TableStep.added ++ (step.added ++ t.snapshot) := by
            rw [← List.append_assoc]
            exact List.perm_append_comm.append_right _
        _ ~ rest.flatMap TableStep.added ++ (step.handedOut ++ (t.obey c).2.snapshot) :=
            (t.obey_conserves c).append_left _
        _ ~ step.handedOut ++ (rest.flatMap TableStep.added ++ (t.obey c).2.snapshot) :=
            List.perm_append_comm_assoc ..
        _ ~ step.handedOut ++ (rest.flatMap TableStep.handedOut ++
              ((t.obey c).2.after commands).snapshot) := (ih (t.obey c).2).append_left _
        _ = step.handedOut ++ rest.flatMap TableStep.handedOut ++
              ((t.obey c).2.after commands).snapshot := (List.append_assoc ..).symm

end FleetTable

end NodeKeeper
