/-
# Dictionaries

What several parts of the theory need of dictionaries.  Two with the same look-ups
are equal, so that every equation between dictionaries is one about their
look-ups.
-/
import Mathlib.Data.List.Sort
import NodeKeeper.Data.Dictionary

namespace NodeKeeper.Dictionary

variable {α β : Type}

theorem ext_get? {d d' : Dictionary β} (h : ∀ key, d.get? key = d'.get? key) : d = d' := by
  have hmem : ∀ e, e ∈ d.entries ↔ e ∈ d'.entries := by
    rintro ⟨key, value⟩
    rw [mem_entries_iff, mem_entries_iff, h]
  have hentries : d.entries = d'.entries := by
    have hirrefl : Std.Irrefl fun a b : String × β => a.1 < b.1 := ⟨fun a => String.lt_irrefl a.1⟩
    have hasymm : Std.Antisymm fun a b : String × β => a.1 < b.1 :=
      ⟨fun a b hab hba => absurd (String.lt_trans hab hba) (String.lt_irrefl a.1)⟩
    exact d.keysIncrease.eq_of_mem_iff d'.keysIncrease hmem
  cases d
  cases d'
  cases hentries
  rfl

/-- Every value is changed, depending on its key. -/
def mapEntries (f : String → α → β) (d : Dictionary α) : Dictionary β where
  entries := d.entries.map fun e => (e.1, f e.1 e.2)
  keysIncrease := by
    unfold KeysIncrease
    rw [List.pairwise_map]
    exact d.keysIncrease

theorem get?_mapEntries (f : String → α → β) (d : Dictionary α) (key : String) :
    (d.mapEntries f).get? key = (d.get? key).map (f key) := by
  show (d.entries.map _).lookup key = (d.entries.lookup key).map (f key)
  induction d.entries with
  | nil => rfl
  | cons e rest ih =>
      rw [List.map_cons, lookup_cons_eq_ite, lookup_cons_eq_ite]
      split
      · next hkey => simp [hkey]
      · exact ih

theorem mapEntries_put (f : String → α → β) (d : Dictionary α) (key : String) (value : α) :
    (d.put key value).mapEntries f = (d.mapEntries f).put key (f key value) := by
  refine ext_get? fun other => ?_
  rw [get?_mapEntries, get?_put, get?_put, get?_mapEntries]
  split
  · next hkey => rw [hkey, Option.map_some]
  · rfl

theorem put_put (d : Dictionary α) (key : String) (value value' : α) :
    (d.put key value).put key value' = d.put key value' := by
  refine ext_get? fun other => ?_
  simp only [get?_put]
  split <;> rfl

theorem put_of_get? {d : Dictionary α} {key : String} {value : α} (h : d.get? key = some value) :
    d.put key value = d := by
  refine ext_get? fun other => ?_
  rw [get?_put]
  split
  · next hkey => rw [hkey, h]
  · rfl

theorem entries_put_perm {d : Dictionary α} {key : String} (value : α) (h : d.get? key = none) :
    (d.put key value).entries.Perm ((key, value) :: d.entries) := by
  have hnew : ∀ e ∈ d.entries, e.1 ≠ key := by
    rintro ⟨k, v⟩ he rfl
    exact nomatch h.symm.trans (mem_entries_iff.1 he)
  show (putSorted key value d.entries).Perm _
  generalize d.entries = entries at hnew ⊢
  induction entries with
  | nil => exact .refl _
  | cons e rest ih =>
      obtain ⟨he, hrest⟩ := List.forall_mem_cons.1 hnew
      unfold putSorted
      split
      · exact .refl _
      · rw [if_neg he.symm]
        exact ((ih hrest).cons e).trans (.swap ..)

end NodeKeeper.Dictionary
