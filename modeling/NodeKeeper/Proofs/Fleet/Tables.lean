/-
# What a fleet table records

A record is in the table when it is what the table has under its own name
(`mem_snapshot_iff`); everything below is said of `snapshot`, so a proof about
an operation does not have to look at the entries.

    names are distinct whatever has been done to the table       (`names_nodup`)
    ids are distinct when different records have different ids   (`ids_nodup`)
-/
import NodeKeeper.Fleet.Table

namespace NodeKeeper

namespace FleetTable

variable {t : FleetTable} {r r' : ContainerRecord}

/-- The ids of the recorded containers. -/
def ids (t : FleetTable) : List String := t.snapshot.map (·.id)

/-- The names of the recorded containers. -/
def names (t : FleetTable) : List String := t.snapshot.map (·.name)

theorem mem_ids {id : String} : id ∈ t.ids ↔ ∃ r ∈ t.snapshot, r.id = id := List.mem_map

theorem mem_snapshot_iff : r ∈ t.snapshot ↔ t.get? r.name = some r := by
  constructor
  · intro h
    obtain ⟨⟨name, r'⟩, he, rfl⟩ := List.mem_map.1 h
    have hname : r'.name = name := t.named _ he
    show t.records.get? r'.name = some r'
    rw [hname]
    exact Dictionary.mem_entries_iff.1 he
  · intro h
    exact List.mem_map.2 ⟨(r.name, r), Dictionary.mem_entries_iff.2 h, rfl⟩

theorem mem_snapshot_of_get? {name : String} (h : t.get? name = some r) :
    r ∈ t.snapshot ∧ r.name = name := by
  have he : (name, r) ∈ t.records.entries := Dictionary.mem_entries_iff.2 h
  exact ⟨List.mem_map.2 ⟨_, he, rfl⟩, t.named _ he⟩

theorem get?_eq_some_iff {name : String} :
    t.get? name = some r ↔ r ∈ t.snapshot ∧ r.name = name := by
  constructor
  · exact mem_snapshot_of_get?
  · rintro ⟨hr, rfl⟩
    exact mem_snapshot_iff.1 hr

theorem contains_eq_false_iff {name : String} :
    t.contains name = false ↔ t.get? name = none := by
  unfold contains
  cases t.get? name <;> simp

theorem contains_eq_true_iff {name : String} :
    t.contains name = true ↔ ∃ r, t.get? name = some r :=
  Option.isSome_iff_exists

/-! ## Names and ids -/

theorem names_nodup (t : FleetTable) : t.names.Nodup := by
  have hkeys : t.names = t.records.entries.map (·.1) := by
    show (t.records.entries.map (·.2)).map (·.name) = _
    rw [List.map_map]
    exact List.map_congr_left fun e he => t.named e he
  rw [hkeys]
  have hlt : t.records.entries.Pairwise fun a b => a.1 < b.1 := t.records.keysIncrease
  refine List.pairwise_map.2 (hlt.imp ?_)
  intro a b hab heq
  rw [heq] at hab
  exact String.lt_irrefl b.1 hab

theorem snapshot_nodup (t : FleetTable) : t.snapshot.Nodup :=
  (List.pairwise_map.1 t.names_nodup).imp fun hne heq => hne (congrArg ContainerRecord.name heq)

theorem ids_nodup (h : ∀ r ∈ t.snapshot, ∀ r' ∈ t.snapshot, r.id = r'.id → r = r') :
    t.ids.Nodup :=
  List.pairwise_map.2 (t.snapshot_nodup.imp_of_mem fun {a b} ha hb hne heq => hne (h a ha b hb heq))

/-! ## Operations -/

theorem snapshot_empty : empty.snapshot = [] := rfl

theorem get?_put (t : FleetTable) (r : ContainerRecord) (name : String) :
    (t.put r).get? name = if name = r.name then some r else t.get? name :=
  t.records.get?_put r.name r name

theorem mem_snapshot_insert (h : t.get? r.name = none) :
    r' ∈ (t.insert r).2.snapshot ↔ r' = r ∨ r' ∈ t.snapshot := by
  have hput : (t.insert r).2 = t.put r := by
    unfold insert
    rw [contains_eq_false_iff.2 h]
    rfl
  rw [hput, mem_snapshot_iff, get?_put, mem_snapshot_iff]
  constructor
  · intro hg
    split at hg
    · exact .inl (Option.some.inj hg).symm
    · exact .inr hg
  · rintro (rfl | hg)
    · exact if_pos rfl
    · have hne : r'.name ≠ r.name := fun heq => by rw [heq, h] at hg; exact nomatch hg
      rw [if_neg hne]
      exact hg

theorem get?_insert_of_ne {name : String} (h : name ≠ r.name) :
    (t.insert r).2.get? name = t.get? name := by
  unfold insert
  cases t.contains r.name with
  | true => rfl
  | false => exact (get?_put t r name).trans (if_neg h)

theorem mem_snapshot_insert_of_mem (h : r' ∈ t.snapshot) : r' ∈ (t.insert r).2.snapshot := by
  cases hc : t.contains r.name with
  | true =>
      have hsame : (t.insert r).2 = t := by
        unfold insert
        rw [hc]
        rfl
      rw [hsame]
      exact h
  | false => exact (mem_snapshot_insert (contains_eq_false_iff.1 hc)).2 (.inr h)

theorem mem_snapshot_of_mem_insert (h : r' ∈ (t.insert r).2.snapshot) :
    r' = r ∨ r' ∈ t.snapshot := by
  cases hc : t.contains r.name with
  | true =>
      unfold insert at h
      rw [hc] at h
      exact .inr h
  | false => exact (mem_snapshot_insert (contains_eq_false_iff.1 hc)).1 h

theorem snapshot_filter (t : FleetTable) (keep : ContainerRecord → Bool) :
    (t.filter keep).snapshot = t.snapshot.filter keep :=
  List.filter_map.symm

theorem mem_snapshot_removeIds {ids : List String} :
    r ∈ (t.removeIds ids).2.snapshot ↔ r ∈ t.snapshot ∧ r.id ∉ ids := by
  show r ∈ (t.filter fun r => ! ids.contains r.id).snapshot ↔ _
  rw [snapshot_filter, List.mem_filter]
  simp

/-- A removal leaves alone the names under which it finds none of the ids. -/
theorem get?_removeIds {ids : List String} {name : String}
    (h : ∀ r, t.get? name = some r → r.id ∉ ids) :
    (t.removeIds ids).2.get? name = t.get? name := by
  refine Option.ext fun r => ?_
  rw [get?_eq_some_iff, mem_snapshot_removeIds, and_right_comm, ← get?_eq_some_iff]
  exact and_iff_left_of_imp (h r)

theorem shutdownOrder_perm (t : FleetTable) : t.shutdownOrder.Perm t.snapshot :=
  List.filter_append_perm _ _

end FleetTable

end NodeKeeper
