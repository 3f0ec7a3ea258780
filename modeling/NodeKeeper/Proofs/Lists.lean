/-
# Lists

What several parts of the theory need of lists that change at one place.
-/
namespace NodeKeeper

variable {α : Type} {l : List α} {i : Nat} {a : α}

/-! ## Splitting at an element -/

theorem append_eq_split_iff {l' before after : List α} {x : α} :
    l ++ l' = before ++ x :: after ↔
      (∃ m, l = before ++ x :: m ∧ after = m ++ l') ∨
        ∃ m, before = l ++ m ∧ l' = m ++ x :: after := by
  constructor
  · intro h
    rcases List.append_eq_append_iff.1 h with ⟨m, hbefore, hl'⟩ | ⟨m, hl, htail⟩
    · exact .inr ⟨m, hbefore, hl'⟩
    · cases m with
      | nil =>
          rw [List.append_nil] at hl
          exact .inr ⟨[], by rw [hl, List.append_nil], htail.symm⟩
      | cons y m =>
          obtain ⟨rfl, hafter⟩ := List.cons.inj htail
          exact .inl ⟨m, hl, hafter⟩
  · rintro (⟨m, rfl, rfl⟩ | ⟨m, rfl, rfl⟩)
    · rw [List.append_assoc, List.cons_append]
    · rw [List.append_assoc]

/-- A list is split at the first place of an element in one way only. -/
theorem split_at_first {before before' after after' : List α} {x : α} (hbefore : x ∉ before)
    (hbefore' : x ∉ before') (h : before ++ x :: after = before' ++ x :: after') :
    before = before' ∧ after = after' := by
  rcases append_eq_split_iff.1 h with ⟨m, rfl, -⟩ | ⟨m, rfl, hafter⟩
  · exact absurd List.mem_append_cons_self hbefore
  · cases m with
    | nil => exact ⟨(List.append_nil _).symm, (List.cons.inj hafter).2⟩
    | cons y m =>
        obtain ⟨rfl, -⟩ := List.cons.inj hafter
        exact absurd List.mem_append_cons_self hbefore'

/-! ## One more element -/

theorem snoc_eq_split_iff {earlier later : List α} {x y : α} :
    l ++ [x] = earlier ++ y :: later ↔
      (later = [] ∧ earlier = l ∧ y = x) ∨ ∃ rest, later = rest ++ [x] ∧ l = earlier ++ y :: rest := by
  constructor
  · intro h
    rcases List.eq_nil_or_concat later with rfl | ⟨rest, z, rfl⟩
    · obtain ⟨rfl, hy⟩ := List.append_inj' h rfl
      exact .inl ⟨rfl, rfl, (List.cons.inj hy).1.symm⟩
    · rw [List.concat_eq_append] at h ⊢
      have h' : l ++ [x] = (earlier ++ y :: rest) ++ [z] := by
        rw [h, List.append_assoc, List.cons_append]
      obtain ⟨rfl, hx⟩ := List.append_inj' h' rfl
      exact .inr ⟨rest, by rw [(List.cons.inj hx).1], rfl⟩
  · rintro (⟨rfl, rfl, rfl⟩ | ⟨rest, rfl, rfl⟩)
    · rfl
    · rw [List.append_assoc, List.cons_append]

theorem getElem?_snoc_iff {b : α} :
    (l ++ [a])[i]? = some b ↔ l[i]? = some b ∨ i = l.length ∧ a = b := by
  rw [List.getElem?_append]
  split
  case isTrue hi =>
    have hne : i ≠ l.length := Nat.ne_of_lt hi
    simp [hne]
  case isFalse hi =>
    have hnone : l[i]? = none := List.getElem?_eq_none (Nat.le_of_not_lt hi)
    rw [hnone, List.getElem?_singleton]
    grind

/-! ## A list of what may fail -/

theorem mapM_eq_none_of_mem {β : Type} {f : α → Option β} {items : List α} {item : α}
    (hmem : item ∈ items) (hitem : f item = none) : items.mapM f = none := by
  induction items with
  | nil => exact nomatch hmem
  | cons first rest ih =>
      rw [List.mapM_cons]
      rcases List.mem_cons.1 hmem with rfl | hmem
      · rw [hitem]
        rfl
      · rw [ih hmem]
        cases f first <;> rfl

end NodeKeeper
