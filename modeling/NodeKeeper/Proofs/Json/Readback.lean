/-
# Values that are read as they were meant

`Reads decoder v a` says that a reader takes the value `v` for `a`, also through
its text (`Reads.decode`).  Writers and readers are put together in the same way,
and so are these facts:

    text, truth value, integer          one each
    array                               from its items         (`Reads.list`)
    object with a member for each       from the values        (`reads_dictionary`)
      entry of a dictionary
-/
import NodeKeeper.Proofs.Json.Grouping
import NodeKeeper.Proofs.Json.Likeness

namespace NodeKeeper.Json.Decode

open Number

variable {α : Type} {item : Decoder α} {v : Value} {a : α}

/-- The reader takes the value for `a`. -/
def Reads (decoder : Decoder α) (v : Value) (a : α) : Prop :=
  v.IsExact ∧ decoder v.tree = some a

theorem Reads.decode (h : Reads item v a) : decode item (utf8 v.compact) = some a := by
  rw [Json.decode, read?_compact h.1]
  exact h.2

theorem reads_text (s : String) : Reads text (.text s) s := ⟨trivial, rfl⟩

theorem reads_record {names : List String} {k : List (Option Tree) → Option α}
    {found : List (Option Tree)} (hexact : v.IsExact) (hfields : fields names v.tree = some found)
    (hk : k found = some a) : Reads (fun t => (fields names t).bind k) v a := by
  refine ⟨hexact, ?_⟩
  show (fields names v.tree).bind k = some a
  rw [hfields]
  exact hk

theorem Reads.required (h : Reads item v a) : required item (some v.tree) = some a := h.2

theorem Reads.defaulted (h : Reads item v a) (fallback : α) :
    defaulted fallback item (some v.tree) = some a := h.2

/-! ## Integers -/

theorem gather_append {ds cs : List Char} {k n : Nat} (h : gather k ds = (n, [])) :
    gather k (ds ++ cs) = gather n cs := by
  induction ds generalizing k with
  | nil => cases h; rfl
  | cons d ds ih =>
      rw [gather] at h
      rw [List.cons_append, gather]
      split at h
      · next hle =>
        rw [if_pos hle]
        exact ih h
      · cases h

theorem value_digitChar : ∀ d < 10, (Nat.digitChar d).toNat - 48 = d := by decide

theorem gather_toDigits {n : Nat} (h : n ≤ maxU64) : gather 0 (Nat.toDigits 10 n) = (n, []) := by
  induction n using Nat.strongRecOn with
  | ind n ih =>
      rw [Nat.toDigits_eq_if (by decide)]
      split
      · next hlt =>
        have hnext : 0 * 10 + ((Nat.digitChar n).toNat - 48) = n := by
          rw [value_digitChar n hlt, Nat.zero_mul, Nat.zero_add]
        rw [gather, hnext, if_pos h, gather]
      · next hle =>
        have hnext : n / 10 * 10 + ((Nat.digitChar (n % 10)).toNat - 48) = n := by
          rw [value_digitChar _ (Nat.mod_lt n (by decide)), Nat.div_add_mod']
        rw [gather_append (ih (n / 10) (by omega) (Nat.le_trans (Nat.div_le_self n 10) h)), gather,
          hnext, if_pos h, gather]

theorem quantity?_ofInt {n : Nat} (h : n ≤ maxU64) :
    (Numeral.ofInt n).quantity? = some (.integer n) := by
  have hsign : decide ((n : Int) < 0) = false := decide_eq_false (by omega)
  simp [Numeral.quantity?, Numeral.ofInt, hsign, gather_toDigits h]

theorem reads_u64 (n : UInt64) : Reads u64 (.integer n.toNat) n := by
  have hle : n.toNat ≤ maxU64 := Nat.le_of_lt_succ n.toNat_lt
  refine ⟨trivial, ?_⟩
  simp [Value.tree, u64, unsigned, quantity?_ofInt hle, hle]

/-! ## Arrays -/

theorem allExact_iff {items : List Value} : Value.AllExact items ↔ ∀ v ∈ items, v.IsExact := by
  induction items with
  | nil => simp [Value.AllExact]
  | cons v items ih => rw [Value.AllExact, ih, List.forall_mem_cons]

theorem itemTrees_eq_map (items : List Value) : Value.itemTrees items = items.map Value.tree := by
  induction items with
  | nil => rfl
  | cons v items ih => rw [Value.itemTrees, ih, List.map_cons]

theorem Reads.list {write : α → Value} (h : ∀ a, Reads item (write a) a) (as : List α) :
    Reads (list item) (.array (as.map write)) as := by
  refine ⟨allExact_iff.2 (List.forall_mem_map.2 fun a _ => (h a).1), ?_⟩
  show (Value.itemTrees (as.map write)).mapM item = some as
  rw [itemTrees_eq_map]
  induction as with
  | nil => rfl
  | cons a as ih =>
      rw [List.map_cons, List.map_cons, List.mapM_cons, (h a).2, ih]
      rfl

/-! ## Dictionaries -/

theorem membersExact_iff {members : List (String × Value)} :
    Value.MembersExact members ↔ ∀ m ∈ members, m.2.IsExact := by
  induction members with
  | nil => simp [Value.MembersExact]
  | cons m members ih =>
      obtain ⟨k, v⟩ := m
      rw [Value.MembersExact, ih, List.forall_mem_cons]

theorem memberTrees_eq_map (members : List (String × Value)) :
    Value.memberTrees members = members.map fun m => (some m.1, m.2.tree) := by
  induction members with
  | nil => rfl
  | cons m members ih => rw [Value.memberTrees, ih, List.map_cons]

theorem allNamed_memberTrees (members : List (String × Value)) :
    AllNamed (Value.memberTrees members) := by
  rw [memberTrees_eq_map]
  exact List.forall_mem_map.2 fun _ _ => rfl

theorem under_memberTrees_of_not_mem {members : List (String × Value)} {key : String}
    (h : key ∉ members.map Prod.fst) : under key (Value.memberTrees members) = [] := by
  induction members with
  | nil => rfl
  | cons m members ih =>
      obtain ⟨k, v⟩ := m
      have hkey : k ≠ key := fun heq => h (heq ▸ List.mem_cons_self)
      rw [Value.memberTrees, under_cons_of_ne hkey]
      exact ih fun hmem => h (List.mem_cons_of_mem _ hmem)

theorem under_entries {write : α → Value} (d : Dictionary α) (key : String) :
    under key (Value.memberTrees (d.entries.map fun e => (e.1, write e.2))) =
      ((d.get? key).map fun a => (write a).tree).toList := by
  obtain ⟨entries, hkeys⟩ := d
  show _ = ((entries.lookup key).map fun a => (write a).tree).toList
  induction entries with
  | nil => rfl
  | cons e entries ih =>
      obtain ⟨hfirst, hrest⟩ := List.pairwise_cons.1 hkeys
      rw [List.map_cons, Value.memberTrees, Dictionary.lookup_cons_eq_ite]
      by_cases hkey : e.1 = key
      · subst hkey
        have hnot : e.1 ∉ (entries.map fun e => (e.1, write e.2)).map Prod.fst := by
          rw [List.map_map]
          rintro hmem
          obtain ⟨e', he', heq⟩ := List.mem_map.1 hmem
          exact String.lt_irrefl e.1 (heq ▸ hfirst e' he')
        rw [under_cons_self, under_memberTrees_of_not_mem hnot, if_pos rfl]
        rfl
      · rw [under_cons_of_ne hkey, ih hrest, if_neg (Ne.symm hkey)]

theorem reads_dictionary {write : α → Value} (h : ∀ a, Reads item (write a) a) (d : Dictionary α) :
    Reads (dictionary item) (.object (d.entries.map fun e => (e.1, write e.2))) d := by
  refine ⟨membersExact_iff.2 (List.forall_mem_map.2 fun e _ => (h e.2).1), ?_⟩
  rw [Value.tree]
  refine (dictionary_object_eq_some (allNamed_memberTrees _) d).2 fun key => ?_
  rw [under_entries]
  cases d.get? key with
  | none => exact ⟨nofun, rfl⟩
  | some a =>
      have hread : item (write a).tree = some a := (h a).2
      refine ⟨fun t ht => ?_, hread.symm⟩
      obtain rfl := List.mem_singleton.1 ht
      rw [hread]
      rfl

/-! ## Rearranged objects -/

theorem length_under_le {members : List (String × Value)} (h : (members.map Prod.fst).Nodup)
    (key : String) : (under key (Value.memberTrees members)).length ≤ 1 := by
  induction members with
  | nil => exact Nat.zero_le 1
  | cons m members ih =>
      obtain ⟨k, v⟩ := m
      obtain ⟨hnot, hrest⟩ := List.nodup_cons.1 h
      rw [Value.memberTrees]
      by_cases hkey : k = key
      · subst hkey
        rw [under_cons_self, under_memberTrees_of_not_mem hnot]
        exact Nat.le_refl 1
      · rw [under_cons_of_ne hkey]
        exact ih hrest

theorem record_rearranged {shape : List (String × Likeness)}
    {members members' extra : List (String × Value)} (hrefl : ∀ f ∈ shape, ∀ t, f.2 t t)
    (hnodup : (members.map Prod.fst).Nodup) (h : members.Perm members')
    (hextra : ∀ f ∈ shape, f.1 ∉ extra.map Prod.fst) :
    Likeness.record shape (Value.object members).tree (Value.object (extra ++ members')).tree := by
  have hsplit : Value.memberTrees (extra ++ members') =
      Value.memberTrees extra ++ Value.memberTrees members' := by
    rw [memberTrees_eq_map, memberTrees_eq_map, memberTrees_eq_map, List.map_append]
  have hperm : (Value.memberTrees members).Perm (Value.memberTrees members') := by
    rw [memberTrees_eq_map, memberTrees_eq_map]
    exact h.map _
  have hnamed : AllNamed (Value.memberTrees extra ++ Value.memberTrees members) :=
    List.forall_mem_append.2 ⟨allNamed_memberTrees extra, allNamed_memberTrees members⟩
  rw [Value.tree, Value.tree, hsplit]
  exact Likeness.record_of_perm hrefl hnamed (fun f _ => length_under_le hnodup f.1) hperm
    fun f hf => under_memberTrees_of_not_mem (hextra f hf)

/-- A reader that takes like texts alike reads an object as it reads one with its
members in another order, after members that are nobody's. -/
theorem ReadsAlike.rearranged {shape : List (String × Likeness)}
    {members members' extra : List (String × Value)} (halike : ReadsAlike item (.record shape))
    (hrefl : ∀ f ∈ shape, ∀ t, f.2 t t) (hexact : Value.MembersExact (extra ++ members))
    (hnodup : (members.map Prod.fst).Nodup) (h : members.Perm members')
    (hextra : ∀ f ∈ shape, f.1 ∉ extra.map Prod.fst) :
    Json.decode item (utf8 (Value.object (extra ++ members')).compact) =
      Json.decode item (utf8 (Value.object members).compact) := by
  obtain ⟨hextraExact, hmembersExact⟩ := List.forall_mem_append.1 (membersExact_iff.1 hexact)
  have hwhole : (Value.object members).IsExact := membersExact_iff.2 hmembersExact
  have hother : (Value.object (extra ++ members')).IsExact :=
    membersExact_iff.2 (List.forall_mem_append.2
      ⟨hextraExact, fun m hm => hmembersExact m (h.mem_iff.2 hm)⟩)
  exact (halike (read?_compact hwhole) (read?_compact hother)
    (record_rearranged hrefl hnodup h hextra)).symm

end NodeKeeper.Json.Decode
