/-
# Dictionaries in key order

A finite map from texts whose entries stand in strictly increasing order of
their keys, by code points.  Two dictionaries with the same look-ups are equal,
and every listing of one is in key order.
-/
namespace NodeKeeper

/-- Puts an entry into a list in key order; the value of a present key is
replaced. -/
def putSorted {β : Type} (key : String) (value : β) : List (String × β) → List (String × β)
  | [] => [(key, value)]
  | (k, v) :: rest =>
    if key < k then (key, value) :: (k, v) :: rest
    else if key = k then (key, value) :: rest
    else (k, v) :: putSorted key value rest

/-- The keys stand in strictly increasing order. -/
def KeysIncrease {β : Type} (entries : List (String × β)) : Prop :=
  entries.Pairwise fun a b => a.1 < b.1

/-- What `putSorted` lists was there before or is the new entry. -/
theorem mem_putSorted {β : Type} {key : String} {value : β} {entries : List (String × β)}
    {e : String × β} (h : e ∈ putSorted key value entries) : e = (key, value) ∨ e ∈ entries := by
  induction entries with
  | nil => simp_all [putSorted]
  | cons a rest ih =>
    unfold putSorted at h
    split at h
    · simpa using h
    · split at h
      · rcases List.mem_cons.1 h with h | h
        · exact .inl h
        · exact .inr (List.mem_cons_of_mem _ h)
      · rcases List.mem_cons.1 h with h | h
        · exact .inr (h ▸ List.mem_cons_self)
        · rcases ih h with h | h
          · exact .inl h
          · exact .inr (List.mem_cons_of_mem _ h)

/-- Putting an entry keeps the key order. -/
theorem keysIncrease_putSorted {β : Type} {key : String} {value : β}
    {entries : List (String × β)} (h : KeysIncrease entries) :
    KeysIncrease (putSorted key value entries) := by
  induction entries with
  | nil => simp [putSorted, KeysIncrease]
  | cons a rest ih =>
    obtain ⟨ha, hr⟩ := List.pairwise_cons.1 h
    unfold putSorted
    split
    · next hk =>
      refine List.pairwise_cons.2 ⟨fun e he => ?_, h⟩
      rcases List.mem_cons.1 he with rfl | he
      · exact hk
      · exact String.lt_trans hk (ha e he)
    · split
      · next hk => exact List.pairwise_cons.2 ⟨fun e he => by subst hk; exact ha e he, hr⟩
      · next h1 h2 =>
        have hlt : a.1 < key := by
          have hle := String.not_lt.1 h1
          grind
        refine List.pairwise_cons.2 ⟨fun e he => ?_, ih hr⟩
        rcases mem_putSorted he with rfl | he
        · exact hlt
        · exact ha e he

/-- A finite map from texts, listed in key order. -/
structure Dictionary (β : Type) where
  entries : List (String × β)
  keysIncrease : KeysIncrease entries

namespace Dictionary

variable {β : Type}

instance [DecidableEq β] : DecidableEq (Dictionary β) := fun a b =>
  if h : a.entries = b.entries then
    .isTrue (by cases a; cases b; cases h; rfl)
  else .isFalse (fun e => h (e ▸ rfl))

/-- No entries. -/
def empty : Dictionary β := ⟨[], List.Pairwise.nil⟩

instance : Inhabited (Dictionary β) := ⟨empty⟩

/-- Sets the value of a key. -/
def put (d : Dictionary β) (key : String) (value : β) : Dictionary β :=
  ⟨putSorted key value d.entries, keysIncrease_putSorted d.keysIncrease⟩

/-- The value of a key. -/
def get? (d : Dictionary β) (key : String) : Option β := d.entries.lookup key

theorem lookup_cons_eq_ite (k : String) (e : String × β) (rest : List (String × β)) :
    (e :: rest).lookup k = if k = e.1 then some e.2 else rest.lookup k := by
  by_cases h : k = e.1
  · subst h
    rw [List.lookup_cons_self, if_pos rfl]
  · have hne : (k == e.1) = false := by simpa using h
    rw [List.lookup_cons, hne, if_neg h]

/-- The entries are the keys with their values. -/
theorem mem_entries_iff {d : Dictionary β} {key : String} {value : β} :
    (key, value) ∈ d.entries ↔ d.get? key = some value := by
  obtain ⟨entries, h⟩ := d
  show (key, value) ∈ entries ↔ entries.lookup key = some value
  induction entries with
  | nil => simp
  | cons e rest ih =>
      obtain ⟨he, hr⟩ := List.pairwise_cons.1 h
      rw [lookup_cons_eq_ite]
      by_cases hkey : key = e.1
      · subst hkey
        have hnot : (e.1, value) ∉ rest := fun hm => String.lt_irrefl _ (he (e.1, value) hm)
        simp only [List.mem_cons, hnot, or_false, if_true, Option.some.injEq]
        exact ⟨fun hv => (congrArg Prod.snd hv).symm, fun hv => hv ▸ rfl⟩
      · have hne : (key, value) ≠ e := fun hv => hkey (congrArg Prod.fst hv)
        simp only [List.mem_cons, hne, false_or, if_neg hkey, ih hr]

theorem get?_empty (key : String) : (empty : Dictionary β).get? key = none := rfl

theorem lookup_putSorted (key : String) (value : β) (k : String) (entries : List (String × β)) :
    (putSorted key value entries).lookup k =
      if k = key then some value else entries.lookup k := by
  induction entries with
  | nil => simp [putSorted, lookup_cons_eq_ite]
  | cons a rest ih =>
      unfold putSorted
      split
      · simp only [lookup_cons_eq_ite]
      · split
        · next h =>
          simp only [lookup_cons_eq_ite, h]
          by_cases hk : k = a.1 <;> simp [hk]
        · next h =>
          simp only [lookup_cons_eq_ite, ih]
          by_cases hk : k = a.1
          · simp [hk, Ne.symm h]
          · simp [hk]

/-- After a key is set it has its new value, and the others have their old ones. -/
theorem get?_put (d : Dictionary β) (key : String) (value : β) (k : String) :
    (d.put key value).get? k = if k = key then some value else d.get? k :=
  lookup_putSorted key value k d.entries

/-- Later entries win over earlier ones with the same key. -/
def ofList (entries : List (String × β)) : Dictionary β :=
  entries.foldl (fun d e => d.put e.1 e.2) empty

/-- Is there no entry? -/
def isEmpty (d : Dictionary β) : Bool := d.entries.isEmpty

end Dictionary

end NodeKeeper
