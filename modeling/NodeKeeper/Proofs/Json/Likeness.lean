/-
# Trees that a reader takes alike

A reader of records looks for the members it knows.  It takes two objects alike
if they say the same under each key that it knows, whatever the order of the
members and whatever else they say.  `Likeness` is such a relation, put together
as the reader is:

    reader                     likeness               what must agree
    -----------------------------------------------------------------------------
    a text, a number           equality               everything
    `Decode.list`              `Likeness.list`        the items, one by one
    `Decode.fields`            `Likeness.record`      what is said under each name
    `Decode.dictionary`        `Likeness.dictionary`  what is said under any key

That a reader of records respects its likeness comes from two descriptions that
have no order in them: the fields of an object are what is said under their
names, unless something is said twice (`fields_object`), and a dictionary has
under each key what was said last (`dictionary_object_eq_some`).
-/
import Mathlib.Data.List.Forall2
import Mathlib.Data.Option.Basic
import NodeKeeper.Json.Decode
import NodeKeeper.Proofs.Dictionaries

namespace NodeKeeper.Json

/-! ## What is said under a key -/

/-- What the members say under a key, in their order. -/
def under (key : String) (members : List (Option String × Tree)) : List Tree :=
  members.filterMap fun m => if m.1 = some key then some m.2 else none

/-- Every key is a text. -/
def AllNamed (members : List (Option String × Tree)) : Prop := ∀ m ∈ members, m.1.isSome

variable {key : String} {t : Tree} {members : List (Option String × Tree)}

@[simp] theorem under_nil : under key [] = [] := rfl

theorem under_cons_self : under key ((some key, t) :: members) = t :: under key members := by
  simp [under]

theorem under_cons_of_ne {k : String} (h : k ≠ key) :
    under key ((some k, t) :: members) = under key members := by
  simp [under, h]

theorem under_append (members' : List (Option String × Tree)) :
    under key (members ++ members') = under key members ++ under key members' :=
  List.filterMap_append

theorem AllNamed.cons_iff {m : Option String × Tree} :
    AllNamed (m :: members) ↔ (∃ k, m.1 = some k) ∧ AllNamed members := by
  simp [AllNamed, Option.isSome_iff_exists]

theorem forall_under_iff (h : AllNamed members) {P : Tree → Prop} :
    (∀ key, ∀ t ∈ under key members, P t) ↔ ∀ m ∈ members, P m.2 := by
  constructor
  · intro hunder m hm
    obtain ⟨key, hkey⟩ := Option.isSome_iff_exists.1 (h m hm)
    exact hunder key m.2 (List.mem_filterMap.2 ⟨m, hm, if_pos hkey⟩)
  · intro hmembers key t ht
    obtain ⟨m, hm, heq⟩ := List.mem_filterMap.1 ht
    split at heq
    · obtain rfl := Option.some.inj heq
      exact hmembers m hm
    · cases heq

/-! ## Likeness -/

/-- Which trees a reader takes alike. -/
abbrev Likeness := Tree → Tree → Prop

namespace Likeness

/-- Arrays are alike item by item. -/
def list (item : Likeness) : Likeness := fun t t' =>
  t = t' ∨ ∃ items items', t = .array items ∧ t' = .array items' ∧ List.Forall₂ item items items'

/-- Objects, by what they say under each key. -/
def object (same : String → List Tree → List Tree → Prop) : Likeness := fun t t' =>
  t = t' ∨ ∃ members members', t = .object members ∧ t' = .object members' ∧
    AllNamed members ∧ AllNamed members' ∧
    ∀ key, same key (under key members) (under key members')

/-- Objects are alike if they say like things under each name.  The order of the
members is left open, and so are members of other names. -/
def record (fields : List (String × Likeness)) : Likeness :=
  object fun key said said' => ∀ like, (key, like) ∈ fields → List.Forall₂ like said said'

/-- Objects are alike if they say the same under each name. -/
def plain (names : List String) : Likeness := record (names.map fun name => (name, Eq))

theorem plain_refl (names : List String) :
    ∀ f ∈ names.map fun name => (name, @Eq Tree), ∀ t, f.2 t t := by
  intro f hf t
  obtain ⟨name, -, rfl⟩ := List.mem_map.1 hf
  rfl

/-- Objects are alike if they say like things under each key. -/
def dictionary (item : Likeness) : Likeness :=
  object fun _ said said' => List.Forall₂ item said said'

variable {fields : List (String × Likeness)} {members' : List (Option String × Tree)}

/-- A record may have its members in another order, and others before them that
are nobody's. -/
theorem record_of_perm {extra : List (Option String × Tree)}
    (hrefl : ∀ f ∈ fields, ∀ t, f.2 t t) (hnamed : AllNamed (extra ++ members))
    (honce : ∀ f ∈ fields, (under f.1 members).length ≤ 1) (h : members.Perm members')
    (hextra : ∀ f ∈ fields, under f.1 extra = []) :
    record fields (.object members) (.object (extra ++ members')) := by
  obtain ⟨hnamedExtra, hnamedMembers⟩ := List.forall_mem_append.1 hnamed
  refine .inr ⟨members, _, rfl, rfl, hnamedMembers, ?_, fun key like hf => ?_⟩
  · exact List.forall_mem_append.2 ⟨hnamedExtra, fun m hm => hnamedMembers m (h.mem_iff.2 hm)⟩
  · have hunder : (under key members).Perm (under key members') := h.filterMap _
    have hsame : under key members = under key members' := by
      cases hsaid : under key members with
      | nil =>
          rw [hsaid] at hunder
          exact hunder.nil_eq
      | cons t rest =>
          have hle : (under key members).length ≤ 1 := honce _ hf
          rw [hsaid, List.length_cons] at hle
          obtain rfl := List.length_eq_zero_iff.1 (Nat.le_zero.1 (Nat.le_of_succ_le_succ hle))
          rw [hsaid] at hunder
          exact (List.perm_singleton.1 hunder.symm).symm
    rw [under_append, hextra _ hf, List.nil_append, ← hsame]
    exact List.forall₂_same.2 fun t _ => hrefl _ hf t

end Likeness

/-! ## The readers respect their likeness -/

namespace Decode

variable {α : Type} {item : Decoder α} {like : Likeness} {names : List String}

/-- The reader says the same of trees that are alike. -/
def Respects (decoder : Decoder α) (like : Likeness) : Prop :=
  ∀ ⦃t t'⦄, like t t' → decoder t = decoder t'

theorem respects_eq (decoder : Decoder α) : Respects decoder Eq := fun _ _ h => h ▸ rfl

theorem Respects.list (h : Respects item like) : Respects (list item) like.list := by
  rintro _ _ (rfl | ⟨items, items', rfl, rfl, hitems⟩)
  · rfl
  · show items.mapM item = items'.mapM item
    induction hitems with
    | nil => rfl
    | cons hfirst _ ih => rw [List.mapM_cons, List.mapM_cons, h hfirst, ih]

/-! ### The fields of a record -/

/-- What is said under each name, if that is one thing or none. -/
def settle (names : List String) (said : String → List Tree) : Option (List (Option Tree)) :=
  if ∀ name ∈ names, (said name).length ≤ 1 then some (names.map fun name => (said name).head?)
  else none

theorem settle_congr {said said' : String → List Tree}
    (h : ∀ name ∈ names, said name = said' name) : settle names said = settle names said' := by
  have hlength : (∀ name ∈ names, (said name).length ≤ 1) ↔
      ∀ name ∈ names, (said' name).length ≤ 1 :=
    forall₂_congr fun name hname => by rw [h name hname]
  have hhead : (names.map fun name => (said name).head?) =
      names.map fun name => (said' name).head? :=
    List.map_congr_left fun name hname => by rw [h name hname]
  simp only [settle, hlength, hhead]

theorem fill_cons (name : String) (names : List String) (field : Option Tree)
    (fields : List (Option Tree)) :
    fill (name :: names) key t (field :: fields) =
      if name = key then (if field.isSome then none else some (some t :: fields))
      else (fill names key t fields).map (field :: ·) := by
  cases field <;> rfl

theorem fill_of_not_mem {fields : List (Option Tree)} (h : key ∉ names) :
    fill names key t fields = some fields := by
  induction names generalizing fields with
  | nil => rfl
  | cons name names ih =>
      have hne : name ≠ key := fun heq => h (heq ▸ List.mem_cons_self)
      cases fields with
      | nil => rfl
      | cons field fields =>
          rw [fill_cons, if_neg hne, ih fun hmem => h (List.mem_cons_of_mem _ hmem),
            Option.map_some]

theorem fill_of_mem (hnodup : names.Nodup) (h : key ∈ names) (found : String → Option Tree) :
    fill names key t (names.map found) =
      if (found key).isSome then none
      else some (names.map fun name => if name = key then some t else found name) := by
  induction names with
  | nil => cases h
  | cons name names ih =>
      obtain ⟨hnot, hrest⟩ := List.nodup_cons.1 hnodup
      rw [List.map_cons, fill_cons, List.map_cons]
      by_cases hname : name = key
      · subst hname
        have hothers : (names.map fun other => if other = name then some t else found other) =
            names.map found :=
          List.map_congr_left fun other hother =>
            if_neg fun (heq : other = name) => hnot (heq ▸ hother)
        rw [if_pos rfl, if_pos rfl, hothers]
      · have hmem : key ∈ names := (List.mem_cons.1 h).resolve_left (Ne.symm hname)
        rw [if_neg hname, if_neg hname, ih hrest hmem]
        split <;> rfl

/-- From any fields on: what is found already counts as said. -/
theorem foldlM_fill (hnodup : names.Nodup) (hnamed : AllNamed members)
    (found : String → Option Tree) :
    members.foldlM (fun fields (key, t) => do
        let key ← key
        fill names key t fields) (names.map found) =
      settle names fun name => (found name).toList ++ under name members := by
  induction members generalizing found with
  | nil =>
      have hle : ∀ name ∈ names, ((found name).toList ++ under name []).length ≤ 1 := by
        intro name _
        cases found name <;> simp
      have hhead : (names.map fun name => ((found name).toList ++ under name []).head?) =
          names.map found :=
        List.map_congr_left fun name _ => by cases found name <;> rfl
      rw [settle, if_pos hle, hhead]
      rfl
  | cons m members ih =>
      obtain ⟨key, t⟩ := m
      obtain ⟨⟨k, rfl⟩, hrest⟩ := AllNamed.cons_iff.1 hnamed
      rw [List.foldlM_cons]
      show (fill names k t (names.map found)).bind _ = _
      by_cases hmem : k ∈ names
      · rw [fill_of_mem hnodup hmem]
        cases hfound : found k with
        | none =>
            rw [if_neg (by simp), Option.bind_some, ih hrest]
            refine settle_congr fun name _ => ?_
            by_cases hname : name = k
            · subst hname
              rw [if_pos rfl, under_cons_self, hfound]
              rfl
            · rw [if_neg hname, under_cons_of_ne (Ne.symm hname)]
        | some earlier =>
            rw [if_pos (by simp), settle, if_neg]
            · rfl
            · intro hall
              have htwo := hall k hmem
              rw [hfound, under_cons_self] at htwo
              simp at htwo
      · rw [fill_of_not_mem hmem, Option.bind_some, ih hrest]
        refine settle_congr fun name hname => ?_
        rw [under_cons_of_ne fun (heq : k = name) => hmem (heq ▸ hname)]

/-- The fields of an object are what is said under their names. -/
theorem fields_object (hnodup : names.Nodup) (hnamed : AllNamed members) :
    fields names (.object members) = settle names fun name => under name members :=
  foldlM_fill hnodup hnamed fun _ => none

theorem head?_rel {said said' : List Tree} (h : List.Forall₂ like said said') :
    Option.Rel like said.head? said'.head? := by
  cases h with
  | nil => exact .none
  | cons hfirst _ => exact .some hfirst

theorem respects_record {shape : List (String × Likeness)} {k : List (Option Tree) → Option α}
    (hnodup : (shape.map Prod.fst).Nodup)
    (hk : ∀ found found' : String → Option Tree,
      (∀ name like, (name, like) ∈ shape → Option.Rel like (found name) (found' name)) →
      k ((shape.map Prod.fst).map found) = k ((shape.map Prod.fst).map found')) :
    Respects (fun t => (fields (shape.map Prod.fst) t).bind k) (.record shape) := by
  rintro _ _ (rfl | ⟨members, members', rfl, rfl, hnamed, hnamed', hsame⟩)
  · rfl
  · have honce : (∀ name ∈ shape.map Prod.fst, (under name members).length ≤ 1) ↔
        ∀ name ∈ shape.map Prod.fst, (under name members').length ≤ 1 := by
      refine forall₂_congr fun name hname => ?_
      obtain ⟨⟨_, like⟩, hf, rfl⟩ := List.mem_map.1 hname
      rw [(hsame _ like hf).length_eq]
    have hfound := hk (fun name => (under name members).head?)
      (fun name => (under name members').head?) fun name like hf => head?_rel (hsame name like hf)
    show (fields _ _).bind k = (fields _ _).bind k
    rw [fields_object hnodup hnamed, fields_object hnodup hnamed', settle, settle]
    by_cases hall : ∀ name ∈ shape.map Prod.fst, (under name members).length ≤ 1
    · rw [if_pos hall, if_pos (honce.1 hall)]
      exact hfound
    · rw [if_neg hall, if_neg (mt honce.2 hall)]

/-- Where fields must be equal to be alike, the reader may do with them what it
likes. -/
theorem respects_plain (hnodup : names.Nodup) (k : List (Option Tree) → Option α) :
    Respects (fun t => (fields names t).bind k) (.plain names) := by
  rintro _ _ (rfl | ⟨members, members', rfl, rfl, hnamed, hnamed', hsame⟩)
  · rfl
  · have hsaid : ∀ name ∈ names, under name members = under name members' := by
      intro name hname
      have hforall := hsame name Eq (List.mem_map.2 ⟨name, hname, rfl⟩)
      rwa [List.forall₂_eq_eq_eq] at hforall
    have hfields : fields names (.object members) = fields names (.object members') := by
      rw [fields_object hnodup hnamed, fields_object hnodup hnamed', settle_congr hsaid]
    exact congrArg (·.bind k) hfields

theorem Respects.required (h : Respects item like) {field field' : Option Tree}
    (hf : Option.Rel like field field') : required item field = required item field' := by
  cases hf with
  | none => rfl
  | some hsame => exact h hsame

theorem Respects.defaulted (h : Respects item like) {field field' : Option Tree}
    (hf : Option.Rel like field field') (fallback : α) :
    defaulted fallback item field = defaulted fallback item field' := by
  cases hf with
  | none => rfl
  | some hsame => exact h hsame

/-! ### Dictionaries -/

theorem foldlM_put_eq_some (hnamed : AllNamed members) (d d' : Dictionary α) :
    members.foldlM (fun (d : Dictionary α) (key, t) => do
        let key ← key
        let v ← item t
        pure (d.put key v)) d = some d' ↔
      (∀ m ∈ members, (item m.2).isSome) ∧
      ∀ key, d'.get? key = ((under key members).getLast?.elim (d.get? key) item) := by
  induction members generalizing d with
  | nil =>
      simp only [List.foldlM_nil, under_nil, List.getLast?_nil, Option.elim_none, List.not_mem_nil,
        false_implies, implies_true, true_and]
      constructor
      · rintro ⟨⟩ key
        rfl
      · exact fun h => congrArg some (Dictionary.ext_get? fun key => (h key).symm)
  | cons m members ih =>
      obtain ⟨key, t⟩ := m
      obtain ⟨⟨k, rfl⟩, hrest⟩ := AllNamed.cons_iff.1 hnamed
      rw [List.foldlM_cons, List.forall_mem_cons]
      cases hitem : item t with
      | none => simp [hitem]
      | some v =>
          show ((item t).bind fun v => some (d.put k v)).bind _ = some d' ↔ _
          rw [hitem, Option.bind_some, Option.bind_some, ih hrest]
          simp only [Option.isSome_some, true_and]
          refine and_congr_right fun _ => forall_congr' fun key => ?_
          by_cases hkey : k = key
          · subst hkey
            rw [under_cons_self, List.getLast?_cons, Dictionary.get?_put, if_pos rfl]
            cases (under k members).getLast? with
            | none => simp [hitem]
            | some last => simp
          · rw [under_cons_of_ne hkey, Dictionary.get?_put, if_neg (Ne.symm hkey)]

/-- A dictionary is read if all of its values are, and has under each key what
was said last. -/
theorem dictionary_object_eq_some (hnamed : AllNamed members) (d : Dictionary α) :
    dictionary item (.object members) = some d ↔
      ∀ key, (∀ t ∈ under key members, (item t).isSome) ∧
        d.get? key = (under key members).getLast?.bind item := by
  have hlast : ∀ key, (under key members).getLast?.elim (Dictionary.empty.get? key) item =
      (under key members).getLast?.bind item := by
    intro key
    cases (under key members).getLast? <;> rfl
  rw [forall_and, forall_under_iff hnamed]
  simp only [← hlast]
  exact foldlM_put_eq_some hnamed .empty d

theorem Respects.map_eq (h : Respects item like) {said said' : List Tree}
    (hsame : List.Forall₂ like said said') : said.map item = said'.map item := by
  induction hsame with
  | nil => rfl
  | cons hfirst _ ih => rw [List.map_cons, List.map_cons, h hfirst, ih]

theorem Respects.dictionary (h : Respects item like) :
    Respects (dictionary item) like.dictionary := by
  rintro _ _ (rfl | ⟨members, members', rfl, rfl, hnamed, hnamed', hsame⟩)
  · rfl
  · have hall : ∀ key, (∀ t ∈ under key members, (item t).isSome) ↔
        ∀ t ∈ under key members', (item t).isSome := by
      have hread : ∀ said : List Tree, (∀ o ∈ said.map item, o.isSome) ↔
          ∀ t ∈ said, (item t).isSome := fun _ => List.forall_mem_map
      exact fun key => by rw [← hread, h.map_eq (hsame key), hread]
    have hlast : ∀ key, (under key members).getLast?.bind item =
        (under key members').getLast?.bind item := by
      have hread : ∀ said : List Tree, (said.map item).getLast?.join = said.getLast?.bind item := by
        intro said
        rw [List.getLast?_map]
        cases said.getLast? <;> rfl
      exact fun key => by rw [← hread, h.map_eq (hsame key), hread]
    refine Option.ext fun d => ?_
    simp only [dictionary_object_eq_some hnamed, dictionary_object_eq_some hnamed', hall, hlast]

/-! ## From texts -/

/-- Texts that are alike are read as the same, or not at all. -/
def ReadsAlike (decoder : Decoder α) (like : Likeness) : Prop :=
  ∀ ⦃bytes bytes' : List UInt8⦄ ⦃t t' : Tree⦄, Tree.read? bytes = some t →
    Tree.read? bytes' = some t' → like t t' → decode decoder bytes = decode decoder bytes'

theorem Respects.readsAlike (h : Respects item like) : ReadsAlike item like := by
  intro bytes bytes' t t' hread hread' hlike
  rw [decode, decode, hread, hread']
  exact h hlike

end Decode

end NodeKeeper.Json
