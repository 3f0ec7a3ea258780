/-
# The tokens of a value are grouped into its tree again

`Builder.run` is the grouping machine from any of its states.  What it does with
the tokens of a value depends on the value and on the containers that are open,
not on the tokens after it:

    ready for a value        the tree of the value goes to the innermost container
                             (`run_tokens`)
    inside an array          the items left are added, and the array is closed
                             (`run_itemTokens`)
    inside an object         likewise (`run_memberTokens`)

With the scanner this makes the text of a value a text of its tree
(`read?_compact`).
-/
import NodeKeeper.Proofs.Json.Scanning

namespace NodeKeeper.Json

mutual

/-- The tree of a value; a double is left out. -/
def Value.tree : Value → Tree
  | .null => .null
  | .bool b => .bool b
  | .integer n => .numeral (.ofInt n)
  | .float _ => .null
  | .text s => .text (some s)
  | .array items => .array (Value.itemTrees items)
  | .object members => .object (Value.memberTrees members)

def Value.itemTrees : List Value → List Tree
  | [] => []
  | v :: vs => v.tree :: Value.itemTrees vs

def Value.memberTrees : List (String × Value) → List (Option String × Tree)
  | [] => []
  | (k, v) :: rest => (some k, v.tree) :: Value.memberTrees rest

end

namespace Builder

/-- The tree that comes of going on with these tokens. -/
def run (b : Builder) (ts : List Token) : Option Tree := (ts.foldlM step b).bind finish

theorem run_cons (b : Builder) (t : Token) (ts : List Token) :
    b.run (t :: ts) = (b.step t).bind (·.run ts) := by
  unfold run
  rw [List.foldlM_cons]
  cases b.step t <;> rfl

theorem run_of_step {b b' : Builder} {t : Token} (h : b.step t = some b') (ts : List Token) :
    b.run (t :: ts) = b'.run ts := by
  rw [run_cons, h]
  rfl

variable {frames : List Frame} {ts : List Token}

theorem run_firstItem {v : Value} {items : List Value} (hv : v.IsExact) :
    run ⟨.firstItem, frames⟩ (Value.itemTokens (v :: items) ++ ts) =
      run ⟨.value, frames⟩ (Value.itemTokens (v :: items) ++ ts) := by
  have hfirst : ∀ rest, run ⟨.firstItem, frames⟩ (v.tokens ++ rest) =
      run ⟨.value, frames⟩ (v.tokens ++ rest) := by
    intro rest
    cases v with
    | float x => exact hv.elim
    | null | bool | integer | text | array | object =>
        rw [Value.tokens, List.cons_append, run_cons, run_cons]
        rfl
  cases items with
  | nil => exact hfirst ts
  | cons v' items =>
      rw [itemTokens_cons_cons, List.append_assoc]
      exact hfirst _

theorem run_firstKey {m : String × Value} {members : List (String × Value)} :
    run ⟨.firstKey, frames⟩ (Value.memberTokens (m :: members) ++ ts) =
      run ⟨.key, frames⟩ (Value.memberTokens (m :: members) ++ ts) := by
  cases members with
  | nil => rfl
  | cons m' members =>
      rw [memberTokens_cons_cons, List.cons_append, run_cons, run_cons]
      rfl

theorem run_keyTokens {k : String} :
    run ⟨.key, frames⟩ (.text (some k) :: .colon :: ts) =
      run ⟨.value, .member (some k) :: frames⟩ ts := by
  rw [run_of_step rfl, run_of_step rfl]

mutual

/-- The tokens of a value are its tree, handed to the innermost container. -/
theorem run_tokens {frames : List Frame} {ts : List Token} :
    ∀ {v : Value}, v.IsExact →
      run ⟨.value, frames⟩ (v.tokens ++ ts) = (deliver v.tree frames).bind (·.run ts)
  | .null, _ => run_cons _ _ _
  | .bool _, _ => run_cons _ _ _
  | .integer _, _ => run_cons _ _ _
  | .text _, _ => run_cons _ _ _
  | .array [], _ => by
      rw [Value.tokens, List.cons_append, run_of_step rfl]
      exact run_cons _ _ _
  | .array (v :: items), hv => by
      rw [Value.tokens, List.cons_append, run_of_step rfl, List.append_assoc, run_firstItem hv.1]
      exact run_itemTokens (List.cons_ne_nil _ _) hv
  | .object [], _ => by
      rw [Value.tokens, List.cons_append, run_of_step rfl]
      exact run_cons _ _ _
  | .object (m :: members), hv => by
      rw [Value.tokens, List.cons_append, run_of_step rfl, List.append_assoc, run_firstKey]
      exact run_memberTokens (List.cons_ne_nil _ _) hv

theorem run_itemTokens {frames : List Frame} {ts : List Token} {read : List Tree} :
    ∀ {items : List Value}, items ≠ [] → Value.AllExact items →
      run ⟨.value, .array read :: frames⟩ (Value.itemTokens items ++ .closeArray :: ts) =
        (deliver (.array (read.reverse ++ Value.itemTrees items)) frames).bind (·.run ts)
  | [], hne, _ => absurd rfl hne
  | [v], _, ⟨hv, _⟩ => by
      have hclose : run ⟨.next, .array (v.tree :: read) :: frames⟩ (.closeArray :: ts) =
          (deliver (.array (v.tree :: read).reverse) frames).bind (·.run ts) := run_cons _ _ _
      rw [Value.itemTokens, run_tokens hv]
      rw [List.reverse_cons] at hclose
      exact hclose
  | v :: v' :: rest, _, ⟨hv, hrest⟩ => by
      have hcomma : run ⟨.next, .array (v.tree :: read) :: frames⟩
          (.comma :: (Value.itemTokens (v' :: rest) ++ .closeArray :: ts)) =
          run ⟨.value, .array (v.tree :: read) :: frames⟩
            (Value.itemTokens (v' :: rest) ++ .closeArray :: ts) := run_of_step rfl _
      rw [itemTokens_cons_cons, List.append_assoc, run_tokens hv, List.cons_append]
      refine hcomma.trans ?_
      rw [run_itemTokens (List.cons_ne_nil _ _) hrest, List.reverse_cons, List.append_assoc]
      rfl

theorem run_memberTokens {frames : List Frame} {ts : List Token}
    {read : List (Option String × Tree)} :
    ∀ {members : List (String × Value)}, members ≠ [] → Value.MembersExact members →
      run ⟨.key, .object read :: frames⟩ (Value.memberTokens members ++ .closeObject :: ts) =
        (deliver (.object (read.reverse ++ Value.memberTrees members)) frames).bind (·.run ts)
  | [], hne, _ => absurd rfl hne
  | [(k, v)], _, ⟨hv, _⟩ => by
      have hclose : run ⟨.next, .object ((some k, v.tree) :: read) :: frames⟩ (.closeObject :: ts) =
          (deliver (.object ((some k, v.tree) :: read).reverse) frames).bind (·.run ts) :=
        run_cons _ _ _
      rw [Value.memberTokens, List.cons_append, List.cons_append, run_keyTokens, run_tokens hv]
      rw [List.reverse_cons] at hclose
      exact hclose
  | (k, v) :: m :: rest, _, ⟨hv, hrest⟩ => by
      have hcomma : run ⟨.next, .object ((some k, v.tree) :: read) :: frames⟩
          (.comma :: (Value.memberTokens (m :: rest) ++ .closeObject :: ts)) =
          run ⟨.key, .object ((some k, v.tree) :: read) :: frames⟩
            (Value.memberTokens (m :: rest) ++ .closeObject :: ts) := run_of_step rfl _
      rw [memberTokens_cons_cons, List.cons_append, List.cons_append, run_keyTokens,
        List.append_assoc, run_tokens hv, List.cons_append]
      refine hcomma.trans ?_
      rw [run_memberTokens (List.cons_ne_nil _ _) hrest, List.reverse_cons, List.append_assoc]
      rfl

end

end Builder

/-- The text of a value is a text of its tree. -/
theorem read?_compact {v : Value} (hv : v.IsExact) :
    Tree.read? (utf8 v.compact) = some v.tree := by
  have hrun : Builder.run ⟨.value, []⟩ (v.tokens ++ []) = some v.tree := Builder.run_tokens hv
  rw [List.append_nil] at hrun
  rw [Tree.read?, tokens_compact hv]
  exact hrun

end NodeKeeper.Json
