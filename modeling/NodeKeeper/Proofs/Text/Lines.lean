/-
# What is found in a text

Two things are looked for in what a program writes: a phrase, whatever the case of
its letters, and the first line that is not blank.

    contains (lower s) phrase       the phrase stands somewhere in `s`      (`contains_lower_iff`)
    the first line that is found    blanks, then the line without the
                                    blanks around it, then the rest         (`firstLine_eq_some_iff`)
    no line is found                there is nothing but blanks             (`firstLine_eq_none_iff`)

A line feed is a blank, so blank lines and the blanks a line begins with are
skipped alike.
-/
import Mathlib.Data.List.DropRight
import Mathlib.Data.List.TakeWhile
import NodeKeeper.Text.Ascii
import NodeKeeper.Text.Pieces

namespace NodeKeeper.Text

/-! ## Phrases -/

theorem containsRun_iff {needle cs : List Char} : containsRun needle cs = true ↔ needle <:+: cs := by
  induction cs with
  | nil => rw [containsRun, List.isEmpty_iff, List.infix_nil]
  | cons c cs ih =>
      rw [containsRun, Bool.or_eq_true, List.isPrefixOf_iff_prefix, ih, List.infix_cons_iff]

/-- The phrase stands somewhere in the text, up to the case of ASCII letters. -/
def Mentions (phrase text : String) : Prop :=
  ∃ part, part <:+: text.toList ∧ phrase.toList.map lowerChar = part.map lowerChar

theorem contains_lower_iff {phrase text : String}
    (hlower : phrase.toList.map lowerChar = phrase.toList) :
    contains (lower text) phrase = true ↔ Mentions phrase text := by
  rw [contains, containsRun_iff, lower, String.toList_ofList, List.infix_map_iff, Mentions, hlower]

/-! ## Blanks around a line -/

variable {c : Char} {cs front back : List Char}

/-- There is something, and it neither begins nor ends with a blank. -/
def IsTrimmed (cs : List Char) : Prop :=
  (∃ c, cs.head? = some c ∧ isBlank c = false) ∧ ∃ c, cs.getLast? = some c ∧ isBlank c = false

theorem IsTrimmed.ne_nil (h : IsTrimmed cs) : cs ≠ [] := by
  rintro rfl
  obtain ⟨⟨_, hhead, -⟩, -⟩ := h
  exact nomatch hhead

theorem trimChars_cons_blank (hc : isBlank c = true) : trimChars (c :: cs) = trimChars cs := by
  rw [trimChars, trimChars, dropBlanks, List.dropWhile_cons_of_pos hc]
  rfl

theorem trimChars_append_blanks (hcs : IsTrimmed cs) (hback : ∀ c ∈ back, isBlank c = true) :
    trimChars (cs ++ back) = cs := by
  obtain ⟨⟨a, hhead, ha⟩, z, hlast, hz⟩ := hcs
  have hfront : dropBlanks (cs ++ back) = cs ++ back := by
    obtain ⟨tail, rfl⟩ := List.head?_eq_some_iff.1 hhead
    exact List.dropWhile_cons_of_neg (by simp [ha])
  have hdrop : List.rdropWhile isBlank (cs ++ back) = List.rdropWhile isBlank cs := by
    rw [List.rdropWhile, List.reverse_append,
      List.dropWhile_append_of_pos (fun c hc => hback c (List.mem_reverse.1 hc))]
    rfl
  show List.rdropWhile isBlank (dropBlanks (cs ++ back)) = cs
  rw [hfront, hdrop]
  obtain ⟨init, rfl⟩ := List.getLast?_eq_some_iff.1 hlast
  exact List.rdropWhile_concat_neg _ _ _ (by simp [hz])

theorem exists_trimmed_append (hc : isBlank c = false) :
    ∃ mid back, c :: cs = mid ++ back ∧ IsTrimmed mid ∧ ∀ b ∈ back, isBlank b = true := by
  refine ⟨(c :: cs).rdropWhile isBlank, (c :: cs).rtakeWhile isBlank,
    List.rdropWhile_append_rtakeWhile.symm, ?_, fun b hb => List.mem_rtakeWhile_imp hb⟩
  have hne : (c :: cs).rdropWhile isBlank ≠ [] := by
    intro hnil
    have hall := List.rdropWhile_eq_nil_iff.1 hnil c List.mem_cons_self
    exact Bool.false_ne_true (hc.symm.trans hall)
  obtain ⟨a, tail, hmid⟩ := List.exists_cons_of_ne_nil hne
  have ha : a = c := by
    obtain ⟨rest, hprefix⟩ := List.rdropWhile_prefix isBlank (l := c :: cs)
    rw [hmid] at hprefix
    exact (List.cons.inj hprefix).1
  refine ⟨⟨c, ?_, hc⟩, _, List.getLast?_eq_some_getLast hne, ?_⟩
  · rw [hmid, ha]
    rfl
  · exact eq_false_of_ne_true (List.rdropWhile_last_not isBlank (c :: cs) hne)

/-! ## The first line that is not blank -/

/-- The first line of the characters that is not blank, without the blanks around
it. -/
def firstLine (cs : List Char) : Option String :=
  (pieces (· == '\n') cs).findSome? fun line => nonBlank? (String.ofList line)

/-- The text begins with blanks, among them the lines that are blank; then comes
the line, and nothing but blanks is left of it. -/
def IsFirstLine (text line : String) : Prop :=
  ∃ front back rest : List Char,
    text.toList = front ++ (line.toList ++ back ++ rest) ∧
    (∀ c ∈ front, isBlank c = true) ∧ (∀ c ∈ back, isBlank c = true) ∧
    '\n' ∉ line.toList ++ back ∧ (rest = [] ∨ rest.head? = some '\n') ∧
    IsTrimmed line.toList

theorem nonBlank?_cons_blank (hc : isBlank c = true) :
    nonBlank? (String.ofList (c :: cs)) = nonBlank? (String.ofList cs) := by
  rw [nonBlank?, nonBlank?, trim, trim, String.toList_ofList, String.toList_ofList,
    trimChars_cons_blank hc]

theorem pieces_ne_nil (p : Char → Bool) (cs : List Char) : pieces p cs ≠ [] := by
  intro hnil
  have hlength := length_pieces p cs
  rw [hnil] at hlength
  exact nomatch hlength

/-- A blank in front makes no difference: it is a line feed and ends a blank line,
or it goes with its line. -/
theorem firstLine_cons_blank (hc : isBlank c = true) : firstLine (c :: cs) = firstLine cs := by
  unfold firstLine
  by_cases hfeed : (c == '\n') = true
  · rw [pieces, if_pos hfeed]
    rfl
  · obtain ⟨piece, rest, hpieces⟩ := List.exists_cons_of_ne_nil (pieces_ne_nil (· == '\n') cs)
    rw [pieces, if_neg hfeed, hpieces]
    simp only [List.findSome?_cons, nonBlank?_cons_blank hc]

theorem firstLine_append_blanks (hfront : ∀ c ∈ front, isBlank c = true) :
    firstLine (front ++ cs) = firstLine cs := by
  induction front with
  | nil => rfl
  | cons c front ih =>
      obtain ⟨hc, hfront⟩ := List.forall_mem_cons.1 hfront
      exact (firstLine_cons_blank hc).trans (ih hfront)

theorem exists_pieces_append {line rest : List Char} (hline : '\n' ∉ line)
    (hrest : rest = [] ∨ rest.head? = some '\n') :
    ∃ later, pieces (· == '\n') (line ++ rest) = line :: later := by
  induction line with
  | nil =>
      rcases hrest with rfl | hrest
      · exact ⟨[], rfl⟩
      · obtain ⟨below, rfl⟩ := List.head?_eq_some_iff.1 hrest
        exact ⟨_, rfl⟩
  | cons c line ih =>
      obtain ⟨hc, hline⟩ := not_or.1 (mt List.mem_cons.2 hline)
      obtain ⟨later, hpieces⟩ := ih hline
      refine ⟨later, ?_⟩
      rw [List.cons_append, pieces, if_neg (by simpa using Ne.symm hc), hpieces]

theorem firstLine_of_isFirstLine {text line : String} (h : IsFirstLine text line) :
    firstLine text.toList = some line := by
  obtain ⟨front, back, rest, htext, hfront, hback, hfeed, hrest, htrimmed⟩ := h
  obtain ⟨later, hpieces⟩ := exists_pieces_append hfeed hrest
  have hline : nonBlank? (String.ofList (line.toList ++ back)) = some line := by
    rw [nonBlank?, trim, String.toList_ofList, trimChars_append_blanks htrimmed hback,
      String.ofList_toList]
    exact if_neg (by simpa using htrimmed.ne_nil)
  rw [htext, firstLine_append_blanks hfront, firstLine, hpieces, List.findSome?_cons, hline]

theorem firstLine_of_blank (h : ∀ c ∈ cs, isBlank c = true) : firstLine cs = none := by
  have hnil : firstLine (cs ++ []) = firstLine [] := firstLine_append_blanks h
  rw [List.append_nil] at hnil
  exact hnil

theorem exists_isFirstLine {text : String} (h : ¬ ∀ c ∈ text.toList, isBlank c = true) :
    ∃ line, IsFirstLine text line := by
  obtain ⟨c, tail, htail⟩ := List.exists_cons_of_ne_nil (mt List.dropWhile_eq_nil_iff.1 h)
  have hc : isBlank c = false := by
    have hhead := List.head?_dropWhile_not isBlank text.toList
    rw [htail] at hhead
    exact hhead
  have hfeed : (c != '\n') = true := by
    rw [bne_iff_ne]
    rintro rfl
    exact absurd hc (by decide)
  obtain ⟨mid, back, hline, htrimmed, hback⟩ : ∃ mid back,
      c :: tail.takeWhile (· != '\n') = mid ++ back ∧ IsTrimmed mid ∧
        ∀ b ∈ back, isBlank b = true := exists_trimmed_append hc
  refine ⟨String.ofList mid, text.toList.takeWhile isBlank, back, tail.dropWhile (· != '\n'),
    ?_, fun _ hb => List.mem_takeWhile_imp hb, hback, ?_, ?_, ?_⟩
  · rw [String.toList_ofList, ← hline, List.cons_append, List.takeWhile_append_dropWhile, ← htail,
      List.takeWhile_append_dropWhile]
  · rw [String.toList_ofList, ← hline]
    intro hmem
    rcases List.mem_cons.1 hmem with rfl | hmem
    · exact absurd hfeed (by decide)
    · exact absurd (List.mem_takeWhile_imp hmem) (by decide)
  · have hhead := List.head?_dropWhile_not (· != '\n') tail
    cases hrest : tail.dropWhile (· != '\n') with
    | nil => exact .inl rfl
    | cons b below =>
        rw [hrest] at hhead
        exact .inr (congrArg some (by simpa using hhead))
  · rwa [String.toList_ofList]

theorem firstLine_eq_some_iff {text line : String} :
    firstLine text.toList = some line ↔ IsFirstLine text line := by
  refine ⟨fun h => ?_, firstLine_of_isFirstLine⟩
  by_cases hblank : ∀ c ∈ text.toList, isBlank c = true
  · exact nomatch (firstLine_of_blank hblank).symm.trans h
  · obtain ⟨line', hline'⟩ := exists_isFirstLine hblank
    cases (firstLine_of_isFirstLine hline').symm.trans h
    exact hline'

theorem firstLine_eq_none_iff {text : String} :
    firstLine text.toList = none ↔ ∀ c ∈ text.toList, isBlank c = true := by
  refine ⟨fun h => ?_, firstLine_of_blank⟩
  by_contra hblank
  obtain ⟨line, hline⟩ := exists_isFirstLine hblank
  exact nomatch (firstLine_of_isFirstLine hline).symm.trans h

end NodeKeeper.Text
