/-
# A value that is written is cut into its tokens again

The scanner reads bytes, a value is written in characters, and what passes
between is UTF-8.  `Scan.run` is the scanner from any of its states, so that a
text can be read piece by piece:

    a piece of the text                          what reading it adds
    -----------------------------------------------------------------------------
    punctuation                                  its token
    a word or an integer, before a byte that     the token it spells
    belongs to no word
    a text in quotes, whatever characters        its content, byte by byte
    it has

A value without doubles is these pieces one after the other (`run_write`).  A
double is written with the fewest digits that read back, which is not looked into
here.
-/
import Mathlib.Data.List.TakeWhile
import NodeKeeper.Json.Write

namespace NodeKeeper.Json

/-! ## Bytes -/

/-- The UTF-8 bytes of characters. -/
def bytesOf (cs : List Char) : List UInt8 := cs.flatMap String.utf8EncodeChar

@[simp] theorem bytesOf_nil : bytesOf [] = [] := rfl

@[simp] theorem bytesOf_append (cs cs' : List Char) :
    bytesOf (cs ++ cs') = bytesOf cs ++ bytesOf cs' :=
  List.flatMap_append

theorem bytesOf_cons (c : Char) (cs : List Char) :
    bytesOf (c :: cs) = String.utf8EncodeChar c ++ bytesOf cs := List.flatMap_cons

theorem toList_loop (bytes : ByteArray) (i : Nat) (r : List UInt8) :
    ByteArray.toList.loop bytes i r = r.reverse ++ bytes.data.toList.drop i := by
  fun_induction ByteArray.toList.loop bytes i r with
  | case1 i r h ih =>
      have hi : i < bytes.data.toList.length := h
      have hget : bytes.get! i = bytes.data.toList[i] := by
        show bytes.data[i]! = _
        rw [getElem!_pos bytes.data i h, Array.getElem_toList]
      rw [ih, hget, List.drop_eq_getElem_cons hi, List.reverse_cons, List.append_assoc]
      rfl
  | case2 i r h =>
      have hi : bytes.data.toList.length ≤ i := Nat.le_of_not_lt h
      rw [List.drop_eq_nil_of_le hi, List.append_nil]

theorem utf8_ofList (cs : List Char) : utf8 (String.ofList cs) = bytesOf cs := by
  show (String.ofList cs).toByteArray.toList = bytesOf cs
  rw [String.toByteArray_ofList, ByteArray.toList, toList_loop]
  show cs.utf8Encode.data.toList = bytesOf cs
  exact List.toList_data_toByteArray

theorem utf8EncodeChar_of_lt {c : Char} (h : c.toNat < 128) :
    String.utf8EncodeChar c = [UInt8.ofNat c.toNat] :=
  if_pos (Nat.le_of_lt_succ h)

theorem char_of_byte {c : Char} (h : c.toNat < 128) :
    Char.ofNat (UInt8.ofNat c.toNat).toNat = c := by
  rw [UInt8.toNat_ofNat', Nat.mod_eq_of_lt (Nat.lt_trans h (by decide)), Char.ofNat_toNat]

/-! ## The scanner from any of its states -/

/-- The tokens that the scanner has at the end, if it goes on with these bytes. -/
def Scan.run (s : Scan) (bytes : List UInt8) : Option (List Token) :=
  (bytes.foldlM Scan.step s).bind Scan.finish

theorem tokens_eq_run (bytes : List UInt8) : tokens bytes = Scan.run ⟨[], .idle⟩ bytes := rfl

theorem run_nil (s : Scan) : s.run [] = s.finish := rfl

theorem run_cons (s : Scan) (b : UInt8) (bytes : List UInt8) :
    s.run (b :: bytes) = (s.step b).bind (·.run bytes) := by
  unfold Scan.run
  rw [List.foldlM_cons]
  cases s.step b <;> rfl

theorem run_of_step {s s' : Scan} {b : UInt8} (h : s.step b = some s') (bytes : List UInt8) :
    s.run (b :: bytes) = s'.run bytes := by
  rw [run_cons, h]
  rfl

variable {out : List Token} {bytes : List UInt8}

/-! ### Words and numerals -/

/-- The bytes do not go on with a word. -/
def EndsWord (bytes : List UInt8) : Prop := ∀ b rest, bytes = b :: rest → isRunByte b = false

theorem endsWord_nil : EndsWord [] := nofun

theorem endsWord_cons {b : UInt8} (h : isRunByte b = false) (bytes : List UInt8) :
    EndsWord (b :: bytes) := by
  rintro _ _ ⟨⟩
  exact h

/-- The character belongs to words: it is one byte, which does. -/
def IsWordChar (c : Char) : Prop := c.toNat < 128 ∧ isRunByte (UInt8.ofNat c.toNat) = true

instance (c : Char) : Decidable (IsWordChar c) := inferInstanceAs (Decidable (_ ∧ _))

theorem isWordChar_of_all {cs : List Char} (h : cs.all (fun c => decide (IsWordChar c)) = true) :
    ∀ c ∈ cs, IsWordChar c :=
  fun c hc => of_decide_eq_true (List.all_eq_true.1 h c hc)

theorem begin_of_isRunByte {b : UInt8} (h : isRunByte b = true) :
    Scan.begin out b = some ⟨out, .run [Char.ofNat b.toNat]⟩ := by
  unfold Scan.begin
  unfold isRunByte at h ⊢
  split <;> simp_all

theorem run_word_chars {cs read : List Char} (hcs : ∀ c ∈ cs, IsWordChar c) :
    Scan.run ⟨out, .run read⟩ (bytesOf cs ++ bytes) =
      Scan.run ⟨out, .run (cs.reverse ++ read)⟩ bytes := by
  induction cs generalizing read with
  | nil => rfl
  | cons c cs ih =>
      obtain ⟨⟨hlt, hrun⟩, hrest⟩ := List.forall_mem_cons.1 hcs
      have hstep : Scan.step ⟨out, .run read⟩ (UInt8.ofNat c.toNat) =
          some ⟨out, .run (c :: read)⟩ := by
        simp only [Scan.step, hrun, if_true, char_of_byte hlt]
      rw [bytesOf_cons, utf8EncodeChar_of_lt hlt, List.cons_append, List.nil_append,
        List.cons_append, run_of_step hstep, ih hrest, List.reverse_cons, List.append_assoc]
      rfl

theorem run_word {cs : List Char} {t : Token} (hne : cs ≠ []) (hcs : ∀ c ∈ cs, IsWordChar c)
    (ht : Token.ofRun? cs = some t) (hend : EndsWord bytes) :
    Scan.run ⟨out, .idle⟩ (bytesOf cs ++ bytes) = Scan.run ⟨t :: out, .idle⟩ bytes := by
  obtain ⟨c, cs, rfl⟩ := List.exists_cons_of_ne_nil hne
  obtain ⟨⟨hlt, hrun⟩, hrest⟩ := List.forall_mem_cons.1 hcs
  have hbegin : Scan.step ⟨out, .idle⟩ (UInt8.ofNat c.toNat) = some ⟨out, .run [c]⟩ := by
    have h : Scan.begin out (UInt8.ofNat c.toNat) = _ := begin_of_isRunByte hrun
    rwa [char_of_byte hlt] at h
  rw [bytesOf_cons, utf8EncodeChar_of_lt hlt, List.cons_append, List.nil_append, List.cons_append,
    run_of_step hbegin, run_word_chars hrest]
  have hread : (cs.reverse ++ [c]).reverse = c :: cs := by simp
  cases bytes with
  | nil => simp only [run_nil, Scan.finish, hread, ht, Option.map_some]
  | cons b bytes =>
      have hstep : Scan.step ⟨out, .run (cs.reverse ++ [c])⟩ b = Scan.step ⟨t :: out, .idle⟩ b := by
        simp only [Scan.step, hend b bytes rfl, hread, ht, Bool.false_eq_true, if_false,
          Option.bind_some]
      rw [run_cons, run_cons, hstep]

/-! ### Texts -/

/-- The scanner in a text of which these bytes have been read. -/
def inText (out : List Token) (read : List UInt8) : Scan := ⟨out, .text ⟨read, none, true⟩⟩

variable {read : List UInt8}

/-- The byte stands for itself in a text. -/
def IsPlain (b : UInt8) : Prop := b ≠ 0x22 ∧ b ≠ 0x5C ∧ ¬ b < 0x20

theorem run_plain {piece : List UInt8} (h : ∀ b ∈ piece, IsPlain b) :
    (inText out read).run (piece ++ bytes) = (inText out (piece.reverse ++ read)).run bytes := by
  induction piece generalizing read with
  | nil => rfl
  | cons b piece ih =>
      obtain ⟨⟨hquote, hslash, hlow⟩, hrest⟩ := List.forall_mem_cons.1 h
      have hstep : (inText out read).step b = some (inText out (b :: read)) := by
        simp only [inText, Scan.step, hquote, hslash, hlow, if_false]
        rfl
      rw [List.cons_append, run_of_step hstep, ih hrest, List.reverse_cons, List.append_assoc]
      rfl

theorem high_byte {x k : Nat} (hlt : x + k < 256) (hk : 128 ≤ k) :
    128 ≤ (UInt8.ofNat (x + k)).toNat := by
  rw [UInt8.toNat_ofNat', Nat.mod_eq_of_lt hlt]
  exact Nat.le_add_left_of_le hk

/-- The bytes of a character that needs no escape stand for themselves: it is
one byte, or each of its bytes is at least 128. -/
theorem isPlain_of_mem {c : Char} (hlow : ¬ c.toNat < 0x20) (hquote : c ≠ '"') (hslash : c ≠ '\\')
    {b : UInt8} (hb : b ∈ String.utf8EncodeChar c) : IsPlain b := by
  have hq : c.toNat ≠ 0x22 := fun h => hquote (by rw [← Char.ofNat_toNat c, h])
  have hs : c.toNat ≠ 0x5C := fun h => hslash (by rw [← Char.ofNat_toNat c, h])
  suffices hnat : b.toNat ≠ 0x22 ∧ b.toNat ≠ 0x5C ∧ 0x20 ≤ b.toNat from
    ⟨fun h => hnat.1 (h ▸ rfl), fun h => hnat.2.1 (h ▸ rfl), Nat.not_lt.2 hnat.2.2⟩
  have hval : c.val.toNat = c.toNat := rfl
  simp only [String.utf8EncodeChar, hval] at hb
  split at hb
  · obtain rfl := List.mem_singleton.1 hb
    rw [UInt8.toNat_ofNat']
    omega
  · have hhigh : 128 ≤ b.toNat := by
      simp only [apply_ite (b ∈ ·), List.mem_cons, List.not_mem_nil, or_false] at hb
      split at hb
      · rcases hb with rfl | rfl
        · exact high_byte (by omega) (by decide)
        · exact high_byte (by omega) (by decide)
      · split at hb
        · rcases hb with rfl | rfl | rfl
          · exact high_byte (by omega) (by decide)
          · exact high_byte (by omega) (by decide)
          · exact high_byte (by omega) (by decide)
        · rcases hb with rfl | rfl | rfl | rfl
          · exact high_byte (by omega) (by decide)
          · exact high_byte (by omega) (by decide)
          · exact high_byte (by omega) (by decide)
          · exact high_byte (by omega) (by decide)
    omega

theorem escapeChar_eq_self {c : Char} (hlow : ¬ c.toNat < 0x20) (hquote : c ≠ '"')
    (hslash : c ≠ '\\') : escapeChar c = [c] := by
  unfold escapeChar
  split <;> simp_all

theorem hexValue?_digitChar : ∀ d < 16,
    hexValue? (UInt8.ofNat (Text.digitChar d).toNat) = some d ∧ (Text.digitChar d).toNat < 128 := by
  decide

theorem run_control {c : Char} (hlow : c.toNat < 0x20) :
    (inText out read).run (bytesOf ['\\', 'u', '0', '0', Text.digitChar (c.toNat / 16),
        Text.digitChar (c.toNat % 16)] ++ bytes) =
      (inText out ((String.utf8EncodeChar c).reverse ++ read)).run bytes := by
  obtain ⟨hhigh, hhighlt⟩ := hexValue?_digitChar (c.toNat / 16) (by omega)
  obtain ⟨hlowest, hlowestlt⟩ := hexValue?_digitChar (c.toNat % 16) (by omega)
  have hbytes : bytesOf ['\\', 'u', '0', '0', Text.digitChar (c.toNat / 16),
        Text.digitChar (c.toNat % 16)] ++ bytes =
      0x5C :: 0x75 :: 0x30 :: 0x30 :: UInt8.ofNat (Text.digitChar (c.toNat / 16)).toNat ::
        UInt8.ofNat (Text.digitChar (c.toNat % 16)).toNat :: bytes := by
    rw [bytesOf_cons, bytesOf_cons, bytesOf_cons, bytesOf_cons, bytesOf_cons, bytesOf_cons,
      utf8EncodeChar_of_lt hhighlt, utf8EncodeChar_of_lt hlowestlt]
    rfl
  -- the first two of the four digits are zero
  have hstart : (inText out read).run (0x5C :: 0x75 :: 0x30 :: 0x30 ::
        UInt8.ofNat (Text.digitChar (c.toNat / 16)).toNat ::
        UInt8.ofNat (Text.digitChar (c.toNat % 16)).toNat :: bytes) =
      Scan.run ⟨out, .unit ⟨read, none, true⟩ 2 0⟩
        (UInt8.ofNat (Text.digitChar (c.toNat / 16)).toNat ::
          UInt8.ofNat (Text.digitChar (c.toNat % 16)).toNat :: bytes) := rfl
  have hthird : Scan.step ⟨out, .unit ⟨read, none, true⟩ 2 0⟩
      (UInt8.ofNat (Text.digitChar (c.toNat / 16)).toNat) =
      some ⟨out, .unit ⟨read, none, true⟩ 1 (0 * 16 + c.toNat / 16)⟩ := by
    simp only [Scan.step, hhigh, Option.map_some]
    rfl
  have hvalue : (0 * 16 + c.toNat / 16) * 16 + c.toNat % 16 = c.toNat := by omega
  have hunit : Partial.pushUnit ⟨read, none, true⟩ c.toNat =
      ⟨(String.utf8EncodeChar c).reverse ++ read, none, true⟩ := by
    have hleading : ¬ (0xD800 ≤ c.toNat ∧ c.toNat < 0xDC00) := by omega
    have htrailing : ¬ (0xDC00 ≤ c.toNat ∧ c.toNat < 0xE000) := by omega
    simp only [Partial.pushUnit, hleading, htrailing, if_false, Partial.pushCode, Char.ofNat_toNat]
  have hlast : Scan.step ⟨out, .unit ⟨read, none, true⟩ 1 (0 * 16 + c.toNat / 16)⟩
      (UInt8.ofNat (Text.digitChar (c.toNat % 16)).toNat) =
      some (inText out ((String.utf8EncodeChar c).reverse ++ read)) := by
    simp only [Scan.step, hlowest, Option.map_some, hvalue, hunit]
    rfl
  rw [hbytes, hstart, run_of_step hthird, run_of_step hlast]

/-- A character is read as its bytes, however it is written. -/
theorem run_escapeChar (c : Char) :
    (inText out read).run (bytesOf (escapeChar c) ++ bytes) =
      (inText out ((String.utf8EncodeChar c).reverse ++ read)).run bytes := by
  by_cases hplain : ¬ c.toNat < 0x20 ∧ c ≠ '"' ∧ c ≠ '\\'
  · obtain ⟨hlow, hquote, hslash⟩ := hplain
    rw [escapeChar_eq_self hlow hquote hslash]
    rw [bytesOf_cons, bytesOf_nil, List.append_nil]
    exact run_plain fun b hb => isPlain_of_mem hlow hquote hslash hb
  · unfold escapeChar
    split
    · rfl
    · rfl
    · rfl
    · rfl
    · rfl
    · rfl
    · rfl
    · next hquote hslash _ _ _ _ _ =>
      have hlow : c.toNat < 0x20 :=
        Decidable.byContradiction fun hlow => hplain ⟨hlow, hquote, hslash⟩
      rw [if_pos hlow]
      exact run_control hlow

theorem run_escaped (cs : List Char) :
    (inText out read).run (bytesOf (cs.flatMap escapeChar) ++ bytes) =
      (inText out ((bytesOf cs).reverse ++ read)).run bytes := by
  induction cs generalizing read with
  | nil => rfl
  | cons c cs ih =>
      rw [List.flatMap_cons, bytesOf_append, List.append_assoc, run_escapeChar, ih, bytesOf_cons,
        List.reverse_append, List.append_assoc]

theorem token_bytesOf (s : String) :
    Partial.token ⟨(bytesOf s.toList).reverse, none, true⟩ = .text (some s) := by
  have hbytes : ByteArray.mk (bytesOf s.toList).toArray = s.toByteArray := by
    rw [← String.utf8Encode_toList]
    exact congrArg ByteArray.mk List.data_toByteArray.symm
  have hvalid : String.fromUTF8? s.toByteArray = some s := dif_pos s.isValidUTF8
  show Token.text (String.fromUTF8? (ByteArray.mk (bytesOf s.toList).reverse.reverse.toArray)) = _
  rw [List.reverse_reverse, hbytes, hvalid]

theorem run_writeText (s : String) :
    Scan.run ⟨out, .idle⟩ (bytesOf (writeText s) ++ bytes) =
      Scan.run ⟨.text (some s) :: out, .idle⟩ bytes := by
  have hopen : Scan.run ⟨out, .idle⟩ (bytesOf (writeText s) ++ bytes) =
      (inText out []).run (bytesOf (s.toList.flatMap escapeChar) ++ (bytesOf ['"'] ++ bytes)) := by
    rw [writeText, bytesOf_cons, bytesOf_append, List.append_assoc, List.append_assoc]
    rfl
  have hclose : (inText out ((bytesOf s.toList).reverse ++ [])).step 0x22 =
      some ⟨.text (some s) :: out, .idle⟩ := by
    rw [List.append_nil]
    show some (Scan.mk (Partial.token ⟨(bytesOf s.toList).reverse, none, true⟩ :: out) .idle) = _
    rw [token_bytesOf]
  rw [hopen, run_escaped]
  exact run_of_step hclose bytes

/-! ### Integers -/

/-- An integer as a numeral: its sign and its digits. -/
def Numeral.ofInt (n : Int) : Numeral := ⟨decide (n < 0), Nat.toDigits 10 n.natAbs, [], none⟩

theorem isDigit_toDigits (n : Nat) : ∀ c ∈ Nat.toDigits 10 n, c.isDigit = true :=
  fun _ hc => Nat.isDigit_of_mem_toDigits (by decide) (by decide) hc

theorem isWordChar_of_isDigit {c : Char} (h : c.isDigit = true) : IsWordChar c := by
  have hrange : 48 ≤ c.toNat ∧ c.toNat ≤ 57 := by
    simpa [Char.isDigit, UInt32.le_iff_toNat_le] using h
  have hlt : c.toNat < 128 := by omega
  refine ⟨hlt, ?_⟩
  simp only [isRunByte, char_of_byte hlt, Char.isAlphanum, h, Bool.or_true, Bool.true_or]

theorem digitChar_ne_zero : ∀ d < 10, Nat.digitChar d = '0' → d = 0 := by decide

/-- Only zero begins with the digit zero. -/
theorem eq_zero_of_head?_toDigits {n : Nat} (h : (Nat.toDigits 10 n).head? = some '0') : n = 0 := by
  induction n using Nat.strongRecOn with
  | ind n ih =>
      rw [Nat.toDigits_eq_if (by decide)] at h
      split at h
      · next hlt => exact digitChar_ne_zero n hlt (Option.some.inj h)
      · next hle =>
        rw [List.head?_append, List.head?_eq_some_head Nat.toDigits_ne_nil] at h
        have hzero := ih (n / 10) (by omega) ((List.head?_eq_some_head _).trans h)
        omega

theorem read?_digits {ds : List Char} (hne : ds ≠ []) (hds : ∀ c ∈ ds, c.isDigit = true)
    (hzero : ds.head? = some '0' → ds.length = 1) :
    Numeral.read? ds = some ⟨false, ds, [], none⟩ ∧
      Numeral.read? ('-' :: ds) = some ⟨true, ds, [], none⟩ := by
  have htake : ds.takeWhile Char.isDigit = ds := List.takeWhile_eq_self_iff.2 hds
  have hdrop : ds.dropWhile Char.isDigit = [] := List.dropWhile_eq_nil_iff.2 hds
  have hnozero : (ds.isEmpty || (ds.head? == some '0' && ds.length != 1)) = false := by
    by_cases h : ds.head? = some '0'
    · simp [hne, hzero h]
    · simp [hne, h]
  obtain ⟨d, ds, rfl⟩ := List.exists_cons_of_ne_nil hne
  have hsign : d ≠ '-' := by
    rintro rfl
    exact absurd (hds _ List.mem_cons_self) (by decide)
  constructor
  · unfold Numeral.read?
    split
    next negative body heq =>
      have hbody : negative = false ∧ body = d :: ds := by
        split at heq
        · next h => exact absurd (List.cons.inj h).1 hsign
        · cases heq
          exact ⟨rfl, rfl⟩
      obtain ⟨rfl, rfl⟩ := hbody
      simp only [htake, hdrop, hnozero, Bool.false_eq_true, if_false]
      rfl
  · unfold Numeral.read?
    simp only [htake, hdrop, hnozero, Bool.false_eq_true, if_false]
    rfl

theorem mem_writeInteger (n : Int) : ∀ c ∈ writeInteger n, c.isDigit = true ∨ c = '-' := by
  intro c hc
  unfold writeInteger at hc
  split at hc
  · exact (List.mem_cons.1 hc).symm.imp_left (isDigit_toDigits _ c)
  · exact .inl (isDigit_toDigits _ c hc)

/-- An integer is no word: words have letters. -/
theorem ofRun?_of_no_letter {cs : List Char} (h : ∀ c ∈ cs, c.isDigit = true ∨ c = '-') :
    Token.ofRun? cs = (Numeral.read? cs).map .numeral := by
  have hnot : ∀ word : List Char, (∃ c ∈ word, ¬ (c.isDigit = true ∨ c = '-')) → cs ≠ word := by
    rintro word ⟨c, hc, hletter⟩ rfl
    exact hletter (h c hc)
  unfold Token.ofRun?
  rw [if_neg (hnot _ ⟨'n', List.mem_cons_self, by decide⟩),
    if_neg (hnot _ ⟨'t', List.mem_cons_self, by decide⟩),
    if_neg (hnot _ ⟨'f', List.mem_cons_self, by decide⟩)]

theorem ofRun?_writeInteger (n : Int) :
    Token.ofRun? (writeInteger n) = some (.numeral (.ofInt n)) := by
  obtain ⟨hread, hsigned⟩ := read?_digits Nat.toDigits_ne_nil (isDigit_toDigits n.natAbs) (by
    intro h
    rw [eq_zero_of_head?_toDigits h]
    rfl)
  rw [ofRun?_of_no_letter (mem_writeInteger n)]
  unfold writeInteger Numeral.ofInt
  by_cases hneg : n < 0
  · simp only [hneg, if_true, hsigned, Option.map_some, decide_true]
  · simp only [hneg, if_false, hread, Option.map_some, decide_false]

theorem run_writeInteger (n : Int) (hend : EndsWord bytes) :
    Scan.run ⟨out, .idle⟩ (bytesOf (writeInteger n) ++ bytes) =
      Scan.run ⟨.numeral (.ofInt n) :: out, .idle⟩ bytes := by
  refine run_word ?_ (fun c hc => ?_) (ofRun?_writeInteger n) hend
  · unfold writeInteger
    split
    · exact List.cons_ne_nil _ _
    · exact Nat.toDigits_ne_nil
  · rcases mem_writeInteger n c hc with h | rfl
    · exact isWordChar_of_isDigit h
    · exact ⟨by decide, by decide⟩

/-! ## Values -/

mutual

/-- The tokens of a value; a double is left out. -/
def Value.tokens : Value → List Token
  | .null => [.null]
  | .bool b => [.bool b]
  | .integer n => [.numeral (.ofInt n)]
  | .float _ => []
  | .text s => [.text (some s)]
  | .array items => .openArray :: (Value.itemTokens items ++ [.closeArray])
  | .object members => .openObject :: (Value.memberTokens members ++ [.closeObject])

def Value.itemTokens : List Value → List Token
  | [] => []
  | [v] => v.tokens
  | v :: vs => v.tokens ++ .comma :: Value.itemTokens vs

def Value.memberTokens : List (String × Value) → List Token
  | [] => []
  | [(k, v)] => .text (some k) :: .colon :: v.tokens
  | (k, v) :: rest => .text (some k) :: .colon :: (v.tokens ++ .comma :: Value.memberTokens rest)

end

theorem itemTokens_cons_cons (v v' : Value) (rest : List Value) :
    Value.itemTokens (v :: v' :: rest) = v.tokens ++ .comma :: Value.itemTokens (v' :: rest) := by
  rw [Value.itemTokens]
  exact List.cons_ne_nil _ _

theorem memberTokens_cons_cons (k : String) (v : Value) (m : String × Value)
    (rest : List (String × Value)) :
    Value.memberTokens ((k, v) :: m :: rest) =
      .text (some k) :: .colon :: (v.tokens ++ .comma :: Value.memberTokens (m :: rest)) := by
  rw [Value.memberTokens]
  exact List.cons_ne_nil _ _

mutual

/-- There is no double in the value. -/
def Value.IsExact : Value → Prop
  | .null => True
  | .bool _ => True
  | .integer _ => True
  | .float _ => False
  | .text _ => True
  | .array items => Value.AllExact items
  | .object members => Value.MembersExact members

def Value.AllExact : List Value → Prop
  | [] => True
  | v :: vs => v.IsExact ∧ Value.AllExact vs

def Value.MembersExact : List (String × Value) → Prop
  | [] => True
  | (_, v) :: rest => v.IsExact ∧ Value.MembersExact rest

end

theorem run_punctuation {c : Char} {t : Token} (hlt : c.toNat < 128)
    (h : Scan.step ⟨out, .idle⟩ (UInt8.ofNat c.toNat) = some ⟨t :: out, .idle⟩) (cs : List Char) :
    Scan.run ⟨out, .idle⟩ (bytesOf (c :: cs) ++ bytes) =
      Scan.run ⟨t :: out, .idle⟩ (bytesOf cs ++ bytes) := by
  rw [bytesOf_cons, utf8EncodeChar_of_lt hlt, List.cons_append, List.nil_append, List.cons_append]
  exact run_of_step h _

theorem endsWord_bytesOf {c : Char} (hlt : c.toNat < 128)
    (h : isRunByte (UInt8.ofNat c.toNat) = false) (cs : List Char) (bytes : List UInt8) :
    EndsWord (bytesOf (c :: cs) ++ bytes) := by
  rw [bytesOf_cons, utf8EncodeChar_of_lt hlt, List.cons_append, List.nil_append, List.cons_append]
  exact endsWord_cons h _

mutual

theorem run_write {out : List Token} {bytes : List UInt8} :
    ∀ {v : Value}, v.IsExact → EndsWord bytes →
      Scan.run ⟨out, .idle⟩ (bytesOf v.write ++ bytes) =
        Scan.run ⟨v.tokens.reverse ++ out, .idle⟩ bytes
  | .null, _, hend => run_word (List.cons_ne_nil _ _) (isWordChar_of_all rfl) rfl hend
  | .bool true, _, hend => run_word (List.cons_ne_nil _ _) (isWordChar_of_all rfl) rfl hend
  | .bool false, _, hend => run_word (List.cons_ne_nil _ _) (isWordChar_of_all rfl) rfl hend
  | .integer n, _, hend => run_writeInteger n hend
  | .text s, _, _ => run_writeText s
  | .array items, hv, _ => by
      have hclose := endsWord_bytesOf (c := ']') (by decide) (by decide) [] bytes
      rw [Value.write, run_punctuation (by decide) rfl, bytesOf_append, List.append_assoc,
        run_writeItems hv hclose, run_punctuation (by decide) rfl, Value.tokens]
      simp
  | .object members, hv, _ => by
      have hclose := endsWord_bytesOf (c := '}') (by decide) (by decide) [] bytes
      rw [Value.write, run_punctuation (by decide) rfl, bytesOf_append, List.append_assoc,
        run_writeMembers hv hclose, run_punctuation (by decide) rfl, Value.tokens]
      simp

theorem run_writeItems {out : List Token} {bytes : List UInt8} :
    ∀ {items : List Value}, Value.AllExact items → EndsWord bytes →
      Scan.run ⟨out, .idle⟩ (bytesOf (Value.writeItems items) ++ bytes) =
        Scan.run ⟨(Value.itemTokens items).reverse ++ out, .idle⟩ bytes
  | [], _, _ => rfl
  | [_], ⟨hv, _⟩, hend => run_write hv hend
  | v :: v' :: rest, ⟨hv, hrest⟩, hend => by
      have hcomma := endsWord_bytesOf (c := ',') (by decide) (by decide)
        (Value.writeItems (v' :: rest)) bytes
      rw [Value.writeItems, bytesOf_append, List.append_assoc, run_write hv hcomma,
        run_punctuation (by decide) rfl, run_writeItems hrest hend, itemTokens_cons_cons]
      · simp
      · exact List.cons_ne_nil _ _

theorem run_writeMembers {out : List Token} {bytes : List UInt8} :
    ∀ {members : List (String × Value)}, Value.MembersExact members → EndsWord bytes →
      Scan.run ⟨out, .idle⟩ (bytesOf (Value.writeMembers members) ++ bytes) =
        Scan.run ⟨(Value.memberTokens members).reverse ++ out, .idle⟩ bytes
  | [], _, _ => rfl
  | [(k, v)], ⟨hv, _⟩, hend => by
      rw [Value.writeMembers, bytesOf_append, List.append_assoc, run_writeText,
        run_punctuation (by decide) rfl, run_write hv hend, Value.memberTokens]
      simp
  | (k, v) :: m :: rest, ⟨hv, hrest⟩, hend => by
      have hcomma := endsWord_bytesOf (c := ',') (by decide) (by decide)
        (Value.writeMembers (m :: rest)) bytes
      rw [Value.writeMembers, bytesOf_append, List.append_assoc, run_writeText,
        run_punctuation (by decide) rfl, bytesOf_append, List.append_assoc, run_write hv hcomma,
        run_punctuation (by decide) rfl, run_writeMembers hrest hend, memberTokens_cons_cons]
      · simp
      · exact List.cons_ne_nil _ _

end

theorem tokens_compact {v : Value} (hv : v.IsExact) : tokens (utf8 v.compact) = some v.tokens := by
  have hrun : Scan.run ⟨[], .idle⟩ (bytesOf v.write ++ []) = _ := run_write hv endsWord_nil
  rw [List.append_nil, List.append_nil] at hrun
  rw [Value.compact, utf8_ofList, tokens_eq_run, hrun, run_nil]
  show some v.tokens.reverse.reverse = _
  rw [List.reverse_reverse]

end NodeKeeper.Json
