import Mathlib
import CompactAdjacency.Text.Decoding
import CompactAdjacency.Text.Integer
import CompactAdjacency.Text.Blank

/-!
# Reading back what was written

Visible characters are those of ASCII that are not blank: they survive trimming, and are single
bytes however a text is decoded. The digits of a number read back as the number, `word?_toDigits`,
and joined pieces come apart, `filter_splitOn_intercalate`. A text is cut at the first occurrence of
a character, `splitOnce_eq_some_iff`, and nothing is left of a blank one by trimming.
-/

namespace CompactAdjacency.Text

/-! ## Visible characters -/

/-- A character of ASCII that is neither blank nor a control character. -/
def IsVisible (char : Char) : Prop := 0x21 ≤ char.toNat ∧ char.toNat ≤ 0x7E

instance (char : Char) : Decidable (IsVisible char) := inferInstanceAs (Decidable (_ ∧ _))

theorem IsVisible.not_isBlank {char : Char} (h : IsVisible char) : isBlank char = false := by
  obtain ⟨hleast, hgreatest⟩ := h
  have hapart : ∀ range ∈ blankRanges, range.2 < 0x21 ∨ 0x7E < range.1 := by decide
  rw [isBlank, CodeRange.anyContains, List.any_eq_false]
  intro range hrange hinside
  simp only [Bool.and_eq_true, decide_eq_true_eq] at hinside
  have := hapart range hrange
  omega

/-- Nothing is trimmed from a text that is visible. -/
theorem trim_of_visible {text : List Char} (h : ∀ char ∈ text, IsVisible char) :
    trim text = text := by
  have hdrop : ∀ {chars : List Char}, (∀ char ∈ chars, IsVisible char) →
      chars.dropWhile isBlank = chars := by
    intro chars hchars
    refine List.dropWhile_eq_self_iff.mpr ?_
    intro hpos
    simp [(hchars _ (List.getElem_mem hpos)).not_isBlank]
  rw [trim, hdrop h, trimEnd, hdrop fun char hchar => h char (List.mem_reverse.mp hchar),
    List.reverse_reverse]

/-! ## Numbers -/

/-- A decimal digit is visible. -/
theorem isVisible_of_isDigit {char : Char} (h : char.isDigit = true) : IsVisible char := by
  obtain ⟨hleast, hgreatest⟩ := Char.isDigit_iff_toNat.mp h
  exact ⟨le_trans (by decide) hleast, hgreatest.trans (by decide)⟩

/-- Digits are read as the number they denote. -/
theorem digitsFrom_eq {digits : List Char} (h : ∀ digit ∈ digits, digit.isDigit = true)
    (value : Nat) : digitsFrom value digits = some (Nat.ofDigitChars 10 digits value) := by
  induction digits generalizing value with
  | nil => rfl
  | cons digit digits ih =>
      have hdigit : '0' ≤ digit ∧ digit ≤ '9' := by
        simpa [Char.isDigit, Char.le_def] using h digit List.mem_cons_self
      rw [digitsFrom, if_pos hdigit, ih fun other hother => h other (List.mem_cons_of_mem _ hother),
        Nat.ofDigitChars_cons]

/-- The digits of a number read back as the number. -/
theorem word?_toDigits (value : UInt64) :
    word? (Nat.toDigits 10 value.toNat) = some value := by
  have hdigits : ∀ digit ∈ Nat.toDigits 10 value.toNat, digit.isDigit = true :=
    fun digit hdigit => Nat.isDigit_of_mem_toDigits (by decide) (by decide) hdigit
  have hnonempty : Nat.toDigits 10 value.toNat ≠ [] := Nat.toDigits_ne_nil
  have hread : digits? (Nat.toDigits 10 value.toNat) = some value.toNat := by
    rw [digits?, if_neg (by simp), digitsFrom_eq hdigits,
      Nat.ofDigitChars_ten_toDigits]
  have hunsigned : unsigned? (UInt64.size - 1) (Nat.toDigits 10 value.toNat) =
      some value.toNat := by
    unfold unsigned?
    split
    case h_1 rest hplus =>
      -- a plus is no digit
      exact absurd (hdigits '+' (hplus ▸ List.mem_cons_self)) (by decide)
    case h_2 hfirst =>
      rw [hread]
      exact if_pos (Nat.le_sub_one_of_lt value.toNat_lt)
  rw [word?, hunsigned, Option.map_some, Nat.toUInt64, UInt64.ofNat_toNat]

/-! ## Joined pieces -/

/-- Texts are cut like any lists. -/
theorem splitOn_eq (separator : Char) (text : List Char) :
    splitOn separator text = text.splitOn separator := by
  induction text with
  | nil => rfl
  | cons char text ih =>
      rw [splitOn, List.splitOn_cons_eq_if_modifyHead, ih]
      by_cases hequal : char = separator
      · simp [hequal]
      · obtain ⟨piece, pieces, hpieces⟩ :=
          List.exists_cons_of_ne_nil (List.splitOn_ne_nil separator text)
        simp [hequal, hpieces]

/-- Joined pieces that are visible come apart at the separators. No pieces are joined to the empty
text, whose only piece is blank. -/
theorem filter_splitOn_intercalate {separator : Char} {pieces : List (List Char)}
    (hseparator : ∀ piece ∈ pieces, separator ∉ piece) (hsome : ∀ piece ∈ pieces, piece ≠ [])
    (hvisible : ∀ piece ∈ pieces, ∀ char ∈ piece, IsVisible char) :
    ((splitOn separator ([separator].intercalate pieces)).map trim).filter (! ·.isEmpty) =
      pieces := by
  by_cases hnone : pieces = []
  · subst hnone
    rfl
  have htrim : pieces.map trim = pieces := by
    conv_rhs => rw [← List.map_id pieces]
    exact List.map_congr_left fun piece hpiece => trim_of_visible (hvisible piece hpiece)
  rw [splitOn_eq, List.splitOn_intercalate separator hseparator hnone, htrim,
    List.filter_eq_self]
  intro piece hpiece
  simp [hsome piece hpiece]

/-- Joined pieces consist of the separator and their own characters. -/
theorem mem_intercalate {separator char : Char} {pieces : List (List Char)}
    (h : char ∈ [separator].intercalate pieces) :
    char = separator ∨ ∃ piece ∈ pieces, char ∈ piece := by
  induction pieces with
  | nil => simp at h
  | cons piece others ih =>
      cases others with
      | nil =>
          rw [List.intercalate_singleton] at h
          exact .inr ⟨piece, List.mem_cons_self, h⟩
      | cons next others =>
          rw [List.intercalate_cons_cons, List.append_assoc, List.mem_append, List.mem_append,
            List.mem_singleton] at h
          rcases h with hpiece | hseparator | hothers
          · exact .inr ⟨piece, List.mem_cons_self, hpiece⟩
          · exact .inl hseparator
          · rcases ih hothers with hseparator | ⟨other, hother, hmem⟩
            · exact .inl hseparator
            · exact .inr ⟨other, List.mem_cons_of_mem piece hother, hmem⟩

/-! ## Cutting once -/

theorem splitOnce_eq_none_iff {separator : Char} {text : List Char} :
    splitOnce separator text = none ↔ separator ∉ text := by
  induction text with
  | nil => simp [splitOnce]
  | cons char text ih =>
      rw [splitOnce]
      by_cases hequal : char = separator
      · simp [hequal]
      · simp [hequal, ih, Ne.symm hequal]

/-- A text is cut at the first occurrence of the separator. -/
theorem splitOnce_eq_some_iff {separator : Char} {text before after : List Char} :
    splitOnce separator text = some (before, after) ↔
      text = before ++ separator :: after ∧ separator ∉ before := by
  constructor
  · intro hcut
    induction text generalizing before with
    | nil => simp [splitOnce] at hcut
    | cons char text ih =>
        rw [splitOnce] at hcut
        split at hcut
        case isTrue hequal =>
          obtain ⟨rfl, rfl⟩ := Prod.mk.inj (Option.some.inj hcut)
          exact ⟨by rw [hequal, List.nil_append], List.not_mem_nil⟩
        case isFalse hother =>
          obtain ⟨⟨front, rest⟩, hrest, hpieces⟩ := Option.map_eq_some_iff.mp hcut
          obtain ⟨rfl, rfl⟩ := Prod.mk.inj hpieces
          obtain ⟨rfl, hfront⟩ := ih hrest
          exact ⟨rfl, by simp [Ne.symm hother, hfront]⟩
  · rintro ⟨rfl, hbefore⟩
    induction before with
    | nil => simp [splitOnce]
    | cons char before ih =>
        have hother : char ≠ separator := by
          rintro rfl
          exact hbefore List.mem_cons_self
        rw [List.cons_append, splitOnce, if_neg hother,
          ih fun hmem => hbefore (List.mem_cons_of_mem _ hmem), Option.map_some]

/-! ## Blank texts -/

/-- Nothing is left of a text by trimming exactly if all of it is blank. -/
theorem isEmpty_trim (text : List Char) : (trim text).isEmpty = text.all isBlank := by
  rw [Bool.eq_iff_iff, List.isEmpty_iff, trim, trimEnd, List.reverse_eq_nil_iff,
    List.dropWhile_eq_nil_iff, List.all_eq_true]
  constructor
  · intro hblank char hchar
    rw [← List.takeWhile_append_dropWhile (p := isBlank) (l := text), List.mem_append] at hchar
    rcases hchar with hfront | hrest
    · exact List.mem_takeWhile_imp hfront
    · exact hblank char (List.mem_reverse.mpr hrest)
  · intro hblank char hchar
    exact hblank char ((List.dropWhile_sublist _).subset (List.mem_reverse.mp hchar))

/-! ## Bytes -/

/-- A text of ASCII is written as one byte for each character. -/
theorem toUTF8_of_ascii {text : List Char} (h : ∀ char ∈ text, char.toNat < 0x80) :
    (String.ofList text).toUTF8.data.toList = text.map fun char => char.toNat.toUInt8 := by
  have hsingle : ∀ char ∈ text, String.utf8EncodeChar char = [char.toNat.toUInt8] := by
    intro char hchar
    refine String.utf8EncodeChar_eq_singleton (Char.utf8Size_eq_one_iff.mpr ?_)
    rw [UInt32.le_iff_toNat_le]
    exact Nat.le_of_lt_succ (h char hchar)
  have hbytes : text.flatMap String.utf8EncodeChar = text.map fun char => char.toNat.toUInt8 := by
    rw [← List.flatMap_singleton' (text.map _), List.flatMap_map]
    exact List.flatMap_congr hsingle
  rw [String.toUTF8_eq_toByteArray, String.toByteArray_ofList, List.utf8Encode, hbytes]
  simp

/-- The code of a character of ASCII is a byte. -/
theorem toNat_toUInt8_of_ascii {char : Char} (h : char.toNat < 0x80) :
    char.toNat.toUInt8.toNat = char.toNat := by
  rw [Nat.toUInt8, UInt8.toNat_ofNat', Nat.mod_eq_of_lt (h.trans (by decide))]

/-- A byte of ASCII is the character of its code. -/
theorem decodeByte_of_ascii {char : Char} (h : char.toNat < 0x80) :
    decodeByte char.toNat.toUInt8 = char := by
  have hsmall : ¬ (0x80 ≤ char.toNat.toUInt8 ∧ char.toNat.toUInt8 < 0xA0) := by
    rw [UInt8.le_iff_toNat_le, toNat_toUInt8_of_ascii h]
    intro hlarge
    exact absurd (hlarge.1.trans_lt h) (by decide)
  rw [decodeByte, if_neg hsmall, toNat_toUInt8_of_ascii h, Char.ofNat_toNat]

/-- No mark starts with a byte of ASCII. -/
theorem decode_of_lt {byte : UInt8} (h : byte < 0x80) (rest : Bytes) :
    decode (byte :: rest) = ⟨(byte :: rest).map decodeByte, false⟩ := by
  have hmark : byte ≠ 0xEF ∧ byte ≠ 0xFE ∧ byte ≠ 0xFF := by
    refine ⟨?_, ?_, ?_⟩
    · rintro rfl
      exact absurd h (by decide)
    · rintro rfl
      exact absurd h (by decide)
    · rintro rfl
      exact absurd h (by decide)
  simp [decode, utf8Mark, utf16BigMark, utf16LittleMark, startsMark, List.isPrefixOf_cons_cons,
    hmark, hmark.1.symm, hmark.2.1.symm, hmark.2.2.symm]

/-- A text of ASCII is read from the bytes it was written as. -/
theorem decode_toUTF8 {text : List Char} (h : ∀ char ∈ text, char.toNat < 0x80) :
    decode (String.ofList text).toUTF8.data.toList = ⟨text, false⟩ := by
  have hchars : (text.map fun char => char.toNat.toUInt8).map decodeByte = text := by
    rw [List.map_map]
    conv_rhs => rw [← List.map_id text]
    refine List.map_congr_left ?_
    intro char hchar
    exact decodeByte_of_ascii (h char hchar)
  rw [toUTF8_of_ascii h]
  cases text with
  | nil => rfl
  | cons char text =>
      have hfirst : char.toNat.toUInt8 < 0x80 := by
        rw [UInt8.lt_iff_toNat_lt, toNat_toUInt8_of_ascii (h char List.mem_cons_self)]
        exact h char List.mem_cons_self
      exact (decode_of_lt hfirst _).trans (congrArg (Decoded.mk · false) hchars)

end CompactAdjacency.Text
