import Mathlib
import CompactAdjacency.Value.DecimalReading
import CompactAdjacency.Proofs.Text.Pieces

/-!
# What is read as a number

Whole numbers are decimal digits that a plus may precede, `unsigned?_eq_some_iff`. Binary64 numbers
are read from digits with an optional point and an optional exponent or from the names of infinity
and of no number, and from these with a sign in front, `Binary64.isSome_ofText?`.
-/

namespace CompactAdjacency

namespace Text

/-! ## Whole numbers -/

/-- One or more decimal digits. -/
def IsDigits (text : List Char) : Prop := text ≠ [] ∧ ∀ char ∈ text, char.isDigit = true

/-- A text denotes a number: it consists of the digits of the number, a plus in front of them
apart. -/
inductive DenotesNumber : List Char → Nat → Prop
  | plain {digits : List Char} (h : IsDigits digits) :
      DenotesNumber digits (Nat.ofDigitChars 10 digits 0)
  | plus {digits : List Char} (h : IsDigits digits) :
      DenotesNumber ('+' :: digits) (Nat.ofDigitChars 10 digits 0)

theorem isDigit_iff {char : Char} : char.isDigit = true ↔ '0' ≤ char ∧ char ≤ '9' := by
  simp [Char.isDigit, Char.le_def]

theorem digitsFrom_eq_some_iff {text : List Char} {value result : Nat} :
    digitsFrom value text = some result ↔
      (∀ char ∈ text, char.isDigit = true) ∧ Nat.ofDigitChars 10 text value = result := by
  constructor
  · intro hread
    have hdigits : ∀ char ∈ text, char.isDigit = true := by
      induction text generalizing value with
      | nil => exact fun char hchar => absurd hchar List.not_mem_nil
      | cons char text ih =>
          rw [digitsFrom] at hread
          split at hread
          case isTrue hdigit => exact List.forall_mem_cons.mpr ⟨isDigit_iff.mpr hdigit, ih hread⟩
          case isFalse hother => exact absurd hread (by simp)
    rw [digitsFrom_eq hdigits] at hread
    exact ⟨hdigits, Option.some.inj hread⟩
  · rintro ⟨hdigits, rfl⟩
    exact digitsFrom_eq hdigits value

theorem digits?_eq_some_iff {text : List Char} {value : Nat} :
    digits? text = some value ↔ IsDigits text ∧ Nat.ofDigitChars 10 text 0 = value := by
  unfold digits? IsDigits
  cases text with
  | nil => simp
  | cons char text =>
      rw [if_neg (by simp), digitsFrom_eq_some_iff]
      simp

theorem isSome_digits? {text : List Char} : (digits? text).isSome = true ↔ IsDigits text := by
  rw [Option.isSome_iff_exists]
  simp [digits?_eq_some_iff]

/-- A plus is no digit. -/
theorem not_isDigits_plus (text : List Char) : ¬ IsDigits ('+' :: text) := by
  intro h
  exact absurd (h.2 '+' List.mem_cons_self) (by decide)

theorem unsigned?_eq_some_iff {largest value : Nat} {text : List Char} :
    unsigned? largest text = some value ↔ DenotesNumber text value ∧ value ≤ largest := by
  have hlimited : ∀ digits, ((digits? digits).bind fun value =>
      if value ≤ largest then some value else none) = some value ↔
        (IsDigits digits ∧ Nat.ofDigitChars 10 digits 0 = value) ∧ value ≤ largest := by
    intro digits
    simp only [Option.bind_eq_some_iff, Option.ite_none_right_eq_some, Option.some.injEq,
      digits?_eq_some_iff]
    constructor
    · rintro ⟨other, hother, hle, rfl⟩
      exact ⟨hother, hle⟩
    · rintro ⟨hvalue, hle⟩
      exact ⟨value, hvalue, hle, rfl⟩
  unfold unsigned?
  split
  case h_1 digits =>
    refine (hlimited digits).trans (and_congr_left fun _ => ?_)
    constructor
    · rintro ⟨hdigits, rfl⟩
      exact .plus hdigits
    · intro hdenotes
      cases hdenotes with
      | plain h => exact absurd h (not_isDigits_plus digits)
      | plus h => exact ⟨h, rfl⟩
  case h_2 hplus =>
    refine (hlimited text).trans (and_congr_left fun _ => ?_)
    constructor
    · rintro ⟨hdigits, rfl⟩
      exact .plain hdigits
    · intro hdenotes
      cases hdenotes with
      | plain h => exact ⟨h, rfl⟩
      | plus h => exact absurd rfl (hplus _)

/-- A number that is read is a word. -/
theorem toNat_of_unsigned? {text : List Char} {value : Nat}
    (h : unsigned? (UInt64.size - 1) text = some value) : value.toUInt64.toNat = value :=
  UInt64.toNat_ofNat_of_lt' (Nat.lt_of_le_pred (by decide) (unsigned?_eq_some_iff.mp h).2)

theorem word?_eq_some_iff {text : List Char} {value : UInt64} :
    word? text = some value ↔ DenotesNumber text value.toNat := by
  rw [word?, Option.map_eq_some_iff]
  constructor
  · rintro ⟨number, hread, rfl⟩
    rw [toNat_of_unsigned? hread]
    exact (unsigned?_eq_some_iff.mp hread).1
  · intro hdenotes
    refine ⟨value.toNat, unsigned?_eq_some_iff.mpr ⟨hdenotes, ?_⟩, UInt64.ofNat_toNat⟩
    exact Nat.le_sub_one_of_lt value.toNat_lt

theorem isSome_word? {text : List Char} :
    (word? text).isSome = true ↔ ∃ value : UInt64, DenotesNumber text value.toNat := by
  simp only [Option.isSome_iff_exists, word?_eq_some_iff]

end Text

namespace Binary64

open Text

/-! ## Binary64 numbers -/

/-- The exponent of a number: none, or a mark and digits that a sign may precede. -/
inductive IsExponent : List Char → Prop
  | none : IsExponent []
  | plain {mark : Char} {digits : List Char} (hmark : mark = 'e' ∨ mark = 'E')
      (h : IsDigits digits) : IsExponent (mark :: digits)
  | signed {mark sign : Char} {digits : List Char} (hmark : mark = 'e' ∨ mark = 'E')
      (hsign : sign = '+' ∨ sign = '-') (h : IsDigits digits) :
      IsExponent (mark :: sign :: digits)

/-- Digits with a point somewhere or without, and an exponent. -/
inductive IsDecimal : List Char → Prop
  | whole {digits exponent : List Char} (h : IsDigits digits) (hexponent : IsExponent exponent) :
      IsDecimal (digits ++ exponent)
  | point {whole places exponent : List Char} (h : IsDigits (whole ++ places))
      (hexponent : IsExponent exponent) : IsDecimal (whole ++ '.' :: (places ++ exponent))

/-- A name of infinity or of no number, in any case. -/
def IsName (text : List Char) : Prop :=
  text.map Char.toLower ∈ ["inf".toList, "infinity".toList, "nan".toList]

/-- A text denotes a binary64 number. -/
inductive IsNumeral : List Char → Prop
  | plain {text : List Char} (h : IsName text ∨ IsDecimal text) : IsNumeral text
  | signed {sign : Char} {text : List Char} (hsign : sign = '+' ∨ sign = '-')
      (h : IsName text ∨ IsDecimal text) : IsNumeral (sign :: text)

theorem isDigit_eq (char : Char) : isDigit char = char.isDigit := by
  rw [Bool.eq_iff_iff, isDigit_iff, isDigit]
  simp

theorem isSome_exponentSize? {digits : List Char} :
    (exponentSize? digits).isSome = true ↔ IsDigits digits := by
  rw [exponentSize?, Option.isSome_map, isSome_digits?]

theorem isSome_readExponent {text : List Char} :
    (readExponent text).isSome = true ↔ IsExponent text := by
  cases text with
  | nil => exact ⟨fun _ => .none, fun _ => rfl⟩
  | cons mark text =>
      unfold readExponent
      dsimp only
      by_cases hmark : mark = 'e' ∨ mark = 'E'
      · rw [if_pos hmark]
        split
        case h_1 digits =>
          rw [Option.isSome_map, isSome_exponentSize?]
          constructor
          · exact fun h => .signed hmark (.inr rfl) h
          · rintro (- | ⟨-, h⟩ | ⟨-, -, h⟩)
            · exact absurd (h.2 '-' List.mem_cons_self) (by decide)
            · exact h
        case h_2 digits =>
          rw [isSome_exponentSize?]
          constructor
          · exact fun h => .signed hmark (.inl rfl) h
          · rintro (- | ⟨-, h⟩ | ⟨-, -, h⟩)
            · exact absurd h (not_isDigits_plus digits)
            · exact h
        case h_3 hminus hplus =>
          rw [isSome_exponentSize?]
          constructor
          · exact fun h => .plain hmark h
          · rintro (- | ⟨-, h⟩ | ⟨-, hsign, h⟩)
            · exact h
            · rcases hsign with rfl | rfl
              · exact absurd rfl (hplus _)
              · exact absurd rfl (hminus _)
      · rw [if_neg hmark]
        refine ⟨fun h => absurd h (by simp), ?_⟩
        rintro (- | ⟨h, -⟩ | ⟨h, -, -⟩) <;> exact absurd h hmark

/-- No exponent starts with a digit. -/
theorem IsExponent.takeWhile {exponent : List Char} (h : IsExponent exponent) :
    exponent.takeWhile isDigit = [] ∧ exponent.dropWhile isDigit = exponent := by
  cases h with
  | none => exact ⟨rfl, rfl⟩
  | plain hmark h => rcases hmark with rfl | rfl <;> exact ⟨rfl, rfl⟩
  | signed hmark hsign h => rcases hmark with rfl | rfl <;> exact ⟨rfl, rfl⟩

/-- No exponent starts with a point. -/
theorem IsExponent.ne_point {exponent : List Char} (h : IsExponent exponent) (rest : List Char) :
    exponent ≠ '.' :: rest := by
  rintro rfl
  cases h with
  | plain hmark h => revert hmark; decide
  | signed hmark hsign h => revert hmark; decide

/-- The digits in front of what starts with none come apart from it. -/
theorem span_digits {digits rest : List Char} (hdigits : ∀ char ∈ digits, char.isDigit = true)
    (hrest : rest.takeWhile isDigit = [] ∧ rest.dropWhile isDigit = rest) :
    (digits ++ rest).takeWhile isDigit = digits ∧ (digits ++ rest).dropWhile isDigit = rest := by
  have hall : ∀ char ∈ digits, isDigit char = true := by
    intro char hchar
    rw [isDigit_eq]
    exact hdigits char hchar
  constructor
  · rw [List.takeWhile_append_of_pos hall, hrest.1, List.append_nil]
  · rw [List.dropWhile_append_of_pos hall, hrest.2]

/-- Digits and an exponent are read if they are such. -/
theorem isSome_decimal {exponent digits : List Char} {places : Nat} :
    (do
      let exponent ← readExponent exponent
      let digits ← digits? digits
      pure (ofDecimal digits (exponent - places)) : Option Binary64).isSome = true ↔
        IsDigits digits ∧ IsExponent exponent := by
  rw [← isSome_readExponent, ← isSome_digits?]
  cases readExponent exponent with
  | none => simp
  | some exponent => cases digits? digits <;> simp

theorem isSome_readDigits {text : List Char} :
    (readDigits text).isSome = true ↔ IsDecimal text := by
  have hsplit := List.takeWhile_append_dropWhile (p := isDigit) (l := text)
  have hstop : ∀ rest : List Char, ('.' :: rest).takeWhile isDigit = [] ∧
      ('.' :: rest).dropWhile isDigit = '.' :: rest := fun _ => ⟨rfl, rfl⟩
  unfold readDigits
  dsimp only
  split
  case h_1 rest hpoint =>
    have hrest := List.takeWhile_append_dropWhile (p := isDigit) (l := rest)
    rw [isSome_decimal]
    constructor
    · rintro ⟨hdigits, hexponent⟩
      rw [← hsplit, hpoint, ← hrest]
      exact .point hdigits hexponent
    · intro h
      cases h with
      | whole h hexponent =>
          rw [(span_digits h.2 hexponent.takeWhile).2] at hpoint
          exact absurd hpoint (hexponent.ne_point rest)
      | point h hexponent =>
          obtain ⟨hwhole, hplaces⟩ := List.forall_mem_append.mp h.2
          obtain ⟨htake, hdrop⟩ := span_digits hwhole (hstop _)
          obtain rfl := (List.cons.inj (hdrop.symm.trans hpoint)).2
          obtain ⟨htake', hdrop'⟩ := span_digits hplaces hexponent.takeWhile
          rw [htake, htake', hdrop']
          exact ⟨h, hexponent⟩
  case h_2 hpoint =>
    rw [isSome_decimal, List.append_nil]
    constructor
    · rintro ⟨hdigits, hexponent⟩
      rw [← hsplit]
      exact .whole hdigits hexponent
    · intro h
      cases h with
      | whole h hexponent =>
          obtain ⟨htake, hdrop⟩ := span_digits h.2 hexponent.takeWhile
          rw [htake, hdrop]
          exact ⟨h, hexponent⟩
      | point h hexponent =>
          exact absurd (span_digits (List.forall_mem_append.mp h.2).1 (hstop _)).2 (hpoint _)

theorem isSome_readUnsigned {text : List Char} :
    (readUnsigned text).isSome = true ↔ IsName text ∨ IsDecimal text := by
  have hname : IsName text ↔ (text.map Char.toLower = ['i', 'n', 'f'] ∨
      text.map Char.toLower = ['i', 'n', 'f', 'i', 'n', 'i', 't', 'y']) ∨
        text.map Char.toLower = ['n', 'a', 'n'] := by
    simp [IsName, or_assoc]
  rw [hname, ← isSome_readDigits]
  unfold readUnsigned
  dsimp only
  split
  case isTrue hinfinite => simp [hinfinite]
  case isFalse hfinite =>
    split
    case isTrue hnan => simp [hnan]
    case isFalse hnumber => simp [hfinite, hnumber]

/-- No number without a sign starts with one. -/
theorem not_unsigned_of_sign {sign : Char} {text : List Char} (hsign : sign = '+' ∨ sign = '-') :
    ¬ (IsName (sign :: text) ∨ IsDecimal (sign :: text)) := by
  rw [← isSome_readUnsigned]
  rcases hsign with rfl | rfl <;>
    simp [readUnsigned, readDigits, readExponent, isDigit, Char.toLower]

/-- Exactly the numerals are read as binary64 numbers. -/
theorem isSome_ofText? {text : List Char} : (ofText? text).isSome = true ↔ IsNumeral text := by
  unfold ofText?
  split
  case h_1 text =>
    rw [Option.isSome_map, isSome_readUnsigned]
    constructor
    · exact fun h => .signed (.inr rfl) h
    · rintro (h | ⟨-, h⟩)
      · exact absurd h (not_unsigned_of_sign (.inr rfl))
      · exact h
  case h_2 text =>
    rw [isSome_readUnsigned]
    constructor
    · exact fun h => .signed (.inl rfl) h
    · rintro (h | ⟨-, h⟩)
      · exact absurd h (not_unsigned_of_sign (.inl rfl))
      · exact h
  case h_3 hminus hplus =>
    rw [isSome_readUnsigned]
    constructor
    · exact fun h => .plain h
    · rintro (h | ⟨hsign, h⟩)
      · exact h
      · rcases hsign with rfl | rfl
        · exact absurd rfl (hplus _)
        · exact absurd rfl (hminus _)

end Binary64

end CompactAdjacency
