import CompactAdjacency.Value.Binary64
import CompactAdjacency.Text.Integer

/-!
# Reading decimal numbers

A decimal number is digits with an optional point and an optional exponent, and is read as the
nearest binary64 number, a tie going to the even one. The names of infinity and of no number are
read in any case. A sign may come first.

The rounding is done in whole numbers: `ofRatio` scales a ratio so that its quotient has 53 digits,
or fewer where the number is too small for that, and rounds the quotient. Because the bits of
positive binary64 numbers count up through all of them, a quotient that rounds up to 54 digits lands
on the next number without special care.
-/

namespace CompactAdjacency.Binary64

/-! ## Rounding a ratio -/

/-- The quotient rounded to the nearest whole number, a tie going to the even one. -/
def roundedQuotient (numerator denominator : Nat) : Nat :=
  let quotient := numerator / denominator
  let remainder := numerator % denominator
  if 2 * remainder > denominator ∨ (2 * remainder = denominator ∧ quotient % 2 = 1) then
    quotient + 1
  else quotient

/-- The ratio divided by two to the power of `exponent - 1074`, as numerator and denominator. -/
def scaled (numerator denominator exponent : Nat) : Nat × Nat :=
  if exponent ≤ 1074 then (numerator <<< (1074 - exponent), denominator)
  else (numerator, denominator <<< (exponent - 1074))

/-- The exponent, counted from that of the least positive number, at which the quotient of a ratio
has 53 binary digits; zero where it has fewer even there. -/
def quotientExponent (numerator denominator : Nat) : Nat :=
  let guess := 1074 + numerator.log2 - (denominator.log2 + 52)
  let (top, bottom) := scaled numerator denominator guess
  if top / bottom < hiddenBit then guess - 1 else guess

/-- The number nearest to a ratio of positive numbers. -/
def ofRatio (numerator denominator : Nat) : Binary64 :=
  let exponent := quotientExponent numerator denominator
  let (top, bottom) := scaled numerator denominator exponent
  ⟨(min (exponent * hiddenBit + roundedQuotient top bottom) infinityBits.toNat).toUInt64⟩

/-- The whole number that a whole number becomes in binary64: it keeps its 53 highest binary digits,
rounded, and its magnitude. -/
def nearestWhole (number : Nat) : Nat :=
  let dropped := number.log2 - 52
  roundedQuotient number (1 <<< dropped) <<< dropped

/-- The quotient of two whole numbers that are made binary64 before they are divided. -/
def ofQuotient (numerator denominator : Nat) : Binary64 :=
  if numerator = 0 then ⟨0⟩ else ofRatio (nearestWhole numerator) (nearestWhole denominator)

/-- A whole number of at most 53 binary digits stays what it is. -/
theorem nearestWhole_of_lt {number : Nat} (h : number < 2 * hiddenBit) :
    nearestWhole number = number := by
  have hlog : number.log2 < 53 := by
    by_cases hzero : number = 0
    · rw [hzero]
      decide
    · exact (Nat.log2_lt hzero).mpr h
  have hdropped : number.log2 - 52 = 0 := by omega
  simp only [nearestWhole, hdropped, roundedQuotient, Nat.shiftLeft_zero, Nat.div_one, Nat.mod_one]
  simp

/-- So the quotient of two such numbers is rounded only once. -/
theorem ofQuotient_of_lt {numerator denominator : Nat} (hpos : numerator ≠ 0)
    (hnumerator : numerator < 2 * hiddenBit) (hdenominator : denominator < 2 * hiddenBit) :
    ofQuotient numerator denominator = ofRatio numerator denominator := by
  rw [ofQuotient, if_neg hpos, nearestWhole_of_lt hnumerator, nearestWhole_of_lt hdenominator]

/-- A denominator of 54 binary digits is rounded before the quotient is. -/
example : ofQuotient 8 (2 * hiddenBit + 1) ≠ ofRatio 8 (2 * hiddenBit + 1) := by decide +kernel

/-- The number nearest to `digits` times ten to the power of `exponent`. Magnitudes far out of range
are told by the number of digits, so that no power of ten is ever large. -/
def ofDecimal (digits : Nat) (exponent : Int) : Binary64 :=
  let magnitude := ((Nat.toDigits 10 digits).length : Int) + exponent
  if digits = 0 ∨ magnitude < -400 then ⟨0⟩
  else if magnitude > 400 then ⟨infinityBits⟩
  else if exponent < 0 then ofRatio digits (Nat.pow 10 exponent.natAbs)
  else ofRatio (digits * Nat.pow 10 exponent.natAbs) 1

/-- The number with its sign turned. -/
def negate (value : Binary64) : Binary64 := ⟨value.bits ^^^ signBit⟩

/-! ## Text -/

/-- Whether a character is a decimal digit. -/
def isDigit (char : Char) : Bool := '0' ≤ char && char ≤ '9'

/-- The largest exponent that is told apart from larger ones. -/
def exponentLimit : Nat := 100000

/-- The size of an exponent, as far as it is told apart. -/
def exponentSize? (digits : List Char) : Option Int :=
  (Text.digits? digits).map fun value => Int.ofNat (min value exponentLimit)

/-- The exponent in what follows the digits of a number: nothing, or a mark and a whole number. -/
def readExponent : List Char → Option Int
  | [] => some 0
  | mark :: text =>
      if mark = 'e' ∨ mark = 'E' then
        match text with
        | '-' :: digits => (exponentSize? digits).map fun size => -size
        | '+' :: digits => exponentSize? digits
        | digits => exponentSize? digits
      else none

/-- The number that digits, an optional point and an optional exponent denote. -/
def readDigits (text : List Char) : Option Binary64 := do
  let whole := text.takeWhile isDigit
  let rest := text.dropWhile isDigit
  let (places, rest) :=
    match rest with
    | '.' :: rest => (rest.takeWhile isDigit, rest.dropWhile isDigit)
    | rest => ([], rest)
  let exponent ← readExponent rest
  let digits ← Text.digits? (whole ++ places)
  pure (ofDecimal digits (exponent - places.length))

/-- The quiet NaN. -/
def nan : Binary64 := ⟨infinityBits ||| quietBit⟩

/-- The number that a text without a sign denotes. -/
def readUnsigned (text : List Char) : Option Binary64 :=
  let name := text.map Char.toLower
  if name = ['i', 'n', 'f'] ∨ name = ['i', 'n', 'f', 'i', 'n', 'i', 't', 'y'] then
    some ⟨infinityBits⟩
  else if name = ['n', 'a', 'n'] then some nan
  else readDigits text

/-- The number that a text denotes. -/
def ofText? : List Char → Option Binary64
  | '-' :: text => (readUnsigned text).map negate
  | '+' :: text => readUnsigned text
  | text => readUnsigned text

end CompactAdjacency.Binary64
