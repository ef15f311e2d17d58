import CompactAdjacency.Value.Binary64

/-!
# Writing decimal numbers

A binary64 number is written with the fewest decimal digits that read back as the same number; of
several such decimals the one nearest to it is taken, and of two equally near ones the one that ends
in an even digit. `shortest` works on whole numbers: a number is `mantissa` times two to a power,
the numbers that round to it fill the interval between the midpoints to its neighbors, and on each
decimal grid in turn the two grid points next to the number are tried.

The digits are placed by `layout`: a number from `1e-5` up to `1e16` is written out with a point,
any other with an exponent, and a whole number keeps one zero after its point.
-/

namespace CompactAdjacency.Binary64

/-! ## Digits -/

/-- A positive number and the interval that rounds to it, in units of `unit` parts of one: lower
end, number and upper end, and whether the ends belong to the interval. -/
structure Interval where
  lower : Nat
  number : Nat
  upper : Nat
  unit : Nat
  closed : Bool

/-- The interval of the numbers that round to a positive finite number. -/
def interval (value : Binary64) : Interval :=
  let exponent := value.bits.toNat / hiddenBit % 2048
  let fraction := value.bits.toNat % hiddenBit
  let mantissa := if exponent = 0 then fraction else hiddenBit + fraction
  let shift := max exponent 1 - 1
  let below := if fraction = 0 ∧ exponent > 1 then 1 else 2
  -- The least positive number is two to the power of -1074; quarters of it are whole numbers here.
  { lower := (4 * mantissa - below) <<< shift
    number := (4 * mantissa) <<< shift
    upper := (4 * mantissa + 2) <<< shift
    unit := 1 <<< 1076
    closed := mantissa % 2 = 0 }

/-- Whether a ratio lies in an interval. -/
def Interval.contains (interval : Interval) (numerator denominator : Nat) : Bool :=
  let point := numerator * interval.unit
  let lower := interval.lower * denominator
  let upper := interval.upper * denominator
  if interval.closed then lower ≤ point && point ≤ upper else lower < point && point < upper

/-- The point of a decimal grid that is nearest to the number among those in the interval: a whole
number to be divided by ten to the power of `places`, or multiplied by it if that is negative. -/
def Interval.onGrid (interval : Interval) (places : Int) : Option Nat :=
  let power := Nat.pow 10 places.natAbs
  let (up, down) := if places ≥ 0 then (power, 1) else (1, power)
  let top := interval.number * up
  let bottom := interval.unit * down
  let floor := top / bottom
  let inside (point : Nat) : Bool := interval.contains (point * down) up
  let twice := 2 * (top % bottom)
  let first := if twice < bottom ∨ (twice = bottom ∧ floor % 2 = 0) then floor else floor + 1
  let second := if first = floor then floor + 1 else floor
  if inside first then some first else if inside second then some second else none

/-- The position of the first digit of a number: zero for numbers from one up to ten. -/
def Interval.leading (interval : Interval) : Int :=
  if interval.number ≥ interval.unit then
    ((Nat.toDigits 10 (interval.number / interval.unit)).length : Int) - 1
  else
    -- Dividing the other way round counts the zeros after the point.
    let inverse := (interval.unit + interval.number - 1) / interval.number
    let digits := (Nat.toDigits 10 inverse).length
    if inverse = Nat.pow 10 (digits - 1) then -((digits : Int) - 1) else -(digits : Int)

/-- The digits of a number and the position of the first one, tried with `count` digits and, as long
as `fuel` lasts, with more. -/
def Interval.digitsFrom (interval : Interval) (count : Nat) : Nat → Nat × Int
  | 0 => (0, 0)
  | fuel + 1 =>
      let places := (count : Int) - 1 - interval.leading
      match interval.onGrid places with
      | some digits => (digits, places)
      | none => interval.digitsFrom (count + 1) fuel

/-- The fewest digits that read back as a positive number, and by how many places to move the point
to the left of them. -/
def shortest (value : Binary64) : Nat × Int := value.interval.digitsFrom 1 17

/-! ## Text -/

/-- Digits without zeros at their end, and how many there were. -/
def dropZeros (digits : List Char) : List Char × Nat :=
  let kept := (digits.reverse.dropWhile (· = '0')).reverse
  (kept, digits.length - kept.length)

/-- Digits with the point `point` places after the first of them. -/
def layout (digits : List Char) (point : Int) : List Char :=
  let zeros (count : Nat) : List Char := List.replicate count '0'
  let length : Int := digits.length
  if length ≤ point ∧ point ≤ 16 then
    digits ++ zeros (point - length).natAbs ++ ['.', '0']
  else if 0 < point ∧ point ≤ 16 then
    digits.take point.natAbs ++ ['.'] ++ digits.drop point.natAbs
  else if -5 < point ∧ point ≤ 0 then
    ['0', '.'] ++ zeros point.natAbs ++ digits
  else
    let exponent := (toString (point - 1)).toList
    match digits with
    | [digit] => digit :: 'e' :: exponent
    | first :: others => first :: '.' :: others ++ 'e' :: exponent
    | [] => []

/-- A finite number that is not negative, in decimal. -/
def toDecimal (value : Binary64) : String :=
  if value.bits = 0 then "0.0"
  else
    let (number, places) := value.shortest
    let (digits, zeros) := dropZeros (Nat.toDigits 10 number)
    String.ofList (layout digits ((digits.length : Int) + zeros - places))

end CompactAdjacency.Binary64
