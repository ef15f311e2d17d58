/-!
# Integers in text

An integer is one or more decimal digits, with a sign in front if the reader allows one: a plus
always, a minus only where negative numbers are possible. A number out of range is refused like a
malformed one.
-/

namespace CompactAdjacency.Text

/-- The digits and the number they denote so far. -/
def digitsFrom (value : Nat) : List Char → Option Nat
  | [] => some value
  | char :: rest =>
      if '0' ≤ char ∧ char ≤ '9' then digitsFrom (10 * value + (char.toNat - '0'.toNat)) rest
      else none

/-- The number that one or more digits denote. -/
def digits? (text : List Char) : Option Nat :=
  if text.isEmpty then none else digitsFrom 0 text

/-- A number that may have a plus in front, at most `largest`. -/
def unsigned? (largest : Nat) (text : List Char) : Option Nat := do
  let value ← digits? (match text with | '+' :: rest => rest | _ => text)
  if value ≤ largest then some value else none

/-- A number that may have a sign in front, from `smallest` to `largest`. -/
def signed? (smallest largest : Int) (text : List Char) : Option Int := do
  let value ← match text with
    | '+' :: rest => (digits? rest).map Int.ofNat
    | '-' :: rest => (digits? rest).map fun value => -Int.ofNat value
    | _ => (digits? text).map Int.ofNat
  if smallest ≤ value ∧ value ≤ largest then some value else none

/-- A 64-bit number that may have a plus in front. -/
def word? (text : List Char) : Option UInt64 :=
  (unsigned? (UInt64.size - 1) text).map Nat.toUInt64

end CompactAdjacency.Text
