import CompactAdjacency.Text.Blank
import CompactAdjacency.Text.Hexadecimal

/-!
# The atoms of a pattern

An atom is the smallest part of a pattern that matches something: a character, a set of characters,
or a position. A backslash writes the atoms that no character stands for by itself, and the
characters that would stand for something else. Which atoms have a place depends on the `Scope`: in
a pattern about bytes none may match a part of a character.

Every reader leaves no more text than it was given, which `length_skip_le` and
`length_le_of_escape?` state.
-/

namespace CompactAdjacency.Text.Pattern

/-- What holds for a part of a pattern. -/
structure Scope where
  /-- Whether blanks and comments between atoms are no part of the pattern. -/
  spaced : Bool
  /-- Whether the pattern is about characters, and not about bytes. -/
  unicode : Bool
  deriving DecidableEq, Repr

/-! ## Gaps -/

/-- The text without the blanks and comments at its start, from inside of a comment or not. A
comment starts with a number sign and ends with the line. -/
def skipGaps : Bool → List Char → List Char
  | _, [] => []
  | true, char :: rest => skipGaps (char != '\n') rest
  | false, char :: rest =>
      if isBlank char then skipGaps false rest
      else if char = '#' then skipGaps true rest
      else char :: rest

/-- The text from the next character on that is part of the pattern. -/
def Scope.skip (scope : Scope) (text : List Char) : List Char :=
  if scope.spaced then skipGaps false text else text

theorem length_skipGaps_le (comment : Bool) (text : List Char) :
    (skipGaps comment text).length ≤ text.length := by
  fun_induction skipGaps comment text <;> simp_all <;> omega

theorem length_skip_le (scope : Scope) (text : List Char) :
    (scope.skip text).length ≤ text.length := by
  unfold Scope.skip
  split
  · exact length_skipGaps_le false text
  · exact Nat.le_refl _

/-! ## Atoms -/

/-- The smallest part of a pattern. -/
inductive Atom where
  /-- A character, which may be written as the code of a byte. -/
  | char (value : Char) (byte : Bool)
  /-- The digits, the blanks or the characters of words, or all others. -/
  | set (negated : Bool)
  /-- The characters with a Unicode property, or all others. -/
  | property
  /-- The start or the end of the text. -/
  | textEdge
  /-- The start, the end or the inside of a word. -/
  | wordEdge
  deriving DecidableEq, Repr

/-- Whether an atom has a place outside of brackets. Words have edges only among bytes. -/
def Atom.fits (scope : Scope) : Atom → Bool
  | .char value byte => scope.unicode || !byte || value.toNat < 0x80
  | .set negated => scope.unicode || !negated
  | .property => scope.unicode
  | .textEdge => true
  | .wordEdge => !scope.unicode

/-- Whether an atom has a place between brackets. -/
def Atom.fitsClass (scope : Scope) : Atom → Bool
  | .char value _ => scope.unicode || value.toNat < 0x80
  | .set negated => scope.unicode || !negated
  | .property => scope.unicode
  | .textEdge => false
  | .wordEdge => false

/-! ## Escapes -/

/-- The number that so many hexadecimal digits denote after others, and the text after them. -/
def code? (scope : Scope) : Nat → Nat → List Char → Option (Nat × List Char)
  | 0, value, text => some (value, text)
  | count + 1, value, text =>
      match scope.skip text with
      | [] => none
      | char :: rest =>
          (hexDigit? char).bind fun digit => code? scope count (16 * value + digit) rest

/-- The character whose code has so many digits. -/
def coded? (scope : Scope) (count : Nat) (text : List Char) : Option (Atom × List Char) :=
  (code? scope count 0 text).bind fun (code, rest) =>
    if code.isValidChar then some (.char (Char.ofNat code) (count = 2), rest) else none

/-- The letters of the Unicode categories that one letter names. -/
def categoryLetters : List Char := ['c', 'l', 'm', 'n', 'p', 's', 'z']

/-- The category that a letter names. -/
def category? (scope : Scope) (text : List Char) : Option (Atom × List Char) :=
  match scope.skip text with
  | letter :: rest =>
      if categoryLetters.contains letter.toLower then some (.property, rest) else none
  | [] => none

/-- The atom of a backslash and a single character. -/
def escaped? (char : Char) : Option Atom :=
  match char with
  | 'd' | 's' | 'w' => some (.set false)
  | 'D' | 'S' | 'W' => some (.set true)
  | 'A' | 'z' => some .textEdge
  | 'b' | 'B' | '<' | '>' => some .wordEdge
  | 'a' => some (.char '\x07' false)
  | 't' => some (.char '\t' false)
  | 'n' => some (.char '\n' false)
  | 'v' => some (.char '\x0b' false)
  | 'f' => some (.char '\x0c' false)
  | 'r' => some (.char '\r' false)
  | _ => if char.toNat < 0x80 && !char.isAlphanum then some (.char char false) else none

/-- The atom after a backslash, and the text after it. -/
def escape? (scope : Scope) : List Char → Option (Atom × List Char)
  | [] => none
  | char :: rest =>
      if char = 'x' then coded? scope 2 rest
      else if char = 'u' then coded? scope 4 rest
      else if char = 'U' then coded? scope 8 rest
      else if char = 'p' || char = 'P' then category? scope rest
      else (escaped? char).map fun atom => (atom, rest)

/-- The atom that starts with a character, and the text after it. -/
def atom? (scope : Scope) (char : Char) (rest : List Char) : Option (Atom × List Char) :=
  if char = '\\' then escape? scope rest else some (.char char false, rest)

theorem length_le_of_code? {scope : Scope} {count value : Nat} {text rest : List Char} {code : Nat}
    (h : code? scope count value text = some (code, rest)) : rest.length ≤ text.length := by
  induction count generalizing value text with
  | zero =>
      cases h
      exact Nat.le_refl _
  | succ count ih =>
      have skipped := length_skip_le scope text
      unfold code? at h
      split at h
      · cases h
      · next char left heq =>
          rw [heq, List.length_cons] at skipped
          obtain ⟨digit, _, h⟩ := Option.bind_eq_some_iff.1 h
          have := ih h
          omega

theorem length_le_of_coded? {scope : Scope} {count : Nat} {text rest : List Char} {atom : Atom}
    (h : coded? scope count text = some (atom, rest)) : rest.length ≤ text.length := by
  obtain ⟨⟨code, left⟩, read, h⟩ := Option.bind_eq_some_iff.1 h
  dsimp only at h
  split at h
  · cases h
    exact length_le_of_code? read
  · cases h

theorem length_le_of_category? {scope : Scope} {text rest : List Char} {atom : Atom}
    (h : category? scope text = some (atom, rest)) : rest.length ≤ text.length := by
  have skipped := length_skip_le scope text
  unfold category? at h
  split at h
  · next letter left heq =>
      rw [heq, List.length_cons] at skipped
      split at h
      · cases h
        omega
      · cases h
  · cases h

theorem length_le_of_escape? {scope : Scope} {text rest : List Char} {atom : Atom}
    (h : escape? scope text = some (atom, rest)) : rest.length ≤ text.length := by
  cases text with
  | nil => cases h
  | cons char left =>
      apply Nat.le_succ_of_le
      rw [escape?] at h
      split at h
      · exact length_le_of_coded? h
      · split at h
        · exact length_le_of_coded? h
        · split at h
          · exact length_le_of_coded? h
          · split at h
            · exact length_le_of_category? h
            · obtain ⟨_, _, ⟨⟩⟩ := Option.map_eq_some_iff.1 h
              exact Nat.le_refl _

theorem length_le_of_atom? {scope : Scope} {char : Char} {text rest : List Char} {atom : Atom}
    (h : atom? scope char text = some (atom, rest)) : rest.length ≤ text.length := by
  unfold atom? at h
  split at h
  · exact length_le_of_escape? h
  · cases h
    exact Nat.le_refl _

end CompactAdjacency.Text.Pattern
