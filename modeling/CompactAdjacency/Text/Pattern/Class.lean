import CompactAdjacency.Text.Pattern.Atom

/-!
# The items of a class

A class is a list of characters, ranges of characters, sets with a name and other classes between
brackets. A hyphen makes a range of the characters around it, unless a bracket or another hyphen
follows it. The readers here leave no more text than they are given.
-/

namespace CompactAdjacency.Text.Pattern

/-- The names of the sets that have one. -/
def setNames : List String := [
  "alnum", "alpha", "ascii", "blank", "cntrl", "digit", "graph", "lower", "print", "punct",
  "space", "upper", "word", "xdigit"]

/-- The set of the name that starts a text and ends in a colon and a bracket, and the text after
it. -/
def setOfName? (negated : Bool) (text : List Char) : Option (Atom × List Char) :=
  let name := text.takeWhile (· ≠ ':')
  match text.drop name.length with
  | _ :: ']' :: rest =>
      if setNames.contains (String.ofList name) then some (.set negated, rest) else none
  | _ => none

/-- The set that a bracket before a text and a name between colons in it are, and the text after
it. -/
def namedSet? : List Char → Option (Atom × List Char)
  | ':' :: '^' :: rest => setOfName? true rest
  | ':' :: rest => setOfName? false rest
  | _ => none

/-- The next character that is no blank; one number sign counts as a blank where comments have a
place. -/
def Scope.peek (scope : Scope) (text : List Char) : Option Char :=
  if scope.spaced then
    match text.dropWhile isBlank with
    | '#' :: rest => (rest.dropWhile isBlank).head?
    | rest => rest.head?
  else text.head?

/-- The text after a hyphen that makes the atom before a text the start of a range. -/
def rangeEnd? (scope : Scope) (text : List Char) : Option (List Char) :=
  match scope.skip text with
  | '-' :: rest =>
      if scope.peek rest = some ']' || scope.peek rest = some '-' then none
      else some (scope.skip rest)
  | _ => none

/-- Whether two atoms are the ends of a range. -/
def isRange : Atom → Atom → Bool
  | .char first _, .char last _ => first.toNat ≤ last.toNat
  | _, _ => false

/-- The text after the atom or range that starts with a character between brackets. -/
def classItem? (scope : Scope) (char : Char) (text : List Char) : Option (List Char) :=
  match atom? scope char text with
  | none => none
  | some (first, rest) =>
      if !first.fitsClass scope then none
      else
        match rangeEnd? scope rest with
        | none => some rest
        | some [] => none
        | some (char :: text) =>
            match atom? scope char text with
            | none => none
            | some (last, rest) =>
                if last.fitsClass scope && isRange first last then some rest else none

theorem length_le_of_setOfName? {negated : Bool} {text rest : List Char} {set : Atom}
    (h : setOfName? negated text = some (set, rest)) : rest.length ≤ text.length := by
  have dropped := List.length_drop (i := (text.takeWhile (· ≠ ':')).length) (l := text)
  unfold setOfName? at h
  dsimp only at h
  split at h
  · next left heq =>
      rw [heq] at dropped
      split at h
      · cases h
        simp only [List.length_cons] at dropped
        omega
      · cases h
  · cases h

theorem length_le_of_namedSet? {text rest : List Char} {set : Atom}
    (h : namedSet? text = some (set, rest)) : rest.length ≤ text.length := by
  unfold namedSet? at h
  split at h
  · have := length_le_of_setOfName? h
    simp only [List.length_cons]
    omega
  · have := length_le_of_setOfName? h
    simp only [List.length_cons]
    omega
  · cases h

theorem length_le_of_rangeEnd? {scope : Scope} {text rest : List Char}
    (h : rangeEnd? scope text = some rest) : rest.length ≤ text.length := by
  have skipped := length_skip_le scope text
  unfold rangeEnd? at h
  split at h
  · next left heq =>
      rw [heq, List.length_cons] at skipped
      split at h
      · cases h
      · cases h
        have := length_skip_le scope left
        omega
  · cases h

theorem length_le_of_classItem? {scope : Scope} {char : Char} {text rest : List Char}
    (h : classItem? scope char text = some rest) : rest.length ≤ text.length := by
  unfold classItem? at h
  split at h
  · cases h
  · next first left read =>
      have hleft := length_le_of_atom? read
      split at h
      · cases h
      · split at h
        · cases h
          exact hleft
        · cases h
        · next text' ended =>
            have hended := length_le_of_rangeEnd? ended
            rw [List.length_cons] at hended
            split at h
            · cases h
            · next last =>
                have hlast := length_le_of_atom? last
                split at h
                · cases h
                  omega
                · cases h

end CompactAdjacency.Text.Pattern
