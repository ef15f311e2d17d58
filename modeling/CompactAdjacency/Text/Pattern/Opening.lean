import CompactAdjacency.Text.Numeric
import CompactAdjacency.Text.Pattern.Atom

/-!
# Groups and settings of a pattern

An opening parenthesis begins a group, which may have a name or settings of its own, or it is a
setting for the rest of the group around it. A setting is a letter; the letters after a hyphen are
turned off.
-/

namespace CompactAdjacency.Text.Pattern

/-- What an opening parenthesis begins. -/
inductive Opening where
  /-- A group with the scope inside of it. -/
  | group (inner : Scope) (name : Option (List Char))
  /-- A scope for what follows. -/
  | setting (scope : Scope)
  deriving DecidableEq, Repr

/-! ## Settings -/

/-- The letters of the settings. Only two of them decide what has a place in a pattern. -/
def settingLetters : List Char := ['i', 'm', 's', 'U', 'u', 'R', 'x']

/-- Whether a text is settings: letters and at most one hyphen, none of them twice, and no hyphen at
the end. -/
def areSettings (marks : List Char) : Bool :=
  marks.all (fun mark => mark = '-' || settingLetters.contains mark) &&
    marks.eraseDups.length = marks.length && marks.getLast? != some '-'

/-- The scope with settings applied. -/
def Scope.set? (scope : Scope) (marks : List Char) : Option Scope :=
  let on := marks.takeWhile (· ≠ '-')
  let off := marks.drop on.length
  if areSettings marks then
    some
      { spaced := (scope.spaced || on.contains 'x') && !off.contains 'x'
        unicode := (scope.unicode || on.contains 'u') && !off.contains 'u' }
  else none

/-! ## Names -/

/-- Whether a name can start with a character. -/
def isNameStart (char : Char) : Bool := char = '_' || isAlphabetic char

/-- Whether a name can go on with a character. -/
def isNamePart (char : Char) : Bool :=
  char = '_' || char = '.' || char = '[' || char = ']' || isAlphanumeric char

/-- The name before an angle bracket, and the text after it. -/
def name? (text : List Char) : Option (List Char × List Char) :=
  let name := text.takeWhile (· ≠ '>')
  match name, text.drop name.length with
  | first :: others, _ :: rest =>
      if isNameStart first && others.all isNamePart then some (name, rest) else none
  | _, _ => none

/-! ## Openings -/

/-- A group whose name starts a text. -/
def named? (scope : Scope) (text : List Char) : Option (Opening × List Char) :=
  (name? text).map fun (name, rest) => (.group scope (some name), rest)

/-- A group or setting whose settings start a text. A setting has at least one letter. -/
def settings? (scope : Scope) (text : List Char) : Option (Opening × List Char) :=
  let marks := text.takeWhile fun char => char ≠ ':' && char ≠ ')'
  match scope.set? marks, text.drop marks.length with
  | some inner, ':' :: rest => some (.group inner none, rest)
  | some inner, _ :: rest => if marks.isEmpty then none else some (.setting inner, rest)
  | _, _ => none

/-- What the parenthesis before a text begins, and the text after it. -/
def opening? (scope : Scope) (text : List Char) : Option (Opening × List Char) :=
  match scope.skip text with
  | '?' :: 'P' :: '<' :: rest => named? scope rest
  | '?' :: '<' :: rest => named? scope rest
  | '?' :: rest => settings? scope rest
  | rest => some (.group scope none, rest)

theorem length_le_of_name? {text name rest : List Char} (h : name? text = some (name, rest)) :
    rest.length ≤ text.length := by
  have dropped := List.length_drop (i := (text.takeWhile (· ≠ '>')).length) (l := text)
  unfold name? at h
  dsimp only at h
  split at h
  · next heq =>
      rw [heq, List.length_cons] at dropped
      split at h
      · cases h
        omega
      · cases h
  · cases h

theorem length_le_of_named? {scope : Scope} {text rest : List Char} {opening : Opening}
    (h : named? scope text = some (opening, rest)) : rest.length ≤ text.length := by
  obtain ⟨⟨name, left⟩, read, h⟩ := Option.map_eq_some_iff.1 h
  cases h
  exact length_le_of_name? read

theorem length_le_of_settings? {scope : Scope} {text rest : List Char} {opening : Opening}
    (h : settings? scope text = some (opening, rest)) : rest.length ≤ text.length := by
  have dropped := List.length_drop (l := text)
    (i := (text.takeWhile fun char => char ≠ ':' && char ≠ ')').length)
  unfold settings? at h
  dsimp only at h
  split at h
  · next heq =>
      rw [heq, List.length_cons] at dropped
      cases h
      omega
  · next heq =>
      rw [heq, List.length_cons] at dropped
      split at h
      · cases h
      · cases h
        omega
  · cases h

theorem length_le_of_opening? {scope : Scope} {text rest : List Char} {opening : Opening}
    (h : opening? scope text = some (opening, rest)) : rest.length ≤ text.length := by
  have skipped := length_skip_le scope text
  unfold opening? at h
  split at h
  · next heq =>
      rw [heq] at skipped
      have := length_le_of_named? h
      simp only [List.length_cons] at skipped
      omega
  · next heq =>
      rw [heq] at skipped
      have := length_le_of_named? h
      simp only [List.length_cons] at skipped
      omega
  · next heq =>
      rw [heq] at skipped
      have := length_le_of_settings? h
      simp only [List.length_cons] at skipped
      omega
  · cases h
    exact skipped

end CompactAdjacency.Text.Pattern
