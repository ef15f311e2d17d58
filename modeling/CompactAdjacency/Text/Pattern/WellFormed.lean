import CompactAdjacency.Text.Pattern.Class
import CompactAdjacency.Text.Pattern.Depth
import CompactAdjacency.Text.Pattern.Opening

/-!
# Well-formed patterns

A pattern is alternatives of atoms, groups, and classes between brackets, any of which may be
repeated by a mark after it. A question mark right behind such a mark belongs to the mark. Counted
repetitions are no part of a pattern, because the braces around them already have a meaning where
patterns are written.

`isWellFormed` reads a text once from its start to its end; a `State` is what the reader has to know
about the text before.

Hyphens at the start of a class stand for themselves, and so does a bracket that would close an
empty class. Two equal hyphens, ampersands or tildes are an operator on what stands before and
behind them.
-/

namespace CompactAdjacency.Text.Pattern

/-! ## States -/

/-- Where in a class a reader is. -/
inductive Place where
  /-- Behind the bracket that opens the class. -/
  | start
  /-- Behind the hyphens at the start. -/
  | hyphens
  /-- Anywhere else. -/
  | within
  deriving DecidableEq, Repr

/-- Whether a reader is in a class. -/
inductive Mode where
  | outside
  /-- In a class, with the classes around it, the innermost first. -/
  | inside (body : Body) (around : List Body) (place : Place)
  deriving DecidableEq, Repr

/-- What a reader knows of the text before. -/
structure State where
  scope : Scope
  /-- What has been read of the innermost open group, or of the pattern. -/
  body : Body
  /-- The scopes and bodies around the open groups, the innermost group first. -/
  groups : List (Scope × Body)
  /-- The names of groups so far. -/
  names : List (List Char)
  mode : Mode
  deriving DecidableEq, Repr

namespace State

/-- The state at the start of a pattern. -/
def start : State := ⟨⟨false, true⟩, .empty, [], [], .outside⟩

/-- Whether a pattern can end. -/
def isComplete (state : State) : Bool :=
  state.mode = .outside && state.groups.isEmpty && state.body.depth ≤ depthLimit

/-- The state after a part outside of classes that can be repeated. -/
def push (state : State) (depth : Nat) : State :=
  { state with body := state.body.push depth true, mode := .outside }

/-- The state in a class that a bracket before a text opens, and the text after what opens it. -/
def openClass? (state : State) (around : List Body) (text : List Char) :
    Option (State × List Char) :=
  let opened := { state with mode := .inside .empty around .start }
  match state.scope.skip text with
  | '^' :: rest => if state.scope.unicode then some (opened, rest) else none
  | rest => some (opened, rest)

/-- The state after the bracket that closes a class. -/
def closeClass (state : State) (body : Body) : List Body → State
  | [] => state.push (body.depth + 1)
  | outer :: around =>
      { state with mode := .inside (outer.push (body.depth + 1) false) around .within }

/-- The state after what a parenthesis before a text begins, and the text after that. Two groups
cannot share a name. -/
def openGroup? (state : State) (text : List Char) : Option (State × List Char) :=
  match opening? state.scope text with
  | none => none
  | some (.setting scope, rest) =>
      some ({ state with scope, body := state.body.push 0 false }, rest)
  | some (.group inner name, rest) =>
      if name.any state.names.contains then none
      else
        some
          ( { scope := inner
              body := .empty
              groups := (state.scope, state.body) :: state.groups
              names := name.toList ++ state.names
              mode := .outside },
            rest )

/-- The state after the parenthesis that closes a group. -/
def closeGroup? (state : State) : Option State :=
  match state.groups with
  | [] => none
  | (scope, body) :: groups =>
      some { state with scope, body := body.push (state.body.depth + 1) true, groups }

/-- The state after a mark before a text that repeats the part before it, and the text after it. A
question mark right behind the mark belongs to it. -/
def repeatLast? (state : State) (text : List Char) : Option (State × List Char) :=
  state.body.row.repeatLast?.map fun row =>
    ( { state with body := { state.body with row } },
      match text with
      | '?' :: rest => rest
      | _ => text )

/-- The state after an atom that starts with a character outside of classes. -/
def atom? (state : State) (char : Char) (text : List Char) : Option (State × List Char) :=
  match Pattern.atom? state.scope char text with
  | none => none
  | some (atom, rest) => if atom.fits state.scope then some (state.push 0, rest) else none

/-- The state after a character outside of classes and what belongs to it. -/
def stepOutside (state : State) (char : Char) (text : List Char) : Option (State × List Char) :=
  match char with
  | '(' => state.openGroup? text
  | ')' => state.closeGroup?.map fun state => (state, text)
  | '|' => some ({ state with body := state.body.alternate }, text)
  | '[' => state.openClass? [] text
  | '?' | '*' | '+' => state.repeatLast? text
  | '\x7b' => none
  | '.' => if state.scope.unicode then some (state.push 0, text) else none
  | _ => state.atom? char text

/-- The state after a character in a class and what belongs to it. -/
def stepInside (state : State) (body : Body) (around : List Body) (place : Place) (char : Char)
    (text : List Char) : Option (State × List Char) :=
  let item := { state with mode := .inside (body.push 0 false) around .within }
  if char = '[' then
    match namedSet? text with
    | some (set, rest) => if set.fitsClass state.scope then some (item, rest) else none
    | none => state.openClass? (body :: around) text
  else if char = ']' then
    some (if place = .start then item else state.closeClass body around, text)
  else if char = '-' && place ≠ .within then
    some ({ state with mode := .inside (body.push 0 false) around .hyphens }, text)
  else if (char = '-' || char = '&' || char = '~') && text.head? = some char then
    some ({ state with mode := .inside body.combine around .within }, text.drop 1)
  else (classItem? state.scope char text).map fun rest => (item, rest)

/-- The state after a character and what belongs to it, and the text after that. -/
def step (state : State) (char : Char) (text : List Char) : Option (State × List Char) :=
  match state.mode with
  | .outside => state.stepOutside char text
  | .inside body around place => state.stepInside body around place char text

/-! ### Steps read on -/

theorem length_le_of_openClass? {state next : State} {around : List Body} {text rest : List Char}
    (h : state.openClass? around text = some (next, rest)) : rest.length ≤ text.length := by
  have skipped := length_skip_le state.scope text
  unfold openClass? at h
  split at h
  · next left heq =>
      rw [heq, List.length_cons] at skipped
      split at h
      · cases h
        omega
      · cases h
  · cases h
    exact skipped

theorem length_le_of_openGroup? {state next : State} {text rest : List Char}
    (h : state.openGroup? text = some (next, rest)) : rest.length ≤ text.length := by
  unfold openGroup? at h
  split at h
  · cases h
  · next read =>
      cases h
      exact length_le_of_opening? read
  · next read =>
      split at h
      · cases h
      · cases h
        exact length_le_of_opening? read

theorem length_le_of_repeatLast? {state next : State} {text rest : List Char}
    (h : state.repeatLast? text = some (next, rest)) : rest.length ≤ text.length := by
  obtain ⟨_, _, ⟨⟩⟩ := Option.map_eq_some_iff.1 h
  split
  · exact Nat.le_succ _
  · exact Nat.le_refl _

theorem length_le_of_atom? {state next : State} {char : Char} {text rest : List Char}
    (h : state.atom? char text = some (next, rest)) : rest.length ≤ text.length := by
  unfold State.atom? at h
  split at h
  · cases h
  · next read =>
      split at h
      · cases h
        exact Pattern.length_le_of_atom? read
      · cases h

theorem length_le_of_stepOutside {state next : State} {char : Char} {text rest : List Char}
    (h : state.stepOutside char text = some (next, rest)) : rest.length ≤ text.length := by
  unfold stepOutside at h
  split at h
  · exact length_le_of_openGroup? h
  · obtain ⟨_, _, ⟨⟩⟩ := Option.map_eq_some_iff.1 h
    exact Nat.le_refl _
  · cases h
    exact Nat.le_refl _
  · exact length_le_of_openClass? h
  · exact length_le_of_repeatLast? h
  · exact length_le_of_repeatLast? h
  · exact length_le_of_repeatLast? h
  · cases h
  · split at h
    · cases h
      exact Nat.le_refl _
    · cases h
  · exact length_le_of_atom? h

theorem length_le_of_stepInside {state next : State} {body : Body} {around : List Body}
    {place : Place} {char : Char} {text rest : List Char}
    (h : state.stepInside body around place char text = some (next, rest)) :
    rest.length ≤ text.length := by
  unfold stepInside at h
  split at h
  · split at h
    · next named =>
        split at h
        · cases h
          exact length_le_of_namedSet? named
        · cases h
    · exact length_le_of_openClass? h
  · split at h
    · cases h
      exact Nat.le_refl _
    · split at h
      · cases h
        exact Nat.le_refl _
      · split at h
        · cases h
          rw [List.length_drop]
          exact Nat.sub_le _ _
        · obtain ⟨_, read, ⟨⟩⟩ := Option.map_eq_some_iff.1 h
          exact length_le_of_classItem? read

/-- A step leaves no more text than there is. -/
theorem length_le_of_step {state next : State} {char : Char} {text rest : List Char}
    (h : state.step char text = some (next, rest)) : rest.length ≤ text.length := by
  unfold step at h
  split at h
  · exact length_le_of_stepOutside h
  · exact length_le_of_stepInside h

/-! ### Reading on to the end -/

/-- Whether a text ends a pattern from a state on. -/
def accepts (state : State) (text : List Char) : Bool :=
  match _skipped : state.scope.skip text with
  | [] => state.isComplete
  | char :: left =>
      match _stepped : state.step char left with
      | none => false
      | some (next, rest) => next.accepts rest
termination_by text.length
decreasing_by
  have hskip := length_skip_le state.scope text
  have hstep := length_le_of_step _stepped
  rw [_skipped, List.length_cons] at hskip
  omega

end State

/-- Whether a text is a pattern. -/
def isWellFormed (text : List Char) : Bool := State.start.accepts text

example : isWellFormed ['a', '(', 'b', '|', ')', '*'] = true := by decide +kernel

example : isWellFormed ['a', '|', '*'] = false := by decide +kernel

example : isWellFormed ['[', ']', '-', 'a', ']'] = true := by decide +kernel

end CompactAdjacency.Text.Pattern
