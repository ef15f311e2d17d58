import Mathlib
import CompactAdjacency.Graph
import CompactAdjacency.Proofs.Outcomes
import CompactAdjacency.Proofs.Text.Numerals

/-!
# The grammar of graphs in text

A line that is not blank denotes a node and its arcs, `DenotesLine`: its first field denotes the
node, and every further field that is not blank an arc. It is read as what it denotes,
`readLine_eq_ok_iff`. A line that denotes nothing has a first piece that is no number of its kind,
and is refused with this piece, `readLine_eq_error_iff`.
-/

namespace CompactAdjacency

/-! ## The first element that fails -/

/-- An element of a list fails, and all of those before it pass. -/
def FirstFailing {α : Type} (passes : α → Prop) (items : List α) (item : α) : Prop :=
  ∃ before after, items = before ++ item :: after ∧ (∀ earlier ∈ before, passes earlier) ∧
    ¬ passes item

namespace FirstFailing

variable {α : Type} {passes : α → Prop} {items others : List α} {first item : α}

theorem not_nil : ¬ FirstFailing passes [] item := by
  rintro ⟨before, after, hsplit, -, -⟩
  simp at hsplit

theorem cons_iff :
    FirstFailing passes (first :: items) item ↔
      (¬ passes first ∧ item = first) ∨ (passes first ∧ FirstFailing passes items item) := by
  constructor
  · rintro ⟨before, after, hsplit, hbefore, hitem⟩
    cases before with
    | nil =>
        obtain rfl := (List.cons.inj hsplit).1
        exact .inl ⟨hitem, rfl⟩
    | cons earlier before =>
        obtain ⟨rfl, hrest⟩ := List.cons.inj hsplit
        obtain ⟨hfirst, hbefore⟩ := List.forall_mem_cons.mp hbefore
        exact .inr ⟨hfirst, before, after, hrest, hbefore, hitem⟩
  · rintro (⟨hfirst, rfl⟩ | ⟨hfirst, before, after, rfl, hbefore, hitem⟩)
    · exact ⟨[], items, rfl, by simp, hfirst⟩
    · exact ⟨first :: before, after, rfl, List.forall_mem_cons.mpr ⟨hfirst, hbefore⟩, hitem⟩

theorem append_iff :
    FirstFailing passes (items ++ others) item ↔
      FirstFailing passes items item ∨
        ((∀ item ∈ items, passes item) ∧ FirstFailing passes others item) := by
  induction items with
  | nil => simp [not_nil]
  | cons first items ih =>
      rw [List.cons_append, cons_iff, cons_iff, ih, List.forall_mem_cons]
      tauto

/-- Some element is the first that fails exactly if not all pass. -/
theorem exists_iff : (∃ item, FirstFailing passes items item) ↔ ¬ ∀ item ∈ items, passes item := by
  induction items with
  | nil => simp [not_nil]
  | cons first items ih =>
      simp only [cons_iff, exists_or, exists_and_left, exists_eq, and_true, ih,
        List.forall_mem_cons]
      tauto

end FirstFailing

namespace Graph

open Text

/-! ## What a line denotes -/

/-- A field denotes a successor, whose weight is behind the first colon if there is one. -/
inductive DenotesArc : List Char → Arc → Prop
  | plain {field : List Char} {target : UInt64} (hcolon : ':' ∉ field)
      (htarget : DenotesNumber (trim field) target.toNat) : DenotesArc field ⟨target, none⟩
  | weighted {before after : List Char} {target : UInt64} {weight : Binary64}
      (hcolon : ':' ∉ before) (htarget : DenotesNumber (trim before) target.toNat)
      (hweight : Binary64.ofText? (trim after) = some weight) :
      DenotesArc (before ++ ':' :: after) ⟨target, some weight⟩

/-- The texts that are not blank. -/
def written (texts : List (List Char)) : List (List Char) :=
  texts.filter fun text => !text.all isBlank

/-- A line denotes a node and its arcs. -/
inductive DenotesLine : List Char → Nat × List Arc → Prop
  | mk {line first : List Char} {fields : List (List Char)} {node : Nat} {arcs : List Arc}
      (hfields : splitOn '\t' line = first :: fields) (hnode : DenotesNumber (trim first) node)
      (hword : node < UInt64.size) (harcs : List.Forall₂ DenotesArc (written fields) arcs) :
      DenotesLine line (node, arcs)

/-! ## The pieces of a line -/

/-- A piece of a line that is read as a number. -/
inductive Piece where
  | id (text : List Char)
  | weight (text : List Char)
  deriving DecidableEq, Repr

/-- The piece as it stands. -/
def Piece.text : Piece → List Char
  | .id text => text
  | .weight text => text

/-- The piece denotes a number of its kind, blanks at its ends apart. -/
def Piece.IsSound : Piece → Prop
  | .id text => ∃ value : UInt64, DenotesNumber (trim text) value.toNat
  | .weight text => Binary64.IsNumeral (trim text)

/-- The pieces of the field of a successor. -/
def fieldPieces (field : List Char) : List Piece :=
  match splitOnce ':' field with
  | some (before, after) => [.id before, .weight after]
  | none => [.id field]

/-- The pieces of a line, in the order in which they are read. -/
def linePieces (line : List Char) : List Piece :=
  match splitOn '\t' line with
  | [] => []
  | first :: fields => .id first :: (written fields).flatMap fieldPieces

/-- The first of several pieces on a line that is no number of its kind makes a failure. -/
def RefusedFor (pieces : List Piece) (number : Nat) (failure : Failure) : Prop :=
  ∃ piece, FirstFailing Piece.IsSound pieces piece ∧
    failure = .malformedToken number (String.ofList piece.text)

section RefusedFor

variable {pieces others : List Piece} {number : Nat} {failure : Failure}

theorem not_refusedFor_nil : ¬ RefusedFor [] number failure := by
  rintro ⟨piece, hfirst, -⟩
  exact FirstFailing.not_nil hfirst

theorem refusedFor_cons {piece : Piece} :
    RefusedFor (piece :: pieces) number failure ↔
      (¬ piece.IsSound ∧ failure = .malformedToken number (String.ofList piece.text)) ∨
        (piece.IsSound ∧ RefusedFor pieces number failure) := by
  simp only [RefusedFor, FirstFailing.cons_iff, or_and_right, exists_or, and_assoc,
    exists_and_left, exists_eq_left]

theorem refusedFor_append :
    RefusedFor (pieces ++ others) number failure ↔
      RefusedFor pieces number failure ∨
        ((∀ piece ∈ pieces, piece.IsSound) ∧ RefusedFor others number failure) := by
  simp only [RefusedFor, FirstFailing.append_iff, or_and_right, exists_or, and_assoc,
    exists_and_left]

theorem exists_refusedFor_iff (number : Nat) :
    (∃ failure, RefusedFor pieces number failure) ↔ ¬ ∀ piece ∈ pieces, piece.IsSound := by
  rw [← FirstFailing.exists_iff]
  constructor
  · rintro ⟨failure, piece, hfirst, -⟩
    exact ⟨piece, hfirst⟩
  · rintro ⟨piece, hfirst⟩
    exact ⟨_, piece, hfirst, rfl⟩

end RefusedFor

/-! ## Reading a piece -/

variable {number : Nat} {piece field line : List Char}

theorem readPiece_eq_ok_iff {α : Type} {read : List Char → Option α} {value : α} :
    readPiece read number piece = .ok value ↔ read (trim piece) = some value := by
  unfold readPiece
  cases read (trim piece) <;> simp

theorem readPiece_eq_error_iff {α : Type} {read : List Char → Option α} {failure : Failure} :
    readPiece read number piece = .error failure ↔
      ¬ (read (trim piece)).isSome = true ∧
        failure = .malformedToken number (String.ofList piece) := by
  unfold readPiece
  cases read (trim piece) <;> simp [eq_comm]

/-! ## Reading a field -/

theorem read?_eq (text : List Char) :
    IdType.read? (.unsigned 64) text = (word? text).map fun value => (value.toNat : Int) := by
  rw [word?, Option.map_map]
  refine Option.map_congr ?_
  intro value hread
  rw [Function.comp_apply, toNat_of_unsigned? hread]
  rfl

theorem readPiece_id :
    readPiece (IdType.read? (.unsigned 64)) number piece =
      (readPiece word? number piece).map fun value => (value.toNat : Int) := by
  unfold readPiece
  rw [read?_eq]
  cases word? (trim piece) <;> rfl

theorem readArc_of_no_colon (hcut : splitOnce ':' field = none) :
    readArc (.unsigned 64) number field =
      (readPiece word? number field).map fun target => ⟨target, none⟩ := by
  simp only [readArc, hcut, readPiece_id]
  cases readPiece word? number field with
  | error failure => rfl
  | ok target => simp [Except.map, bind, Except.bind, pure, Except.pure]

theorem readArc_of_colon {before after : List Char}
    (hcut : splitOnce ':' field = some (before, after)) :
    readArc (.unsigned 64) number field =
      readPiece word? number before >>= fun target =>
        (readPiece Binary64.ofText? number after).map fun weight => ⟨target, some weight⟩ := by
  simp only [readArc, hcut, readPiece_id]
  cases readPiece word? number before with
  | error failure => rfl
  | ok target =>
      cases readPiece Binary64.ofText? number after with
      | error failure => rfl
      | ok weight => simp [Except.map, bind, Except.bind, pure, Except.pure]

/-- A field is read as the successor it denotes. -/
theorem readArc_eq_ok_iff {arc : Arc} :
    readArc (.unsigned 64) number field = .ok arc ↔ DenotesArc field arc := by
  cases hcut : splitOnce ':' field with
  | none =>
      have hcolon := splitOnce_eq_none_iff.mp hcut
      simp only [readArc_of_no_colon hcut, map_eq_ok_iff, readPiece_eq_ok_iff, word?_eq_some_iff]
      constructor
      · rintro ⟨target, htarget, rfl⟩
        exact .plain hcolon htarget
      · intro hdenotes
        cases hdenotes with
        | plain _ htarget => exact ⟨_, htarget, rfl⟩
        | weighted => simp at hcolon
  | some pieces =>
      obtain ⟨before, after⟩ := pieces
      obtain ⟨hfield, hcolon⟩ := splitOnce_eq_some_iff.mp hcut
      rw [readArc_of_colon hcut]
      simp only [bind_eq_ok_iff, map_eq_ok_iff, readPiece_eq_ok_iff, word?_eq_some_iff]
      constructor
      · rintro ⟨target, htarget, weight, hweight, rfl⟩
        rw [hfield]
        exact .weighted hcolon htarget hweight
      · intro hdenotes
        cases hdenotes with
        | plain hnone _ => simp [hfield] at hnone
        | weighted hother htarget hweight =>
            rw [splitOnce_eq_some_iff.mpr ⟨rfl, hother⟩] at hcut
            obtain ⟨rfl, rfl⟩ := Prod.mk.inj (Option.some.inj hcut)
            exact ⟨_, htarget, _, hweight, rfl⟩

/-- A field is refused with its first piece that is no number of its kind. -/
theorem readArc_eq_error_iff {failure : Failure} :
    readArc (.unsigned 64) number field = .error failure ↔
      RefusedFor (fieldPieces field) number failure := by
  cases hcut : splitOnce ':' field with
  | none =>
      rw [readArc_of_no_colon hcut, map_eq_error_iff, readPiece_eq_error_iff, isSome_word?]
      simp only [fieldPieces, hcut, refusedFor_cons, not_refusedFor_nil, and_false, or_false]
      rfl
  | some pieces =>
      obtain ⟨before, after⟩ := pieces
      rw [readArc_of_colon hcut]
      simp only [bind_eq_error_iff, map_eq_error_iff, readPiece_eq_error_iff, readPiece_eq_ok_iff,
        word?_eq_some_iff, isSome_word?, Binary64.isSome_ofText?, exists_and_right]
      simp only [fieldPieces, hcut, refusedFor_cons, not_refusedFor_nil, and_false, or_false]
      rfl

/-- A field denotes a successor exactly if its pieces are numbers of their kinds. -/
theorem exists_denotesArc_iff :
    (∃ arc, DenotesArc field arc) ↔ ∀ piece ∈ fieldPieces field, piece.IsSound := by
  rw [← not_iff_not, ← exists_refusedFor_iff 0]
  simp only [← @readArc_eq_ok_iff 0, ← readArc_eq_error_iff]
  cases readArc (.unsigned 64) 0 field <;> simp

/-! ## Reading a line -/

theorem mapM_readArc_eq_ok_iff {fields : List (List Char)} {arcs : List Arc} :
    fields.mapM (readArc (.unsigned 64) number) = .ok arcs ↔
      List.Forall₂ DenotesArc fields arcs := by
  induction fields generalizing arcs with
  | nil => simp [pure, Except.pure, eq_comm]
  | cons field fields ih =>
      simp only [List.mapM_cons, bind_eq_ok_iff, pure_eq_ok_iff, readArc_eq_ok_iff, ih]
      constructor
      · rintro ⟨arc, harc, arcs, harcs, rfl⟩
        exact .cons harc harcs
      · rintro (- | ⟨harc, harcs⟩)
        exact ⟨_, harc, _, harcs, rfl⟩

theorem mapM_readArc_eq_error_iff {fields : List (List Char)} {failure : Failure} :
    fields.mapM (readArc (.unsigned 64) number) = .error failure ↔
      RefusedFor (fields.flatMap fieldPieces) number failure := by
  induction fields with
  | nil => simp [pure, Except.pure, not_refusedFor_nil]
  | cons field fields ih =>
      simp only [List.mapM_cons, bind_eq_error_iff, readArc_eq_error_iff, readArc_eq_ok_iff, ih,
        List.flatMap_cons, refusedFor_append, ← exists_denotesArc_iff]
      simp [pure, Except.pure]

/-- The fields that are not blank are those of which trimming leaves something. -/
theorem filter_trim (texts : List (List Char)) :
    (texts.filter fun text => !(trim text).isEmpty) = written texts := by
  simp only [written, isEmpty_trim]

theorem exists_splitOn (line : List Char) :
    ∃ first fields, splitOn '\t' line = first :: fields := by
  rw [splitOn_eq]
  exact List.exists_cons_of_ne_nil (List.splitOn_ne_nil '\t' line)

/-- A line is read as what it denotes. -/
theorem readLine_eq_ok_iff {said : Nat × List Arc} :
    readLine (.unsigned 64) number line = .ok said ↔ DenotesLine line said := by
  obtain ⟨first, fields, hfields⟩ := exists_splitOn line
  simp only [readLine, hfields, filter_trim, bind_eq_ok_iff, pure_eq_ok_iff, readPiece_eq_ok_iff,
    mapM_readArc_eq_ok_iff, unsigned?_eq_some_iff]
  constructor
  · rintro ⟨node, ⟨hnode, hword⟩, arcs, harcs, rfl⟩
    exact .mk hfields hnode (Nat.lt_of_le_pred (by decide) hword) harcs
  · rintro ⟨hother, hnode, hword, harcs⟩
    obtain ⟨rfl, rfl⟩ := List.cons.inj (hfields.symm.trans hother)
    exact ⟨_, ⟨hnode, Nat.le_sub_one_of_lt hword⟩, _, harcs, rfl⟩

/-- A line is refused with its first piece that is no number of its kind. -/
theorem readLine_eq_error_iff {failure : Failure} :
    readLine (.unsigned 64) number line = .error failure ↔
      RefusedFor (linePieces line) number failure := by
  obtain ⟨first, fields, hfields⟩ := exists_splitOn line
  have hsome : (unsigned? (UInt64.size - 1) (trim first)).isSome = true ↔
      Piece.IsSound (.id first) := by
    rw [Piece.IsSound, ← isSome_word?, word?, Option.isSome_map]
  have hread : ∀ node arcs, (pure (node, arcs) : Except Failure (Nat × List Arc)) ≠
      .error failure := by
    simp [pure, Except.pure]
  simp only [readLine, hfields, filter_trim, bind_eq_error_iff, readPiece_eq_error_iff,
    readPiece_eq_ok_iff, mapM_readArc_eq_error_iff, hread, and_false, exists_false, or_false,
    exists_and_right]
  rw [← Option.isSome_iff_exists, hsome, linePieces, hfields, refusedFor_cons]
  rfl

/-- A line denotes something exactly if its pieces are numbers of their kinds. -/
theorem exists_denotesLine_iff :
    (∃ said, DenotesLine line said) ↔ ∀ piece ∈ linePieces line, piece.IsSound := by
  rw [← not_iff_not, ← exists_refusedFor_iff 0]
  simp only [← @readLine_eq_ok_iff 0, ← readLine_eq_error_iff]
  cases readLine (.unsigned 64) 0 line <;> simp

/-! ## Reading a text -/

/-- Memory has room for the rows of all nodes up to a node. -/
def FitsRow (node : Nat) : Prop := (node + 1) * listSize < allocationLimit

/-- A line is blank, or denotes a node that memory has room for and its arcs. -/
def Accepts (line : List Char) : Prop :=
  line.all isBlank = true ∨ ∃ node arcs, DenotesLine line (node, arcs) ∧ FitsRow node

/-- What a line makes of a text if it is not accepted: a failure by its first piece that is no
number of its kind, or a fault if it denotes a node that memory has no room for. -/
def RefusesLine (numbered : List Char × Nat) (failure : Failure) : Prop :=
  RefusedFor (linePieces numbered.1) numbered.2 failure ∨
    (∃ said, DenotesLine numbered.1 said) ∧ failure = .fault .outOfBounds

/-- The first of the lines, numbered from one, that is not accepted makes a failure. -/
def Refuses (text : List Char) (failure : Failure) : Prop :=
  ∃ numbered, FirstFailing (fun numbered => Accepts numbered.1) ((Text.lines text).zipIdx 1)
    numbered ∧ RefusesLine numbered failure

theorem DenotesLine.unique {said other : Nat × List Arc} (h : DenotesLine line said)
    (hother : DenotesLine line other) : said = other := by
  rw [← @readLine_eq_ok_iff 0] at h hother
  exact Except.ok.inj (h.symm.trans hother)

theorem RefusedFor.not_denotesLine {failure : Failure}
    (h : RefusedFor (linePieces line) number failure) : ¬ ∃ said, DenotesLine line said := by
  rw [exists_denotesLine_iff, ← exists_refusedFor_iff number]
  exact ⟨failure, h⟩

variable {graph after : Graph}

theorem addLine_eq_ok_iff {node : Nat} {arcs : List Arc} :
    graph.addLine node arcs = .ok after ↔
      FitsRow node ∧
        after = ⟨arcs.foldl (fun count arc => max count (arc.target.toNat + 1))
          (max graph.nodeCount (node + 1)), graph.lines ++ [(node, arcs)]⟩ := by
  unfold addLine FitsRow
  split
  case isTrue hfull => simp [Nat.not_lt.mpr hfull]
  case isFalse hroom => simp [Nat.not_le.mp hroom, eq_comm]

theorem addLine_eq_error_iff {node : Nat} {arcs : List Arc} {failure : Failure} :
    graph.addLine node arcs = .error failure ↔
      ¬ FitsRow node ∧ failure = .fault .outOfBounds := by
  unfold addLine FitsRow
  split
  case isTrue hfull => simp [Nat.not_lt.mpr hfull, eq_comm]
  case isFalse hroom => simp [Nat.not_le.mp hroom]

/-- Adds a line of a number to a graph, unless it is blank. -/
def addNumbered (graph : Graph) (numbered : List Char × Nat) : Except Failure Graph :=
  if (trim numbered.1).isEmpty then .ok graph
  else readLine (.unsigned 64) numbered.2 numbered.1 >>= fun said => graph.addLine said.1 said.2

theorem addText_eq (graph : Graph) (text : List Char) :
    addText (.unsigned 64) graph text = ((Text.lines text).zipIdx 1).foldlM addNumbered graph := rfl

theorem addNumbered_of_blank {numbered : List Char × Nat}
    (hblank : numbered.1.all isBlank = true) : addNumbered graph numbered = .ok graph := by
  rw [addNumbered, isEmpty_trim, if_pos hblank]

theorem addNumbered_eq_ok_iff {numbered : List Char × Nat}
    (hblank : ¬ numbered.1.all isBlank = true) :
    addNumbered graph numbered = .ok after ↔
      ∃ node arcs, DenotesLine numbered.1 (node, arcs) ∧ graph.addLine node arcs = .ok after := by
  rw [addNumbered, isEmpty_trim, if_neg hblank, bind_eq_ok_iff]
  simp only [readLine_eq_ok_iff, Prod.exists]

theorem exists_addNumbered_iff (graph : Graph) {numbered : List Char × Nat} :
    (∃ after, addNumbered graph numbered = .ok after) ↔ Accepts numbered.1 := by
  unfold Accepts
  by_cases hblank : numbered.1.all isBlank = true
  · simp [addNumbered_of_blank hblank, hblank]
  · simp [addNumbered_eq_ok_iff hblank, addLine_eq_ok_iff, hblank]

theorem addNumbered_eq_error_iff {numbered : List Char × Nat} {failure : Failure} :
    addNumbered graph numbered = .error failure ↔
      ¬ Accepts numbered.1 ∧ RefusesLine numbered failure := by
  by_cases hblank : numbered.1.all isBlank = true
  · simp [addNumbered_of_blank hblank, Accepts, hblank]
  rw [addNumbered, isEmpty_trim, if_neg hblank, bind_eq_error_iff]
  simp only [readLine_eq_error_iff, readLine_eq_ok_iff, addLine_eq_error_iff]
  constructor
  · rintro (hrefused | ⟨said, hsaid, hroom, rfl⟩)
    · refine ⟨?_, .inl hrefused⟩
      rintro (h | ⟨node, arcs, hdenotes, -⟩)
      · exact hblank h
      · exact hrefused.not_denotesLine ⟨_, hdenotes⟩
    · refine ⟨?_, .inr ⟨⟨said, hsaid⟩, rfl⟩⟩
      rintro (h | ⟨node, arcs, hdenotes, hfits⟩)
      · exact hblank h
      · obtain rfl := hsaid.unique hdenotes
        exact hroom hfits
  · rintro ⟨haccepts, hrefused | ⟨⟨said, hsaid⟩, rfl⟩⟩
    · exact .inl hrefused
    · exact .inr ⟨said, hsaid, fun hfits => haccepts (.inr ⟨said.1, said.2, hsaid, hfits⟩), rfl⟩

/-- Lines are added exactly if all of them are accepted. -/
theorem exists_foldlM_addNumbered_iff {numbereds : List (List Char × Nat)} :
    (∃ after, numbereds.foldlM addNumbered graph = .ok after) ↔
      ∀ numbered ∈ numbereds, Accepts numbered.1 := by
  induction numbereds generalizing graph with
  | nil => simp [pure, Except.pure]
  | cons numbered numbereds ih =>
      rw [List.forall_mem_cons, ← exists_addNumbered_iff graph]
      simp only [List.foldlM_cons, bind_eq_ok_iff]
      constructor
      · rintro ⟨after, next, hnext, hafter⟩
        exact ⟨⟨next, hnext⟩, ih.mp ⟨after, hafter⟩⟩
      · rintro ⟨⟨next, hnext⟩, hall⟩
        obtain ⟨after, hafter⟩ := ih.mpr hall
        exact ⟨after, next, hnext, hafter⟩

/-- The first of several lines that is not accepted makes the failure. -/
theorem foldlM_addNumbered_eq_error_iff {numbereds : List (List Char × Nat)} {failure : Failure} :
    numbereds.foldlM addNumbered graph = .error failure ↔
      ∃ numbered, FirstFailing (fun numbered => Accepts numbered.1) numbereds numbered ∧
        RefusesLine numbered failure := by
  induction numbereds generalizing graph with
  | nil => simp [pure, Except.pure, FirstFailing.not_nil]
  | cons first numbereds ih =>
      rw [List.foldlM_cons, bind_eq_error_iff]
      simp only [ih, exists_and_right, exists_addNumbered_iff, addNumbered_eq_error_iff,
        FirstFailing.cons_iff, or_and_right, exists_or, and_assoc, exists_and_left, exists_eq_left]

/-- A text is read exactly if all of its lines are accepted. -/
theorem exists_addText_iff {text : List Char} :
    (∃ after, addText (.unsigned 64) graph text = .ok after) ↔
      ∀ line ∈ Text.lines text, Accepts line := by
  rw [addText_eq, exists_foldlM_addNumbered_iff, ← List.forall_mem_map (f := Prod.fst),
    List.zipIdx_map_fst]

/-- A text is refused with the failure that its first line makes that is not accepted. -/
theorem addText_eq_error_iff {text : List Char} {failure : Failure} :
    addText (.unsigned 64) graph text = .error failure ↔ Refuses text failure := by
  rw [addText_eq, foldlM_addNumbered_eq_error_iff, Refuses]

/-- Lines are added as what the ones that are not blank denote. -/
theorem forall₂_of_foldlM_addNumbered {numbereds : List (List Char × Nat)}
    (hread : numbereds.foldlM addNumbered graph = .ok after) :
    ∃ said, List.Forall₂ DenotesLine (written (numbereds.map Prod.fst)) said ∧
      after.lines = graph.lines ++ said := by
  induction numbereds generalizing graph with
  | nil =>
      obtain rfl := pure_eq_ok_iff.mp hread
      exact ⟨[], .nil, (List.append_nil _).symm⟩
  | cons numbered numbereds ih =>
      rw [List.foldlM_cons, bind_eq_ok_iff] at hread
      obtain ⟨next, hnext, hrest⟩ := hread
      obtain ⟨said, hsaid, hlines⟩ := ih hrest
      by_cases hblank : numbered.1.all isBlank = true
      · obtain rfl := Except.ok.inj ((addNumbered_of_blank hblank).symm.trans hnext)
        refine ⟨said, ?_, hlines⟩
        rwa [List.map_cons, written, List.filter_cons_of_neg (by simpa using hblank)]
      · obtain ⟨node, arcs, hdenotes, hadd⟩ := (addNumbered_eq_ok_iff hblank).mp hnext
        obtain ⟨-, rfl⟩ := addLine_eq_ok_iff.mp hadd
        refine ⟨(node, arcs) :: said, ?_, by simp [hlines]⟩
        rw [List.map_cons, written, List.filter_cons_of_pos (by simpa using hblank)]
        exact .cons hdenotes hsaid

/-- A graph that was read from a text has what the lines of the text denote that are not blank. -/
theorem forall₂_lines_of_addText {text : List Char}
    (hread : addText (.unsigned 64) .empty text = .ok after) :
    List.Forall₂ DenotesLine (written (Text.lines text)) after.lines := by
  obtain ⟨said, hsaid, hlines⟩ := forall₂_of_foldlM_addNumbered hread
  rw [List.zipIdx_map_fst] at hsaid
  rwa [hlines]

end Graph

end CompactAdjacency
