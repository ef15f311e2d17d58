import Mathlib
import CompactAdjacency.Config.PropertyFile
import CompactAdjacency.Proofs.Text.Pieces

/-!
# Property files of plain lines

A `PropertyLine` is a comment, or a key and its value, without anything that a property file gives
a meaning: no escapes, no other separators in keys, no blanks in front of values. `Reads` is what is
documented of readers of such files: comments are passed over, a key ends at the first separator,
and of two values for one key the later one counts. `parse_reads` shows it of `PropertyFile.parse`.
-/

namespace CompactAdjacency.PropertyFile

/-! ## Plain lines -/

/-- A character that stands for itself everywhere in a property file but in keys. -/
def IsPlain (char : Char) : Prop := (char = ' ' ∨ Text.IsVisible char) ∧ char ≠ '\\'

/-- A line of a property file. -/
inductive PropertyLine where
  | comment (text : List Char)
  | entry (key value : List Char)

namespace PropertyLine

/-- The characters of a line. -/
def chars : PropertyLine → List Char
  | comment text => '#' :: text
  | entry key value => key ++ '=' :: value

/-- The key and the value that a line gives. -/
def given : PropertyLine → Option (String × String)
  | comment _ => none
  | entry key value => some (String.ofList key, String.ofList value)

/-- Whether all of a line stands for itself. -/
inductive Plain : PropertyLine → Prop
  | comment (text : List Char) (htext : ∀ char ∈ text, IsPlain char) : Plain (comment text)
  | entry (key value : List Char) (hkey : ∀ char ∈ key, IsPlain char ∧ char ∉ [' ', '=', ':'])
      (hfirst : ∃ first rest, key = first :: rest ∧ first ≠ '#' ∧ first ≠ '!')
      (hvalue : ∀ char ∈ value, IsPlain char) (hblank : ∀ rest, value ≠ ' ' :: rest) :
      Plain (entry key value)

end PropertyLine

/-- The text of a file, each of whose lines is ended by a line feed. -/
def fileText (lines : List PropertyLine) : List Char :=
  lines.flatMap fun line => line.chars ++ ['\n']

/-- Keys and values are read from plain lines as they are given, passing over comments. -/
def Reads (read : Bytes → Except Failure Config.Table) : Prop :=
  ∀ lines : List PropertyLine, (∀ line ∈ lines, line.Plain) →
    ∃ table, read (String.ofList (fileText lines)).toUTF8.data.toList = .ok table ∧
      ∀ key, table.value? key = Config.Table.value? (lines.filterMap PropertyLine.given) key

/-! ## Characters -/

namespace IsPlain

variable {char : Char}

theorem isAscii (h : IsPlain char) : char.toNat < 0x80 := by
  rcases h.1 with rfl | ⟨-, hgreatest⟩
  · decide
  · omega

theorem ne_of_lt (h : IsPlain char) {control : Char} (hcontrol : control.toNat < 0x20) :
    char ≠ control := by
  rintro rfl
  rcases h.1 with rfl | ⟨hleast, -⟩
  · exact absurd hcontrol (by decide)
  · omega

/-- Of the plain characters, only a space is a gap. -/
theorem not_isGap (h : IsPlain char) (hspace : char ≠ ' ') : isGap char = false := by
  simp [isGap, hspace, h.ne_of_lt]

end IsPlain

/-- A plain line consists of plain characters. -/
theorem PropertyLine.Plain.isPlain {line : PropertyLine} (h : line.Plain) :
    ∀ char ∈ line.chars, IsPlain char := by
  intro char hchar
  cases h with
  | comment text htext =>
      rcases List.mem_cons.mp hchar with rfl | hmem
      · exact ⟨.inr (by decide), by decide⟩
      · exact htext char hmem
  | entry key value hkey hfirst hvalue hblank =>
      rcases List.mem_append.mp hchar with hmem | hmem
      · exact (hkey char hmem).1
      · rcases List.mem_cons.mp hmem with rfl | hmem
        · exact ⟨.inr (by decide), by decide⟩
        · exact hvalue char hmem

/-! ## Lines -/

/-- Without carriage returns, lines are cut at line feeds. -/
theorem naturalLines_eq {text : List Char} (h : '\r' ∉ text) :
    naturalLines text = text.splitOn '\n' := by
  induction text with
  | nil => rfl
  | cons char text ih =>
      have hreturn : char ≠ '\r' := fun hequal => h (hequal ▸ List.mem_cons_self)
      have hrest := ih fun hmem => h (List.mem_cons_of_mem char hmem)
      rw [List.splitOn_cons_eq_if_modifyHead, ← hrest]
      obtain ⟨line, lines, hlines⟩ : ∃ line lines, naturalLines text = line :: lines := by
        rw [hrest]
        exact List.exists_cons_of_ne_nil (List.splitOn_ne_nil '\n' text)
      by_cases hfeed : char = '\n'
      · simp [naturalLines, hfeed]
      · simp [naturalLines, hfeed, hreturn, hlines]

/-- A text without backslashes continues nowhere. -/
theorem continues_of_notMem {line : List Char} (h : '\\' ∉ line) : continues line = false := by
  have hnone : line.reverse.takeWhile (· = '\\') = [] := by
    refine List.takeWhile_eq_nil_iff.mpr ?_
    intro hpos hequal
    refine h ?_
    rw [← of_decide_eq_true hequal]
    exact List.mem_reverse.mp (List.getElem_mem hpos)
  rw [continues, hnone]
  rfl

/-- Lines that do not continue are logical lines. -/
theorem logicalLines_eq {lines : List (List Char × Nat)}
    (h : ∀ line ∈ lines, continues line.1 = false) :
    logicalLines none lines = lines.map Prod.swap := by
  induction lines with
  | nil => rfl
  | cons line lines ih =>
      obtain ⟨text, number⟩ := line
      have hline := h (text, number) List.mem_cons_self
      simp only at hline
      rw [logicalLines, ih fun other hother => h other (List.mem_cons_of_mem _ hother)]
      simp [hline]

/-- A text without backslashes has no escapes. -/
theorem unescape_of_notMem {text : List Char} (h : '\\' ∉ text) (number : Nat) :
    unescape number text = .ok text := by
  induction text with
  | nil => rfl
  | cons char text ih =>
      have hchar : char ≠ '\\' := fun hequal => h (hequal ▸ List.mem_cons_self)
      have hrest := ih fun hmem => h (List.mem_cons_of_mem char hmem)
      simp [unescape, hchar, hrest, Except.map]

/-- A key reaches to the separator, and the value starts behind it. -/
theorem splitKey_append {key : List Char}
    (hkey : ∀ char ∈ key, IsPlain char ∧ char ∉ [' ', '=', ':']) (value : List Char) :
    splitKey (key ++ '=' :: value) = (key, '=' :: value) := by
  induction key with
  | nil => simp [splitKey]
  | cons char key ih =>
      obtain ⟨hplain, hseparator⟩ := hkey char List.mem_cons_self
      simp only [List.mem_cons, List.not_mem_nil, or_false, not_or] at hseparator
      obtain ⟨hspace, hequals, hcolon⟩ := hseparator
      have hrest := ih fun other hother => hkey other (List.mem_cons_of_mem char hother)
      simp [splitKey, hplain.2, hplain.not_isGap hspace, hequals, hcolon, hrest]

/-- Of plain texts, only those with a space in front have gaps there. -/
theorem dropWhile_isGap {text : List Char} (hplain : ∀ char ∈ text, IsPlain char)
    (hblank : ∀ rest, text ≠ ' ' :: rest) : text.dropWhile isGap = text := by
  cases text with
  | nil => rfl
  | cons char text =>
      have hspace : char ≠ ' ' := fun hequal => hblank text (hequal ▸ rfl)
      rw [List.dropWhile_cons_of_neg]
      simp [(hplain char List.mem_cons_self).not_isGap hspace]

/-- The text of a comment is a part of its line. -/
theorem mem_of_mem_commentText {line : List Char} {char : Char} (h : char ∈ commentText line) :
    char ∈ line := by
  have htrimmed := (List.dropWhile_suffix isGap).subset (List.mem_reverse.mp h)
  have htext := (List.dropWhile_suffix isGap).subset (List.mem_reverse.mp htrimmed)
  exact (List.dropWhile_suffix isGap).subset (List.mem_of_mem_drop htext)

/-- Plain characters are no backslashes. -/
theorem backslash_notMem {text : List Char} (h : ∀ char ∈ text, IsPlain char) : '\\' ∉ text :=
  fun hmem => (h '\\' hmem).2 rfl

/-- A plain line is read as what it gives. -/
theorem read_chars {line : PropertyLine} (h : line.Plain) (number : Nat) :
    entry? number line.chars = .ok line.given := by
  cases h with
  | comment text htext =>
      have hcomment : isComment ('#' :: text) = true := by
        simp [isComment, isGap]
      have hescape : '\\' ∉ commentText ('#' :: text) := by
        intro hmem
        rcases List.mem_cons.mp (mem_of_mem_commentText hmem) with hequal | hmem
        · exact absurd hequal (by decide)
        · exact backslash_notMem htext hmem
      unfold entry?
      rw [PropertyLine.chars, if_pos hcomment, unescape_of_notMem hescape]
      rfl
  | entry key value hkey hfirst hvalue hblank =>
      obtain ⟨first, rest, rfl, hnumber, hexclamation⟩ := hfirst
      obtain ⟨hplain, hseparator⟩ := hkey first List.mem_cons_self
      simp only [List.mem_cons, List.not_mem_nil, or_false, not_or] at hseparator
      have hgap := hplain.not_isGap hseparator.1
      have hfront : (first :: rest ++ '=' :: value).dropWhile isGap =
          first :: rest ++ '=' :: value := by
        rw [List.cons_append, List.dropWhile_cons_of_neg (by simp [hgap])]
      have hcomment : isComment (first :: rest ++ '=' :: value) = false := by
        rw [isComment, hfront]
        simp [hnumber, hexclamation]
      have hvalue' : dropSeparator ('=' :: value) = value := by
        rw [dropSeparator, List.dropWhile_cons_of_neg (by decide)]
        exact dropWhile_isGap hvalue hblank
      unfold entry?
      rw [PropertyLine.chars, hcomment, hfront, splitKey_append hkey]
      simp only [Bool.false_eq_true, if_false, List.isEmpty_cons, Bool.and_self, hvalue',
        unescape_of_notMem (backslash_notMem fun char hchar => (hkey char hchar).1),
        unescape_of_notMem (backslash_notMem hvalue)]
      rfl

/-! ## Files -/

/-- The natural lines of a text of plain lines are these lines, and an empty one behind the last
line feed. -/
theorem naturalLines_fileText {lines : List PropertyLine} (h : ∀ line ∈ lines, line.Plain) :
    naturalLines (fileText lines) = lines.map PropertyLine.chars ++ [[]] := by
  have hcontrol : ∀ line ∈ lines, ∀ char ∈ line.chars, ∀ control : Char, control.toNat < 0x20 →
      char ≠ control :=
    fun line hline char hchar control => ((h line hline).isPlain char hchar).ne_of_lt
  rw [naturalLines_eq]
  · induction lines with
    | nil => rfl
    | cons line lines ih =>
        have hfeed : '\n' ∉ line.chars :=
          fun hmem => hcontrol line List.mem_cons_self '\n' hmem '\n' (by decide) rfl
        have hrest := ih (fun other hother => h other (List.mem_cons_of_mem line hother))
          (fun other hother => hcontrol other (List.mem_cons_of_mem line hother))
        rw [fileText, List.flatMap_cons, List.append_assoc, List.singleton_append, ← fileText,
          List.splitOn_append_cons_self_of_not_mem hfeed, hrest]
        rfl
  · intro hreturn
    obtain ⟨line, hline, hmem⟩ := List.mem_flatMap.mp hreturn
    rcases List.mem_append.mp hmem with hchar | hfeed
    · exact hcontrol line hline '\r' hchar '\r' (by decide) rfl
    · exact absurd (List.mem_singleton.mp hfeed) (by decide)

/-- Plain lines are read one by one, and the empty line behind them gives nothing. -/
theorem mapM_chars {lines : List PropertyLine} (h : ∀ line ∈ lines, line.Plain) (number : Nat) :
    (((lines.map PropertyLine.chars ++ [[]]).zipIdx number).map Prod.swap).mapM
        (fun line : Nat × List Char => entry? line.1 line.2) =
      .ok (lines.map PropertyLine.given ++ [none]) := by
  induction lines generalizing number with
  | nil => rfl
  | cons line lines ih =>
      have hothers := ih (fun other hother => h other (List.mem_cons_of_mem line hother))
        (number + 1)
      rw [List.map_cons, List.cons_append, List.zipIdx_cons, List.map_cons, List.mapM_cons,
        Prod.swap_prod_mk, read_chars (h line List.mem_cons_self), hothers]
      rfl

/-- Plain lines hold the table of what they give. -/
theorem ofLines_eq {lines : List PropertyLine} (h : ∀ line ∈ lines, line.Plain) :
    ofLines (lines.map PropertyLine.chars ++ [[]]) = .ok (lines.filterMap PropertyLine.given) := by
  have hcontinues : ∀ line ∈ (lines.map PropertyLine.chars ++ [[]]).zipIdx 1,
      continues line.1 = false := by
    intro line hline
    refine continues_of_notMem ?_
    rcases List.mem_append.mp (List.fst_mem_of_mem_zipIdx hline) with hmem | hempty
    · obtain ⟨plain, hplain, hchars⟩ := List.mem_map.mp hmem
      rw [← hchars]
      exact backslash_notMem (h plain hplain).isPlain
    · rw [List.mem_singleton.mp hempty]
      exact List.not_mem_nil
  rw [ofLines, logicalLines_eq hcontinues, mapM_chars h]
  simp [Except.map, List.filterMap_append, List.filterMap_map]

/-- The reader of property files reads plain lines as they are documented. -/
theorem parse_reads : Reads parse := by
  intro lines h
  have hascii : ∀ char ∈ fileText lines, char.toNat < 0x80 := by
    intro char hchar
    obtain ⟨line, hline, hmem⟩ := List.mem_flatMap.mp hchar
    rcases List.mem_append.mp hmem with hplain | hfeed
    · exact ((h line hline).isPlain char hplain).isAscii
    · rw [List.mem_singleton.mp hfeed]
      decide
  refine ⟨lines.filterMap PropertyLine.given, ?_, fun key => rfl⟩
  simp only [parse, Text.decode_toUTF8 hascii, Bool.false_eq_true, if_false,
    naturalLines_fileText h, ofLines_eq h]

end CompactAdjacency.PropertyFile
