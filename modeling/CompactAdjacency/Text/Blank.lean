import CompactAdjacency.Text.CodeRange

/-!
# Blank characters and the pieces of a text

Blank characters are those with the Unicode property White_Space. `trim` drops them from both ends
of a text, `splitOn` cuts a text at every occurrence of a character, and `lines` cuts it into lines,
each ended by a line feed that a carriage return may precede.
-/

namespace CompactAdjacency.Text

/-- The blank code points. -/
def blankRanges : List CodeRange := [
  (0x9, 0xD), (0x20, 0x20), (0x85, 0x85), (0xA0, 0xA0), (0x1680, 0x1680), (0x2000, 0x200A),
  (0x2028, 0x2029), (0x202F, 0x202F), (0x205F, 0x205F), (0x3000, 0x3000)]

/-- Whether a character is blank. -/
def isBlank (char : Char) : Bool := CodeRange.anyContains blankRanges char

/-- The text without blank characters at its end. -/
def trimEnd (text : List Char) : List Char := (text.reverse.dropWhile isBlank).reverse

/-- The text without blank characters at either end. -/
def trim (text : List Char) : List Char := trimEnd (text.dropWhile isBlank)

/-- The pieces of a text between the occurrences of a character, one more than there are
occurrences. -/
def splitOn (separator : Char) : List Char → List (List Char)
  | [] => [[]]
  | char :: rest =>
      if char = separator then [] :: splitOn separator rest
      else
        match splitOn separator rest with
        | [] => [[char]]
        | piece :: pieces => (char :: piece) :: pieces

/-- The text before the first occurrence of a character and the text after it. -/
def splitOnce (separator : Char) : List Char → Option (List Char × List Char)
  | [] => none
  | char :: rest =>
      if char = separator then some ([], rest)
      else (splitOnce separator rest).map fun (before, after) => (char :: before, after)

/-- A line without the carriage return that its line feed follows. -/
def dropReturn (line : List Char) : List Char :=
  match line.reverse with
  | '\r' :: before => before.reverse
  | _ => line

/-- The lines of a text. The last one needs no line feed, and a carriage return is part of a line
that no line feed ends. -/
def lines (text : List Char) : List (List Char) :=
  let pieces := splitOn '\n' text
  pieces.dropLast.map dropReturn ++ pieces.getLast?.toList.filter (! ·.isEmpty)

end CompactAdjacency.Text
