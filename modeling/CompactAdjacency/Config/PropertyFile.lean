import CompactAdjacency.Config.Basic
import CompactAdjacency.Text.Decoding
import CompactAdjacency.Text.Hexadecimal

/-!
# Property files

A property file is a table of keys and values in a text. A logical line is a natural line
together with the lines that a backslash at its end joins to it; a comment starts with a number sign
or an exclamation mark and is never joined. A key ends at the first blank, equals sign or colon that
no backslash precedes, and the value after it is the rest of the logical line. In keys, values and
comments a backslash escapes the next character, and `\u` introduces four hexadecimal digits.
-/

namespace CompactAdjacency.PropertyFile

/-! ## Lines -/

/-- The natural lines of a text. A line feed, a carriage return, or the two in this order end a
line, and the last line needs no end. -/
def naturalLines : List Char → List (List Char)
  | [] => [[]]
  | '\r' :: '\n' :: rest => [] :: naturalLines rest
  | char :: rest =>
      if char = '\n' ∨ char = '\r' then [] :: naturalLines rest
      else
        match naturalLines rest with
        | [] => [[char]]
        | line :: lines => (char :: line) :: lines

/-- Whether a character separates a key from its value as a blank. -/
def isGap (char : Char) : Bool :=
  char = ' ' || char = '\t' || char = '\r' || char = '\n' || char = '\x0c'

/-- Whether a line is a comment. -/
def isComment (line : List Char) : Bool :=
  match line.dropWhile isGap with
  | char :: _ => char = '#' || char = '!'
  | [] => false

/-- Whether a line ends in a backslash that no other one escapes. -/
def continues (line : List Char) : Bool :=
  (line.reverse.takeWhile (· = '\\')).length % 2 = 1

/-- The logical lines of numbered natural lines, each with the number of its first natural line,
after the part of a logical line that `pending` holds. A logical line that is still to be continued
at the end of the file is dropped. -/
def logicalLines (pending : Option (Nat × List Char)) :
    List (List Char × Nat) → List (Nat × List Char)
  | [] => []
  | (line, number) :: rest =>
      match pending with
      | some (first, start) =>
          let joined := start ++ line.dropWhile Text.isBlank
          if continues joined then logicalLines (some (first, joined.dropLast)) rest
          else (first, joined) :: logicalLines none rest
      | none =>
          if !isComment line && continues line then
            logicalLines (some (number, line.dropLast)) rest
          else (number, line) :: logicalLines none rest

/-! ## Escapes -/

/-- The number that hexadecimal digits denote, with a plus in front if there is one. -/
def hexNumber? (text : List Char) : Option Nat :=
  (match text with | '+' :: rest => rest | _ => text).foldlM
    (fun value char => (Text.hexDigit? char).map (16 * value + ·)) 0

/-- The character of the code that four digits denote, on the line of a number. -/
def escapedCode (number : Nat) (digits : List Char) : Except ConfigCause Char :=
  match hexNumber? digits with
  | none => .error (.escapeNotHex number)
  | some code =>
      if code.isValidChar then .ok (Char.ofNat code) else .error (.escapeNoCharacter number)

/-- The character that a letter after a backslash stands for. -/
def escapedChar : Char → Char
  | 't' => '\t'
  | 'n' => '\n'
  | 'f' => '\x0c'
  | 'r' => '\r'
  | char => char

/-- The text with its escapes resolved, on the line of a number. A backslash with nothing after it
is a null character. -/
def unescape (number : Nat) : List Char → Except ConfigCause (List Char)
  | [] => .ok []
  | ['\\'] => .ok ['\x00']
  | '\\' :: 'u' :: a :: b :: c :: d :: rest => do
      let char ← escapedCode number [a, b, c, d]
      let others ← unescape number rest
      pure (char :: others)
  | '\\' :: 'u' :: _ => .error (.escapeTooShort number)
  | '\\' :: char :: rest => (unescape number rest).map (escapedChar char :: ·)
  | char :: rest => (unescape number rest).map (char :: ·)

/-! ## Entries -/

/-- The part of a line before the first separator, and the rest from the separator on. -/
def splitKey : List Char → List Char × List Char
  | [] => ([], [])
  | '\\' :: char :: rest =>
      let (key, rest) := splitKey rest
      ('\\' :: char :: key, rest)
  | char :: rest =>
      if isGap char || char = '=' || char = ':' then ([], char :: rest)
      else
        let (key, rest) := splitKey rest
        (char :: key, rest)

/-- What follows a key without the separator: gaps, and one equals sign or colon among them. -/
def dropSeparator (text : List Char) : List Char :=
  match text.dropWhile isGap with
  | char :: rest => if char = '=' || char = ':' then rest.dropWhile isGap else char :: rest
  | [] => []

/-- The text of a comment, from which gaps at both ends are dropped. -/
def commentText (line : List Char) : List Char :=
  let text := ((line.dropWhile isGap).drop 1).dropWhile isGap
  (text.reverse.dropWhile isGap).reverse

/-- The key and value of a logical line, `none` for comments and empty lines. The escapes of a
comment are checked like any others. -/
def entry? (number : Nat) (line : List Char) : Except ConfigCause (Option (String × String)) :=
  if isComment line then (unescape number (commentText line)).map fun _ => none
  else
    let (key, rest) := splitKey (line.dropWhile isGap)
    if key.isEmpty && rest.isEmpty then .ok none
    else do
      let key ← unescape number key
      let value ← unescape number (dropSeparator rest)
      pure (some (String.ofList key, String.ofList value))

/-- The table that natural lines hold. -/
def ofLines (lines : List (List Char)) : Except ConfigCause Config.Table :=
  ((logicalLines none (lines.zipIdx 1)).mapM fun line => entry? line.1 line.2).map
    (·.filterMap id)

/-- The table that a property file holds. The last line of an unfinished text cannot be read, which
shows only if no line before it is malformed. -/
def parse (bytes : Bytes) : Except Failure Config.Table :=
  let text := Text.decode bytes
  let lines := naturalLines text.chars
  match ofLines (if text.unfinished then lines.dropLast else lines) with
  | .error cause => .error (.config cause)
  | .ok table => if text.unfinished then .error (.fault .unfinishedText) else .ok table

/-- The configuration of a property file, for a number of workers if the file gives none. -/
def readConfig (workers : UInt64) (bytes : Bytes) : Except Failure Config := do
  Config.ofTable workers (← parse bytes)

end CompactAdjacency.PropertyFile
