import CompactAdjacency.Bytes

/-!
# Decoding text

The mark that bytes may start with tells how they hold a text: in UTF-8, or in UTF-16 with the more
significant byte of a unit first or last. The mark is no part of the text. Without a mark every byte
is a character.

Bytes that denote no character are read as replacement characters: in UTF-8 one for every longest
run that a character could start with, in UTF-16 one for every surrogate without its other half. A
text is unfinished if its bytes end where more of a character, or of a mark, could follow.
-/

namespace CompactAdjacency.Text

/-- The characters that bytes hold. -/
structure Decoded where
  chars : List Char
  /-- Whether the bytes end inside of a character or of a mark. -/
  unfinished : Bool
  deriving DecidableEq, Repr

namespace Decoded

/-- No characters, after which more of one could follow or not. -/
def empty (unfinished : Bool) : Decoded := ⟨[], unfinished⟩

/-- The text with a character in front. -/
def cons (char : Char) (text : Decoded) : Decoded := ⟨char :: text.chars, text.unfinished⟩

/-- The text with several characters in front. -/
def prepend (chars : List Char) (text : Decoded) : Decoded :=
  ⟨chars ++ text.chars, text.unfinished⟩

end Decoded

/-- The character in place of bytes that denote none. -/
def replacement : Char := '\ufffd'

/-! ## Single bytes -/

/-- The characters of the bytes `0x80` to `0x9F`; every other byte is its own code point. -/
def upperControls : List Nat := [
  0x20AC, 0x81, 0x201A, 0x192, 0x201E, 0x2026, 0x2020, 0x2021, 0x2C6, 0x2030, 0x160, 0x2039,
  0x152, 0x8D, 0x17D, 0x8F, 0x90, 0x2018, 0x2019, 0x201C, 0x201D, 0x2022, 0x2013, 0x2014, 0x2DC,
  0x2122, 0x161, 0x203A, 0x153, 0x9D, 0x17E, 0x178]

/-- The character of a byte. -/
def decodeByte (byte : UInt8) : Char :=
  if 0x80 ≤ byte ∧ byte < 0xA0 then
    Char.ofNat (upperControls[byte.toNat - 0x80]?.getD byte.toNat)
  else Char.ofNat byte.toNat

/-! ## UTF-8 -/

/-- A character of which bytes are still to come. -/
structure Pending where
  /-- The code point as far as it is known. -/
  code : Nat
  /-- How many bytes come after the next one. -/
  further : Nat
  /-- The smallest next byte. -/
  least : UInt8
  /-- The largest next byte. -/
  greatest : UInt8
  deriving DecidableEq, Repr

/-- What is to come after the first byte of a character of several bytes. The bounds of the second
byte leave out surrogates, numbers past the last code point and codes that fewer bytes hold. -/
def Pending.ofFirst? (byte : UInt8) : Option Pending :=
  if 0xC2 ≤ byte ∧ byte ≤ 0xDF then some ⟨(byte &&& 0x1F).toNat, 0, 0x80, 0xBF⟩
  else if 0xE0 ≤ byte ∧ byte ≤ 0xEF then
    some ⟨(byte &&& 0xF).toNat, 1, if byte = 0xE0 then 0xA0 else 0x80,
      if byte = 0xED then 0x9F else 0xBF⟩
  else if 0xF0 ≤ byte ∧ byte ≤ 0xF4 then
    some ⟨(byte &&& 7).toNat, 2, if byte = 0xF0 then 0x90 else 0x80,
      if byte = 0xF4 then 0x8F else 0xBF⟩
  else none

/-- The characters that end with a byte between two characters, and what is to come after it. -/
def firstByte (byte : UInt8) : List Char × Option Pending :=
  if byte < 0x80 then ([Char.ofNat byte.toNat], none)
  else
    match Pending.ofFirst? byte with
    | some pending => ([], some pending)
    | none => ([replacement], none)

/-- The characters that end with the next byte, and what is to come after it. -/
def nextByte (pending : Option Pending) (byte : UInt8) : List Char × Option Pending :=
  match pending with
  | none => firstByte byte
  | some pending =>
      if pending.least ≤ byte ∧ byte ≤ pending.greatest then
        let code := 64 * pending.code + (byte &&& 0x3F).toNat
        match pending.further with
        | 0 => ([Char.ofNat code], none)
        | further + 1 => ([], some ⟨code, further, 0x80, 0xBF⟩)
      else
        let (chars, pending) := firstByte byte
        (replacement :: chars, pending)

/-- The text that the rest of the bytes holds in UTF-8. -/
def decodeUtf8 (pending : Option Pending) : Bytes → Decoded
  | [] => .empty pending.isSome
  | byte :: rest =>
      let (chars, pending) := nextByte pending byte
      (decodeUtf8 pending rest).prepend chars

/-! ## UTF-16 -/

/-- Whether a unit is the first half of a surrogate pair. -/
def isLeading (unit : Nat) : Bool := 0xD800 ≤ unit && unit < 0xDC00

/-- Whether a unit is the second half of a surrogate pair. -/
def isTrailing (unit : Nat) : Bool := 0xDC00 ≤ unit && unit < 0xE000

/-- The character of a surrogate pair. -/
def ofSurrogates (leading trailing : Nat) : Char :=
  Char.ofNat (0x10000 + 0x400 * (leading - 0xD800) + (trailing - 0xDC00))

/-- The text of UTF-16 units. -/
def decodeUnits (unfinished : Bool) : List Nat → Decoded
  | [] => .empty unfinished
  | [unit] =>
      if isLeading unit then .empty true
      else
        .cons (if isTrailing unit then replacement else Char.ofNat unit) (.empty unfinished)
  | unit :: next :: rest =>
      if isLeading unit && isTrailing next then
        (decodeUnits unfinished rest).cons (ofSurrogates unit next)
      else
        (decodeUnits unfinished (next :: rest)).cons
          (if isLeading unit || isTrailing unit then replacement else Char.ofNat unit)

/-- The units that pairs of bytes are, and whether a byte without a partner is left. -/
def pairBytes (unit : UInt8 → UInt8 → Nat) : Bytes → List Nat × Bool
  | [] => ([], false)
  | [_] => ([], true)
  | first :: second :: rest =>
      let (units, odd) := pairBytes unit rest
      (unit first second :: units, odd)

/-- The text that bytes hold in UTF-16. -/
def decodeUtf16 (unit : UInt8 → UInt8 → Nat) (bytes : Bytes) : Decoded :=
  let (units, odd) := pairBytes unit bytes
  decodeUnits odd units

/-! ## Marks -/

/-- The mark of a text in UTF-8. -/
def utf8Mark : Bytes := [0xEF, 0xBB, 0xBF]

/-- The mark of a text in UTF-16 with the more significant byte of a unit first. -/
def utf16BigMark : Bytes := [0xFE, 0xFF]

/-- The mark of a text in UTF-16 with the more significant byte of a unit last. -/
def utf16LittleMark : Bytes := [0xFF, 0xFE]

/-- Whether bytes are the start of a mark that could still follow. -/
def startsMark (bytes : Bytes) : Bool :=
  !bytes.isEmpty &&
    [utf8Mark, utf16BigMark, utf16LittleMark].any fun mark => bytes.isPrefixOf mark

/-- The text that bytes hold. -/
def decode (bytes : Bytes) : Decoded :=
  if utf8Mark.isPrefixOf bytes then decodeUtf8 none (bytes.drop utf8Mark.length)
  else if utf16BigMark.isPrefixOf bytes then
    decodeUtf16 (fun first second => 256 * first.toNat + second.toNat)
      (bytes.drop utf16BigMark.length)
  else if utf16LittleMark.isPrefixOf bytes then
    decodeUtf16 (fun first second => first.toNat + 256 * second.toNat)
      (bytes.drop utf16LittleMark.length)
  else ⟨bytes.map decodeByte, startsMark bytes⟩

end CompactAdjacency.Text
