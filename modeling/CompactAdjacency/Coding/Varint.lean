import CompactAdjacency.Bytes
import CompactAdjacency.Failure

/-!
# Variable-length numbers

A number is written seven bits to a byte, lowest bits first, and every byte but the last of a number
has its highest bit set. Words take one to ten bytes. `read?` refuses bytes that end inside a number
and numbers of more than ten bytes; `measure?` finds the length of a run of numbers under the same
rule without decoding them, while `skip?` only counts final bytes and knows no such limit.
-/

namespace CompactAdjacency.Varint

/-- The largest number of bytes that a word takes. -/
def maxLength : Nat := 10

/-- Whether a number goes on after this byte. -/
def continues (byte : UInt8) : Bool := byte.toNat ≥ 128

/-! ## Writing -/

/-- The bytes of a number. -/
def encodeNat (value : Nat) : Bytes :=
  if value < 128 then [value.toUInt8]
  else (value % 128 + 128).toUInt8 :: encodeNat (value / 128)
termination_by value
decreasing_by omega

/-- The bytes of a word. -/
def encode (value : UInt64) : Bytes := encodeNat value.toNat

/-- The number of bytes of a word, in closed form: a seventh of its bits, rounded up, at least
one. -/
def length (value : UInt64) : Nat :=
  (max (if value = 0 then 0 else value.toNat.log2 + 1) 1 + 6) / 7

/-- The bytes of several words, one after the other. -/
def encodeAll (values : List UInt64) : Bytes := values.flatMap encode

/-! ## Reading -/

/-- The number at the front of a byte string and the bytes after it, reading at most `limit` bytes;
`none` if the number is not over by then, or the bytes are. -/
def readNat? : Nat → Bytes → Option (Nat × Bytes)
  | 0, _ => none
  | _ + 1, [] => none
  | limit + 1, byte :: rest =>
      if continues byte then
        (readNat? limit rest).map fun (high, rest) => (byte.toNat - 128 + 128 * high, rest)
      else some (byte.toNat, rest)

/-- The word at the front of a byte string and the bytes after it. The bits that a tenth byte adds
above the sixty-fourth are dropped. -/
def read? (bytes : Bytes) : Option (UInt64 × Bytes) :=
  (readNat? maxLength bytes).map fun (value, rest) => (value.toUInt64, rest)

/-- What comes of reading several words: those read, and the bytes after them unless the bytes gave
out first. -/
structure Run where
  values : List UInt64
  rest : Option Bytes

/-- Reads `count` words off the front of a byte string. -/
def readRun : Nat → Bytes → Run
  | 0, bytes => ⟨[], some bytes⟩
  | count + 1, bytes =>
      match read? bytes with
      | none => ⟨[], none⟩
      | some (value, rest) =>
          let run := readRun count rest
          ⟨value :: run.values, run.rest⟩

/-- The words of a run and the bytes after them; a fault if the bytes gave out. -/
def Run.complete (run : Run) : Except Fault (List UInt64 × Bytes) :=
  match run.rest with
  | none => .error .outOfBounds
  | some rest => .ok (run.values, rest)

/-! ## Skipping -/

/-- The number of bytes up to and including the `count`th byte that ends a number; `none` if there
are fewer. -/
def skip? : Nat → Bytes → Option Nat
  | 0, _ => some 0
  | _ + 1, [] => none
  | count + 1, byte :: rest =>
      (skip? (if continues byte then count + 1 else count) rest).map (· + 1)

/-- The number of bytes of the number at the front of a byte string, `none` if it is not over after
`limit` bytes. -/
def measureOne? : Nat → Bytes → Option Nat
  | 0, _ => none
  | _ + 1, [] => none
  | limit + 1, byte :: rest =>
      if continues byte then (measureOne? limit rest).map (· + 1) else some 1

/-- The number of bytes of the first `count` numbers of a byte string; `none` if the bytes end
before that or a number takes more than ten bytes. -/
def measure? : Nat → Bytes → Option Nat
  | 0, _ => some 0
  | count + 1, bytes => do
      let first ← measureOne? maxLength bytes
      let others ← measure? count (bytes.drop first)
      pure (first + others)

end CompactAdjacency.Varint
