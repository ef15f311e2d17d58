/-!
# Byte strings and little-endian words

Records, pages and blobs are byte strings, kept as lists so that cutting and joining them are the
operations of `List`. A word is written least significant byte first: `littleEndian` writes the
lowest `8 * width` bits of a number, and `ofLittleEndian` is the number that a byte string denotes.
`cut?` takes bytes off the front of a string that may be too short.
-/

namespace CompactAdjacency

/-- A byte string. -/
abbrev Bytes := List UInt8

/-- The lowest `8 * width` bits of a number as `width` bytes, least significant byte first. -/
def littleEndian : Nat → Nat → Bytes
  | 0, _ => []
  | width + 1, value => value.toUInt8 :: littleEndian width (value / 256)

/-- The number whose bytes, least significant first, are the given ones. -/
def ofLittleEndian : Bytes → Nat
  | [] => 0
  | byte :: rest => byte.toNat + 256 * ofLittleEndian rest

/-- The first `count` bytes and the bytes after them, `none` if there are fewer. -/
def cut? (count : Nat) (bytes : Bytes) : Option (Bytes × Bytes) :=
  let front := bytes.take count
  if front.length < count then none else some (front, bytes.drop count)

/-- Cutting succeeds exactly if there are enough bytes, and then the pieces are those of `take` and
`drop`. -/
theorem cut?_eq (count : Nat) (bytes : Bytes) :
    cut? count bytes =
      if count ≤ bytes.length then some (bytes.take count, bytes.drop count) else none := by
  unfold cut?
  simp only [List.length_take]
  by_cases h : count ≤ bytes.length
  · simp [h]
  · have : min count bytes.length < count := by omega
    simp [h, this]

/-- A front of the length asked for is cut off. -/
theorem cut?_append (front rest : Bytes) :
    cut? front.length (front ++ rest) = some (front, rest) := by
  simp [cut?_eq]

/-- What was cut off a string and what is left of it make it up, and the front has the length asked
for. -/
theorem eq_append_of_cut? {count : Nat} {bytes front rest : Bytes}
    (h : cut? count bytes = some (front, rest)) : count = front.length ∧ bytes = front ++ rest := by
  rw [cut?_eq] at h
  split at h
  case isFalse hshort => simp at h
  case isTrue hlong =>
    obtain ⟨rfl, rfl⟩ := Prod.mk.inj (Option.some.inj h)
    exact ⟨by simp [Nat.min_eq_left hlong], (List.take_append_drop _ _).symm⟩

/-- `littleEndian width value` is `width` bytes long. -/
@[simp] theorem length_littleEndian (width value : Nat) :
    (littleEndian width value).length = width := by
  induction width generalizing value with
  | zero => rfl
  | succ width ih => simp [littleEndian, ih]

end CompactAdjacency
