import Mathlib
import CompactAdjacency.Blob
import CompactAdjacency.Bytes.Lemmas
import CompactAdjacency.Proofs.Outcomes

/-!
# Blobs are read as they are written

Every reader undoes a writer: what it takes off the front of a byte string is what the writer writes
for the value it answers. `Inverts` states this for one reader, and the lemmas below follow the
format from its numbers up to the whole blob, so that `read_inverts` is assembled from them in the
order in which the fields are read. As every byte read is accounted for, two byte strings that are
read as one blob agree up to its end.
-/

namespace CompactAdjacency.Blob

variable {α β : Type}

/-- What a reader takes off a byte string is what is written for the value it answers. -/
def Inverts (read : Reader α) (write : α → Bytes) : Prop :=
  ∀ bytes value rest, read bytes = .ok (value, rest) → bytes = write value ++ rest

/-! ## Numbers and lists -/

/-- A number that was read fits its width and is written as it was read. -/
theorem readNumber_eq {width number : Nat} {bytes rest : Bytes}
    (h : readNumber width bytes = .ok (number, rest)) :
    bytes = littleEndian width number ++ rest ∧ number < 256 ^ width := by
  unfold readNumber at h
  split at h
  case h_1 hcut => simp at h
  case h_2 front rest' hcut =>
    obtain ⟨rfl, rfl⟩ := Prod.mk.inj (Except.ok.inj h)
    obtain ⟨rfl, rfl⟩ := eq_append_of_cut? hcut
    exact ⟨by rw [littleEndian_ofLittleEndian], ofLittleEndian_lt front⟩

/-- As many values are read as were asked for, each as it is written. -/
theorem readMany_eq {read : Reader α} {write : α → Bytes} (hread : Inverts read write)
    {count : Nat} {bytes rest : Bytes} {items : List α}
    (h : readMany read count bytes = .ok (items, rest)) :
    items.length = count ∧ bytes = items.flatMap write ++ rest := by
  induction count generalizing bytes items with
  | zero =>
      obtain ⟨rfl, rfl⟩ := Prod.mk.inj (Except.ok.inj h)
      exact ⟨rfl, rfl⟩
  | succ count ih =>
      simp only [readMany, bind_eq_ok_iff, pure_eq_ok_iff, Prod.exists, Prod.mk.injEq] at h
      obtain ⟨item, middle, hitem, others, last, hothers, rfl, rfl⟩ := h
      obtain ⟨hlength, hmiddle⟩ := ih hothers
      refine ⟨congrArg (· + 1) hlength, ?_⟩
      rw [hread _ _ _ hitem, hmiddle, List.flatMap_cons, List.append_assoc]

theorem readList_inverts {read : Reader α} {write : α → Bytes} (hread : Inverts read write) :
    Inverts (readList read) (writeList write) := by
  intro bytes items rest h
  simp only [readList, bind_eq_ok_iff, Prod.exists] at h
  obtain ⟨count, middle, hcount, hitems⟩ := h
  obtain ⟨rfl, -⟩ := readNumber_eq hcount
  obtain ⟨rfl, rfl⟩ := readMany_eq hread hitems
  rw [writeList, List.append_assoc]

/-! ## Arenas and directories -/

theorem readPage_inverts : Inverts readPage fun page => littleEndian 8 page.length ++ page := by
  intro bytes page rest h
  simp only [readPage, bind_eq_ok_iff, Prod.exists] at h
  obtain ⟨length, middle, hlength, hpage⟩ := h
  obtain ⟨rfl, -⟩ := readNumber_eq hlength
  split at hpage
  case h_1 hcut => simp at hpage
  case h_2 front rest' hcut =>
    obtain ⟨rfl, rfl⟩ := Prod.mk.inj (Except.ok.inj hpage)
    obtain ⟨rfl, rfl⟩ := eq_append_of_cut? hcut
    rw [List.append_assoc]

theorem readArena_inverts : Inverts readArena writeArena := by
  intro bytes arena rest h
  simp only [readArena, bind_eq_ok_iff, pure_eq_ok_iff, Prod.exists, Prod.mk.injEq] at h
  obtain ⟨pages, middle, hpages, rfl, rfl⟩ := h
  exact readList_inverts readPage_inverts _ _ _ hpages

/-- The word of an address that was a word. -/
theorem toWord_ofWord (word : UInt64) : (Address.ofWord word).toWord = word := by
  have hlt : word.toNat < UInt32.size * UInt32.size := word.toNat_lt
  have hpage : word.toNat / UInt32.size < UInt32.size := Nat.div_lt_of_lt_mul hlt
  apply UInt64.toNat_inj.mp
  simp only [Address.toWord, Address.ofWord, Nat.toUInt32, Nat.toUInt64, UInt32.toNat_ofNat',
    UInt64.toNat_ofNat']
  rw [Nat.mod_eq_of_lt hpage, show (2 ^ 32 : Nat) = UInt32.size from rfl, Nat.div_add_mod']
  exact Nat.mod_eq_of_lt word.toNat_lt

theorem readAddress_inverts :
    Inverts readAddress fun address => littleEndian 8 address.toWord.toNat := by
  intro bytes address rest h
  simp only [readAddress, bind_eq_ok_iff, pure_eq_ok_iff, Prod.exists, Prod.mk.injEq] at h
  obtain ⟨word, middle, hword, rfl, rfl⟩ := h
  obtain ⟨rfl, hlt⟩ := readNumber_eq hword
  simp only [toWord_ofWord, Nat.toUInt64, UInt64.toNat_ofNat', Nat.mod_eq_of_lt
    (show word < 2 ^ 64 from hlt)]

theorem readDegree_inverts : Inverts readDegree fun degree => littleEndian 4 degree.toNat := by
  intro bytes degree rest h
  simp only [readDegree, bind_eq_ok_iff, pure_eq_ok_iff, Prod.exists, Prod.mk.injEq] at h
  obtain ⟨number, middle, hnumber, rfl, rfl⟩ := h
  obtain ⟨rfl, hlt⟩ := readNumber_eq hnumber
  simp only [Nat.toUInt32, UInt32.toNat_ofNat', Nat.mod_eq_of_lt (show number < 2 ^ 32 from hlt)]

theorem readDirectory_inverts : Inverts readDirectory writeDirectory := by
  intro bytes directory rest h
  simp only [readDirectory, bind_eq_ok_iff, pure_eq_ok_iff, Prod.exists, Prod.mk.injEq] at h
  obtain ⟨degrees, afterDegrees, hdegrees, adjacency, afterAdjacency, hadjacency,
    properties, afterProperties, hproperties, rfl, rfl⟩ := h
  rw [readList_inverts readDegree_inverts _ _ _ hdegrees,
    readList_inverts readAddress_inverts _ _ _ hadjacency,
    readList_inverts readAddress_inverts _ _ _ hproperties]
  simp only [writeDirectory, List.append_assoc]

/-! ## Whole blobs -/

/-- A tag stands for one strategy. -/
theorem tag_of_ofTag? {tag : Nat} {strategy : Strategy} (h : Strategy.ofTag? tag = some strategy) :
    strategy.tag = tag := by
  unfold Strategy.ofTag? at h
  split at h <;> simp at h <;> subst h <;> rfl

theorem readRule_inverts :
    Inverts readRule fun rule =>
      littleEndian 4 rule.strategy.tag ++ littleEndian 8 rule.threshold.toNat := by
  intro bytes rule rest h
  simp only [readRule, bind_eq_ok_iff, Prod.exists] at h
  obtain ⟨tag, afterTag, htag, h⟩ := h
  obtain ⟨rfl, -⟩ := readNumber_eq htag
  cases hstrategy : Strategy.ofTag? tag with
  | none => simp [hstrategy] at h
  | some strategy =>
      simp only [hstrategy, bind_eq_ok_iff, pure_eq_ok_iff, Prod.exists, Prod.mk.injEq] at h
      obtain ⟨threshold, afterThreshold, hthreshold, rfl, rfl⟩ := h
      obtain ⟨rfl, hlt⟩ := readNumber_eq hthreshold
      simp only [tag_of_ofTag? hstrategy, Nat.toUInt64, UInt64.toNat_ofNat', Nat.mod_eq_of_lt
        (show threshold < 2 ^ 64 from hlt), List.append_assoc]

theorem readProperties_inverts :
    Inverts readProperties fun properties =>
      match properties with
      | none => littleEndian 1 0
      | some arena => littleEndian 1 1 ++ writeArena arena := by
  intro bytes properties rest h
  simp only [readProperties, bind_eq_ok_iff, Prod.exists] at h
  obtain ⟨tag, afterTag, htag, h⟩ := h
  obtain ⟨rfl, -⟩ := readNumber_eq htag
  split at h
  case h_1 =>
    obtain ⟨rfl, rfl⟩ := Prod.mk.inj (pure_eq_ok_iff.mp h)
    rfl
  case h_2 =>
    simp only [bind_eq_ok_iff, pure_eq_ok_iff, Prod.exists, Prod.mk.injEq] at h
    obtain ⟨arena, afterArena, harena, rfl, rfl⟩ := h
    rw [readArena_inverts _ _ _ harena, List.append_assoc]
  case h_3 => simp at h

/-- A number of eight bytes is a word. -/
theorem toNat_toUInt64 {number : Nat} (h : number < 256 ^ 8) :
    number.toUInt64.toNat = number := by
  have hword : number < 2 ^ 64 := h
  rw [Nat.toUInt64, UInt64.toNat_ofNat', Nat.mod_eq_of_lt hword]

theorem read_inverts : Inverts read write := by
  intro bytes blob rest h
  simp only [read, bind_eq_ok_iff, pure_eq_ok_iff, Prod.exists, Prod.mk.injEq] at h
  obtain ⟨rule, afterRule, hrule, relationships, afterRelationships, hrelationships,
    channels, afterChannels, hchannels, directory, afterDirectory, hdirectory,
    adjacency, afterAdjacency, hadjacency, properties, afterProperties, hproperties, rfl, rfl⟩ := h
  obtain ⟨rfl, hfits⟩ := readNumber_eq hrelationships
  obtain ⟨rfl, hfits'⟩ := readNumber_eq hchannels
  rw [readRule_inverts _ _ _ hrule, readDirectory_inverts _ _ _ hdirectory,
    readArena_inverts _ _ _ hadjacency, readProperties_inverts _ _ _ hproperties]
  cases properties with
  | none =>
      simp only [write, toNat_toUInt64 hfits, toNat_toUInt64 hfits', List.append_assoc]
  | some arena =>
      simp only [write, toNat_toUInt64 hfits, toNat_toUInt64 hfits', List.append_assoc]

end CompactAdjacency.Blob
