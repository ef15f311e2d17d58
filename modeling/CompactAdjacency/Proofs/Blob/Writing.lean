import Mathlib
import CompactAdjacency.Proofs.Blob.Reading

/-!
# Blobs are written as they are read

The other half of `Blob.Inverts`: a reader answers the value whose bytes are at the front of a byte
string and leaves what follows them, whatever that is. A length takes eight bytes, so that this
holds of the lists and pages that are not longer than a word can say, `Blob.Writable`.
-/

namespace CompactAdjacency.Blob

variable {α β : Type}

/-- What was written for a value is read back, and nothing behind it. -/
def Restores (read : Reader α) (write : α → Bytes) (value : α) : Prop :=
  ∀ rest, read (write value ++ rest) = .ok (value, rest)

/-! ## Numbers and lists -/

/-- A number that fits its width is read back. -/
theorem readNumber_littleEndian {width number : Nat} (h : number < 256 ^ width) (rest : Bytes) :
    readNumber width (littleEndian width number ++ rest) = .ok (number, rest) := by
  have hcut := cut?_append (littleEndian width number) rest
  rw [length_littleEndian] at hcut
  simp only [readNumber, hcut, ofLittleEndian_littleEndian, Nat.mod_eq_of_lt h]

/-- As many values are read back as were written. -/
theorem readMany_flatMap {read : Reader α} {write : α → Bytes} {items : List α}
    (h : ∀ item ∈ items, Restores read write item) (rest : Bytes) :
    readMany read items.length (items.flatMap write ++ rest) = .ok (items, rest) := by
  induction items with
  | nil => rfl
  | cons item items ih =>
      have hitem := h item (by simp) (items.flatMap write ++ rest)
      have hitems := ih fun other hother => h other (List.mem_cons_of_mem _ hother)
      rw [List.flatMap_cons, List.append_assoc, List.length_cons, readMany]
      simp only [hitem, hitems, bind, Except.bind, pure, Except.pure]

theorem readList_restores {read : Reader α} {write : α → Bytes} {items : List α}
    (hlength : items.length < 256 ^ 8) (h : ∀ item ∈ items, Restores read write item) :
    Restores (readList read) (writeList write) items := by
  intro rest
  rw [writeList, List.append_assoc, readList]
  simp only [readNumber_littleEndian hlength, bind, Except.bind]
  exact readMany_flatMap h rest

/-! ## Arenas and directories -/

theorem readPage_restores {page : Bytes} (hlength : page.length < 256 ^ 8) :
    Restores readPage (fun page => littleEndian 8 page.length ++ page) page := by
  intro rest
  rw [List.append_assoc, readPage]
  simp only [readNumber_littleEndian hlength, bind, Except.bind, cut?_append]

/-- An arena whose pages can be counted and measured in words. -/
structure ArenaWritable (arena : Arena) : Prop where
  pages : arena.pages.length < 256 ^ 8
  lengths : ∀ page ∈ arena.pages, page.length < 256 ^ 8

theorem readArena_restores {arena : Arena} (h : ArenaWritable arena) :
    Restores readArena writeArena arena := by
  intro rest
  have hpages := readList_restores h.pages
    (fun page hpage => readPage_restores (h.lengths page hpage)) rest
  rw [writeArena, readArena]
  simp only [hpages, bind, Except.bind, pure, Except.pure]

/-- The address of a word that was an address. -/
theorem ofWord_toWord (address : Address) : Address.ofWord address.toWord = address := by
  obtain ⟨page, offset⟩ := address
  have hpage := page.toNat_lt
  have hoffset := offset.toNat_lt
  have hword : page.toNat * UInt32.size + offset.toNat < 2 ^ 64 := by
    simp only [UInt32.size]
    omega
  have hnumber : (page.toNat * UInt32.size + offset.toNat).toUInt64.toNat =
      page.toNat * UInt32.size + offset.toNat := by
    rw [Nat.toUInt64, UInt64.toNat_ofNat', Nat.mod_eq_of_lt hword]
  rw [Address.toWord, Address.ofWord, hnumber, Address.mk.injEq, ← UInt32.toNat_inj,
    ← UInt32.toNat_inj]
  simp only [Nat.toUInt32, UInt32.toNat_ofNat', UInt32.size]
  omega

theorem readAddress_restores (address : Address) :
    Restores readAddress (fun address => littleEndian 8 address.toWord.toNat) address := by
  intro rest
  rw [readAddress]
  simp only [readNumber_littleEndian (show _ < 256 ^ 8 from address.toWord.toNat_lt), bind,
    Except.bind, pure, Except.pure]
  rw [Nat.toUInt64, UInt64.ofNat_toNat, ofWord_toWord]

theorem readDegree_restores (degree : UInt32) :
    Restores readDegree (fun degree => littleEndian 4 degree.toNat) degree := by
  intro rest
  rw [readDegree]
  simp only [readNumber_littleEndian (show _ < 256 ^ 4 from degree.toNat_lt), bind, Except.bind,
    pure, Except.pure]
  rw [Nat.toUInt32, UInt32.ofNat_toNat]

/-- A directory whose columns can be counted in words. -/
structure DirectoryWritable (directory : Directory) : Prop where
  degrees : directory.degrees.size < 256 ^ 8
  adjacency : directory.adjacency.size < 256 ^ 8
  properties : directory.properties.size < 256 ^ 8

theorem readDirectory_restores {directory : Directory} (h : DirectoryWritable directory) :
    Restores readDirectory writeDirectory directory := by
  intro rest
  have hdegrees := readList_restores (show directory.degrees.toList.length < _ from h.degrees)
    fun degree _ => readDegree_restores degree
  have hadjacency :=
    readList_restores (show directory.adjacency.toList.length < _ from h.adjacency)
      fun address _ => readAddress_restores address
  have hproperties :=
    readList_restores (show directory.properties.toList.length < _ from h.properties)
      fun address _ => readAddress_restores address
  rw [writeDirectory, List.append_assoc, List.append_assoc, readDirectory]
  simp only [hdegrees _, hadjacency _, hproperties _, bind, Except.bind, pure, Except.pure,
    Array.toArray_toList]

/-! ## Whole blobs -/

/-- A strategy is told by its tag. -/
theorem ofTag?_tag (strategy : Strategy) : Strategy.ofTag? strategy.tag = some strategy := by
  cases strategy with
  | packed => rfl
  | varint => rfl
  | mixed => rfl

theorem readRule_restores (rule : LayoutRule) :
    Restores readRule (fun rule =>
      littleEndian 4 rule.strategy.tag ++ littleEndian 8 rule.threshold.toNat) rule := by
  intro rest
  have htag : rule.strategy.tag < 256 ^ 4 := by
    cases rule.strategy with
    | packed => decide
    | varint => decide
    | mixed => decide
  rw [List.append_assoc, readRule]
  simp only [readNumber_littleEndian htag, ofTag?_tag,
    readNumber_littleEndian (show _ < 256 ^ 8 from rule.threshold.toNat_lt), bind, Except.bind,
    pure, Except.pure]
  rw [Nat.toUInt64, UInt64.ofNat_toNat]

theorem readProperties_restores {properties : Option Arena}
    (h : ∀ arena, properties = some arena → ArenaWritable arena) :
    Restores readProperties (fun properties =>
      match properties with
      | none => littleEndian 1 0
      | some arena => littleEndian 1 1 ++ writeArena arena) properties := by
  intro rest
  cases properties with
  | none => rfl
  | some arena =>
      have harena := readArena_restores (h arena rfl) rest
      rw [List.append_assoc, readProperties]
      simp only [readNumber_littleEndian (show 1 < 256 ^ 1 by decide), harena, bind, Except.bind,
        pure, Except.pure]

/-- A blob whose lists and pages are not longer than a word can say. -/
structure Writable (blob : Blob) : Prop where
  directory : DirectoryWritable blob.directory
  adjacency : ArenaWritable blob.adjacency
  properties : ∀ arena, blob.properties = some arena → ArenaWritable arena

/-- A blob is read back from the front of a byte string. -/
theorem read_restores {blob : Blob} (h : blob.Writable) : Restores read write blob := by
  intro rest
  have hrule := readRule_restores blob.rule
  have hrelationships := blob.relationshipCount.toNat_lt
  have hchannels := blob.channelCount.toNat_lt
  have hdirectory := readDirectory_restores h.directory
  have hadjacency := readArena_restores h.adjacency
  simp only [Restores, List.append_assoc] at hrule
  simp only [write, List.append_assoc, read, hrule, bind, Except.bind,
    readNumber_littleEndian (show _ < 256 ^ 8 from hrelationships),
    readNumber_littleEndian (show _ < 256 ^ 8 from hchannels), hdirectory _, hadjacency _,
    Nat.toUInt64, UInt64.ofNat_toNat]
  have hproperties := readProperties_restores h.properties rest
  obtain ⟨rule, relationshipCount, channelCount, directory, adjacency, properties⟩ := blob
  cases properties with
  | none => rfl
  | some arena =>
      simp only [List.append_assoc] at hproperties ⊢
      simp only [hproperties, pure, Except.pure]

end CompactAdjacency.Blob
