import Mathlib
import CompactAdjacency.Storage.Directory

/-!
# Entries of a directory

A directory whose columns have one length is written at one node and nowhere else, in all three
columns or in none. `Directory.Entered` is what such a write leaves, and `Directory.set_spec` that
every write through a partition of the directory leaves it. `Directory.AgreesOutside` compares two
directories whose entries are the same but for some nodes.
-/

namespace CompactAdjacency.Directory

variable {directory after : Directory} {node : Nat} {entry : DirectoryEntry}

/-- One entry was written, and the others are as they were. -/
structure Entered (directory after : Directory) (node : Nat) (entry : DirectoryEntry) : Prop where
  aligned : after.isAligned = true
  nodeCount : after.nodeCount = directory.nodeCount
  degree : after.degree node = entry.degree.toNat
  adjacency : lookup after.adjacency node = .ok entry.adjacency
  properties : lookup after.properties node = .ok entry.properties
  others : ∀ other ≠ node, after.degree other = directory.degree other ∧
    lookup after.adjacency other = lookup directory.adjacency other ∧
    lookup after.properties other = lookup directory.properties other

/-- An address is found where it was written. -/
theorem lookup_setIfInBounds {column : Array Address} (h : node < column.size)
    (address : Address) : lookup (column.setIfInBounds node address) node = .ok address := by
  simp [lookup, h]

/-- Other addresses are found as before. -/
theorem lookup_setIfInBounds_ne {column : Array Address} {other : Nat} (h : other ≠ node)
    (address : Address) :
    lookup (column.setIfInBounds node address) other = lookup column other := by
  simp [lookup, h.symm]

/-- Writing through a partition of an aligned directory enters a node of it. -/
theorem set_spec (haligned : directory.isAligned = true) {part : Partition}
    (hinside : part.start ≤ node ∧ node < part.stop) (hpart : part.stop ≤ directory.nodeCount)
    (entry : DirectoryEntry) :
    ∃ after, directory.set part node entry = (.ok (), after) ∧
      directory.Entered after node entry := by
  simp only [isAligned, Bool.and_eq_true, decide_eq_true_eq] at haligned
  have hnode : node < directory.degrees.size := lt_of_lt_of_le hinside.2 hpart
  have hadjacency : node < directory.adjacency.size := haligned.1 ▸ hnode
  have hproperties : node < directory.properties.size := haligned.2 ▸ hnode
  simp only [set, Partition.locate, if_pos hinside, if_neg (Nat.not_le.mpr hadjacency),
    if_neg (Nat.not_le.mpr hproperties)]
  refine ⟨_, rfl, ?_, ?_, ?_, lookup_setIfInBounds hadjacency _,
    lookup_setIfInBounds hproperties _, ?_⟩
  · simp [isAligned, haligned.1, haligned.2]
  · simp [nodeCount]
  · simp [degree, hnode]
  · intro other hother
    refine ⟨?_, lookup_setIfInBounds_ne hother _, lookup_setIfInBounds_ne hother _⟩
    simp [degree, hother.symm]

/-! ## Two directories -/

/-- Two directories have the same entries, but for some nodes. -/
structure AgreesOutside (apart : Finset Nat) (directory other : Directory) : Prop where
  aligned : other.isAligned = true
  nodeCount : other.nodeCount = directory.nodeCount
  entries : ∀ node ∉ apart, other.degree node = directory.degree node ∧
    lookup other.adjacency node = lookup directory.adjacency node ∧
    lookup other.properties node = lookup directory.properties node

variable {apart : Finset Nat} {other : Directory}

theorem AgreesOutside.refl (haligned : directory.isAligned = true) :
    AgreesOutside ∅ directory directory :=
  ⟨haligned, rfl, fun _ _ => ⟨rfl, rfl, rfl⟩⟩

/-- A node that is entered in both has the same entry from then on. -/
theorem AgreesOutside.enter_both (h : AgreesOutside apart directory other)
    (hentered : directory.Entered after node entry) {after' : Directory}
    (hentered' : other.Entered after' node entry) :
    AgreesOutside (apart.erase node) after after' := by
  refine ⟨hentered'.aligned, ?_, ?_⟩
  · rw [hentered'.nodeCount, h.nodeCount, hentered.nodeCount]
  · intro found hfound
    by_cases hsame : found = node
    · subst hsame
      rw [hentered'.degree, hentered'.adjacency, hentered'.properties, hentered.degree,
        hentered.adjacency, hentered.properties]
      exact ⟨rfl, rfl, rfl⟩
    · obtain ⟨hdegree, hadjacency, hproperties⟩ := hentered.others found hsame
      obtain ⟨hdegree', hadjacency', hproperties'⟩ := hentered'.others found hsame
      rw [hdegree', hadjacency', hproperties', hdegree, hadjacency, hproperties]
      exact h.entries found fun hmem => hfound (Finset.mem_erase.mpr ⟨hsame, hmem⟩)

/-- A node that is entered in one of them only is set apart. -/
theorem AgreesOutside.enter_other (h : AgreesOutside apart directory other)
    (hentered : other.Entered after node entry) :
    AgreesOutside (insert node apart) directory after := by
  refine ⟨hentered.aligned, hentered.nodeCount.trans h.nodeCount, ?_⟩
  intro found hfound
  rw [Finset.mem_insert, not_or] at hfound
  obtain ⟨hdegree, hadjacency, hproperties⟩ := hentered.others found hfound.1
  rw [hdegree, hadjacency, hproperties]
  exact h.entries found hfound.2

/-! ## New directories -/

/-- A new directory is aligned, and no node has relationships. -/
theorem ofNodeCount_spec {count : Nat} (h : ofNodeCount count = .ok directory) :
    directory.isAligned = true ∧ directory.nodeCount = count ∧
      ∀ node, directory.degree node = 0 := by
  unfold ofNodeCount at h
  split at h
  case isTrue hlarge => simp at h
  case isFalse hsmall =>
    split at h
    case isTrue hlarge => simp at h
    case isFalse hsmall' =>
      obtain rfl := Except.ok.inj h
      refine ⟨by simp [isAligned], by simp [nodeCount], ?_⟩
      intro node
      simp only [degree, Array.getElem?_replicate]
      split <;> rfl

/-- There was memory for the columns of a new directory. -/
theorem room_of_ofNodeCount {count : Nat} (h : ofNodeCount count = .ok directory) :
    8 * count < allocationLimit := by
  unfold ofNodeCount at h
  split at h
  case isTrue hlarge => simp at h
  case isFalse hsmall =>
    split at h
    case isTrue hlarge => simp at h
    case isFalse hsmall' => exact Nat.not_le.mp hsmall'

end CompactAdjacency.Directory
