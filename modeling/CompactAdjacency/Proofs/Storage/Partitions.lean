import Mathlib
import CompactAdjacency.Storage.Directory

/-!
# Partitions cover a directory

The partitions that workers share are consecutive ranges of one size, the last one apart. None of
them is empty, `lt_of_mem_partitions`, they stay inside the directory, `stop_le_of_mem_partitions`,
and every node is in one of them, `exists_mem_partitions`. One after the other they list the nodes,
`flatMap_nodes_partitions`, and there are no more of them than asked for, `length_partitions_le`.
-/

namespace CompactAdjacency

/-- Partitions that are not empty, stay below a number of nodes, and cover all of them. -/
structure Partition.Cover (parts : List Partition) (nodeCount : Nat) : Prop where
  nonempty : ∀ part ∈ parts, part.start < part.stop
  inside : ∀ part ∈ parts, part.stop ≤ nodeCount
  complete : ∀ node < nodeCount, ∃ part ∈ parts, part.start ≤ node ∧ node < part.stop

/-- The nodes of a partition, in order. -/
def Partition.nodes (part : Partition) : List Nat := List.range' part.start part.size

theorem Partition.mem_nodes_iff {part : Partition} {node : Nat} :
    node ∈ part.nodes ↔ part.start ≤ node ∧ node < part.stop := by
  rw [nodes, size, List.mem_range'_1]
  omega

namespace Directory

variable {directory : Directory} {count : Nat}

theorem partitionSize_pos (directory : Directory) (count : Nat) :
    0 < directory.partitionSize count :=
  Nat.le_max_left 1 _

/-- A chunk begins inside exactly if there is one of its number. -/
theorem lt_chunks_iff {length size index : Nat} (hsize : 0 < size) :
    index < (length + size - 1) / size ↔ index * size < length := by
  rw [Nat.lt_div_iff_mul_lt hsize]
  omega

/-- The partitions are the chunks of one size that begin inside. -/
theorem mem_partitions_iff (h : directory.isAligned = true) {part : Partition} :
    part ∈ directory.partitions count ↔
      ∃ index, index * directory.partitionSize count < directory.nodeCount ∧
        part = ⟨index * directory.partitionSize count,
          min ((index + 1) * directory.partitionSize count) directory.nodeCount⟩ := by
  simp only [isAligned, Bool.and_eq_true, decide_eq_true_eq] at h
  simp only [partitions, nodeCount, h.1, h.2, Nat.min_self, List.mem_map, List.mem_range,
    lt_chunks_iff (partitionSize_pos directory count)]
  constructor
  · rintro ⟨index, hindex, rfl⟩
    exact ⟨index, hindex, rfl⟩
  · rintro ⟨index, hindex, rfl⟩
    exact ⟨index, hindex, rfl⟩

/-- No partition is empty. -/
theorem lt_of_mem_partitions (h : directory.isAligned = true) {part : Partition}
    (hpart : part ∈ directory.partitions count) : part.start < part.stop := by
  obtain ⟨index, hindex, rfl⟩ := (mem_partitions_iff h).mp hpart
  have hsize := partitionSize_pos directory count
  have hnext : index * directory.partitionSize count <
      (index + 1) * directory.partitionSize count := by
    rw [Nat.succ_mul]
    exact Nat.lt_add_of_pos_right hsize
  exact Nat.lt_min.mpr ⟨hnext, hindex⟩

/-- Partitions stay inside the directory. -/
theorem stop_le_of_mem_partitions {part : Partition} (hpart : part ∈ directory.partitions count) :
    part.stop ≤ directory.nodeCount := by
  obtain ⟨index, -, rfl⟩ := List.mem_map.mp hpart
  exact Nat.min_le_right _ _

/-- So does every partition that can be chosen. -/
theorem stop_le_of_part {choice : PartitionChoice} {part : Partition}
    (h : directory.part choice = .ok part) : part.stop ≤ directory.nodeCount := by
  cases choice with
  | whole =>
      obtain rfl := Except.ok.inj h
      exact Nat.le_refl _
  | share count index =>
      unfold Directory.part at h
      dsimp only at h
      split at h
      case h_1 found hfound =>
        obtain rfl := Except.ok.inj h
        exact stop_le_of_mem_partitions (List.mem_of_getElem? hfound)
      case h_2 hmissing => simp at h

/-- Every node is in a partition, the one of its quotient by the size. -/
theorem exists_mem_partitions (h : directory.isAligned = true) {node : Nat}
    (hnode : node < directory.nodeCount) :
    ∃ part ∈ directory.partitions count, part.start ≤ node ∧ node < part.stop := by
  have hsize := partitionSize_pos directory count
  have hstart : node / directory.partitionSize count * directory.partitionSize count ≤ node :=
    Nat.div_mul_le_self node _
  have hstop :
      node < (node / directory.partitionSize count + 1) * directory.partitionSize count := by
    rw [Nat.succ_mul]
    exact Nat.lt_div_mul_add hsize
  refine ⟨_, (mem_partitions_iff h).mpr ⟨node / directory.partitionSize count, ?_, rfl⟩, ?_, ?_⟩
  · exact hstart.trans_lt hnode
  · exact hstart
  · exact Nat.lt_min.mpr ⟨hstop, hnode⟩

/-- The partitions that workers share cover the directory. -/
theorem cover_partitions (h : directory.isAligned = true) (count : Nat) :
    Partition.Cover (directory.partitions count) directory.nodeCount :=
  ⟨fun _ => lt_of_mem_partitions h, fun _ => stop_le_of_mem_partitions,
    fun _ => exists_mem_partitions h⟩

/-! ## Each node once -/

/-- The partitions of an aligned directory, by the number of nodes. -/
theorem partitions_eq (h : directory.isAligned = true) (count : Nat) :
    directory.partitions count =
      (List.range ((directory.nodeCount + directory.partitionSize count - 1) /
        directory.partitionSize count)).map fun index =>
          ⟨index * directory.partitionSize count,
            min ((index + 1) * directory.partitionSize count) directory.nodeCount⟩ := by
  simp only [isAligned, Bool.and_eq_true, decide_eq_true_eq] at h
  simp only [partitions, nodeCount, h.1, h.2, Nat.min_self]

/-- The partitions of aligned directories depend on the number of nodes alone. -/
theorem partitions_congr {other : Directory} (h : directory.isAligned = true)
    (h' : other.isAligned = true) (hcount : directory.nodeCount = other.nodeCount) (count : Nat) :
    directory.partitions count = other.partitions count := by
  rw [partitions_eq h, partitions_eq h', partitionSize, partitionSize, hcount]

/-- Chunks of one size that follow each other list what they cover. -/
theorem flatMap_chunks {length size : Nat} (number : Nat)
    (hinside : ∀ index < number, index * size < length) :
    ((List.range number).map fun index =>
      (⟨index * size, min ((index + 1) * size) length⟩ : Partition)).flatMap Partition.nodes =
        List.range (min (number * size) length) := by
  induction number with
  | zero => simp
  | succ number ih =>
      have hstart : number * size < length := hinside number (Nat.lt_succ_self number)
      rw [List.range_succ, List.map_append, List.flatMap_append,
        ih fun index hindex => hinside index (Nat.lt_succ_of_lt hindex), Nat.min_eq_left hstart.le]
      simp only [List.map_cons, List.map_nil, List.flatMap_singleton, Partition.nodes,
        Partition.size]
      rw [List.range_eq_range', List.range_eq_range']
      have hsplit : min ((number + 1) * size) length =
          number * size + (min ((number + 1) * size) length - number * size) := by
        rw [Nat.succ_mul]
        omega
      conv_rhs => rw [hsplit]
      rw [← List.range'_append_1, Nat.zero_add]

/-- One after the other the partitions list every node once, in order. -/
theorem flatMap_nodes_partitions (h : directory.isAligned = true) (count : Nat) :
    (directory.partitions count).flatMap Partition.nodes = List.range directory.nodeCount := by
  have hsize := partitionSize_pos directory count
  rw [partitions_eq h, flatMap_chunks _ fun index hindex => (lt_chunks_iff hsize).mp hindex]
  have hall : ¬ ((directory.nodeCount + directory.partitionSize count - 1) /
      directory.partitionSize count) * directory.partitionSize count < directory.nodeCount :=
    fun hlt => Nat.lt_irrefl _ ((lt_chunks_iff hsize).mpr hlt)
  rw [Nat.min_eq_right (Nat.not_lt.mp hall)]

/-- There are no more partitions than asked for, so that every one of them finds a worker. -/
theorem length_partitions_le (h : directory.isAligned = true) (count : Nat) :
    (directory.partitions count).length ≤ max count 1 := by
  rw [partitions_eq h, List.length_map, List.length_range]
  -- the size is rounded up, so that one partition more would begin behind the last node
  by_contra hmore
  have hbegins := (lt_chunks_iff (partitionSize_pos directory count)).mp (Nat.not_le.mp hmore)
  have hceiling : (directory.nodeCount + max count 1 - 1) / max count 1 ≤
      directory.partitionSize count := Nat.le_max_right 1 _
  have hcovers := Nat.lt_mul_div_succ (directory.nodeCount + max count 1 - 1)
    (Nat.lt_of_lt_of_le Nat.zero_lt_one (Nat.le_max_right count 1))
  rw [Nat.mul_succ] at hcovers
  have hlarge := Nat.mul_le_mul_left (max count 1) hceiling
  omega

end Directory

end CompactAdjacency
