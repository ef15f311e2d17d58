import Mathlib
import CompactAdjacency.Storage.PartitionColumns
import CompactAdjacency.Proofs.Storage.Entries
import CompactAdjacency.Proofs.Storage.Partitions

/-!
# Writes through partitions

Each partition holds its own chunk of every column. A write through one of them changes that chunk
and no other, so that it leaves the chunks of the directory that a write through the partition of
all nodes leaves: `write_cut`. Chunks put together are the columns that were cut, `join_cut`, and
whatever writes come in whatever order through whatever partitions, what they leave is what the
ones inside of their partitions leave, `writeAll_cut`.
-/

namespace CompactAdjacency

namespace Directory

variable {directory : Directory} {count : Nat}

/-! ## Chunks -/

/-- The chunk of a number in a column. -/
def chunk {α : Type} (size index : Nat) (column : List α) : List α :=
  (column.drop (index * size)).take size

theorem length_chunk {α : Type} (size index : Nat) (column : List α) :
    (chunk size index column).length = min size (column.length - index * size) := by
  rw [chunk, List.length_take, List.length_drop]

/-- A node inside of a chunk is written at its position in it. -/
theorem chunk_set_of_mem {α : Type} {size index node : Nat} {column : List α}
    (hstart : index * size ≤ node) (value : α) :
    chunk size index (column.set node value) =
      (chunk size index column).set (node - index * size) value := by
  rw [chunk, List.drop_set, if_neg (Nat.not_lt.mpr hstart), List.take_set, chunk]

/-- A node outside of a chunk leaves it as it is. -/
theorem chunk_set_of_notMem {α : Type} {size index node : Nat} {column : List α}
    (houtside : node < index * size ∨ (index + 1) * size ≤ node) (value : α) :
    chunk size index (column.set node value) = chunk size index column := by
  rcases houtside with hbefore | hbehind
  · rw [chunk, List.drop_set, if_pos hbefore, chunk]
  · rw [Nat.succ_mul] at hbehind
    rw [chunk_set_of_mem (by omega), List.set_eq_of_length_le]
    rw [length_chunk]
    omega

/-- Chunks of one size up to a number make up the front of a column. -/
theorem flatMap_chunk {α : Type} (size number : Nat) (column : List α) :
    ((List.range number).flatMap fun index => chunk size index column) =
      column.take (number * size) := by
  induction number with
  | zero => simp
  | succ number ih =>
      rw [List.range_succ, List.flatMap_append, ih, List.flatMap_singleton, chunk, Nat.succ_mul,
        List.take_add]

/-- All of its chunks make up a column. -/
theorem flatMap_chunk_all {α : Type} {size : Nat} (hsize : 0 < size) (column : List α) :
    ((List.range ((column.length + size - 1) / size)).flatMap fun index =>
      chunk size index column) = column := by
  have hall : ¬ (column.length + size - 1) / size * size < column.length :=
    fun hlt => Nat.lt_irrefl _ ((lt_chunks_iff hsize).mpr hlt)
  rw [flatMap_chunk, List.take_of_length_le (Nat.not_lt.mp hall)]

/-! ## The columns of a partition -/

/-- The nodes of the chunk of a number. -/
def partAt (directory : Directory) (size index : Nat) : Partition :=
  ⟨index * size, min ((index + 1) * size) directory.nodeCount⟩

/-- The chunks of a number in all three columns. -/
def columnsAt (directory : Directory) (size index : Nat) : PartitionColumns :=
  ⟨index * size, chunk size index directory.degrees.toList,
    chunk size index directory.adjacency.toList, chunk size index directory.properties.toList⟩

/-- An aligned directory is cut into the chunks of all three columns together. -/
theorem cut_eq (h : directory.isAligned = true) (count : Nat) :
    directory.cut count =
      (List.range ((directory.nodeCount + directory.partitionSize count - 1) /
        directory.partitionSize count)).map
          (directory.columnsAt (directory.partitionSize count)) := by
  simp only [isAligned, Bool.and_eq_true, decide_eq_true_eq] at h
  simp only [cut, chunks, Array.length_toList, h.1, h.2, nodeCount]
  rw [List.zip_map', List.zip_map']
  apply List.ext_getElem
  · simp
  · intro index hindex hindex'
    simp [columnsAt, chunk]

theorem getElem?_cut (h : directory.isAligned = true) (count index : Nat) :
    (directory.cut count)[index]? =
      if index * directory.partitionSize count < directory.nodeCount then
        some (directory.columnsAt (directory.partitionSize count) index)
      else none := by
  rw [cut_eq h, List.getElem?_map]
  by_cases hinside : index * directory.partitionSize count < directory.nodeCount
  · have hindex := (lt_chunks_iff (partitionSize_pos directory count)).mpr hinside
    rw [if_pos hinside, List.getElem?_range hindex, Option.map_some]
  · have hindex := mt (lt_chunks_iff (partitionSize_pos directory count)).mp hinside
    rw [if_neg hinside, List.getElem?_eq_none (by simpa using hindex), Option.map_none]

/-- The nodes of a partition are those of its chunks. -/
theorem range_columnsAt {size index : Nat} (hinside : index * size < directory.nodeCount) :
    (directory.columnsAt size index).range = directory.partAt size index := by
  have hlength : directory.degrees.toList.length = directory.nodeCount := rfl
  simp only [PartitionColumns.range, columnsAt, partAt, length_chunk, hlength, Nat.succ_mul,
    Partition.mk.injEq, true_and]
  omega

/-- The partitions of the chunks are those that workers share. -/
theorem map_range_cut (h : directory.isAligned = true) (count : Nat) :
    (directory.cut count).map PartitionColumns.range = directory.partitions count := by
  rw [cut_eq h, partitions_eq h, List.map_map]
  refine List.map_congr_left fun index hindex => ?_
  exact range_columnsAt
    ((lt_chunks_iff (partitionSize_pos directory count)).mp (List.mem_range.mp hindex))

/-- The columns of all partitions make up the directory. -/
theorem join_cut (h : directory.isAligned = true) (count : Nat) :
    PartitionColumns.join (directory.cut count) = directory := by
  have hsize := partitionSize_pos directory count
  have haligned := h
  simp only [isAligned, Bool.and_eq_true, decide_eq_true_eq] at haligned
  have hdegrees := flatMap_chunk_all hsize directory.degrees.toList
  have hadjacency := flatMap_chunk_all hsize directory.adjacency.toList
  have hproperties := flatMap_chunk_all hsize directory.properties.toList
  rw [Array.length_toList] at hdegrees hadjacency hproperties
  rw [haligned.1] at hadjacency
  rw [haligned.2] at hproperties
  rw [cut_eq h, PartitionColumns.join]
  simp only [List.flatMap_map, columnsAt, nodeCount, hdegrees, hadjacency, hproperties,
    Array.toArray_toList]

/-! ## One write -/

/-- A write through any partition that has the node is the write through the partition of all
nodes. -/
theorem set_eq_whole {part : Partition} {node : Nat}
    (hinside : part.start ≤ node ∧ node < part.stop) (hpart : part.stop ≤ directory.nodeCount)
    (entry : DirectoryEntry) :
    directory.set part node entry = directory.set directory.whole node entry := by
  have hwhole : directory.whole.start ≤ node ∧ node < directory.whole.stop :=
    ⟨Nat.zero_le _, hinside.2.trans_le hpart⟩
  simp only [set, Partition.locate, if_pos hinside, if_pos hwhole]

/-- A node that is outside of a partition is refused, and nothing is written. -/
theorem set_of_outside {part : Partition} {node : Nat}
    (houtside : ¬ (part.start ≤ node ∧ node < part.stop)) (entry : DirectoryEntry) :
    directory.set part node entry =
      (.error (.nodeOutOfPartition node part.start part.stop), directory) := by
  simp only [set, Partition.locate, if_neg houtside]

/-- What a write into an aligned directory leaves. -/
theorem set_eq (h : directory.isAligned = true) {part : Partition} {node : Nat}
    (hinside : part.start ≤ node ∧ node < part.stop) (hpart : part.stop ≤ directory.nodeCount)
    (entry : DirectoryEntry) :
    directory.set part node entry =
      (.ok (), ⟨directory.degrees.setIfInBounds node entry.degree,
        directory.adjacency.setIfInBounds node entry.adjacency,
        directory.properties.setIfInBounds node entry.properties⟩) := by
  simp only [isAligned, Bool.and_eq_true, decide_eq_true_eq] at h
  have hnode : node < directory.degrees.size := hinside.2.trans_le hpart
  have hadjacency : ¬ directory.adjacency.size ≤ node := by rw [h.1]; exact Nat.not_le.mpr hnode
  have hproperties : ¬ directory.properties.size ≤ node := by rw [h.2]; exact Nat.not_le.mpr hnode
  simp only [set, Partition.locate, if_pos hinside, if_neg hadjacency, if_neg hproperties]

/-- A write through the chunks of a partition is answered as the write into the directory, and
leaves the chunks that it leaves. -/
theorem set_columnsAt (h : directory.isAligned = true) {size index : Nat}
    (hinside : index * size < directory.nodeCount) (node : Nat) (entry : DirectoryEntry) :
    (directory.columnsAt size index).set node entry =
      ((directory.set (directory.partAt size index) node entry).1,
        (directory.set (directory.partAt size index) node entry).2.columnsAt size index) := by
  rw [PartitionColumns.set, range_columnsAt hinside, Partition.locate]
  by_cases hnode : (directory.partAt size index).start ≤ node ∧
      node < (directory.partAt size index).stop
  · rw [set_eq h hnode (Nat.min_le_right _ _), if_pos hnode]
    simp only [isAligned, Bool.and_eq_true, decide_eq_true_eq] at h
    have hstart : index * size ≤ node := hnode.1
    have hstop : node < (index + 1) * size := hnode.2.trans_le (Nat.min_le_left _ _)
    have hcount : node < directory.degrees.size := hnode.2.trans_le (Nat.min_le_right _ _)
    rw [Nat.succ_mul] at hstop
    -- the node has a position in the chunk of each column
    have hadjacency : ¬ (chunk size index directory.adjacency.toList).length ≤
        node - index * size := by
      rw [length_chunk, Array.length_toList, h.1]
      omega
    have hproperties : ¬ (chunk size index directory.properties.toList).length ≤
        node - index * size := by
      rw [length_chunk, Array.length_toList, h.2]
      omega
    simp only [columnsAt, show (directory.partAt size index).start = index * size from rfl,
      if_neg hadjacency, if_neg hproperties, Array.toList_setIfInBounds, chunk_set_of_mem hstart]
  · rw [set_of_outside hnode, if_neg hnode]

/-- It leaves the chunks of the other partitions as they are. -/
theorem columnsAt_set_of_ne (h : directory.isAligned = true) {size index other : Nat}
    (hother : other ≠ index) (node : Nat) (entry : DirectoryEntry) :
    (directory.set (directory.partAt size index) node entry).2.columnsAt size other =
      directory.columnsAt size other := by
  by_cases hnode : (directory.partAt size index).start ≤ node ∧
      node < (directory.partAt size index).stop
  · have hstart : index * size ≤ node := hnode.1
    have hstop : node < (index + 1) * size := hnode.2.trans_le (Nat.min_le_left _ _)
    have houtside : node < other * size ∨ (other + 1) * size ≤ node := by
      rcases Nat.lt_or_gt_of_ne hother with hbefore | hbehind
      · exact .inr ((Nat.mul_le_mul_right size hbefore).trans hstart)
      · exact .inl (hstop.trans_le (Nat.mul_le_mul_right size hbehind))
    rw [set_eq h hnode (Nat.min_le_right _ _)]
    simp only [columnsAt, Array.toList_setIfInBounds, chunk_set_of_notMem houtside]
  · rw [set_of_outside hnode]

/-- A write leaves an aligned directory of as many nodes. -/
theorem set_shape (h : directory.isAligned = true) {part : Partition}
    (hpart : part.stop ≤ directory.nodeCount) (node : Nat) (entry : DirectoryEntry) :
    (directory.set part node entry).2.isAligned = true ∧
      (directory.set part node entry).2.nodeCount = directory.nodeCount := by
  by_cases hnode : part.start ≤ node ∧ node < part.stop
  · obtain ⟨after, hset, hentered⟩ := set_spec h hnode hpart entry
    rw [hset]
    exact ⟨hentered.aligned, hentered.nodeCount⟩
  · rw [set_of_outside hnode]
    exact ⟨h, rfl⟩

end Directory

namespace PartitionWrite

/-- What comes of a write through one of several partitions: it succeeds exactly if the partition
has the node. -/
def outcome (parts : List Partition) (write : PartitionWrite) : Except Failure Unit :=
  match parts[write.index]? with
  | none => .error (.fault .outOfBounds)
  | some part => (part.locate write.node).map fun _ => ()

theorem outcome_eq_ok_iff {parts : List Partition} {write : PartitionWrite} :
    write.outcome parts = .ok () ↔
      ∃ part, parts[write.index]? = some part ∧ part.start ≤ write.node ∧
        write.node < part.stop := by
  unfold outcome
  cases hpart : parts[write.index]? with
  | none => simp
  | some part =>
      by_cases hinside : part.start ≤ write.node ∧ write.node < part.stop
      · simp [Partition.locate, hinside, Except.map]
      · simp [Partition.locate, if_neg hinside, Except.map]
        simpa using hinside

/-- The writes through several partitions that succeed. -/
def succeeding (parts : List Partition) (writes : List PartitionWrite) : List PartitionWrite :=
  writes.filter fun write => (write.outcome parts).isOk

end PartitionWrite

namespace Directory

variable {directory : Directory} {count : Nat}

/-- The partition of an index, as far as there are so many. -/
theorem getElem?_partitions (h : directory.isAligned = true) (count index : Nat) :
    (directory.partitions count)[index]? =
      if index * directory.partitionSize count < directory.nodeCount then
        some (directory.partAt (directory.partitionSize count) index)
      else none := by
  rw [← map_range_cut h, List.getElem?_map, getElem?_cut h]
  by_cases hinside : index * directory.partitionSize count < directory.nodeCount
  · rw [if_pos hinside, if_pos hinside, Option.map_some, range_columnsAt hinside]
  · rw [if_neg hinside, if_neg hinside, Option.map_none]

/-- Chunks of one number that are replaced make up the directory that differs in them. -/
theorem set_cut {after : Directory} (h : directory.isAligned = true)
    (hafter : after.isAligned = true) (hcount : after.nodeCount = directory.nodeCount) {index : Nat}
    (hinside : index * directory.partitionSize count < directory.nodeCount)
    (hothers : ∀ other ≠ index, after.columnsAt (directory.partitionSize count) other =
      directory.columnsAt (directory.partitionSize count) other) :
    (directory.cut count).set index (after.columnsAt (directory.partitionSize count) index) =
      after.cut count := by
  have hsize : after.partitionSize count = directory.partitionSize count := by
    rw [partitionSize, partitionSize, hcount]
  apply List.ext_getElem?
  intro other
  rw [List.getElem?_set, getElem?_cut hafter, getElem?_cut h, hsize, hcount]
  by_cases hsame : index = other
  · subst hsame
    have hlength : index < (directory.cut count).length := by
      rw [cut_eq h, List.length_map, List.length_range]
      exact (lt_chunks_iff (partitionSize_pos directory count)).mpr hinside
    rw [if_pos rfl, if_pos hlength, if_pos hinside]
  · rw [if_neg hsame, hothers other (Ne.symm hsame)]

/-- The directory after a write through one of its partitions: the entry of a node inside of it is
written, and nothing else is. -/
def afterWrite (directory : Directory) (parts : List Partition) (write : PartitionWrite) :
    Directory :=
  if (write.outcome parts).isOk then (directory.set directory.whole write.node write.entry).2
  else directory

/-- A write through one of the partitions is answered by whether it has the node, and leaves the
chunks of the directory after it. -/
theorem write_cut (h : directory.isAligned = true) (count : Nat) (write : PartitionWrite) :
    PartitionColumns.write (directory.cut count) write =
      (write.outcome (directory.partitions count),
        (directory.afterWrite (directory.partitions count) write).cut count) := by
  obtain ⟨index, node, entry⟩ := write
  by_cases hinside : index * directory.partitionSize count < directory.nodeCount
  · have hcut : (directory.cut count)[index]? =
        some (directory.columnsAt (directory.partitionSize count) index) := by
      rw [getElem?_cut h, if_pos hinside]
    have hpart : (directory.partitions count)[index]? =
        some (directory.partAt (directory.partitionSize count) index) := by
      rw [getElem?_partitions h, if_pos hinside]
    have hstop : (directory.partAt (directory.partitionSize count) index).stop ≤
        directory.nodeCount := Nat.min_le_right _ _
    obtain ⟨haligned, hcount⟩ := set_shape h hstop node entry
    simp only [PartitionColumns.write, afterWrite, PartitionWrite.outcome, hcut, hpart,
      set_columnsAt h hinside]
    rw [set_cut h haligned hcount hinside fun other hother =>
      columnsAt_set_of_ne h hother node entry]
    by_cases hnode : (directory.partAt (directory.partitionSize count) index).start ≤ node ∧
        node < (directory.partAt (directory.partitionSize count) index).stop
    · rw [Partition.locate, if_pos hnode, set_eq_whole hnode hstop, Prod.mk.injEq]
      refine ⟨?_, rfl⟩
      rw [← set_eq_whole hnode hstop, set_eq h hnode hstop]
      rfl
    · rw [Partition.locate, if_neg hnode, set_of_outside hnode]
      rfl
  · have hcut : (directory.cut count)[index]? = none := by
      rw [getElem?_cut h, if_neg hinside]
    have hpart : (directory.partitions count)[index]? = none := by
      rw [getElem?_partitions h, if_neg hinside]
    simp only [PartitionColumns.write, afterWrite, PartitionWrite.outcome, hcut, hpart]
    rfl

/-- The directory after a write is aligned, and has as many nodes. -/
theorem afterWrite_shape (h : directory.isAligned = true) (parts : List Partition)
    (write : PartitionWrite) :
    (directory.afterWrite parts write).isAligned = true ∧
      (directory.afterWrite parts write).nodeCount = directory.nodeCount := by
  unfold afterWrite
  split
  case isTrue hinside => exact set_shape h (Nat.le_refl _) write.node write.entry
  case isFalse houtside => exact ⟨h, rfl⟩

/-- A write that succeeds enters the node, and any other write changes nothing. -/
theorem afterWrite_cases (h : directory.isAligned = true) (count : Nat) (write : PartitionWrite) :
    (write.outcome (directory.partitions count)).isOk = true ∧
        directory.set directory.whole write.node write.entry =
          (.ok (), directory.afterWrite (directory.partitions count) write) ∧
        directory.Entered (directory.afterWrite (directory.partitions count) write) write.node
          write.entry ∨
      (write.outcome (directory.partitions count)).isOk = false ∧
        directory.afterWrite (directory.partitions count) write = directory := by
  unfold afterWrite
  cases houtcome : write.outcome (directory.partitions count) with
  | error failure => exact .inr ⟨rfl, rfl⟩
  | ok value =>
      obtain ⟨part, hpart, -, hstop⟩ := PartitionWrite.outcome_eq_ok_iff.mp houtcome
      have hnode : directory.whole.start ≤ write.node ∧ write.node < directory.whole.stop :=
        ⟨Nat.zero_le _,
          hstop.trans_le (stop_le_of_mem_partitions (List.mem_of_getElem? hpart))⟩
      obtain ⟨after, hset, hentered⟩ := set_spec h hnode (Nat.le_refl _) write.entry
      rw [hset]
      exact .inl ⟨rfl, rfl, hentered⟩

/-- A write of a node that its partition has enters the node, and a write of any other node is
refused by name and changes nothing. -/
theorem afterWrite_of_part (h : directory.isAligned = true) {write : PartitionWrite}
    {part : Partition} (hpart : (directory.partitions count)[write.index]? = some part) :
    if part.start ≤ write.node ∧ write.node < part.stop then
      write.outcome (directory.partitions count) = .ok () ∧
        directory.Entered (directory.afterWrite (directory.partitions count) write) write.node
          write.entry
    else
      write.outcome (directory.partitions count) =
          .error (.nodeOutOfPartition write.node part.start part.stop) ∧
        directory.afterWrite (directory.partitions count) write = directory := by
  have hcases := afterWrite_cases h count write
  have houtcome : write.outcome (directory.partitions count) =
      (part.locate write.node).map fun _ => () := by
    rw [PartitionWrite.outcome, hpart]
  rw [houtcome] at hcases ⊢
  by_cases hinside : part.start ≤ write.node ∧ write.node < part.stop
  · rw [Partition.locate, if_pos hinside] at hcases ⊢
    rw [if_pos hinside]
    rcases hcases with ⟨-, -, hentered⟩ | ⟨hfails, -⟩
    · exact ⟨rfl, hentered⟩
    · cases hfails
  · rw [Partition.locate, if_neg hinside] at hcases ⊢
    rw [if_neg hinside]
    rcases hcases with ⟨hok, -⟩ | ⟨-, hsame⟩
    · cases hok
    · exact ⟨rfl, hsame⟩

/-! ## Sequences of writes -/

/-- Writes through the partitions are answered by whether these have the nodes, and leave the chunks
of what the succeeding ones leave through the partition of all nodes. -/
theorem writeAll_cut {parts : List Partition} (h : directory.isAligned = true)
    (hparts : directory.partitions count = parts) (writes : List PartitionWrite) :
    ∃ after, after.isAligned = true ∧ after.partitions count = parts ∧
      PartitionColumns.writeAll (directory.cut count) writes =
        (writes.map fun write => write.outcome parts, after.cut count) ∧
      directory.setAll (PartitionWrite.succeeding parts writes) =
        ((PartitionWrite.succeeding parts writes).map fun _ => .ok (), after) := by
  induction writes generalizing directory with
  | nil => exact ⟨directory, h, hparts, rfl, rfl⟩
  | cons write writes ih =>
      subst hparts
      obtain ⟨haligned, hcount⟩ := afterWrite_shape h (directory.partitions count) write
      obtain ⟨after, hafter, hparts, hwritten, hset⟩ :=
        ih haligned (partitions_congr haligned h hcount count)
      refine ⟨after, hafter, hparts, ?_, ?_⟩
      · simp only [PartitionColumns.writeAll, write_cut h, hwritten, List.map_cons]
      · rcases afterWrite_cases h count write with ⟨hok, hwhole, -⟩ | ⟨hfails, hsame⟩
        · have hsucceeding : PartitionWrite.succeeding (directory.partitions count)
              (write :: writes) =
                write :: PartitionWrite.succeeding (directory.partitions count) writes :=
            List.filter_cons_of_pos hok
          simp only [hsucceeding, setAll, hwhole, hset, List.map_cons]
        · have hsucceeding : PartitionWrite.succeeding (directory.partitions count)
              (write :: writes) =
                PartitionWrite.succeeding (directory.partitions count) writes :=
            List.filter_cons_of_neg (by simp [hfails])
          rw [hsucceeding]
          rwa [hsame] at hset

end Directory

namespace PartitionColumns

theorem writeAll_append (parts : List PartitionColumns) (writes others : List PartitionWrite) :
    writeAll parts (writes ++ others) =
      ((writeAll parts writes).1 ++ (writeAll (writeAll parts writes).2 others).1,
        (writeAll (writeAll parts writes).2 others).2) := by
  induction writes generalizing parts with
  | nil => rfl
  | cons write writes ih => simp only [List.cons_append, writeAll, ih]

end PartitionColumns

namespace Directory

variable {directory : Directory}

/-- Partitions follow each other without a gap. -/
theorem isChain_partitions (h : directory.isAligned = true) (count : Nat) :
    (directory.partitions count).IsChain fun part next => part.stop = next.start := by
  rw [List.isChain_iff_getElem]
  intro index hnext
  have hpart := getElem?_partitions h count index
  have hother := getElem?_partitions h count (index + 1)
  rw [List.getElem?_eq_getElem hnext] at hother
  rw [List.getElem?_eq_getElem (Nat.lt_of_succ_lt hnext)] at hpart
  split at hother
  case isFalse hbehind => simp at hother
  case isTrue hinside =>
    have hinside' : index * directory.partitionSize count < directory.nodeCount :=
      (Nat.mul_le_mul_right _ (Nat.le_succ index)).trans_lt hinside
    rw [if_pos hinside'] at hpart
    rw [Option.some.inj hpart, Option.some.inj hother]
    exact Nat.min_eq_left hinside.le

/-- The first of them starts with the first node. -/
theorem start_of_head?_partitions (h : directory.isAligned = true) (count : Nat) {part : Partition}
    (hpart : (directory.partitions count).head? = some part) : part.start = 0 := by
  rw [List.head?_eq_getElem?, getElem?_partitions h] at hpart
  split at hpart
  case isFalse hnone => simp at hpart
  case isTrue hsome =>
    rw [← Option.some.inj hpart]
    exact Nat.zero_mul _

theorem partitions_eq_nil_iff (h : directory.isAligned = true) (count : Nat) :
    directory.partitions count = [] ↔ directory.nodeCount = 0 := by
  rw [← List.head?_eq_none_iff, List.head?_eq_getElem?, getElem?_partitions h, Nat.zero_mul]
  split
  case isTrue hsome => simp [Nat.pos_iff_ne_zero.mp hsome]
  case isFalse hnone => simp [Nat.eq_zero_of_not_pos hnone]

/-- The partitions that workers share are at most as many as asked for, none of them empty; they
follow each other from the first node on and have every node once, and there are none without nodes.
Each holds its own chunks of the columns. Whatever writes are made through these, in whatever order,
each is answered by whether its partition has the node, and the chunks put together are what the
writes that succeed leave when they are made through the partition of all nodes. One more write
enters its node, in all three columns and nowhere else, or is refused by name and changes
nothing. -/
theorem partitions_frame_writes (h : directory.isAligned = true) (count : Nat) :
    (directory.partitions count).length ≤ max count 1 ∧
      (∀ part ∈ directory.partitions count, part.start < part.stop) ∧
      ((directory.partitions count).IsChain fun part next => part.stop = next.start) ∧
      (∀ part, (directory.partitions count).head? = some part → part.start = 0) ∧
      (directory.partitions count).flatMap Partition.nodes = List.range directory.nodeCount ∧
      (directory.partitions count = [] ↔ directory.nodeCount = 0) ∧
      (directory.cut count).map PartitionColumns.range = directory.partitions count ∧
      ∀ writes,
        let written := PartitionColumns.writeAll (directory.cut count) writes
        let succeeding := PartitionWrite.succeeding (directory.partitions count) writes
        written.1 = (writes.map fun write => write.outcome (directory.partitions count)) ∧
        directory.setAll succeeding =
          (succeeding.map fun _ => .ok (), PartitionColumns.join written.2) ∧
        ∀ write part, (directory.partitions count)[write.index]? = some part →
          let next := PartitionColumns.writeAll (directory.cut count) (writes ++ [write])
          if part.start ≤ write.node ∧ write.node < part.stop then
            write.outcome (directory.partitions count) = .ok () ∧
              (PartitionColumns.join written.2).Entered (PartitionColumns.join next.2) write.node
                write.entry
          else
            write.outcome (directory.partitions count) =
                .error (.nodeOutOfPartition write.node part.start part.stop) ∧
              next.2 = written.2 := by
  refine ⟨length_partitions_le h count, fun _ => lt_of_mem_partitions h, isChain_partitions h count,
    fun _ => start_of_head?_partitions h count, flatMap_nodes_partitions h count,
    partitions_eq_nil_iff h count, map_range_cut h count, fun writes => ?_⟩
  obtain ⟨after, haligned, hparts, hwritten, hset⟩ := writeAll_cut h rfl writes
  dsimp only
  rw [hwritten, join_cut haligned]
  refine ⟨rfl, hset, fun write part hpart => ?_⟩
  -- one more write is a write into what the writes before it left
  have hnext : (PartitionColumns.writeAll (directory.cut count) (writes ++ [write])).2 =
      (after.afterWrite (directory.partitions count) write).cut count := by
    rw [PartitionColumns.writeAll_append, hwritten]
    simp only [PartitionColumns.writeAll, write_cut haligned, hparts]
  obtain ⟨haligned', -⟩ := afterWrite_shape haligned (directory.partitions count) write
  rw [← hparts] at hpart
  have hwrite := afterWrite_of_part haligned hpart
  rw [hparts] at hwrite
  rw [hnext, join_cut haligned']
  split
  case isTrue hinside =>
    rw [if_pos hinside] at hwrite
    exact hwrite
  case isFalse houtside =>
    rw [if_neg houtside] at hwrite
    exact ⟨hwrite.1, by rw [hwrite.2]⟩

/-- Ten nodes that three workers share: a write of node 5 through its partition and one through the
partition before it. -/
theorem partitions_frame_writes_tenNodes :
    let nodes : Directory :=
      ⟨Array.replicate 10 0, Array.replicate 10 ⟨0, 0⟩, Array.replicate 10 ⟨0, 0⟩⟩
    let entry : DirectoryEntry := ⟨3, ⟨0, 8⟩, ⟨1, 16⟩⟩
    let written := PartitionColumns.writeAll (nodes.cut 3) [⟨1, 5, entry⟩, ⟨0, 5, entry⟩]
    nodes.isAligned = true ∧ nodes.partitions 3 = [⟨0, 4⟩, ⟨4, 8⟩, ⟨8, 10⟩] ∧
      written.1 = [.ok (), .error (.nodeOutOfPartition 5 0 4)] ∧
      nodes.setAll [⟨1, 5, entry⟩] = ([.ok ()], PartitionColumns.join written.2) := by
  intro nodes entry written
  have haligned : nodes.isAligned = true := by decide
  have hparts : nodes.partitions 3 = [⟨0, 4⟩, ⟨4, 8⟩, ⟨8, 10⟩] := by decide
  obtain ⟨-, -, -, -, -, -, -, hwrites⟩ := partitions_frame_writes haligned 3
  obtain ⟨houtcomes, hset, -⟩ := hwrites [⟨1, 5, entry⟩, ⟨0, 5, entry⟩]
  rw [hparts] at houtcomes hset
  exact ⟨haligned, hparts, houtcomes, hset⟩

end Directory

end CompactAdjacency
