import Mathlib
import CompactAdjacency.Batch.Basic
import CompactAdjacency.Proofs.Storage.Entries
import CompactAdjacency.Proofs.Store.Generations
import CompactAdjacency.Proofs.Store.Buffers

/-!
# What a store holds while it is filled

`Store.Sound` ties a store to the relationships of its nodes: the directory counts them, and the
records it points to are in the arenas of the current generation. Compressors are told apart by
number. Those from `founded` on were made after the last reset and write to the current arenas; the
older ones write to arenas that no longer matter, and are kept from entering nodes by the callers.
Each action of a compressor preserves the invariant, `sound_createCompressor`, `sound_close` and
`compress_spec`, and only a successful compression changes what a node holds.
-/

namespace CompactAdjacency.Store

variable {store : Store} {founded : Nat} {contents : Nat → Batch}

/-- The relationships of a node are counted in the directory and stored in the current arenas. -/
structure HoldsBatch (store : Store) (node : Nat) (batch : Batch) : Prop where
  degree : store.directory.degree node = batch.targets.length
  ascending : batch.targets.Pairwise (· ≤ ·)
  channels : batch.channels.length = store.config.channelCount.toNat
  values : ∀ values ∈ batch.channels, values.length = batch.targets.length
  records : batch.targets ≠ [] → ∃ adjacency property,
    Directory.lookup store.directory.adjacency node = .ok adjacency ∧
    Directory.lookup store.directory.properties node = .ok property ∧
    store.current.adjacency.Stores adjacency
      (Record.encode (store.config.layoutRule.layout batch.targets.length)
        (Gaps.gaps batch.targets)) ∧
    (store.config.channelCount ≠ 0 → store.current.properties.Stores property
      (Record.encodeChannels (store.config.layoutRule.layout batch.targets.length)
        batch.targets.length batch.channels))

/-- A compressor that is not closed was made after the last reset and may use an allocator. -/
def Owns (store : Store) (founded allocator : Nat) : Prop :=
  ∃ number compressor layout, founded ≤ number ∧ store.compressor? number = some compressor ∧
    compressor.allocatorOf layout = allocator

/-- The invariant of a store: every node holds its relationships, and only compressors made after
the last reset have pages open. -/
structure Sound (store : Store) (founded : Nat) (contents : Nat → Batch) : Prop where
  arenas : store.current.Valid store.config.pageSize.toNat
  aligned : store.directory.isAligned = true
  bounded : founded ≤ store.compressors.length
  stale : ∀ number compressor, store.compressor? number = some compressor → number < founded →
    compressor.generation < store.discarded.length
  fresh : ∀ number compressor, store.compressor? number = some compressor → founded ≤ number →
    compressor.generation = store.discarded.length ∧
      ∀ layout, compressor.allocatorOf layout < store.current.adjacency.current.length
  openAdjacency : ∀ allocator page,
    store.current.adjacency.current[allocator]? = some (some page) → store.Owns founded allocator
  openProperties : ∀ allocator page,
    store.current.properties.current[allocator]? = some (some page) → store.Owns founded allocator
  holds : ∀ node, store.HoldsBatch node (contents node)

/-! ## Arenas and entries -/

/-- Arenas that only grow hold what they held. -/
theorem HoldsBatch.mono {node : Nat} {batch : Batch} (h : store.HoldsBatch node batch)
    {after : Store} (hconfig : after.config = store.config)
    (hdirectory : after.directory = store.directory)
    (hadjacency : store.current.adjacency.Grows after.current.adjacency)
    (hproperties : store.current.properties.Grows after.current.properties) :
    after.HoldsBatch node batch := by
  refine ⟨hdirectory ▸ h.degree, h.ascending, hconfig ▸ h.channels, h.values, ?_⟩
  intro hne
  obtain ⟨adjacency, property, hlookup, hlookup', hstores, hstores'⟩ := h.records hne
  rw [hconfig, hdirectory]
  exact ⟨adjacency, property, hlookup, hlookup', hstores.mono hadjacency,
    fun hchannels => (hstores' hchannels).mono hproperties⟩

/-- A node that is not written holds what it held. -/
theorem HoldsBatch.of_entered {node other : Nat} {batch : Batch} (h : store.HoldsBatch other batch)
    (hother : other ≠ node) {directory : Directory} {entry : DirectoryEntry}
    (hentered : store.directory.Entered directory node entry) :
    ({ store with directory := directory } : Store).HoldsBatch other batch := by
  obtain ⟨hdegree, hadjacency', hproperty'⟩ := hentered.others other hother
  refine ⟨hdegree.trans h.degree, h.ascending, h.channels, h.values, ?_⟩
  intro hne
  obtain ⟨adjacency, property, hadjacency, hproperty, hstores⟩ := h.records hne
  exact ⟨adjacency, property, hadjacency'.trans hadjacency, hproperty'.trans hproperty, hstores⟩

/-- An action of a compressor on its allocator preserves the invariant. -/
theorem Sound.of_keeps (h : store.Sound founded contents) {generation : Generation}
    {allocator : Nat} (hkeeps : store.current.Keeps generation allocator)
    (howns : store.Owns founded allocator) :
    ({ store with current := generation } : Store).Sound founded contents := by
  refine ⟨hkeeps.valid h.arenas, h.aligned, h.bounded, h.stale, ?_, ?_, ?_,
    fun node => (h.holds node).mono rfl rfl hkeeps.adjacency.grows hkeeps.properties.grows⟩
  · intro number compressor hcompressor hnumber
    obtain ⟨hgeneration, hallocators⟩ := h.fresh number compressor hcompressor hnumber
    exact ⟨hgeneration, fun layout => hkeeps.adjacency.length ▸ hallocators layout⟩
  · intro other page hpage
    by_cases hother : other = allocator
    · exact hother ▸ howns
    · exact h.openAdjacency other page (hkeeps.adjacency.frame other hother ▸ hpage)
  · intro other page hpage
    by_cases hother : other = allocator
    · exact hother ▸ howns
    · exact h.openProperties other page (hkeeps.properties.frame other hother ▸ hpage)

/-- Entering a node that holds what is entered preserves the invariant. -/
theorem Sound.of_entered (h : store.Sound founded contents) {node : Nat} {directory : Directory}
    {entry : DirectoryEntry} (hentered : store.directory.Entered directory node entry)
    {batch : Batch}
    (hbatch : ({ store with directory := directory } : Store).HoldsBatch node batch) :
    ({ store with directory := directory } : Store).Sound founded
      (Function.update contents node batch) := by
  refine ⟨h.arenas, hentered.aligned, h.bounded, h.stale, h.fresh, h.openAdjacency,
    h.openProperties, ?_⟩
  intro other
  by_cases hother : other = node
  · subst hother
    rwa [Function.update_self]
  · rw [Function.update_of_ne hother]
    exact (h.holds other).of_entered hother hentered

/-- What the buffers of compressors hold plays no part. -/
theorem Sound.of_refilled (h : store.Sound founded contents) {after : Store}
    (hafter : store.Refilled after) : after.Sound founded contents := by
  have howns : ∀ allocator, store.Owns founded allocator → after.Owns founded allocator := by
    rintro allocator ⟨number, compressor, layout, hnumber, hcompressor, hallocator⟩
    exact ⟨number, compressor, layout, hnumber,
      (compressor?_congr hafter.writers number).trans hcompressor, hallocator⟩
  refine ⟨?_, ?_, length_congr hafter.writers ▸ h.bounded, ?_, ?_, ?_, ?_, fun node =>
    (h.holds node).mono hafter.config hafter.directory (hafter.current ▸ .refl _)
      (hafter.current ▸ .refl _)⟩
  · rw [hafter.current, hafter.config]
    exact h.arenas
  · rw [hafter.directory]
    exact h.aligned
  · intro number compressor hcompressor
    rw [hafter.discarded]
    rw [compressor?_congr hafter.writers] at hcompressor
    exact h.stale number compressor hcompressor
  · intro number compressor hcompressor
    rw [hafter.discarded, hafter.current]
    rw [compressor?_congr hafter.writers] at hcompressor
    exact h.fresh number compressor hcompressor
  · intro allocator page hpage
    rw [hafter.current] at hpage
    exact howns allocator (h.openAdjacency allocator page hpage)
  · intro allocator page hpage
    rw [hafter.current] at hpage
    exact howns allocator (h.openProperties allocator page hpage)

/-! ## Creating and closing compressors -/

/-- A new compressor is the last one. -/
theorem compressor?_createCompressor (store : Store) (number : Nat) :
    store.createCompressor.compressor? number =
      if number = store.compressors.length then
        some ⟨store.discarded.length, store.current.adjacency.current.length⟩
      else store.compressor? number := by
  unfold compressor? openCompressor? createCompressor
  split
  case isTrue hlast =>
    subst hlast
    simp [OpenCompressor.ofCompressor]
  case isFalse hother =>
    rcases Nat.lt_or_gt_of_ne hother with hlt | hgt
    · rw [List.getElem?_append_left hlt]
    · rw [List.getElem?_eq_none (by simp; omega), List.getElem?_eq_none (by omega)]

/-- A worker that joins has no page open. -/
theorem openPage_of_join {workers : Allocators} {allocator : Nat} {page : Page}
    (h : workers.join.join.current[allocator]? = some (some page)) :
    workers.current[allocator]? = some (some page) := by
  simp only [Allocators.join, List.append_assoc] at h
  by_cases hlt : allocator < workers.current.length
  · rwa [List.getElem?_append_left hlt] at h
  · rw [List.getElem?_append_right (Nat.not_lt.mp hlt)] at h
    have hmem := List.mem_of_getElem? h
    simp at hmem

/-- Creating a compressor preserves the invariant. -/
theorem sound_createCompressor (h : store.Sound founded contents) :
    store.createCompressor.Sound founded contents := by
  have howns : ∀ allocator, store.Owns founded allocator →
      store.createCompressor.Owns founded allocator := by
    rintro allocator ⟨number, compressor, layout, hnumber, hcompressor, hallocator⟩
    refine ⟨number, compressor, layout, hnumber, ?_, hallocator⟩
    have hne : number ≠ store.compressors.length := by
      rintro rfl
      simp [compressor?_of_length_le] at hcompressor
    rwa [compressor?_createCompressor, if_neg hne]
  refine ⟨Generation.valid_join h.arenas, h.aligned, ?_, ?_, ?_, ?_, ?_, ?_⟩
  · have := h.bounded
    simp only [createCompressor, List.length_append]
    omega
  · intro number compressor hcompressor hnumber
    have hne : number ≠ store.compressors.length := (hnumber.trans_le h.bounded).ne
    rw [compressor?_createCompressor, if_neg hne] at hcompressor
    exact h.stale number compressor hcompressor hnumber
  · intro number compressor hcompressor hnumber
    have hlength : store.createCompressor.current.adjacency.current.length =
        store.current.adjacency.current.length + 2 := by
      simp [createCompressor, Generation.join, Allocators.join]
    rw [compressor?_createCompressor] at hcompressor
    rw [hlength]
    split at hcompressor
    case isTrue hlast =>
      obtain rfl := Option.some.inj hcompressor
      refine ⟨rfl, fun layout => ?_⟩
      cases layout with
      | packed => exact Nat.lt_add_of_pos_right (by omega)
      | varint => exact Nat.lt_succ_self _
    case isFalse hother =>
      obtain ⟨hgeneration, hallocators⟩ := h.fresh number compressor hcompressor hnumber
      exact ⟨hgeneration, fun layout => (hallocators layout).trans (by omega)⟩
  · intro allocator page hpage
    exact howns allocator (h.openAdjacency allocator page (openPage_of_join hpage))
  · intro allocator page hpage
    exact howns allocator (h.openProperties allocator page (openPage_of_join hpage))
  · intro node
    exact (h.holds node).mono rfl rfl
      ((Allocators.join_grows _).trans (Allocators.join_grows _))
      ((Allocators.join_grows _).trans (Allocators.join_grows _))

/-- A closed compressor is gone, and the others are as they were. -/
theorem compressor?_set_none (store : Store) (number other : Nat) :
    ({ store with compressors := store.compressors.set number none } : Store).compressor? other =
      if other = number then none else store.compressor? other := by
  unfold compressor? openCompressor?
  split
  case isTrue heq =>
    subst heq
    rcases Nat.lt_or_ge other store.compressors.length with hlt | hge
    · simp [hlt]
    · simp [hge]
  case isFalse hne => rw [List.getElem?_set_ne (Ne.symm hne)]

/-- Closing a compressor changes nothing but the compressor and the arenas. -/
theorem close_shape (store : Store) (number : Nat) :
    (store.close number).config = store.config ∧
      (store.close number).directory = store.directory ∧
      (store.close number).compressors = store.compressors.set number none := by
  unfold close
  split
  case h_1 hmissing =>
    refine ⟨rfl, rfl, ?_⟩
    rcases Nat.lt_or_ge number store.compressors.length with hlt | hge
    · have hnone : store.compressors[number] = none := by
        simpa [compressor?, openCompressor?, hlt] using hmissing
      rw [← hnone, List.set_getElem_self]
    · rw [List.set_eq_of_length_le hge]
  case h_2 compressor hfound =>
    dsimp only
    split
    case h_1 hmissing => exact ⟨rfl, rfl, rfl⟩
    case h_2 generation hgeneration =>
      obtain ⟨hconfig, hcompressors, -⟩ := setGeneration_shape
        { store with compressors := store.compressors.set number none } compressor.generation
        ((generation.retire (compressor.allocatorOf .packed)).retire
          (compressor.allocatorOf .varint))
      exact ⟨hconfig, setGeneration_directory _ _ _, hcompressors⟩

/-- A closed compressor is gone, and the others are as they were. -/
theorem compressor?_close (store : Store) (number other : Nat) :
    (store.close number).compressor? other =
      if other = number then none else store.compressor? other := by
  rw [← compressor?_set_none, compressor?, openCompressor?, (close_shape store number).2.2]
  rfl

/-- A compressor without open pages may be forgotten. -/
theorem Sound.of_set_none (h : store.Sound founded contents) (number : Nat)
    (hadjacency : ∀ compressor, store.compressor? number = some compressor → founded ≤ number →
      ∀ layout page, store.current.adjacency.current[compressor.allocatorOf layout]? ≠
        some (some page))
    (hproperties : ∀ compressor, store.compressor? number = some compressor → founded ≤ number →
      ∀ layout page, store.current.properties.current[compressor.allocatorOf layout]? ≠
        some (some page)) :
    ({ store with compressors := store.compressors.set number none } : Store).Sound founded
      contents := by
  have hremain : ∀ other compressor,
      ({ store with compressors := store.compressors.set number none } : Store).compressor? other =
        some compressor → store.compressor? other = some compressor := by
    intro other compressor hother
    rw [compressor?_set_none] at hother
    split at hother
    case isTrue heq => simp at hother
    case isFalse hne => exact hother
  refine ⟨h.arenas, h.aligned, by simpa using h.bounded, ?_, ?_, ?_, ?_, ?_⟩
  · intro other compressor hother
    exact h.stale other compressor (hremain other compressor hother)
  · intro other compressor hother
    exact h.fresh other compressor (hremain other compressor hother)
  · intro allocator page hpage
    obtain ⟨other, compressor, layout, hfresh, hother, rfl⟩ := h.openAdjacency allocator page hpage
    refine ⟨other, compressor, layout, hfresh, ?_, rfl⟩
    rw [compressor?_set_none, if_neg, hother]
    rintro rfl
    exact hadjacency compressor hother hfresh layout page hpage
  · intro allocator page hpage
    obtain ⟨other, compressor, layout, hfresh, hother, rfl⟩ := h.openProperties allocator page hpage
    refine ⟨other, compressor, layout, hfresh, ?_, rfl⟩
    rw [compressor?_set_none, if_neg, hother]
    rintro rfl
    exact hproperties compressor hother hfresh layout page hpage
  · intro node
    exact (h.holds node).mono rfl rfl (.refl _) (.refl _)

/-- Arenas of earlier generations play no part. -/
theorem Sound.of_discarded (h : store.Sound founded contents) {discarded : List Generation}
    (hlength : discarded.length = store.discarded.length) :
    ({ store with discarded := discarded } : Store).Sound founded contents := by
  refine ⟨h.arenas, h.aligned, h.bounded, ?_, ?_, h.openAdjacency, h.openProperties, ?_⟩
  · intro number compressor hcompressor hnumber
    exact hlength ▸ h.stale number compressor hcompressor hnumber
  · intro number compressor hcompressor hnumber
    exact hlength ▸ h.fresh number compressor hcompressor hnumber
  · intro node
    exact (h.holds node).mono rfl rfl (.refl _) (.refl _)

/-- Closing a compressor that was made before the last reset changes discarded arenas only. -/
theorem sound_close_stale (h : store.Sound founded contents) {number : Nat}
    {compressor : Compressor} (hcompressor : store.compressor? number = some compressor)
    (hnumber : number < founded) : (store.close number).Sound founded contents := by
  have hstale := h.stale number compressor hcompressor hnumber
  have hset := h.of_set_none number (fun _ _ hfresh => absurd hnumber (Nat.not_lt.mpr hfresh))
    fun _ _ hfresh => absurd hnumber (Nat.not_lt.mpr hfresh)
  simp only [close, hcompressor]
  split
  case h_1 hmissing => exact hset
  case h_2 generation hfound =>
    rw [setGeneration, if_neg (show compressor.generation ≠ store.discarded.length from hstale.ne)]
    exact hset.of_discarded List.length_set

/-- Closing a compressor that was made after the last reset returns its pages to the current
arenas. -/
theorem sound_close_fresh (h : store.Sound founded contents) {number : Nat}
    {compressor : Compressor} (hcompressor : store.compressor? number = some compressor)
    (hnumber : founded ≤ number) : (store.close number).Sound founded contents := by
  have howns : ∀ layout, store.Owns founded (compressor.allocatorOf layout) :=
    fun layout => ⟨number, compressor, layout, hnumber, hcompressor, rfl⟩
  -- both allocators are retired before the compressor is forgotten
  obtain ⟨hpacked, hadjacency, hproperties⟩ :=
    Generation.retire_spec h.arenas (compressor.allocatorOf .packed)
  have hfirst := h.of_keeps hpacked (howns .packed)
  obtain ⟨hvarint, hadjacency', hproperties'⟩ :=
    Generation.retire_spec hfirst.arenas (compressor.allocatorOf .varint)
  have hsecond := hfirst.of_keeps hvarint (howns .varint)
  have hne : compressor.allocatorOf .packed ≠ compressor.allocatorOf .varint :=
    Nat.ne_of_lt (Nat.lt_succ_self _)
  have hclose : store.close number =
      { store with
        current := (store.current.retire (compressor.allocatorOf .packed)).retire
          (compressor.allocatorOf .varint)
        compressors := store.compressors.set number none } := by
    have hgeneration := (h.fresh number compressor hcompressor hnumber).1
    simp only [close, hcompressor, generation?, setGeneration, hgeneration, if_true,
      List.getElem?_concat_length]
  rw [hclose]
  refine hsecond.of_set_none number ?_ ?_
  · intro other hother _ layout page
    obtain rfl := Option.some.inj (hcompressor.symm.trans hother)
    cases layout with
    | packed =>
        rw [hvarint.adjacency.frame _ hne]
        exact hadjacency page
    | varint => exact hadjacency' page
  · intro other hother _ layout page
    obtain rfl := Option.some.inj (hcompressor.symm.trans hother)
    cases layout with
    | packed =>
        rw [hvarint.properties.frame _ hne]
        exact hproperties page
    | varint => exact hproperties' page

/-- Closing a compressor preserves the invariant. -/
theorem sound_close (h : store.Sound founded contents) (number : Nat) :
    (store.close number).Sound founded contents := by
  cases hcompressor : store.compressor? number with
  | none =>
      rw [close, hcompressor]
      exact h
  | some compressor =>
      rcases Nat.lt_or_ge number founded with hstale | hfresh
      · exact sound_close_stale h hcompressor hstale
      · exact sound_close_fresh h hcompressor hfresh

end CompactAdjacency.Store
