import Mathlib
import CompactAdjacency.Proofs.Storage.Freezing
import CompactAdjacency.Store

/-!
# The two arenas of a store

A compressor uses one allocator of the same number in the neighbor arena and in the property arena.
`Generation.Keeps` says that both arenas keep what workers keep, and `Generation.insert_spec` that
the records of a node are found where the insertion says, or that it was refused for want of memory.
-/

namespace CompactAdjacency.Generation

variable {generation after : Generation} {allocator pageSize : Nat}

/-- Both arenas are valid and have the same workers. -/
structure Valid (generation : Generation) (pageSize : Nat) : Prop where
  adjacency : generation.adjacency.Valid
  properties : generation.properties.Valid
  adjacencySize : generation.adjacency.pool.pageSize = pageSize
  propertiesSize : generation.properties.pool.pageSize = pageSize
  parallel : generation.properties.current.length = generation.adjacency.current.length

/-- Both arenas keep what they have to when a worker acts on them. -/
structure Keeps (generation after : Generation) (allocator : Nat) : Prop where
  adjacency : generation.adjacency.Keeps after.adjacency allocator
  properties : generation.properties.Keeps after.properties allocator

/-- A generation stays valid. -/
theorem Keeps.valid (h : generation.Keeps after allocator) (hvalid : generation.Valid pageSize) :
    after.Valid pageSize :=
  { adjacency := h.adjacency.valid
    properties := h.properties.valid
    adjacencySize := h.adjacency.pageSize.trans hvalid.adjacencySize
    propertiesSize := h.properties.pageSize.trans hvalid.propertiesSize
    parallel := by
      rw [h.adjacency.length, h.properties.length]
      exact hvalid.parallel }

theorem valid_ofPageSize {pageSize : Nat} (h : pageSize < UInt32.size) :
    (ofPageSize pageSize).Valid pageSize := by
  have hempty : (Allocators.ofPool (.ofPageSize pageSize)).Valid :=
    ⟨h, by simp [Allocators.pages, Allocators.ofPool, PagePool.ofPageSize, List.reduceOption]⟩
  exact ⟨hempty, hempty, rfl, rfl, rfl⟩

theorem valid_join (h : generation.Valid pageSize) : generation.join.Valid pageSize := by
  refine ⟨Allocators.join_valid (Allocators.join_valid h.adjacency),
    Allocators.join_valid (Allocators.join_valid h.properties), h.adjacencySize,
    h.propertiesSize, ?_⟩
  simp [join, Allocators.join, h.parallel]

/-! ## Writing -/

/-- What an insertion of the records of a node leaves. -/
structure Inserted (generation after : Generation) (allocator : Nat) (adjacency : Bytes)
    (properties : Option Bytes) (outcome : Except Failure (Address × Address)) : Prop where
  keeps : generation.Keeps after allocator
  relationships : after.relationships = generation.relationships
  /-- The records are found at the addresses answered. -/
  stores : ∀ address property, outcome = .ok (address, property) →
    after.adjacency.Stores address adjacency ∧
      ∀ record, properties = some record → after.properties.Stores property record
  /-- An insertion fails only for want of memory. -/
  failure : ∀ failure, outcome = .error failure →
    ∃ capacity, failure = .capacityExhausted capacity

/-- Inserting the records of a node keeps both arenas. The page numbers must not be used up. -/
theorem insert_spec (h : generation.Valid pageSize)
    (hallocator : allocator < generation.adjacency.current.length) (adjacency : Bytes)
    (properties : Option Bytes)
    (hnumbers : (generation.insert allocator adjacency properties).1 ≠
      .error (.capacityExhausted pageSize)) :
    Inserted generation (generation.insert allocator adjacency properties).2 allocator adjacency
      properties (generation.insert allocator adjacency properties).1 := by
  have hfirst := Allocators.insert_spec h.adjacency allocator adjacency
  have herror := Allocators.insert_error hallocator adjacency
  rw [h.adjacencySize] at hfirst
  unfold insert at hnumbers ⊢
  rcases hadjacency : generation.adjacency.insert allocator adjacency with ⟨outcome, arena⟩
  rw [hadjacency] at hfirst herror
  cases outcome with
  | error failure =>
      rw [hadjacency] at hnumbers
      refine ⟨⟨(hfirst (by simpa using hnumbers)).1, .refl h.properties allocator⟩, rfl, by simp,
        ?_⟩
      simpa using herror
  | ok address =>
      obtain ⟨hkeeps, hstores⟩ := hfirst (by simp)
      cases properties with
      | none =>
          -- nothing is written to the property arena
          refine ⟨⟨hkeeps, .refl h.properties allocator⟩, rfl, ?_, by simp⟩
          rintro _ _ ⟨⟩
          exact ⟨hstores address rfl, by simp⟩
      | some record =>
          have hsecond := Allocators.insert_spec h.properties allocator record
          have herror' := Allocators.insert_error (h.parallel ▸ hallocator) record
          rw [h.propertiesSize] at hsecond
          rw [hadjacency] at hnumbers
          rcases hproperties : generation.properties.insert allocator record with ⟨outcome, arena'⟩
          rw [hproperties] at hsecond herror'
          simp only [hproperties] at hnumbers ⊢
          cases outcome with
          | error failure =>
              -- the neighbor record stays in its arena, though no entry points to it
              refine ⟨⟨hkeeps, (hsecond (by simpa using hnumbers)).1⟩, rfl, by simp, ?_⟩
              simpa using herror'
          | ok property =>
              obtain ⟨hkeeps', hstores'⟩ := hsecond (by simp)
              refine ⟨⟨hkeeps, hkeeps'⟩, rfl, ?_, by simp⟩
              rintro _ _ ⟨⟩
              refine ⟨hstores address rfl, ?_⟩
              rintro _ ⟨⟩
              exact hstores' property rfl

/-! ## Returning pages -/

/-- Returning the pages of an allocator keeps both arenas, and it has none open after that. -/
theorem retire_spec (h : generation.Valid pageSize) (allocator : Nat) :
    generation.Keeps (generation.retire allocator) allocator ∧
      (∀ page, (generation.retire allocator).adjacency.current[allocator]? ≠ some (some page)) ∧
      ∀ page, (generation.retire allocator).properties.current[allocator]? ≠ some (some page) := by
  obtain ⟨hadjacency, hclosed⟩ := Allocators.retire_spec h.adjacency allocator
  obtain ⟨hproperties, hclosed'⟩ := Allocators.retire_spec h.properties allocator
  exact ⟨⟨hadjacency, hproperties⟩, hclosed, hclosed'⟩

end CompactAdjacency.Generation
