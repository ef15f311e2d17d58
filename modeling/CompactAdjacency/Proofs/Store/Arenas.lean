import Mathlib
import CompactAdjacency.Proofs.Storage.Limits
import CompactAdjacency.Proofs.Store.History

/-!
# The current arenas through any history

Whatever compressors do, made before the last reset or after it, the current arenas see nothing but
workers that join, insert and return pages. A property of arenas that this cannot destroy,
`Generation.Lasting`, therefore holds after every history without a reset, `run_lasting`. Short
pages are such a property, and used-up page numbers are another one: after an action that found none
an arena is full, `run_full`, and full arenas do not freeze, so that a store that freezes is sound
however many page numbers were asked for, `Started.sound_of_freeze`.
-/

namespace CompactAdjacency

/-! ## Lasting properties -/

/-- A property that no action of a worker destroys. -/
structure Allocators.Lasting (P : Allocators → Prop) : Prop where
  join : ∀ workers, P workers → P workers.join
  insert : ∀ workers worker record, P workers → P (workers.insert worker record).2
  retire : ∀ workers worker, P workers → P (workers.retire worker)

theorem Allocators.lasting_bounded : Lasting Bounded :=
  ⟨fun workers h => h.of_perm (by rw [pages_join]) rfl, fun _ worker record h =>
    h.insert worker record, fun workers worker h =>
    h.of_perm (retire_pages workers worker).1 (retire_pages workers worker).2.2⟩

theorem Allocators.lasting_full : Lasting Full :=
  ⟨fun workers h => h.of_perm (by rw [pages_join]) rfl, fun _ worker record h =>
    h.insert worker record, fun workers worker h =>
    h.of_perm (retire_pages workers worker).1 (retire_pages workers worker).2.1⟩

namespace Generation

variable {P : Allocators → Prop} {generation : Generation}

/-- A property that no action of a compressor destroys. -/
structure Lasting (Q : Generation → Prop) : Prop where
  join : ∀ generation, Q generation → Q generation.join
  insert : ∀ generation allocator adjacency properties, Q generation →
    Q (generation.insert allocator adjacency properties).2
  retire : ∀ generation allocator, Q generation → Q (generation.retire allocator)
  count : ∀ (generation : Generation) relationships, Q generation →
    Q { generation with relationships := relationships }

/-- An insertion acts on the neighbor arena, and on the property arena or not at all. -/
theorem insert_arenas (generation : Generation) (allocator : Nat) (adjacency : Bytes)
    (properties : Option Bytes) :
    let after := (generation.insert allocator adjacency properties).2
    after.adjacency = (generation.adjacency.insert allocator adjacency).2 ∧
      (after.properties = generation.properties ∨
        ∃ record, after.properties = (generation.properties.insert allocator record).2) ∧
      after.relationships = generation.relationships := by
  unfold insert
  rcases generation.adjacency.insert allocator adjacency with ⟨outcome, arena⟩
  cases outcome with
  | error failure => exact ⟨rfl, .inl rfl, rfl⟩
  | ok address =>
      cases properties with
      | none => exact ⟨rfl, .inl rfl, rfl⟩
      | some record =>
          rcases hinsert : generation.properties.insert allocator record with ⟨outcome', arena'⟩
          dsimp only
          rw [hinsert]
          cases outcome' with
          | error failure => exact ⟨rfl, .inr ⟨record, by rw [hinsert]⟩, rfl⟩
          | ok property => exact ⟨rfl, .inr ⟨record, by rw [hinsert]⟩, rfl⟩

/-- What lasts in each arena lasts in both. -/
theorem lasting_both (h : Allocators.Lasting P) :
    Lasting fun generation => P generation.adjacency ∧ P generation.properties where
  join generation hboth := ⟨h.join _ (h.join _ hboth.1), h.join _ (h.join _ hboth.2)⟩
  retire generation allocator hboth := ⟨h.retire _ _ hboth.1, h.retire _ _ hboth.2⟩
  count _ _ hboth := hboth
  insert generation allocator adjacency properties hboth := by
    obtain ⟨hadjacency, hproperties, -⟩ :=
      insert_arenas generation allocator adjacency properties
    rw [hadjacency]
    refine ⟨h.insert _ _ _ hboth.1, ?_⟩
    obtain hsame | ⟨record, hinsert⟩ := hproperties
    · exact hsame ▸ hboth.2
    · exact hinsert ▸ h.insert _ _ _ hboth.2

/-- What lasts in each arena lasts in one of them. -/
theorem lasting_either (h : Allocators.Lasting P) :
    Lasting fun generation => P generation.adjacency ∨ P generation.properties where
  join generation := Or.imp (fun hP => h.join _ (h.join _ hP)) fun hP => h.join _ (h.join _ hP)
  retire generation allocator := Or.imp (h.retire _ _) (h.retire _ _)
  count _ _ heither := heither
  insert generation allocator adjacency properties heither := by
    obtain ⟨hadjacency, hproperties, -⟩ :=
      insert_arenas generation allocator adjacency properties
    rw [hadjacency]
    refine heither.imp (h.insert _ _ _) ?_
    intro hP
    obtain hsame | ⟨record, hinsert⟩ := hproperties
    · exact hsame ▸ hP
    · exact hinsert ▸ h.insert _ _ _ hP

/-- Both arenas have pages shorter than memory that is refused. -/
def Bounded (generation : Generation) : Prop :=
  generation.adjacency.Bounded ∧ generation.properties.Bounded

/-- One of the arenas has used up its page numbers. -/
def Full (generation : Generation) : Prop :=
  generation.adjacency.Full ∨ generation.properties.Full

/-- Both arenas have more page numbers than open pages. -/
def FewOpen (generation : Generation) : Prop :=
  generation.adjacency.FewOpen ∧ generation.properties.FewOpen

instance (generation : Generation) : Decidable generation.FewOpen :=
  inferInstanceAs (Decidable (generation.adjacency.FewOpen ∧ generation.properties.FewOpen))

theorem lasting_bounded : Lasting Bounded := lasting_both Allocators.lasting_bounded

theorem lasting_full : Lasting Full := lasting_either Allocators.lasting_full

/-- An insertion that finds no page number leaves a full arena. -/
theorem insert_full {pageSize allocator : Nat} (h : generation.Valid pageSize)
    {adjacency : Bytes} {properties : Option Bytes}
    (hexhausted : (generation.insert allocator adjacency properties).1 =
      .error (.capacityExhausted pageSize)) :
    (generation.insert allocator adjacency properties).2.Full := by
  have hfirst := Allocators.full_of_exhausted h.adjacency allocator adjacency
  rw [h.adjacencySize] at hfirst
  unfold insert at hexhausted ⊢
  rcases hadjacency : generation.adjacency.insert allocator adjacency with ⟨outcome, arena⟩
  rw [hadjacency] at hfirst hexhausted
  cases outcome with
  | error failure => exact .inl (hfirst (by simpa using hexhausted))
  | ok address =>
      cases properties with
      | none => simp at hexhausted
      | some record =>
          have hsecond := Allocators.full_of_exhausted h.properties allocator record
          rw [h.propertiesSize] at hsecond
          rcases hproperties : generation.properties.insert allocator record with
            ⟨outcome', arena'⟩
          rw [hproperties] at hsecond
          simp only [hproperties] at hexhausted ⊢
          cases outcome' with
          | error failure => exact .inr (hsecond (by simpa using hexhausted))
          | ok property => simp at hexhausted

end Generation

namespace Store

variable {store : Store} {config : Config} {founded : Nat} {contents : Nat → Batch}
variable {Q : Generation → Prop}

/-! ## Along a history -/

/-- Replacing a generation leaves the current one or replaces it. -/
theorem setGeneration_holds (hcurrent : Q store.current) {number : Nat} {generation : Generation}
    (h : number = store.discarded.length → Q generation) :
    Q (store.setGeneration number generation).current := by
  unfold setGeneration
  split
  case isTrue hlast => exact h hlast
  case isFalse hother => exact hcurrent

/-- The last generation is the current one. -/
theorem eq_current_of_generation? {number : Nat} {generation : Generation}
    (h : store.generation? number = some generation) (hlast : number = store.discarded.length) :
    generation = store.current := by
  subst hlast
  exact (Option.some.inj (h.symm.trans (generation?_current store)))

/-- A property of the current arenas that returned pages do not change survives the closing of a
compressor. -/
theorem close_holds
    (hretire : ∀ generation allocator, Q generation → Q (generation.retire allocator))
    (h : Q store.current) (number : Nat) : Q (store.close number).current := by
  unfold close
  dsimp only
  split
  case h_1 hmissing => exact h
  case h_2 compressor hcompressor =>
    split
    case h_1 hmissing => exact h
    case h_2 generation hfound =>
      have hclosed : Q ({ store with compressors := store.compressors.set number none } :
          Store).current := h
      refine setGeneration_holds hclosed fun hlast => hretire _ _ (hretire _ _ ?_)
      exact eq_current_of_generation? hfound hlast ▸ h

/-- A property of the current arenas survives the writing of a node if the compressor is of an
earlier generation or the property is lasting. -/
theorem commit_holds {compressor : Compressor}
    (hQ : compressor.generation = store.discarded.length → Generation.Lasting Q)
    (h : Q store.current) (part : Partition) (node degree : Nat) (encoded : EncodedNode) :
    Q (store.commit compressor part node degree encoded).2.current := by
  unfold commit
  split
  case isTrue hzero =>
    rcases henter : store.enter part node ⟨0, .zero, .zero⟩ with ⟨outcome, after⟩
    obtain rfl : (store.enter part node ⟨0, .zero, .zero⟩).2 = after := by rw [henter]
    cases outcome with
    | error failure => exact h
    | ok done => exact h
  case isFalse hpos =>
    dsimp only
    split
    case h_1 hmissing => exact h
    case h_2 generation hfound =>
      -- a compressor of an earlier generation writes to arenas that nothing is said about
      have hinserted : ∀ after outcome, generation.insert
          (compressor.allocatorOf (store.config.layoutRule.layout degree)) encoded.adjacency
          (if store.config.channelCount = 0 then none else some encoded.properties) =
            (outcome, after) → compressor.generation = store.discarded.length → Q after := by
        intro after outcome hinsert hlast
        obtain rfl := eq_current_of_generation? hfound hlast
        have hafter : (store.current.insert _ _ _).2 = after := congrArg Prod.snd hinsert
        exact hafter ▸ (hQ hlast).insert _ _ _ _ h
      split
      case h_1 failure after hinsert =>
        exact setGeneration_holds h (hinserted after _ hinsert)
      case h_2 adjacency property after hinsert =>
        have hwritten : Q (store.setGeneration compressor.generation after).current :=
          setGeneration_holds h (hinserted after _ hinsert)
        split
        case h_1 failure entered henter =>
          obtain rfl := congrArg Prod.snd henter
          exact hwritten
        case h_2 entered henter =>
          obtain rfl : ((store.setGeneration compressor.generation after).enter part node
              ⟨degree.toUInt32, adjacency, property⟩).2 = entered := congrArg Prod.snd henter
          have hentered : Q ((store.setGeneration compressor.generation after).enter part node
              ⟨degree.toUInt32, adjacency, property⟩).2.current := hwritten
          refine setGeneration_holds hentered fun hlast => ?_
          have hlast' := hlast.trans (setGeneration_shape store compressor.generation after).2.2
          exact (hQ hlast').count _ _ (hinserted after _ hinsert hlast')

/-- A property of the current arenas survives a compression if the compressor is of an earlier
generation or the property is lasting. -/
theorem compress_holds {number : Nat}
    (hQ : ∀ compressor, store.compressor? number = some compressor →
      compressor.generation = store.discarded.length → Generation.Lasting Q)
    (h : Q store.current) (part : Partition) (node : Nat) (targets : List UInt64)
    (channels : List (List Binary64)) (degree : Nat) :
    Q (store.compress number part node targets channels degree).store.current := by
  rcases store.compress_cases number part node targets channels degree with
    ⟨-, hcompress⟩ | ⟨compressor, hcompressor,
      ⟨failure, -, hcompress⟩ | ⟨encoded, after, -, hafter, hcompress⟩⟩
  · rw [hcompress]
    exact h
  · rw [hcompress]
    exact h
  · rw [hcompress, hafter.current]
    exact commit_holds (hQ compressor hcompressor) h part node degree encoded

/-- A lasting property of the current arenas survives every action but a reset. -/
theorem step_lasting (hQ : Generation.Lasting Q) (h : Q store.current) {action : StoreAction}
    (hsince : action.SinceReset founded) : Q (store.step action).2.current := by
  cases action with
  | createCompressor => exact hQ.join _ h
  | reset nodeCount => exact hsince.elim
  | compress number choice node targets channels degree =>
      unfold step
      dsimp only
      split
      case h_1 fault hpart => exact h
      case h_2 part hpart =>
        exact compress_holds (fun _ _ _ => hQ) h part node targets channels degree
  | close number => exact close_holds hQ.retire h number

/-- A lasting property of the current arenas survives every history without a reset. -/
theorem run_lasting (hQ : Generation.Lasting Q) (h : Q store.current) {actions : List StoreAction}
    (hsince : ∀ action ∈ actions, action.SinceReset founded) :
    Q (store.run actions).2.current := by
  induction actions generalizing store with
  | nil => exact h
  | cons action rest ih =>
      exact ih (step_lasting hQ h (hsince action (by simp))) fun other hother =>
        hsince other (List.mem_cons_of_mem _ hother)

/-- The arenas of a started store are empty. -/
theorem Started.current {nodeCount : Nat} (h : Started config nodeCount store) :
    store.current = .ofPageSize config.pageSize.toNat := by
  have hconfig := h.sound.1
  cases h with
  | created h =>
      obtain ⟨-, directory, -, rfl⟩ := create_eq_ok_iff.mp h
      rfl
  | reset count first actions hfirst h =>
      obtain ⟨directory, -, rfl⟩ := reset_eq_ok_iff.mp h
      exact congrArg (fun config : Config => Generation.ofPageSize config.pageSize.toNat) hconfig

/-- The directory of a started store is a new one. -/
theorem Started.directory {nodeCount : Nat} (h : Started config nodeCount store) :
    Directory.ofNodeCount nodeCount = .ok store.directory := by
  cases h with
  | created h =>
      obtain ⟨-, directory, hdirectory, rfl⟩ := create_eq_ok_iff.mp h
      exact hdirectory
  | reset count first actions hfirst h =>
      obtain ⟨directory, hdirectory, rfl⟩ := reset_eq_ok_iff.mp h
      exact hdirectory

/-- Pages stay short after any history of a started store. -/
theorem Started.run_bounded {nodeCount : Nat} (hstart : Started config nodeCount store)
    {actions : List StoreAction}
    (hsince : ∀ action ∈ actions, action.SinceReset store.compressors.length) :
    (store.run actions).2.current.Bounded := by
  refine run_lasting Generation.lasting_bounded ?_ hsince
  have hvalid := hstart.sound.2.2.arenas
  have hsize : config.pageSize.toNat < UInt32.size := by
    rw [← hstart.sound.1, ← hvalid.adjacencySize]
    exact hvalid.adjacency.pageSize
  rw [hstart.current]
  exact ⟨Allocators.bounded_ofPageSize hsize, Allocators.bounded_ofPageSize hsize⟩

/-! ## Used-up page numbers -/

/-- No refusal of a node is a want of memory. -/
theorem ofTargets_ne_exhausted {part : Partition} {node : Nat} {targets : List UInt64}
    {channels : List (List Binary64)} {degree capacity : Nat} :
    EncodedNode.ofTargets config part node targets channels degree ≠
      .error (.capacityExhausted capacity) := by
  intro h
  simp only [EncodedNode.ofTargets, EncodedNode.check, bind_eq_error_iff] at h
  obtain (hlocate | ⟨-, -, hcheck⟩) | ⟨-, -, hgaps | ⟨gaps, -, hlast⟩⟩ := h
  · unfold Partition.locate at hlocate
    split at hlocate <;> simp at hlocate
  · split at hcheck
    case isTrue hdegree => simp at hcheck
    case isFalse hdegree =>
      split at hcheck
      case isTrue hchannels => simp at hcheck
      case isFalse hchannels => split at hcheck <;> simp at hcheck
  · unfold Gaps.encode at hgaps
    split at hgaps <;> simp at hgaps
  · simp [pure, Except.pure] at hlast

/-- A compression that finds no page number leaves a full arena. -/
theorem compress_full (h : store.Sound founded contents) {number : Nat} (hnumber : founded ≤ number)
    {part : Partition} (hpart : part.stop ≤ store.nodeCount) {node : Nat} {targets : List UInt64}
    {channels : List (List Binary64)} {degree : Nat}
    (hexhausted : (store.compress number part node targets channels degree).outcome =
      .error (.capacityExhausted store.config.pageSize.toNat)) :
    (store.compress number part node targets channels degree).store.current.Full := by
  rcases store.compress_cases number part node targets channels degree with
    ⟨-, hcompress⟩ | ⟨compressor, hcompressor,
      ⟨failure, hrefused, hcompress⟩ | ⟨encoded, after, hencoded, hafter, hcompress⟩⟩
  · simp [hcompress] at hexhausted
  · obtain rfl : failure = .capacityExhausted store.config.pageSize.toNat := by
      simpa [hcompress] using hexhausted
    exact absurd hrefused ofTargets_ne_exhausted
  · obtain ⟨haccept, -⟩ := EncodedNode.ofTargets_eq_ok_iff.mp hencoded
    rw [hcompress] at hexhausted
    rw [hcompress, hafter.current]
    obtain ⟨hcurrent, -⟩ := h.fresh number compressor hcompressor hnumber
    rcases commit_cases h.aligned hcurrent haccept.inside hpart degree encoded with
      ⟨-, directory, -, hcommit⟩ | ⟨properties, -, ⟨failure, generation, hinsert, hcommit⟩ |
        ⟨adjacency, property, generation, directory, -, -, hcommit⟩⟩
    · simp [hcommit] at hexhausted
    · obtain rfl : failure = .capacityExhausted store.config.pageSize.toNat := by
        simpa [hcommit] using hexhausted
      have hfull := Generation.insert_full h.arenas (congrArg Prod.fst hinsert)
      rw [hcommit]
      rwa [hinsert] at hfull
    · simp [hcommit] at hexhausted

/-- An action that finds no page number leaves a full arena. -/
theorem step_full (h : store.Sound founded contents) {action : StoreAction}
    (hsince : action.SinceReset founded)
    (hexhausted : (store.step action).1.OutOfPages store.config) :
    (store.step action).2.current.Full := by
  cases action with
  | createCompressor => exact hexhausted.elim
  | close number => exact hexhausted.elim
  | reset nodeCount => exact hsince.elim
  | compress number choice node targets channels degree =>
      cases hpart : store.directory.part choice with
      | error fault => simp [step, hpart, StoreAnswer.OutOfPages] at hexhausted
      | ok part =>
          simp only [step, hpart, StoreAnswer.OutOfPages] at hexhausted ⊢
          exact compress_full h hsince (Directory.stop_le_of_part hpart) hexhausted

/-- A history in which an action found no page number leaves a full arena. -/
theorem run_full (h : store.Sound founded contents) {actions : List StoreAction}
    (hsince : ∀ action ∈ actions, action.SinceReset founded) {answer : StoreAnswer}
    (hanswer : answer ∈ (store.run actions).1) (hexhausted : answer.OutOfPages store.config) :
    (store.run actions).2.current.Full := by
  induction actions generalizing store contents with
  | nil => simp [run] at hanswer
  | cons action rest ih =>
      have hfirst := hsince action (by simp)
      have hrest : ∀ other ∈ rest, other.SinceReset founded :=
        fun other hother => hsince other (List.mem_cons_of_mem _ hother)
      by_cases hpages : (store.step action).1.OutOfPages store.config
      · -- the invariant is lost here, but the arena stays full
        exact run_lasting Generation.lasting_full (step_full h hfirst hpages) hrest
      · rw [run_cons, List.mem_cons] at hanswer
        obtain rfl | hlater := hanswer
        · exact absurd hexhausted hpages
        · have hconfig : (store.step action).2.config = store.config := (h.dated.step action).config
          exact ih (step_sound h hfirst hpages) hrest hlater (hconfig ▸ hexhausted)

/-- A store with a full arena does not freeze. -/
theorem freeze_ne_ok_of_full (h : store.current.Full) (hopen : store.current.FewOpen)
    (lists : Lists) : store.freeze ≠ .ok lists := by
  intro hfreeze
  obtain ⟨arena, arena', harena, harena', -⟩ := freeze_eq_ok_iff.mp hfreeze
  rcases h with hadjacency | hproperties
  · exact hadjacency.freeze_ne_ok hopen.1 arena harena
  · exact hproperties.freeze_ne_ok hopen.2 arena' harena'

/-- In the history of a store that freezes no action found the page numbers used up, since a full
arena would not freeze without an enormous number of open pages. -/
theorem Started.not_outOfPages_of_freeze {nodeCount : Nat}
    (hstart : Started config nodeCount store) {actions : List StoreAction}
    (hsince : ∀ action ∈ actions, action.SinceReset store.compressors.length)
    (hopen : (store.run actions).2.current.FewOpen) {lists : Lists}
    (hfreeze : (store.run actions).2.freeze = .ok lists) :
    ∀ answer ∈ (store.run actions).1, ¬ answer.OutOfPages config := by
  intro answer hanswer hexhausted
  obtain ⟨rfl, -, hsound⟩ := hstart.sound
  have hfull := run_full hsound hsince hanswer hexhausted
  exact freeze_ne_ok_of_full hfull hopen lists hfreeze

/-- So a store that freezes satisfies its invariant. -/
theorem Started.sound_of_freeze {nodeCount : Nat} (hstart : Started config nodeCount store)
    {actions : List StoreAction}
    (hsince : ∀ action ∈ actions, action.SinceReset store.compressors.length)
    (hopen : (store.run actions).2.current.FewOpen) {lists : Lists}
    (hfreeze : (store.run actions).2.freeze = .ok lists) :
    (store.run actions).2.Sound store.compressors.length
      (lastCompressed (fun _ => .empty config.channelCount.toNat)
        (actions.zip (store.run actions).1)) :=
  hstart.run_sound hsince (hstart.not_outOfPages_of_freeze hsince hopen hfreeze)

end Store

end CompactAdjacency
