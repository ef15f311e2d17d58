import Mathlib
import CompactAdjacency.Proofs.Store.Arenas

/-!
# The number of relationships, counted twice

A store counts relationships as nodes are compressed, and the directory counts them again as the sum
of its degrees. A node that is compressed again is counted again, while its degree is overwritten.
So what the store counted is what the directory counts and what was replaced, `replaced`, taken
together: `Counted` says so of one store, and `run_counted` of every history. Where no node is
compressed twice nothing is replaced, and the counts agree. Counts are words, and wrap around.
-/

namespace CompactAdjacency

/-! ## What a history compressed and replaced -/

/-- The nodes that a sequence of actions compressed, once for each time. -/
def compressedNodes : List (StoreAction × StoreAnswer) → List Nat
  | [] => []
  | (.compress _ _ node _ _ _, .compressed (.ok _) _) :: rest => node :: compressedNodes rest
  | _ :: rest => compressedNodes rest

/-- The number of relationships that an action replaces: those that its node held. -/
def StoreAction.replaced (contents : Nat → Batch) : StoreAction → StoreAnswer → Nat
  | .compress _ _ node _ _ _, .compressed (.ok _) _ => (contents node).targets.length
  | _, _ => 0

/-- The number of relationships that a sequence of actions with their answers replaces. -/
def replaced (contents : Nat → Batch) : List (StoreAction × StoreAnswer) → Nat
  | [] => 0
  | (action, answer) :: rest =>
      action.replaced contents answer + replaced (action.record contents answer) rest

/-- An action with its answer is a compression that succeeded, or it compresses nothing. -/
theorem StoreAction.compressed_or_idle (action : StoreAction) (answer : StoreAnswer) :
    (∃ number choice node targets channels degree length gaps,
      action = .compress number choice node targets channels degree ∧
        answer = .compressed (.ok length) gaps) ∨
    compressedNodes [(action, answer)] = [] ∧
      ∀ contents,
        action.record contents answer = contents ∧ action.replaced contents answer = 0 := by
  cases action with
  | compress number choice node targets channels degree =>
      cases answer with
      | compressed outcome gaps =>
          cases outcome with
          | error failure => exact .inr ⟨rfl, fun contents => ⟨rfl, rfl⟩⟩
          | ok length => exact .inl ⟨_, _, _, _, _, _, _, _, rfl, rfl⟩
      | created number => exact .inr ⟨rfl, fun contents => ⟨rfl, rfl⟩⟩
      | closed => exact .inr ⟨rfl, fun contents => ⟨rfl, rfl⟩⟩
      | reset outcome => exact .inr ⟨rfl, fun contents => ⟨rfl, rfl⟩⟩
  | createCompressor => exact .inr ⟨rfl, fun contents => ⟨rfl, rfl⟩⟩
  | close number => exact .inr ⟨rfl, fun contents => ⟨rfl, rfl⟩⟩
  | reset nodeCount => exact .inr ⟨rfl, fun contents => ⟨rfl, rfl⟩⟩

theorem compressedNodes_cons (action : StoreAction) (answer : StoreAnswer)
    (rest : List (StoreAction × StoreAnswer)) :
    compressedNodes ((action, answer) :: rest) =
      compressedNodes [(action, answer)] ++ compressedNodes rest := by
  cases action with
  | compress number choice node targets channels degree =>
      cases answer with
      | compressed outcome targets =>
          cases outcome with
          | error failure => rfl
          | ok length => rfl
      | created number => rfl
      | closed => rfl
      | reset outcome => rfl
  | createCompressor => rfl
  | close number => rfl
  | reset nodeCount => rfl

/-- Nothing is replaced where no node is compressed twice and none held anything before. -/
theorem replaced_eq_zero {contents : Nat → Batch} {log : List (StoreAction × StoreAnswer)}
    (honce : (compressedNodes log).Nodup)
    (hempty : ∀ node ∈ compressedNodes log, (contents node).targets = []) :
    replaced contents log = 0 := by
  induction log generalizing contents with
  | nil => rfl
  | cons step rest ih =>
      obtain ⟨action, answer⟩ := step
      rcases action.compressed_or_idle answer with
        ⟨number, choice, node, targets, channels, degree, length, gaps, rfl, rfl⟩ | ⟨hnone, hidle⟩
      · simp only [compressedNodes, List.nodup_cons] at honce hempty
        have hnode : (contents node).targets = [] := hempty node List.mem_cons_self
        rw [replaced, StoreAction.replaced, hnode, List.length_nil, Nat.zero_add]
        refine ih honce.2 fun other hother => ?_
        -- nodes that come later are other ones, and keep being empty
        have hne : other ≠ node := fun heq => honce.1 (heq ▸ hother)
        rw [StoreAction.record, Function.update_of_ne hne]
        exact hempty other (List.mem_cons_of_mem _ hother)
      · rw [compressedNodes_cons, hnone, List.nil_append] at honce hempty
        rw [replaced, (hidle contents).1, (hidle contents).2, Nat.zero_add]
        exact ih honce hempty

/-! ## The sum of degrees -/

namespace Directory

variable {directory after : Directory} {node : Nat} {entry : DirectoryEntry}

/-- Words are added as the numbers they stand for. -/
theorem foldl_degrees (degrees : List UInt32) (start : UInt64) :
    degrees.foldl (fun total degree => total + degree.toUInt64) start =
      start + (degrees.map UInt32.toNat).sum.toUInt64 := by
  induction degrees generalizing start with
  | nil => simp [Nat.toUInt64]
  | cons degree rest ih =>
      have hword : degree.toUInt64 = degree.toNat.toUInt64 := by
        rw [← UInt64.toNat_inj]
        simp [Nat.toUInt64]
      rw [List.foldl_cons, ih, hword, List.map_cons, List.sum_cons, UInt64.add_assoc]
      exact congrArg (start + ·) (UInt64.ofNat_add _ _).symm

/-- The number of relationships is the sum of the degrees, as a word. -/
theorem relationshipCount_eq (directory : Directory) :
    directory.relationshipCount =
      (∑ node ∈ Finset.range directory.nodeCount, directory.degree node).toUInt64.toNat := by
  have hdegrees : directory.degrees.toList.map UInt32.toNat =
      (List.range directory.nodeCount).map directory.degree := by
    refine List.ext_getElem (by simp [nodeCount]) ?_
    intro node hnode hnode'
    have hlt : node < directory.degrees.size := by simpa using hnode
    simp [degree, hlt]
  rw [relationshipCount, ← Array.foldl_toList, foldl_degrees, hdegrees, UInt64.zero_add]
  rfl

/-- The number of relationships fits a word. -/
theorem relationshipCount_lt (directory : Directory) :
    directory.relationshipCount < UInt64.size := by
  rw [relationshipCount_eq]
  exact UInt64.toNat_lt _

/-- Entering a node replaces its degree in the sum. -/
theorem Entered.relationshipCount (h : directory.Entered after node entry)
    (hnode : node < directory.nodeCount) :
    (after.relationshipCount + directory.degree node).toUInt64 =
      (directory.relationshipCount + entry.degree.toNat).toUInt64 := by
  have hdegree : after.degree = Function.update directory.degree node entry.degree.toNat := by
    funext other
    by_cases hother : other = node
    · subst hother
      rw [Function.update_self, h.degree]
    · rw [Function.update_of_ne hother, (h.others other hother).1]
  have hmem : node ∈ Finset.range directory.nodeCount := Finset.mem_range.mpr hnode
  have hsum := Finset.sum_update_of_mem hmem directory.degree entry.degree.toNat
  have hrest := Finset.sum_erase_add _ directory.degree hmem
  rw [Finset.erase_eq] at hrest
  rw [relationshipCount_eq, relationshipCount_eq, h.nodeCount, hdegree, hsum, ← hrest]
  simp only [Nat.toUInt64, UInt64.ofNat_add, UInt64.ofNat_toNat]
  ac_rfl

end Directory

/-! ## Counting along a history -/

namespace Store

variable {store : Store} {config : Config} {founded : Nat} {contents : Nat → Batch}

/-- The store has counted so many relationships more than those of its directory, for which there
was memory. -/
structure Counted (store : Store) (extra : Nat) : Prop where
  relationships : store.current.relationships =
    (store.directory.relationshipCount + extra).toUInt64
  room : 8 * store.nodeCount < allocationLimit

/-- Counts depend on the counter and on the directory alone. -/
theorem Counted.of_same {after : Store} {extra : Nat} (h : store.Counted extra)
    (hdirectory : after.directory = store.directory)
    (hcounter : after.current.relationships = store.current.relationships) : after.Counted extra :=
  ⟨by rw [hcounter, hdirectory, h.relationships],
    (congrArg (8 * ·.nodeCount) hdirectory).trans_lt h.room⟩

/-- A compression by a compressor of the current generation enters its degree and counts it if it
succeeds, and does neither if it fails. -/
theorem compress_counts (haligned : store.directory.isAligned = true) {number : Nat}
    (hcurrent : ∀ compressor, store.compressor? number = some compressor →
      compressor.generation = store.discarded.length)
    {part : Partition} (hpart : part.stop ≤ store.nodeCount)
    {node : Nat} {targets : List UInt64} {channels : List (List Binary64)} {degree : Nat}
    {compression : Compression}
    (hcompression : store.compress number part node targets channels degree = compression) :
    (∃ length, compression.outcome = .ok length ∧ node < store.nodeCount ∧ ∃ entry,
      store.directory.Entered compression.store.directory node entry ∧
      entry.degree.toNat = degree ∧
      compression.store.current.relationships =
        store.current.relationships + degree.toUInt64) ∨
    (∃ failure, compression.outcome = .error failure) ∧
      compression.store.directory = store.directory ∧
      compression.store.current.relationships = store.current.relationships := by
  subst hcompression
  rcases store.compress_cases number part node targets channels degree with
    ⟨-, hcompress⟩ | ⟨compressor, hcompressor,
      ⟨failure, -, hcompress⟩ | ⟨encoded, after, hencoded, hafter, hcompress⟩⟩
  · rw [hcompress]
    exact .inr ⟨⟨_, rfl⟩, rfl, rfl⟩
  · rw [hcompress]
    exact .inr ⟨⟨_, rfl⟩, rfl, rfl⟩
  · obtain ⟨haccept, -⟩ := EncodedNode.ofTargets_eq_ok_iff.mp hencoded
    have hnode : node < store.nodeCount := haccept.inside.2.trans_le hpart
    rw [hcompress, hafter.directory, hafter.current]
    rcases commit_cases haligned (hcurrent compressor hcompressor) haccept.inside hpart degree
      encoded with
      ⟨rfl, directory, hentered, hcommit⟩ | ⟨properties, -, hwritten⟩
    · rw [hcommit]
      exact .inl ⟨_, rfl, hnode, _, hentered, rfl, (UInt64.add_zero _).symm⟩
    · have hcounter := (Generation.insert_arenas store.current
        (compressor.allocatorOf (store.config.layoutRule.layout degree))
        encoded.adjacency properties).2.2
      rcases hwritten with ⟨failure, generation, hinsert, hcommit⟩ |
        ⟨adjacency, property, generation, directory, hinsert, hentered, hcommit⟩
      · rw [hinsert] at hcounter
        rw [hcommit]
        exact .inr ⟨⟨_, rfl⟩, rfl, hcounter⟩
      · rw [hinsert] at hcounter
        rw [hcommit]
        refine .inl ⟨_, rfl, hnode, _, hentered, ?_, congrArg (· + degree.toUInt64) hcounter⟩
        rw [Nat.toUInt32, UInt32.toNat_ofNat', Nat.mod_eq_of_lt haccept.countable]

/-- Closing a compressor counts nothing. -/
theorem close_relationships (store : Store) (number : Nat) :
    (store.close number).current.relationships = store.current.relationships :=
  close_holds (Q := (·.relationships = store.current.relationships)) (fun _ _ h => h) rfl number

/-- An action counts what it replaces in addition to what the directory counts. -/
theorem Counted.step {extra : Nat} (hcounted : store.Counted extra)
    (h : store.Sound founded contents) {action : StoreAction}
    (hsince : action.SinceReset founded) :
    (store.step action).2.Counted (extra + action.replaced contents (store.step action).1) := by
  cases action with
  | createCompressor => exact hcounted.of_same rfl rfl
  | reset nodeCount => exact hsince.elim
  | close number =>
      exact hcounted.of_same (close_shape store number).2.1 (close_relationships store number)
  | compress number choice node targets channels degree =>
      cases hpart : store.directory.part choice with
      | error fault =>
          simp only [Store.step, hpart, StoreAction.replaced]
          exact hcounted
      | ok part =>
          simp only [Store.step, hpart]
          rcases compress_counts h.aligned
            (fun compressor hcompressor => (h.fresh number compressor hcompressor hsince).1)
            (Directory.stop_le_of_part hpart) rfl with
            ⟨length, houtcome, hnode, entry, hentered, hdegree, hcounter⟩ |
              ⟨⟨failure, houtcome⟩, hdirectory, hcounter⟩
          · rw [houtcome, StoreAction.replaced]
            refine ⟨?_, (congrArg (8 * ·) hentered.nodeCount).trans_lt hcounted.room⟩
            -- the degree that is overwritten is the number of relationships the node held
            have hsum := hentered.relationshipCount hnode
            rw [hdegree, (h.holds node).degree] at hsum
            simp only [Nat.toUInt64, UInt64.ofNat_add] at hsum
            rw [hcounter, hcounted.relationships]
            simp only [Nat.toUInt64, UInt64.ofNat_add]
            calc
              _ = (.ofNat store.directory.relationshipCount + .ofNat degree) +
                  UInt64.ofNat extra := by
                ac_rfl
              _ = _ := by
                rw [← hsum]
                ac_rfl
          · rw [houtcome]
            exact hcounted.of_same hdirectory hcounter

/-- After a history a store has counted what its directory counts and what was replaced. -/
theorem run_counted {extra : Nat} (h : store.Sound founded contents)
    (hcounted : store.Counted extra) {actions : List StoreAction}
    (hsince : ∀ action ∈ actions, action.SinceReset founded)
    (hpages : ∀ answer ∈ (store.run actions).1, ¬ answer.OutOfPages store.config) :
    (store.run actions).2.Counted
      (extra + replaced contents (actions.zip (store.run actions).1)) := by
  induction actions generalizing store contents extra with
  | nil => exact hcounted
  | cons action rest ih =>
      rw [run_cons] at hpages ⊢
      have hfirst := hsince action (by simp)
      have hsound := step_sound h hfirst (hpages _ (by simp))
      have hconfig : (store.step action).2.config = store.config := (h.dated.step action).config
      rw [List.zip_cons_cons, replaced, ← Nat.add_assoc]
      refine ih hsound (hcounted.step h hfirst)
        (fun other hother => hsince other (by simp [hother])) ?_
      intro answer hanswer
      rw [hconfig]
      exact hpages answer (List.mem_cons_of_mem _ hanswer)

/-- A started store has counted nothing. -/
theorem Started.counted {nodeCount : Nat} (hstart : Started config nodeCount store) :
    store.Counted 0 := by
  have hzero : ∀ node, store.directory.degree node = 0 := by
    intro node
    have hdegree := (hstart.sound.2.2.holds node).degree
    rwa [Batch.empty, List.length_nil] at hdegree
  refine ⟨?_, ?_⟩
  · rw [hstart.current, Directory.relationshipCount_eq,
      Finset.sum_eq_zero fun node _ => hzero node]
    rfl
  · rw [show store.nodeCount = nodeCount from hstart.sound.2.1]
    exact Directory.room_of_ofNodeCount hstart.directory

/-- A started store has counted what its directory counts and what was replaced since. -/
theorem Started.run_counted {nodeCount : Nat} (hstart : Started config nodeCount store)
    {actions : List StoreAction}
    (hsince : ∀ action ∈ actions, action.SinceReset store.compressors.length)
    (hpages : ∀ answer ∈ (store.run actions).1, ¬ answer.OutOfPages config) :
    (store.run actions).2.Counted
      (replaced (fun _ => .empty config.channelCount.toNat)
        (actions.zip (store.run actions).1)) := by
  have hcounted := hstart.counted
  obtain ⟨rfl, -, hsound⟩ := hstart.sound
  simpa using Store.run_counted hsound hcounted hsince hpages

/-- What was counted more than once shows in a frozen store. -/
theorem Counted.freeze {extra : Nat} (h : store.Counted extra) {lists : Lists}
    (hfreeze : store.freeze = .ok lists) :
    lists.relationshipCount = (lists.directory.relationshipCount + extra).toUInt64 ∧
      8 * lists.nodeCount < allocationLimit := by
  obtain ⟨arena, arena', -, -, rfl⟩ := freeze_eq_ok_iff.mp hfreeze
  exact ⟨h.relationships, h.room⟩

end Store

end CompactAdjacency
