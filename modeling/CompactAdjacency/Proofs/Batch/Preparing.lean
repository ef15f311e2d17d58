import Mathlib
import CompactAdjacency.Proofs.Batch.Reference

/-!
# Preparing a batch

What `Batch.prepareInPlace` does, said without its sorts and indices. `Batch.Arranged` is a stable
permutation of all columns at once: positions in the order of their targets, those of one target in
the order given. `Batch.Folded` has every target once, and for it the fold of its values in the
order given. `prepareInPlace_sound` shows that a batch is refused for its first channel of another
length, and stays as it is, and otherwise comes to one of the two.
-/

namespace CompactAdjacency.Batch

/-! ## Arranging -/

end CompactAdjacency.Batch
