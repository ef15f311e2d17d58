import CompactAdjacency.Bytes
import CompactAdjacency.Storage.Address

/-!
# Arenas

Records live in the pages of an arena. While an arena is built, a `PagePool` hands out page numbers
and takes back filled pages; each worker fills one page at a time and keeps it to itself. Freezing
the pool puts the returned pages in order and succeeds only if every page that was handed out came
back. A frozen `Arena` only reads.

`Allocators` gathers a pool and the pages that its workers have open, and `Allocators.run` is any
interleaving of their work.
-/

namespace CompactAdjacency

/-! ## Frozen arenas -/

/-- The pages of a finished arena, in the order of their numbers. -/
structure Arena where
  pages : List Bytes
  deriving DecidableEq, Repr, Inhabited

namespace Arena

/-- An arena without pages. -/
def empty : Arena := ⟨[]⟩

/-- The bytes from an address to the end of its page, `none` outside of the arena. -/
def bytesAt? (arena : Arena) (address : Address) : Option Bytes := do
  let page ← arena.pages[address.page.toNat]?
  if address.offset.toNat ≤ page.length then some (page.drop address.offset.toNat) else none

/-- The bytes from an address to the end of its page, a fault outside of the arena. -/
def bytesAt (arena : Arena) (address : Address) : Except Fault Bytes :=
  match arena.bytesAt? address with
  | some bytes => .ok bytes
  | none => .error .outOfBounds

/-- The number of bytes stored. -/
def size (arena : Arena) : Nat := arena.pages.flatten.length

end Arena

/-! ## Pages being filled -/

/-- A numbered page and the bytes written to it so far. -/
structure Page where
  id : UInt32
  bytes : Bytes
  deriving DecidableEq, Repr, Inhabited

/-- What the workers on an arena share: the size of a page, the number of the next page, and the
pages they have returned. -/
structure PagePool where
  pageSize : Nat
  nextId : UInt32
  returned : List Page
  deriving DecidableEq, Repr

/-- What an insertion leaves: where the bytes landed, the page that is open now, and the pool. -/
structure Insertion where
  outcome : Except Failure Address
  current : Option Page
  pool : PagePool

namespace PagePool

/-- A pool that has handed out no page. -/
def ofPageSize (pageSize : Nat) : PagePool := ⟨pageSize, 0, []⟩

/-- A pool that has handed out no page, or a refusal of a page size that is zero or does not fit
32 bits. -/
def ofPageSize? (pageSize : Nat) : Except Fault PagePool :=
  if 0 < pageSize ∧ pageSize < UInt32.size then .ok (ofPageSize pageSize) else .error .pageSize

/-- Takes back the page a worker has open. -/
def retire (pool : PagePool) : Option Page → PagePool
  | none => pool
  | some page => { pool with returned := page :: pool.returned }

/-- Whether a record goes into a page; a page takes no more than the page size. -/
def fits (pool : PagePool) (page : Page) (record : Bytes) : Bool :=
  page.bytes.length + record.length ≤ pool.pageSize

/-- Starts a page with a record, a longer one than usual if the record needs it. The page number is
used up even where it turns out to be the one that is never handed out. -/
def openPage (pool : PagePool) (record : Bytes) : Insertion :=
  let capacity := max record.length pool.pageSize
  if capacity ≥ allocationLimit then ⟨.error (.capacityExhausted capacity), none, pool⟩
  else
    let advanced := { pool with nextId := pool.nextId + 1 }
    if pool.nextId = 0xFFFFFFFF then ⟨.error (.capacityExhausted pool.pageSize), none, advanced⟩
    else ⟨.ok ⟨pool.nextId, 0⟩, some ⟨pool.nextId, record⟩, advanced⟩

/-- Writes a record to the open page, or to a new one if it does not fit. -/
def insert (pool : PagePool) (current : Option Page) (record : Bytes) : Insertion :=
  match current.filter (pool.fits · record) with
  | some page =>
      ⟨.ok ⟨page.id, page.bytes.length.toUInt32⟩,
        some { page with bytes := page.bytes ++ record }, pool⟩
  | none => (pool.retire current).openPage record

/-- The returned pages in the order of their numbers. -/
def ordered (pool : PagePool) : List Page :=
  pool.returned.mergeSort fun left right => left.id ≤ right.id

/-- The first place in a list of pages that holds a page of another number, counted from
`position`. -/
def misplacedFrom (position : Nat) : List Page → Option Nat
  | [] => none
  | page :: rest =>
      if page.id = position.toUInt32 then misplacedFrom (position + 1) rest else some position

/-- Gathers the returned pages into an arena. It fails if a page is missing, naming the first one;
either way the pool keeps none of the returned pages. -/
def freeze (pool : PagePool) : Except Failure Arena × PagePool :=
  let pages := pool.ordered
  let emptied := { pool with returned := [] }
  match misplacedFrom 0 pages with
  | some position => (.error (.unsealedPage position.toUInt32.toNat), emptied)
  | none =>
      if pages.length.toUInt32 = pool.nextId then (.ok ⟨pages.map Page.bytes⟩, emptied)
      else (.error (.unsealedPage pages.length.toUInt32.toNat), emptied)

end PagePool

/-! ## Interleaved workers -/

/-- A pool together with the page that each worker has open. -/
structure Allocators where
  pool : PagePool
  current : List (Option Page)
  deriving DecidableEq, Repr

/-- One action of a worker on an arena, the workers numbered in order of appearance. -/
inductive AllocatorAction where
  | join
  | insert (worker : Nat) (record : Bytes)
  | retire (worker : Nat)
  deriving DecidableEq, Repr

namespace Allocators

/-- A pool nobody works on yet. -/
def ofPool (pool : PagePool) : Allocators := ⟨pool, []⟩

/-- Adds a worker that has no page open. -/
def join (workers : Allocators) : Allocators :=
  { workers with current := workers.current ++ [none] }

/-- Writes a record on behalf of a worker. -/
def insert (workers : Allocators) (worker : Nat) (record : Bytes) :
    Except Failure Address × Allocators :=
  match workers.current[worker]? with
  | none => (.error (.fault .outOfBounds), workers)
  | some current =>
      let insertion := workers.pool.insert current record
      (insertion.outcome,
        ⟨insertion.pool, workers.current.set worker insertion.current⟩)

/-- Returns the page that a worker has open, if any. -/
def retire (workers : Allocators) (worker : Nat) : Allocators :=
  match workers.current[worker]? with
  | none => workers
  | some current => ⟨workers.pool.retire current, workers.current.set worker none⟩

/-- Returns every open page. -/
def retireAll (workers : Allocators) : Allocators :=
  ⟨workers.current.foldl PagePool.retire workers.pool, workers.current.map fun _ => none⟩

/-- Freezes the pool. -/
def freeze (workers : Allocators) : Except Failure Arena × Allocators :=
  let (outcome, pool) := workers.pool.freeze
  (outcome, { workers with pool := pool })

/-- One action; only an insertion answers. -/
def step (workers : Allocators) :
    AllocatorAction → Option (Except Failure Address) × Allocators
  | .join => (none, workers.join)
  | .insert worker record =>
      let (outcome, workers) := workers.insert worker record
      (some outcome, workers)
  | .retire worker => (none, workers.retire worker)

/-- A sequence of actions and the answers to its insertions. -/
def run (workers : Allocators) : List AllocatorAction → List (Except Failure Address) × Allocators
  | [] => ([], workers)
  | action :: rest =>
      let (answer, workers) := workers.step action
      let (answers, workers) := workers.run rest
      (answer.toList ++ answers, workers)

end Allocators

end CompactAdjacency
