import CompactAdjacency.Bytes.Lemmas
import CompactAdjacency.Cursor.Values
import CompactAdjacency.Main
import CompactAdjacency.Proofs.Coding.BitStream
import CompactAdjacency.Proofs.Coding.PackedBlocks
import CompactAdjacency.Proofs.Coding.VarintRuns
import CompactAdjacency.Proofs.Record.Decoding
import CompactAdjacency.Proofs.Record.Buffers
import CompactAdjacency.Proofs.Cursor.Place
import CompactAdjacency.Proofs.Cursor.Window
import CompactAdjacency.Proofs.Cursor.Neighbors
import CompactAdjacency.Proofs.Cursor.Values
import CompactAdjacency.Proofs.Blob.Reading
import CompactAdjacency.Proofs.Blob.Checking
import CompactAdjacency.Proofs.Blob.Safety
import CompactAdjacency.Proofs.Storage.Pages
import CompactAdjacency.Proofs.Storage.Freezing
import CompactAdjacency.Proofs.Store.Encoding
import CompactAdjacency.Proofs.Store.Buffers
import CompactAdjacency.Proofs.Store.Generations
import CompactAdjacency.Proofs.Storage.Entries
import CompactAdjacency.Proofs.Store.Contents
import CompactAdjacency.Proofs.Store.Compression
import CompactAdjacency.Proofs.Store.Freezing
import CompactAdjacency.Proofs.Store.History
import CompactAdjacency.Proofs.Batch.Reference
import CompactAdjacency.Proofs.Build.Attempts
import CompactAdjacency.Proofs.Storage.Partitions
import CompactAdjacency.Proofs.Build.Coherence
import CompactAdjacency.Proofs.Build.Schedules
import CompactAdjacency.Proofs.Build.RoundTrip
import CompactAdjacency.Proofs.Storage.Insertions
import CompactAdjacency.Proofs.Storage.Places
import CompactAdjacency.Proofs.Storage.Limits
import CompactAdjacency.Proofs.Store.Arenas
import CompactAdjacency.Proofs.Store.Counting
import CompactAdjacency.Proofs.Build.Assignments
import CompactAdjacency.Proofs.Build.Termination
import CompactAdjacency.Proofs.Build.Histories
import CompactAdjacency.Proofs.Build.Values
import CompactAdjacency.Proofs.Blob.Writing
import CompactAdjacency.Proofs.Blob.Format
import CompactAdjacency.Proofs.Blob.RoundTrip
import CompactAdjacency.Proofs.Blob.Canonical
import CompactAdjacency.Proofs.Blob.Recounting
import CompactAdjacency.Proofs.Cursor.NotFound
import CompactAdjacency.Proofs.Build.Reports
import CompactAdjacency.Proofs.Graph.Verification
import CompactAdjacency.Proofs.Blob.Ascending
import CompactAdjacency.Proofs.Record.Lengths
import CompactAdjacency.Proofs.Store.Accounting
import CompactAdjacency.Proofs.Store.Dangling
import CompactAdjacency.Proofs.Store.Discarding
import CompactAdjacency.Proofs.Record.Draining
import CompactAdjacency.Proofs.Store.Atomicity
import CompactAdjacency.Proofs.Batch.Preparing
import CompactAdjacency.Proofs.Config.PropertyLines
import CompactAdjacency.Proofs.Config.Rendering
import CompactAdjacency.Proofs.Record.Extents
import CompactAdjacency.Proofs.Storage.Numbers
import CompactAdjacency.Proofs.Storage.Refreezing
import CompactAdjacency.Proofs.Coding.Fields
import CompactAdjacency.Proofs.Coding.Slices
import CompactAdjacency.Proofs.Coding.Buffers
import CompactAdjacency.Proofs.Storage.PartitionWrites
import CompactAdjacency.Proofs.Graph.Reading
import CompactAdjacency.Proofs.Coding.Skipping
import CompactAdjacency.Proofs.Coding.GapCoding
import CompactAdjacency.Proofs.Blob.Bounds
