import SlabAllocator.Peak
import SlabAllocator.Ring.Script
import SlabAllocator.Ring.View
import SlabAllocator.Session.Run
import SlabAllocator.Slab.Script
import SlabAllocator.Proofs.Frame
import SlabAllocator.Proofs.Slab.Representation
import SlabAllocator.Proofs.Slab.Refinement
import SlabAllocator.Proofs.ElementPool.Moves
import SlabAllocator.Proofs.ElementPool.Threads
import SlabAllocator.Proofs.ElementPool.Refinement
import SlabAllocator.Proofs.Table
import SlabAllocator.Proofs.Allocator.World
import SlabAllocator.Proofs.Allocator.Soundness
import SlabAllocator.Proofs.Allocator.Acts
import SlabAllocator.Proofs.Allocator.Exclusive
import SlabAllocator.Proofs.Allocator.Interlude
import SlabAllocator.Proofs.ElementPool.Classification
import SlabAllocator.Proofs.Allocator.Classification
import SlabAllocator.Proofs.Allocator.Structure
import SlabAllocator.Proofs.ElementPool.Footprint
import SlabAllocator.Proofs.Allocator.Footprint
import SlabAllocator.Proofs.Allocator.Contents
import SlabAllocator.Proofs.Allocator.Holdings
import SlabAllocator.Proofs.Allocator.Conservation
import SlabAllocator.Proofs.Allocator.Ledger
import SlabAllocator.Proofs.ElementPool.Counters
import SlabAllocator.Proofs.ElementPool.Likeness
import SlabAllocator.Proofs.Allocator.Twins
import SlabAllocator.Proofs.Allocator.Measures
import SlabAllocator.Proofs.ElementPool.Filling
import SlabAllocator.Proofs.Allocator.Serving
import SlabAllocator.Proofs.Allocator.CarveRace
import SlabAllocator.Proofs.Ring.Sequences
import SlabAllocator.Proofs.Ring.Refinement
import SlabAllocator.Proofs.BlockPool.Keeping
import SlabAllocator.Proofs.BlockPool.Depot
import SlabAllocator.Proofs.Allocator.Footing
import SlabAllocator.Proofs.Allocator.Funding
import SlabAllocator.Proofs.Allocator.Estate
import SlabAllocator.Proofs.Allocator.Solvency
import SlabAllocator.Proofs.Allocator.Deeds
import SlabAllocator.Proofs.Allocator.SystemMemory
import SlabAllocator.Proofs.Allocator.Failures
import SlabAllocator.Proofs.Allocator.Traceless
import SlabAllocator.Proofs.Slab.Repetition
import SlabAllocator.Proofs.ElementPool.Population
import SlabAllocator.Proofs.Allocator.Turnover
import SlabAllocator.Proofs.Allocator.Gauges
import SlabAllocator.Proofs.Allocator.Isolation
import SlabAllocator.Proofs.Allocator.Plan
import SlabAllocator.Proofs.Allocator.Conformance
import SlabAllocator.Proofs.Checked
import SlabAllocator.Proofs.Slab.Geometry
import SlabAllocator.Proofs.BlockPool.SetUp
import SlabAllocator.Proofs.ElementPool.SetUp
import SlabAllocator.Proofs.Allocator.Contacts
import SlabAllocator.Proofs.Allocator.Capacity
import SlabAllocator.Proofs.ElementPool.Vetting
import SlabAllocator.Proofs.Allocator.Opening
import SlabAllocator.Proofs.Allocator.Provision
import SlabAllocator.Proofs.BlockPool.Recency
import SlabAllocator.Proofs.Allocator.Journal
import SlabAllocator.Proofs.ElementPool.Wear
import SlabAllocator.Proofs.Allocator.Releases
import SlabAllocator.Proofs.Allocator.RoundTrip
import SlabAllocator.Proofs.Alignment
