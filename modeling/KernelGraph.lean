import KernelGraph.Description
import KernelGraph.Graph.Providers
import KernelGraph.Main
import KernelGraph.Proofs.HashKey
import KernelGraph.Proofs.Program
import KernelGraph.Proofs.Rebuild
import KernelGraph.Proofs.Session.Published
import KernelGraph.Report
import KernelGraph.Text.Ratio
import KernelGraph.Worker.Pool
import KernelGraph.Worker.SerialQueue
import KernelGraph.Proofs.PermutationCode
import KernelGraph.Proofs.Variants
import KernelGraph.Proofs.Session.Interleaving
import KernelGraph.Proofs.Session.Completion
import KernelGraph.Proofs.Session.Around
import KernelGraph.Proofs.Session.Schedule
import KernelGraph.Proofs.Session.Holdings
import KernelGraph.Proofs.Session.Preparing
import KernelGraph.Proofs.Session.Frames
import KernelGraph.Proofs.Session.Orders
import KernelGraph.Proofs.Session.Generations
import KernelGraph.Proofs.Flights
import KernelGraph.Proofs.Session.Machine
import KernelGraph.Proofs.Session.Draining
import KernelGraph.Proofs.Session.Told
import KernelGraph.Proofs.IncludeGraph
import KernelGraph.Proofs.DigestRecursion
import KernelGraph.Proofs.CookDigest
import KernelGraph.Proofs.DigestTwice
import KernelGraph.Proofs.Session.Slots
import KernelGraph.Proofs.Session.Taking
import KernelGraph.Proofs.Session.Batch
import KernelGraph.Proofs.Session.Synchronous
import KernelGraph.Proofs.Session.Lineage
import KernelGraph.Proofs.Session.Uniform
import KernelGraph.Proofs.Session.Verdicts
import KernelGraph.Proofs.Session.Asynchronous
import KernelGraph.Proofs.Session.Agreement
import KernelGraph.Proofs.IncludeWalks
import KernelGraph.Proofs.Cache.Keys
import KernelGraph.Proofs.Cache.Cancellation
import KernelGraph.Proofs.TranslationUnit
import KernelGraph.Proofs.Symbols
import KernelGraph.Proofs.Declarations
import KernelGraph.Proofs.Confinement
import KernelGraph.Proofs.Session.Lasting
import KernelGraph.Proofs.Session.Serving
import KernelGraph.Proofs.Session.Reuse
import KernelGraph.Proofs.Session.Idempotence
import KernelGraph.Proofs.Session.Adoption
import KernelGraph.Proofs.Lru.Client
import KernelGraph.Proofs.Worker.PoolRuns
import KernelGraph.Proofs.Worker.QueueRuns
import KernelGraph.Proofs.Pending.Balance
import KernelGraph.Proofs.Workshop.Rejection
import KernelGraph.Proofs.ModuleTraffic
import KernelGraph.Proofs.IncludeFree
import KernelGraph.Proofs.KeyEdits
import KernelGraph.Proofs.IncludeRegions
import KernelGraph.Proofs.Listings
import KernelGraph.Proofs.Classification
import KernelGraph.Proofs.SkippedEdges
import KernelGraph.Proofs.ResourceCalls
import KernelGraph.Proofs.Gathering
import KernelGraph.Proofs.Loading
import KernelGraph.Proofs.LevelSwitches
import KernelGraph.Proofs.Pending.Programs
import KernelGraph.Proofs.Pending.Underway
import KernelGraph.Proofs.Pending.Showing
import KernelGraph.Proofs.Definitions
import KernelGraph.Proofs.Providers
import KernelGraph.Proofs.Lru.Capacity
import KernelGraph.Proofs.Shims
import KernelGraph.Proofs.CompileCommand
