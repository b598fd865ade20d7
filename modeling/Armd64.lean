import Armd64.Abi.Bridge
import Armd64.Abi.Classify
import Armd64.Abi.Descriptor
import Armd64.Abi.Layout
import Armd64.Isa.ControlFlow
import Armd64.Isa.Execution
import Armd64.Isa.MemoryAccess
import Armd64.Isa.X86
import Armd64.Lib.Attempt
import Armd64.Lib.Code
import Armd64.Lib.Codec
import Armd64.Lib.Emit
import Armd64.Lib.Encoding
import Armd64.Lib.Forest
import Armd64.Lib.Layout
import Armd64.Lib.Lists
import Armd64.Lib.Loop
import Armd64.Lib.Machine
import Armd64.Lib.Matcher
import Armd64.Lib.Relr
import Armd64.Lib.Search
import Armd64.Lib.Select
import Armd64.Lib.Slots
import Armd64.Lib.Stacked
import Armd64.Lib.Tokens
import Armd64.Lib.Traced
import Armd64.Lib.TracedLoop
import Armd64.Lib.Walk
import Armd64.Lib.Words
import Armd64.Mkpolyelf.Image
import Armd64.Polycall.Dependencies
import Armd64.Polycall.Relr
import Armd64.Polyexec.Bpf
import Armd64.Polyexec.BridgeNotes
import Armd64.Polyexec.CStrings
import Armd64.Polyexec.CoreFile
import Armd64.Polyexec.CrossStubs
import Armd64.Polyexec.Dependencies
import Armd64.Polyexec.ElfFile
import Armd64.Polyexec.ElfLoad
import Armd64.Polyexec.ElfSymbols
import Armd64.Polyexec.EventFrame
import Armd64.Polyexec.Lifecycle
import Armd64.Polyexec.ProcessStack
import Armd64.Polyexec.Protections
import Armd64.Polyexec.RelocLoops
import Armd64.Polyexec.Relocations
import Armd64.Polyexec.Runpath
import Armd64.Polyexec.Seccomp
import Armd64.Polyexec.SignalCalls
import Armd64.Polyexec.SignalFrame
import Armd64.Polyexec.Signals
import Armd64.Polyexec.StateImport
import Armd64.Polyexec.Tls
import Armd64.Polyexec.Trampoline
import Armd64.Polyexec.Walks
import Armd64.Proofs.AbiAggregates
import Armd64.Proofs.AbiPlacement
import Armd64.Proofs.AbiRegisters
import Armd64.Proofs.AbiSignature
import Armd64.Proofs.AbiSound
import Armd64.Proofs.AbiSpill
import Armd64.Proofs.AcyclicLibraries
import Armd64.Proofs.Bpf
import Armd64.Proofs.BranchTargets
import Armd64.Proofs.BridgeNotes
import Armd64.Proofs.BridgePlan
import Armd64.Proofs.ControlFlow
import Armd64.Proofs.CoreFile
import Armd64.Proofs.CrossStubs
import Armd64.Proofs.Cycle
import Armd64.Proofs.DepTable
import Armd64.Proofs.Dependencies
import Armd64.Proofs.DependencyGraph
import Armd64.Proofs.Dirty
import Armd64.Proofs.ElfLoad
import Armd64.Proofs.ElfSymbols
import Armd64.Proofs.Encoders
import Armd64.Proofs.EventFrame
import Armd64.Proofs.FpgaTop
import Armd64.Proofs.Gate
import Armd64.Proofs.GuestSearch
import Armd64.Proofs.Hint
import Armd64.Proofs.InitOrder
import Armd64.Proofs.Invariant
import Armd64.Proofs.Lifecycle
import Armd64.Proofs.LoadForest
import Armd64.Proofs.LoadRuns
import Armd64.Proofs.LoadedLibraries
import Armd64.Proofs.MemoryClass
import Armd64.Proofs.MemoryRetire
import Armd64.Proofs.Mkpolyelf
import Armd64.Proofs.OneInstance
import Armd64.Proofs.Outcome
import Armd64.Proofs.Pipeline
import Armd64.Proofs.PlanSymmetry
import Armd64.Proofs.ProcessStack
import Armd64.Proofs.Progress
import Armd64.Proofs.Protections
import Armd64.Proofs.Redirect
import Armd64.Proofs.Refinement
import Armd64.Proofs.RelRela
import Armd64.Proofs.RelocLoops
import Armd64.Proofs.RelocPatch
import Armd64.Proofs.Relr
import Armd64.Proofs.RetireGates
import Armd64.Proofs.Retirement
import Armd64.Proofs.RoundTrip
import Armd64.Proofs.Runpath
import Armd64.Proofs.Seccomp
import Armd64.Proofs.SeccompOrder
import Armd64.Proofs.SignalCalls
import Armd64.Proofs.SignalFailure
import Armd64.Proofs.SignalLookup
import Armd64.Proofs.SignalMasks
import Armd64.Proofs.SignalSelection
import Armd64.Proofs.Signals
import Armd64.Proofs.StateImport
import Armd64.Proofs.Strtoull
import Armd64.Proofs.SymbolCount
import Armd64.Proofs.SymbolicValue
import Armd64.Proofs.Tls
import Armd64.Proofs.Trampoline
import Armd64.Proofs.Transition
import Armd64.Proofs.TransitionStack
import Armd64.Proofs.Trap
import Armd64.Proofs.VersionWalks
import Armd64.Proofs.X86Stub
import Armd64.Rtl.AbiSlots
import Armd64.Rtl.Basic
import Armd64.Rtl.Boundary
import Armd64.Rtl.Core
import Armd64.Rtl.Decode
import Armd64.Rtl.EventFrame
import Armd64.Rtl.Fetch
import Armd64.Rtl.FpgaTop
import Armd64.Rtl.Handoff
import Armd64.Rtl.Pipeline
import Armd64.Rtl.Retire
import Armd64.Rtl.State
import Armd64.Rtl.StatefulCore
import Armd64.Rtl.TransitionStack
import Armd64.Spec.Arch
import Armd64.Spec.Conditions
import Armd64.Spec.Control
import Armd64.Spec.Frontends
