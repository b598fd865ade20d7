import Armd64.Rtl.Handoff
import Armd64.Rtl.Pipeline

/-!
# Retirement

`poly_frontend_predecoded_retire` orders faults, waits and the retirement of one decoded
instruction; `poly_frontend_memory_retire` puts the fetch/decode pipeline in front of it.
-/

namespace Poly

/-! ## The retirement gate -/

structure FrontendPredecodedRetire where
  valid : Bool
  fetchValid : Bool
  decodeValid : Bool
  executeReady : Bool
  blockRetire : Bool
  olderFaultI : Bool
  fetchFaultI : Bool
  executeFaultI : Bool
  frontend : BitVec 2
  pc : BitVec 64
  fallthroughPc : BitVec 64
  polyCtrlI : Bool
  subopI : BitVec 7
  callSigImm : Bool
  signatureSlot : BitVec 7
  targetFrontend : BitVec 2
  targetPc : BitVec 64
  signatureSlotValid : Bool
  transitionStackFullI : Bool
  trapReturnRestoreValid : Bool

namespace FrontendPredecodedRetire

def isTrapReturn (frontend : BitVec 2) (subop : BitVec 7) : Bool :=
  if frontend = frontendX86 then subop == FrontendHandoff.x86CtrlTrapReturn
  else if frontend = frontendAarch64 then subop == FrontendHandoff.aarch64CtrlTrapReturn
  else if frontend = frontendRiscv then subop == FrontendHandoff.riscvCtrlTrapReturn
  else false

variable (r : FrontendPredecodedRetire)

def trapReturnDecode : Bool :=
  r.valid && r.fetchValid && r.decodeValid && r.polyCtrlI && isTrapReturn r.frontend r.subopI

def waitFetch : Bool :=
  r.valid && !r.fetchValid && !r.olderFaultI && !r.fetchFaultI && !r.executeFaultI && !r.blockRetire

def waitExecute : Bool :=
  r.valid && r.fetchValid && r.decodeValid &&
    (!r.executeReady || (r.trapReturnDecode && !r.trapReturnRestoreValid)) &&
    !r.olderFaultI && !r.fetchFaultI && !r.executeFaultI && !r.blockRetire

def waitRetire : Bool :=
  r.valid && r.blockRetire && !r.olderFaultI && !r.fetchFaultI && !r.executeFaultI

def stepValid : Bool :=
  r.valid && r.fetchValid && r.decodeValid && r.executeReady &&
    (!r.trapReturnDecode || r.trapReturnRestoreValid) && !r.blockRetire && !r.olderFaultI &&
    !r.fetchFaultI && !r.executeFaultI

def rawAlignFault : Bool := false

def polyCtrl : Bool := r.stepValid && r.polyCtrlI

def subop : BitVec 7 := if r.polyCtrl then r.subopI else 0#7

def frontendHandoff : FrontendHandoff where
  valid := r.stepValid
  currentFrontend := r.frontend
  polyCtrl := r.polyCtrlI
  subop := r.subopI
  callSigImm := r.callSigImm
  signatureSlot := r.signatureSlot
  signatureSlotValid := r.signatureSlotValid
  targetFrontend := r.targetFrontend
  targetPc := r.targetPc
  fallthroughPc := r.fallthroughPc
  transitionStackFullI := r.transitionStackFullI

def olderFault : Bool := r.valid && r.olderFaultI

def fetchFault : Bool := r.valid && !r.olderFaultI && r.fetchFaultI

def executeFault : Bool := r.valid && !r.olderFaultI && !r.fetchFaultI && r.executeFaultI

def controlFault : Bool := r.stepValid && r.frontendHandoff.error

def fault : Bool := r.olderFault || r.fetchFault || r.executeFault || r.controlFault

def faultPc : BitVec 64 := if r.fault then r.pc else 0#64

def retire : Bool := r.stepValid && !r.frontendHandoff.error

def commitTransition : Bool := r.retire && r.frontendHandoff.transition

def trapReturnRetire : Bool := r.retire && r.frontendHandoff.trapReturn

def commitPushTransition : Bool := r.retire && r.frontendHandoff.pushTransition

def commitFrontend : BitVec 2 := if r.retire then r.frontendHandoff.nextFrontend else r.frontend

def commitPc : BitVec 64 := if r.retire then r.frontendHandoff.nextPc else r.pc

def commitSignatureSlot : BitVec 7 :=
  if r.retire then r.frontendHandoff.selectedSignatureSlot else 0#7

def invalidSubop : Bool := r.frontendHandoff.invalidSubop

def invalidFrontend : Bool := r.frontendHandoff.invalidFrontend

def noncanonicalTarget : Bool := r.frontendHandoff.noncanonicalTarget

def targetAlignFault : Bool := r.frontendHandoff.targetAlignFault

def invalidSignatureSlot : Bool := r.frontendHandoff.invalidSignatureSlot

def transitionStackFull : Bool := r.frontendHandoff.transitionStackFull

end FrontendPredecodedRetire

/-! ## Fetch to retire -/

/-- The ports of `poly_frontend_memory_retire`: those of its pipeline, and the gating inputs. -/
structure FrontendMemoryRetire where
  pipeline : FrontendFetchDecodePipeline
  olderFaultI : Bool
  executeReady : Bool
  blockRetire : Bool
  executeFaultI : Bool
  targetFrontend : BitVec 2
  targetPc : BitVec 64
  signatureSlotValid : Bool
  transitionStackFullI : Bool
  trapReturnRestoreValid : Bool

namespace FrontendMemoryRetire

/-! The raw sidebands depend on the pipeline alone: the core computes the gating inputs of the same
instance from them, so they are functions of the pipeline here. -/

section

variable (p : FrontendFetchDecodePipeline)

def rawInsnValid : Bool := p.decodeValid && p.rawInsnValid

def rawMemoryOrderValid : Bool := p.decodeValid && p.rawMemoryOrderValid

def rawMemoryLoad : Bool := p.decodeValid && p.rawMemoryLoad

def rawMemoryStore : Bool := p.decodeValid && p.rawMemoryStore

def rawMemoryAtomic : Bool := p.decodeValid && p.rawMemoryAtomic

def rawMemoryBarrier : Bool := p.decodeValid && p.rawMemoryBarrier

def rawMemoryAccessBytes : BitVec 4 :=
  if rawMemoryOrderValid p then p.rawMemoryAccessBytes else 0#4

def rawBranch : Bool := p.decodeValid && p.rawBranch

def rawTrap : Bool := p.decodeValid && p.rawTrap

def rawBranchTargetValid : Bool := p.decodeValid && p.rawBranchTargetValid

def rawBranchTarget : BitVec 64 := if rawBranchTargetValid p then p.rawBranchTarget else 0#64

end

variable (m : FrontendMemoryRetire)

def frontendPredecodedRetire : FrontendPredecodedRetire where
  valid := m.pipeline.valid
  fetchValid := m.pipeline.fetchValid
  decodeValid := m.pipeline.decodeValid
  executeReady := m.executeReady
  blockRetire := m.blockRetire
  olderFaultI := m.olderFaultI
  fetchFaultI := m.pipeline.fetchFault
  executeFaultI := m.executeFaultI
  frontend := m.pipeline.frontend
  pc := m.pipeline.pc
  fallthroughPc := m.pipeline.fetchFallthroughPc
  polyCtrlI := m.pipeline.polyCtrl
  subopI := m.pipeline.subop
  callSigImm := m.pipeline.callSigImm
  signatureSlot := m.pipeline.signatureSlot
  targetFrontend := m.targetFrontend
  targetPc := m.targetPc
  signatureSlotValid := m.signatureSlotValid
  transitionStackFullI := m.transitionStackFullI
  trapReturnRestoreValid := m.trapReturnRestoreValid

def fault : Bool := m.frontendPredecodedRetire.fault

end FrontendMemoryRetire

end Poly
