import Armd64.Lib.Machine
import Armd64.Rtl.AbiSlots
import Armd64.Rtl.Boundary
import Armd64.Rtl.EventFrame
import Armd64.Rtl.Retire
import Armd64.Rtl.TransitionStack

/-!
# The frontend core (`poly_frontend_core`)

Fetch-to-retire control together with the transition stack, return-cookie recovery, the interrupt
boundary, event-frame delivery, memory order and the ABI signature slots. The CPUID ROM and the
cycle budget, which no other signal reads, are left out. `FrontendCore.nextRegs` is the clock edge,
and `coreMachine` the core as a machine whose current frontend and pc are inputs.
-/

namespace Poly

/-- The input ports of `poly_frontend_core` other than the current frontend and pc, and than that of
the cycle budget. -/
structure CoreInputs where
  valid : Bool := false
  sp : BitVec 64 := 0
  transitionReturnPc : BitVec 64 := 0
  transitionFlags : BitVec 32 := 0
  x86FetchValid : Bool := false
  x86FetchFault : Bool := false
  x86FetchWord : BitVec 32 := 0
  x86FallthroughPc : BitVec 64 := 0
  rawMemRespValid : Bool := false
  rawMemRespFault : Bool := false
  rawMemRespWord : BitVec 32 := 0
  olderFaultI : Bool := false
  executeFaultI : Bool := false
  rawBranchResolved : Bool := false
  rawBranchTaken : Bool := false
  rawBranchTargetI : BitVec 64 := 0
  rawMemoryResolved : Bool := false
  rawMemoryFault : Bool := false
  memoryOrderValid : Bool := false
  memoryLoad : Bool := false
  memoryStore : Bool := false
  memoryAtomic : Bool := false
  memoryBarrier : Bool := false
  olderStorePending : Bool := false
  storeBufferFull : Bool := false
  targetFrontend : BitVec 2 := 0
  targetPc : BitVec 64 := 0
  signatureSlotValid : Bool := false
  transitionPop : Bool := false
  returnRecoverValid : Bool := false
  returnTargetPc : BitVec 64 := 0
  interruptFeatureEnabled : Bool := false
  cpl3 : Bool := false
  interrupt : Bool := false
  userReturn : Bool := false
  userReturnPc : BitVec 64 := 0
  trapValid : Bool := false
  trapMonitorEnabled : Bool := false
  trapEventFrameAddr : BitVec 64 := 0
  trapVectorValid : Bool := false
  trapVectorFrontendI : BitVec 2 := 0
  trapVectorPcI : BitVec 64 := 0
  trapReason : BitVec 32 := 0
  trapSourceMode : BitVec 32 := 0
  trapNumber : BitVec 64 := 0
  trapSelector : BitVec 64 := 0
  trapPc : BitVec 64 := 0
  trapResumePc : BitVec 64 := 0
  trapArg0 : BitVec 64 := 0
  trapArg1 : BitVec 64 := 0
  trapArg2 : BitVec 64 := 0
  trapArg3 : BitVec 64 := 0
  trapArg4 : BitVec 64 := 0
  trapArg5 : BitVec 64 := 0
  trapArg6 : BitVec 64 := 0
  trapArg7 : BitVec 64 := 0
  trapMemWriteRespValid : Bool := false
  trapMemWriteFault : Bool := false
  trapReturnRestoreValid : Bool := false
  trapReturnRestoreFrontendI : BitVec 2 := 0
  trapReturnRestorePcI : BitVec 64 := 0
  abiSignatureSet : Bool := false
  abiSignatureSetSlot : BitVec 4 := 0
  abiSignatureSetKind : BitVec 8 := 0
  abiSignatureSetMap : BitVec 32 := 0

structure CoreRegs where
  polyStateDirty : Bool
  interruptedValid : Bool
  interruptedLoc : Loc
  transitionStack : TransitionStack 8
  abiSignatureSlots : AbiSignatureSlots

structure CoreRegs.IsReset (r : CoreRegs) : Prop where
  polyStateDirty : r.polyStateDirty = false
  interruptedValid : r.interruptedValid = false
  interruptedLoc : r.interruptedLoc = ⟨0, 0⟩
  transitionStack : r.transitionStack.IsReset
  abiSignatureSlots : r.abiSignatureSlots = AbiSignatureSlots.resetState

/-- One cycle of `poly_frontend_core`: its input ports and its registers. -/
structure FrontendCore extends CoreInputs where
  frontend : BitVec 2
  pc : BitVec 64
  regs : CoreRegs

namespace FrontendCore

variable (c : FrontendCore)

/-! ## Fetch and decode -/

def pipeline : FrontendFetchDecodePipeline where
  valid := c.valid
  frontend := c.frontend
  pc := c.pc
  x86FetchRespValid := c.x86FetchValid
  x86FetchRespFault := c.x86FetchFault
  x86FetchRespWord := c.x86FetchWord
  x86FetchRespFallthroughPc := c.x86FallthroughPc
  rawMemRespValid := c.rawMemRespValid
  rawMemRespFault := c.rawMemRespFault
  rawMemRespWord := c.rawMemRespWord

def rawInsnValid : Bool := FrontendMemoryRetire.rawInsnValid c.pipeline

def rawMemoryOrderValid : Bool := FrontendMemoryRetire.rawMemoryOrderValid c.pipeline

def rawMemoryLoad : Bool := FrontendMemoryRetire.rawMemoryLoad c.pipeline

def rawMemoryStore : Bool := FrontendMemoryRetire.rawMemoryStore c.pipeline

def rawMemoryAtomic : Bool := FrontendMemoryRetire.rawMemoryAtomic c.pipeline

def rawMemoryBarrier : Bool := FrontendMemoryRetire.rawMemoryBarrier c.pipeline

def rawMemoryAccessBytes : BitVec 4 := FrontendMemoryRetire.rawMemoryAccessBytes c.pipeline

def rawBranch : Bool := FrontendMemoryRetire.rawBranch c.pipeline

def rawBranchTargetValid : Bool := FrontendMemoryRetire.rawBranchTargetValid c.pipeline

def rawBranchTarget : BitVec 64 := FrontendMemoryRetire.rawBranchTarget c.pipeline

/-! ## Transition stack and return cookie -/

def stackEmpty : Bool := c.regs.transitionStack.empty

def stackFull : Bool := c.regs.transitionStack.full

def peekValid : Bool := c.regs.transitionStack.peekValid

def peekFrame : Frame := c.regs.transitionStack.peekFrame

def returnCookieRecover : ReturnCookieRecover where
  valid := c.returnRecoverValid
  currentFrontend := c.frontend
  returnTargetPc := c.returnTargetPc
  transitionEmpty := !c.peekValid
  popFrontend := c.peekFrame.frontend
  popPc := c.peekFrame.pc
  popSp := c.peekFrame.sp
  popFlags := c.peekFrame.flags

def returnCookieHit : Bool := c.returnCookieRecover.cookieHit

def returnPopRaw : Bool := c.returnCookieRecover.popTransition

def returnResumeRaw : Bool := c.returnCookieRecover.resume

def stackPopRequest : Bool := c.transitionPop || (c.returnPopRaw && !c.transitionPop)

/-- `stack_unavailable`, also the output `transition_stack_unavailable_o`. -/
def stackUnavailable : Bool := c.stackFull || c.stackPopRequest

def returnRecoverBlocked : Bool := c.transitionPop && c.returnCookieHit

def returnRecoverPop : Bool := c.returnPopRaw && !c.transitionPop

def returnResume : Bool := c.returnResumeRaw && !c.transitionPop

def returnResumeFrontend : BitVec 2 :=
  if c.returnResume then c.returnCookieRecover.resumeFrontend else c.frontend

def returnResumePc : BitVec 64 :=
  if c.returnResume then c.returnCookieRecover.resumePc else c.returnTargetPc

def returnResumeSp : BitVec 64 := if c.returnResume then c.returnCookieRecover.resumeSp else 0#64

def returnResumeFlags : BitVec 32 :=
  if c.returnResume then c.returnCookieRecover.resumeFlags else 0#32

def returnRecoverError : Bool := c.returnCookieRecover.error || c.returnRecoverBlocked

def returnRecoverInvalidFrontend : Bool := c.returnCookieRecover.invalidFrontend

def returnRecoverMissingTransition : Bool := c.returnCookieRecover.missingTransition

/-! ## Interrupts -/

def interruptBoundary : InterruptBoundary where
  valid := c.valid
  featureEnabled := c.interruptFeatureEnabled
  cpl3 := c.cpl3
  interrupt := c.interrupt
  userReturn := c.userReturn
  stateDirty := c.regs.polyStateDirty
  currentFrontend := c.frontend
  currentPc := c.pc
  interruptedValid := c.regs.interruptedValid
  interruptedFrontend := c.regs.interruptedLoc.frontend
  interruptedPc := c.regs.interruptedLoc.pc
  userReturnPc := c.userReturnPc

def interruptEnterX86 : Bool := c.interruptBoundary.enterX86Interrupt

def interruptSaveInterrupted : Bool := c.interruptBoundary.saveInterrupted

def interruptSavedLoc : Loc := ⟨c.interruptBoundary.savedFrontend, c.interruptBoundary.savedPc⟩

def interruptRestoreRaw : Bool := c.interruptBoundary.restoreRaw

def interruptClearInterrupted : Bool := c.interruptBoundary.clearInterrupted

def interruptNextLoc : Loc := ⟨c.interruptBoundary.nextFrontend, c.interruptBoundary.nextPc⟩

def interruptError : Bool := c.interruptBoundary.error

def interruptSpillFullState : Bool := c.interruptBoundary.spillFullState

def interruptSpillHeaderOnly : Bool := c.interruptBoundary.spillHeaderOnly

def interruptClearStateDirty : Bool := c.interruptBoundary.clearStateDirty

/-! ## Event frames -/

def eventFrameStage : EventFrameStage where
  frameEncode :=
    { valid := c.trapValid
      eventEnabled := c.trapMonitorEnabled
      eventFrameAddr := c.trapEventFrameAddr
      eventKind := c.trapReason
      sourceFrontend := c.trapSourceMode
      number := c.trapNumber
      selector := c.trapSelector
      insnPc := c.trapPc
      resumePc := c.trapResumePc
      arg0 := c.trapArg0
      arg1 := c.trapArg1
      arg2 := c.trapArg2
      arg3 := c.trapArg3
      arg4 := c.trapArg4
      arg5 := c.trapArg5
      arg6 := c.trapArg6
      arg7 := c.trapArg7 }
  memWriteRespValid := c.trapMemWriteRespValid
  memWriteFault := c.trapMemWriteFault

def trapMemWriteValid : Bool := c.eventFrameStage.memWriteValid

def trapMemWriteAddr : BitVec 64 := c.eventFrameStage.memWriteAddr

def trapMemWriteBytes : BitVec 10 := EventFrameStage.memWriteBytes

def trapMemWriteData : BitVec (64 * 64) := c.eventFrameStage.memWriteData

def trapWaitResponse : Bool := c.eventFrameStage.waitResponse

def trapEventFrameDelivered : Bool := c.eventFrameStage.frameDelivered

def trapFault : Bool := c.eventFrameStage.fault

def trapVectorApply : Bool := c.trapEventFrameDelivered && c.trapVectorValid && !c.trapFault

def trapVectorLoc : Loc :=
  ⟨if c.trapVectorApply then c.trapVectorFrontendI else c.frontend,
    if c.trapVectorApply then c.trapVectorPcI else c.pc⟩

/-! ## Branches and memory operations -/

def rawUnresolvedBranch : Bool := c.rawBranch && !c.rawBranchTargetValid && !c.returnRecoverPop

def rawUnresolvedBranchWait : Bool := c.rawUnresolvedBranch && !c.rawBranchResolved

def rawResolvedBranchTargetValid : Bool :=
  c.rawUnresolvedBranch && c.rawBranchResolved && c.rawBranchTaken

def rawResolvedBranchTargetInvalid : Bool :=
  c.rawResolvedBranchTargetValid &&
    (!canonical64 c.rawBranchTargetI || !frontendAligned c.frontend c.rawBranchTargetI)

def rawCommitBranchTargetValid : Bool := c.rawBranchTargetValid || c.rawResolvedBranchTargetValid

def rawCommitBranchTarget : BitVec 64 :=
  if c.rawBranchTargetValid then c.rawBranchTarget else c.rawBranchTargetI

def rawMemoryAccess : Bool :=
  c.rawMemoryOrderValid && (c.rawMemoryLoad || c.rawMemoryStore || c.rawMemoryAtomic)

def rawMemoryExecuteWait : Bool := c.rawMemoryAccess && !c.rawMemoryResolved && !c.rawMemoryFault

def rawMemoryExecuteFault : Bool := c.rawMemoryAccess && c.rawMemoryFault

def rawDataMemLoad : Bool := c.rawMemoryAccess && c.rawMemoryLoad

def rawDataMemStore : Bool := c.rawMemoryAccess && c.rawMemoryStore

def rawDataMemAtomic : Bool := c.rawMemoryAccess && c.rawMemoryAtomic

def rawDataMemAccessBytes : BitVec 4 := if c.rawMemoryAccess then c.rawMemoryAccessBytes else 0#4

def effectiveMemoryOrderValid : Bool := c.memoryOrderValid || c.rawMemoryOrderValid

def effectiveMemoryLoad : Bool := c.memoryLoad || c.rawMemoryLoad

def effectiveMemoryStore : Bool := c.memoryStore || c.rawMemoryStore

def effectiveMemoryAtomic : Bool := c.memoryAtomic || c.rawMemoryAtomic

def effectiveMemoryBarrier : Bool := c.memoryBarrier || c.rawMemoryBarrier

def memoryOrder : MemoryOrder where
  valid := c.effectiveMemoryOrderValid
  frontend := c.frontend
  load := c.effectiveMemoryLoad
  store := c.effectiveMemoryStore
  atomic := c.effectiveMemoryAtomic
  barrier := c.effectiveMemoryBarrier
  olderStorePending := c.olderStorePending
  storeBufferFull := c.storeBufferFull

def memoryRetireAllowed : Bool := c.memoryOrder.retireAllowed

def memoryFault : Bool := c.memoryOrder.fault

/-! ## Retirement -/

def executeReady : Bool :=
  (!c.effectiveMemoryOrderValid || c.memoryRetireAllowed) && !c.rawUnresolvedBranchWait &&
    !c.rawMemoryExecuteWait

def executeFault : Bool :=
  c.executeFaultI || c.memoryFault || c.interruptError || c.trapFault ||
    c.rawResolvedBranchTargetInvalid || c.rawMemoryExecuteFault

def blockRetire : Bool :=
  c.interruptEnterX86 || c.interruptRestoreRaw || c.trapWaitResponse || c.trapEventFrameDelivered

def frontendMemoryRetire : FrontendMemoryRetire where
  pipeline := c.pipeline
  olderFaultI := c.olderFaultI
  executeReady := c.executeReady
  blockRetire := c.blockRetire
  executeFaultI := c.executeFault
  targetFrontend := c.targetFrontend
  targetPc := c.targetPc
  signatureSlotValid := c.signatureSlotValid
  transitionStackFullI := c.stackUnavailable
  trapReturnRestoreValid := c.trapReturnRestoreValid

def gate : FrontendPredecodedRetire := c.frontendMemoryRetire.frontendPredecodedRetire

def waitFetch : Bool := c.gate.waitFetch

def waitExecute : Bool := c.gate.waitExecute

def waitRetire : Bool := c.gate.waitRetire

def retire : Bool := c.gate.retire

def commitPushTransition : Bool := c.gate.commitPushTransition

def commitLoc : Loc := ⟨c.gate.commitFrontend, c.gate.commitPc⟩

def commitSignatureSlot : BitVec 7 := c.gate.commitSignatureSlot

def trapReturnRetire : Bool := c.gate.trapReturnRetire

def fault : Bool := c.frontendMemoryRetire.fault

def faultPc : BitVec 64 := c.gate.faultPc

def fetchFault : Bool := c.gate.fetchFault

def controlFault : Bool := c.gate.controlFault

def polyCtrl : Bool := c.gate.polyCtrl

def subop : BitVec 7 := c.gate.subop

def memoryEnqueueStore : Bool := c.retire && c.memoryOrder.enqueueStore

def memoryBarrierNoop : Bool := c.retire && c.memoryOrder.barrierNoop

def memoryAarch64BarrierNoop : Bool := c.retire && c.memoryOrder.aarch64BarrierNoop

def memoryRiscvFenceNoop : Bool := c.retire && c.memoryOrder.riscvFenceNoop

def rawBranchTargetValidO : Bool := c.retire && c.rawCommitBranchTargetValid && !c.polyCtrl

def rawBranchTargetO : BitVec 64 := if c.rawBranchTargetValidO then c.rawCommitBranchTarget else 0#64

def trapReturnRestore : Bool := c.trapReturnRetire && c.trapReturnRestoreValid

def trapReturnRestoreLoc : Loc :=
  ⟨if c.trapReturnRestore then c.trapReturnRestoreFrontendI else c.frontend,
    if c.trapReturnRestore then c.trapReturnRestorePcI else c.pc⟩

def polyStateDirtySet : Bool := c.retire && c.rawInsnValid && !c.polyCtrl

def x86CtrlPenterMode : BitVec 7 := 0x03#7

def x86CtrlPrestore : BitVec 7 := 0x70#7

def polyStateDirtyClear : Bool :=
  c.interruptClearStateDirty ||
    (c.retire && c.polyCtrl && (c.subop == x86CtrlPenterMode || c.subop == x86CtrlPrestore))

/-! ## ABI signature -/

def abiSelectSlot : BitVec 4 := c.commitSignatureSlot.extractLsb' 0 4

def abiSignatureValid : Bool :=
  c.commitPushTransition && AbiSignatureSlots.selectValid c.abiSelectSlot

def abiSignatureKind : BitVec 8 :=
  if c.abiSignatureValid then c.regs.abiSignatureSlots.selectKind c.abiSelectSlot else 0#8

def abiSignatureMap : BitVec 7 :=
  if c.abiSignatureValid then c.regs.abiSignatureSlots.selectMap c.abiSelectSlot else 0#7

def abiSignatureTlsBase : Bool :=
  c.abiSignatureValid && c.regs.abiSignatureSlots.selectTlsBase c.abiSelectSlot

/-! ## The clock edge -/

def transitionStackReq : TransitionStackReq where
  push := c.commitPushTransition
  pushFrame := ⟨c.frontend, c.transitionReturnPc, c.sp, c.transitionFlags⟩
  pop := c.stackPopRequest

def abiSignatureSetReq : AbiSignatureSet where
  set := c.abiSignatureSet
  setSlot := c.abiSignatureSetSlot
  setKind := c.abiSignatureSetKind
  setMap := c.abiSignatureSetMap

def nextPolyStateDirty : Bool :=
  if c.polyStateDirtyClear then false
  else if c.polyStateDirtySet then true
  else c.regs.polyStateDirty

def nextInterruptedValid : Bool :=
  if c.interruptSaveInterrupted then true
  else if c.interruptClearInterrupted then false
  else c.regs.interruptedValid

def nextInterruptedLoc : Loc :=
  if c.interruptSaveInterrupted then c.interruptSavedLoc
  else if c.interruptClearInterrupted then ⟨0, 0⟩
  else c.regs.interruptedLoc

def nextRegs : CoreRegs where
  polyStateDirty := c.nextPolyStateDirty
  interruptedValid := c.nextInterruptedValid
  interruptedLoc := c.nextInterruptedLoc
  transitionStack := c.regs.transitionStack.step c.transitionStackReq
  abiSignatureSlots := c.regs.abiSignatureSlots.step c.abiSignatureSetReq

end FrontendCore

/-- The cycle that the registers `r`, the input ports and the current location make. -/
def coreCycle (r : CoreRegs) (i : CoreInputs × Loc) : FrontendCore :=
  { i.1 with frontend := i.2.frontend, pc := i.2.pc, regs := r }

def coreMachine : Hw.Machine CoreRegs (CoreInputs × Loc) where
  reset := CoreRegs.IsReset
  step r i := (coreCycle r i).nextRegs

end Poly
