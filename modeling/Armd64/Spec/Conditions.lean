import Armd64.Rtl.StatefulCore
import Armd64.Spec.Control

/-!
# What the outside world asks of a cycle

Pure predicates on the registers `s` before an edge and the inputs `i` of that edge: which
instruction has arrived, which faults are pending, and which of the redirects (interrupt entry,
interrupt restore, return cookie, trap vector) are asked for. They look at the ports, the
architectural registers and the arrived word alone, never at a wire of the core; the results about
the core are stated with them.
-/

namespace Poly

/-! ## The arrived instruction -/

/-- The bytes of a fetch at this location (16 for x86, 4 for a raw frontend) are canonical and do
not wrap. -/
def fetchable (l : Loc) : Bool :=
  let last := l.pc + (if l.frontend = frontendX86 then 15#64 else 3#64)
  canonical64 l.pc && canonical64 last && !last.ult l.pc

/-- The instruction-memory response on the port of the frontend `f` is there. -/
def CoreInputs.fetchResp (i : CoreInputs) (f : BitVec 2) : Bool :=
  if f = frontendX86 then i.x86FetchValid else i.rawMemRespValid

def CoreInputs.fetchRespFault (i : CoreInputs) (f : BitVec 2) : Bool :=
  if f = frontendX86 then i.x86FetchFault else i.rawMemRespFault

def compressed (f : BitVec 2) (w : BitVec 32) : Bool :=
  f == frontendRiscv && w.extractLsb' 0 2 != 3#2

/-- The raw instruction in a fetched word: a compressed one is its low half. -/
def rawInsn (f : BitVec 2) (w : BitVec 32) : BitVec 32 :=
  if compressed f w then (w.extractLsb' 0 16).setWidth 32 else w

def rawInsnBytes (f : BitVec 2) (w : BitVec 32) : BitVec 64 := if compressed f w then 2#64 else 4#64

def CoreInputs.insn (i : CoreInputs) (f : BitVec 2) : BitVec 32 :=
  if f = frontendX86 then i.x86FetchWord else rawInsn f i.rawMemRespWord

section

variable (s : State) (i : Inputs)

def arrived : Bool :=
  fetchable s.loc && i.fetchResp s.loc.frontend && !i.fetchRespFault s.loc.frontend

def insn : BitVec 32 := i.insn s.loc.frontend

def ctrlWord : CtrlDecode := ⟨true, s.loc.frontend, insn s i⟩

/-- The arrived instruction as a raw word; an x86 instruction is none. -/
def rawWord : RawInsnDecode := ⟨frontendRaw s.loc.frontend, s.loc.frontend, s.loc.pc, insn s i⟩

/-- The pc after the arrived instruction. The x86 decoder supplies its own. -/
def fallthrough : BitVec 64 :=
  if s.loc.frontend = frontendX86 then i.x86FallthroughPc
  else s.loc.pc + rawInsnBytes s.loc.frontend i.rawMemRespWord

/-! ## Event frames and redirects -/

/-- The event frame of the ports can be written: the monitor is on, the 512 bytes are aligned,
canonical and do not wrap, and kind and source are known. -/
def frameOk (i : CoreInputs) : Bool :=
  let last := i.trapEventFrameAddr + 511#64
  i.trapMonitorEnabled && canonical64 i.trapEventFrameAddr && canonical64 last &&
    i.trapEventFrameAddr &&& 63#64 == 0#64 && !last.ult i.trapEventFrameAddr &&
    (i.trapReason == 1#32 || i.trapReason == 2#32 || i.trapReason == 3#32 ||
      i.trapReason == 4#32) &&
    (i.trapSourceMode == 1#32 || i.trapSourceMode == 2#32)

def framePending (i : CoreInputs) : Bool := i.trapValid && frameOk i && !i.trapMemWriteRespValid

def frameDelivered (i : CoreInputs) : Bool :=
  i.trapValid && frameOk i && i.trapMemWriteRespValid && !i.trapMemWriteFault

def vectorRedirect (i : CoreInputs) : Bool := frameDelivered i && i.trapVectorValid

def vectorLoc (i : CoreInputs) : Loc := ⟨i.trapVectorFrontendI, i.trapVectorPcI⟩

def interruptTaken : Bool :=
  i.valid && i.interruptFeatureEnabled && i.cpl3 && i.interrupt && frontendRaw s.loc.frontend

/-- A user return goes to the saved pc of an interrupted raw context. -/
def restoreTaken : Bool :=
  i.valid && i.interruptFeatureEnabled && i.cpl3 && i.userReturn && s.regs.interruptedValid &&
    i.userReturnPc == s.regs.interruptedLoc.pc

/-- A native return to the cookie, with a caller frame to return to and no other pop. -/
def cookieReturn : Bool :=
  i.returnRecoverValid && i.returnTargetPc == returnCookie && !s.regs.transitionStack.empty &&
    !i.transitionPop

def topFrame : Frame := s.regs.transitionStack.peekFrame

/-! ## Faults -/

/-- The fetch itself fails: nothing can be fetched here, or the response is a fault. -/
def fetchFails : Bool :=
  !fetchable s.loc || (i.fetchResp s.loc.frontend && i.fetchRespFault s.loc.frontend)

def memoryOrderFails : Bool :=
  i.memoryOrderValid &&
    !(i.memoryLoad || i.memoryStore || i.memoryAtomic || i.memoryBarrier ||
      (arrived s i && (rawWord s i).memoryOrderValid))

/-- An event frame that cannot be written, or whose write is answered by a fault. -/
def frameFails (i : CoreInputs) : Bool :=
  i.trapValid && (!frameOk i || (i.trapMemWriteRespValid && i.trapMemWriteFault))

/-- A branch without a static target, other than a return to the cookie, that is taken to an address
which cannot be executed. -/
def branchFails : Bool :=
  arrived s i && (rawWord s i).branch && !(rawWord s i).branchTargetValid && !cookieReturn s i &&
    i.rawBranchResolved && i.rawBranchTaken &&
    !(canonical64 i.rawBranchTargetI && frontendAligned s.loc.frontend i.rawBranchTargetI)

def dataFails : Bool :=
  arrived s i &&
    ((rawWord s i).memoryLoad || (rawWord s i).memoryStore || (rawWord s i).memoryAtomic) &&
    i.rawMemoryFault

/-- Some fault is pending, other than one of a control word itself. -/
def faultPending : Bool :=
  i.olderFaultI || fetchFails s i || i.executeFaultI || memoryOrderFails s i ||
    frameFails i.toCoreInputs || branchFails s i || dataFails s i

/-! ## Retirement and successors -/

/-- The control operation of the arrived instruction, if it is a control word of the table. -/
def ctrlOpOf : Option CtrlOp := ctrlOp s.loc.frontend (ctrlWord s i).subop

/-- The target of a transition or of a trap return, the target of a taken branch, or the next
instruction. -/
def successor : Loc :=
  if (ctrlWord s i).polyCtrl then
    match ctrlOpOf s i with
    | some .switch | some .call => ⟨i.targetFrontend, i.targetPc⟩
    | some .escape => ⟨frontendX86, i.targetPc⟩
    | some .trapReturn => ⟨i.trapReturnRestoreFrontendI, i.trapReturnRestorePcI⟩
    | some .landing | none => ⟨s.loc.frontend, fallthrough s i⟩
  else if (rawWord s i).branchTargetValid then ⟨s.loc.frontend, (rawWord s i).branchTarget⟩
  else if (rawWord s i).branch && i.rawBranchResolved && i.rawBranchTaken then
    ⟨s.loc.frontend, i.rawBranchTargetI⟩
  else ⟨s.loc.frontend, fallthrough s i⟩

/-- The arrived control word is one of the table, its target is executable, a call has its signature
and room with no pop beside it, and a trap return has its location. -/
def ctrlAccepted : Bool :=
  match ctrlOpOf s i with
  | none => false
  | some .trapReturn => i.trapReturnRestoreValid
  | some .call =>
    (⟨i.targetFrontend, i.targetPc⟩ : Loc).ok &&
      (plainCall s.loc.frontend (ctrlWord s i).subop || i.signatureSlotValid) &&
      !(s.regs.transitionStack.full || i.transitionPop || cookieReturn s i)
  | some .escape => (⟨frontendX86, i.targetPc⟩ : Loc).ok
  | some .switch | some .landing => (⟨i.targetFrontend, i.targetPc⟩ : Loc).ok

def memoryWaits : Bool :=
  let atomic := i.memoryAtomic || (rawWord s i).memoryAtomic
  let store := i.memoryStore || (rawWord s i).memoryStore
  (i.memoryOrderValid || (rawWord s i).memoryOrderValid) &&
    ((i.storeBufferFull && (store || atomic)) || (atomic && i.olderStorePending))

def branchWaits : Bool :=
  (rawWord s i).branch && !(rawWord s i).branchTargetValid && !cookieReturn s i &&
    !i.rawBranchResolved

def dataWaits : Bool :=
  ((rawWord s i).memoryLoad || (rawWord s i).memoryStore || (rawWord s i).memoryAtomic) &&
    !i.rawMemoryResolved && !i.rawMemoryFault

def retireReady : Bool :=
  i.valid && arrived s i && !faultPending s i &&
    !(interruptTaken s i || restoreTaken s i || framePending i.toCoreInputs ||
      frameDelivered i.toCoreInputs) &&
    !memoryWaits s i && !branchWaits s i && !dataWaits s i &&
    (!(ctrlWord s i).polyCtrl || ctrlAccepted s i)

/-! ## When a return to the cookie is atomic -/

/-- Nothing stands beside the return: the caller is executable, no vector is asked for, and the
cycle is not valid or held by an event frame alone. -/
def returnAlone : Bool :=
  (topFrame s).loc.ok && !vectorRedirect i.toCoreInputs &&
    (!i.valid ||
      ((framePending i.toCoreInputs || frameDelivered i.toCoreInputs) && !interruptTaken s i &&
        !restoreTaken s i && !faultPending s i))

end

end Poly
