import Armd64.Rtl.Basic

/-!
# Interrupt boundary, return cookie and memory order

Three combinational policies of the core: `poly_interrupt_boundary` (raw interrupt entry and the
restore at a user return), `poly_return_cookie_recover` (a native return to the reserved cookie pops
a caller frame) and `poly_memory_order` (when a memory operation may retire under x86 TSO).
-/

namespace Poly

/-! ## Interrupt boundary -/

/-- The inputs of `poly_interrupt_boundary`. -/
structure InterruptBoundary where
  valid : Bool
  featureEnabled : Bool
  cpl3 : Bool
  interrupt : Bool
  userReturn : Bool
  stateDirty : Bool
  currentFrontend : BitVec 2
  currentPc : BitVec 64
  interruptedValid : Bool
  interruptedFrontend : BitVec 2
  interruptedPc : BitVec 64
  userReturnPc : BitVec 64

namespace InterruptBoundary

variable (b : InterruptBoundary)

def currentRaw : Bool := frontendRaw b.currentFrontend

def interruptedRaw : Bool := frontendRaw b.interruptedFrontend

/-- An interrupt of raw user code. An interrupt of x86 code needs no boundary. -/
def interruptCandidate : Bool :=
  b.valid && b.featureEnabled && b.cpl3 && b.interrupt && b.currentRaw

/-- A return to user code while a location is saved. -/
def returnCandidate : Bool :=
  b.valid && b.featureEnabled && b.cpl3 && b.userReturn && b.interruptedValid

def invalidCurrentFrontend : Bool := b.valid && b.interrupt && !frontendValid b.currentFrontend

def invalidCurrentPc : Bool :=
  b.interruptCandidate &&
    (!canonical64 b.currentPc || !frontendAligned b.currentFrontend b.currentPc)

def invalidInterruptedFrontend : Bool := b.returnCandidate && !b.interruptedRaw

def invalidInterruptedPc : Bool :=
  b.returnCandidate &&
    (!canonical64 b.interruptedPc || !frontendAligned b.interruptedFrontend b.interruptedPc)

def error : Bool :=
  b.invalidCurrentFrontend || b.invalidCurrentPc || b.invalidInterruptedFrontend ||
    b.invalidInterruptedPc

/-- The interrupt goes on in x86, at the same pc. -/
def enterX86Interrupt : Bool := b.interruptCandidate && !b.error

def saveInterrupted : Bool := b.enterX86Interrupt

def spillFullState : Bool := b.enterX86Interrupt && b.stateDirty

def spillHeaderOnly : Bool := b.enterX86Interrupt && !b.stateDirty

def clearStateDirty : Bool := b.enterX86Interrupt

def savedFrontend : BitVec 2 := if b.saveInterrupted then b.currentFrontend else frontendX86

def savedPc : BitVec 64 := if b.saveInterrupted then b.currentPc else 0#64

/-- The return is to the saved pc: the raw frontend goes on there. -/
def restoreRaw : Bool := b.returnCandidate && !b.error && b.userReturnPc == b.interruptedPc

def clearInterrupted : Bool := b.restoreRaw

def nextFrontend : BitVec 2 :=
  if b.enterX86Interrupt then frontendX86
  else if b.restoreRaw then b.interruptedFrontend
  else b.currentFrontend

def nextPc : BitVec 64 :=
  if b.enterX86Interrupt then b.currentPc
  else if b.restoreRaw then b.interruptedPc
  else b.currentPc

end InterruptBoundary

/-! ## Return cookie -/

/-- The inputs of `poly_return_cookie_recover`, with the top of the transition stack. -/
structure ReturnCookieRecover where
  valid : Bool
  currentFrontend : BitVec 2
  returnTargetPc : BitVec 64
  transitionEmpty : Bool
  popFrontend : BitVec 2
  popPc : BitVec 64
  popSp : BitVec 64
  popFlags : BitVec 32

def returnCookie : BitVec 64 := 0xfffffffffffff000#64

namespace ReturnCookieRecover

variable (r : ReturnCookieRecover)

def cookieHit : Bool := r.valid && r.returnTargetPc == returnCookie

def invalidFrontend : Bool :=
  r.cookieHit && (!frontendValid r.currentFrontend || !frontendValid r.popFrontend)

/-- A return to the cookie with nothing to pop. -/
def missingTransition : Bool := r.cookieHit && r.transitionEmpty

def error : Bool := r.invalidFrontend || r.missingTransition

/-- The return pops the frame of its caller, of which only the frontend is checked. -/
def popTransition : Bool := r.cookieHit && !r.error

def resume : Bool := r.popTransition

def resumeFrontend : BitVec 2 := if r.resume then r.popFrontend else r.currentFrontend

def resumePc : BitVec 64 := if r.resume then r.popPc else r.returnTargetPc

def resumeSp : BitVec 64 := if r.resume then r.popSp else 0#64

def resumeFlags : BitVec 32 := if r.resume then r.popFlags else 0#32

end ReturnCookieRecover

/-! ## Memory order -/

/-- The inputs of `poly_memory_order`. -/
structure MemoryOrder where
  valid : Bool
  frontend : BitVec 2
  load : Bool
  store : Bool
  atomic : Bool
  barrier : Bool
  olderStorePending : Bool
  storeBufferFull : Bool

namespace MemoryOrder

def memoryModelX86Tso : BitVec 32 := 1#32

variable (o : MemoryOrder)

def rawFrontend : Bool := frontendRaw o.frontend

def opPresent : Bool := o.load || o.store || o.atomic || o.barrier

def memoryOp : Bool := o.load || o.store || o.atomic

def invalidFrontend : Bool := o.valid && !frontendValid o.frontend

def invalidOp : Bool := o.valid && !o.opPresent

def fault : Bool := o.invalidFrontend || o.invalidOp

/-- There is no room for a store. -/
def waitStoreBuffer : Bool :=
  o.valid && !o.fault && o.storeBufferFull && (o.store || o.atomic)

/-- An atomic operation waits for the older stores. -/
def waitAtomicOrder : Bool := o.valid && !o.fault && o.atomic && o.olderStorePending

def retireAllowed : Bool := o.valid && !o.fault && !o.waitStoreBuffer && !o.waitAtomicOrder

def enqueueStore : Bool := o.retireAllowed && o.store

/-- The fences of the raw frontends have nothing to do under TSO. -/
def barrierNoop : Bool := o.retireAllowed && o.barrier && o.rawFrontend

def aarch64BarrierNoop : Bool := o.barrierNoop && o.frontend == frontendAarch64

def riscvFenceNoop : Bool := o.barrierNoop && o.frontend == frontendRiscv

def weakReorderAllowed : Bool := o.valid && o.memoryOp && memoryModelX86Tso != 1#32

end MemoryOrder

end Poly
