import Armd64.Rtl.Core
import Armd64.Rtl.State

/-!
# The stateful core (`poly_frontend_stateful_core`)

The core with the architectural frontend/pc register: the register drives fetch and decode, and the
core's commits, interrupt entry and restore, return-cookie resumes and trap vectors drive the
register. `machine` is the synchronous machine whose runs the results are about.
-/

namespace Poly

structure Inputs extends CoreInputs where
  init : Bool := false
  initFrontend : BitVec 2 := 0
  initPc : BitVec 64 := 0

/-- The registers of `poly_frontend_stateful_core`: `frontend_q`, `pc_q` and those of its
`frontend_core`. -/
structure State where
  loc : Loc
  regs : CoreRegs

structure State.IsReset (s : State) : Prop where
  loc : s.loc = ⟨frontendX86, 0⟩
  regs : s.regs.IsReset

/-- The registers after a reset that finds zeros in the slots of the transition stack. -/
def State.reset : State where
  loc := ⟨frontendX86, 0⟩
  regs :=
    { polyStateDirty := false
      interruptedValid := false
      interruptedLoc := ⟨0, 0⟩
      transitionStack := ⟨Vector.replicate 8 default, 0, false, default, false, false, false⟩
      abiSignatureSlots := AbiSignatureSlots.resetState }

theorem State.reset_isReset : State.reset.IsReset :=
  ⟨rfl, rfl, rfl, rfl, ⟨rfl, rfl, rfl, rfl, rfl, rfl⟩, rfl⟩

/-- One cycle of `poly_frontend_stateful_core`: its input ports and its registers. -/
structure StatefulCore extends Inputs where
  state : State

namespace StatefulCore

variable (k : StatefulCore)

def core : FrontendCore where
  toCoreInputs := k.toCoreInputs
  frontend := k.state.loc.frontend
  pc := k.state.loc.pc
  regs := k.state.regs

def stateInterruptUpdate : Bool := k.core.interruptEnterX86 || k.core.interruptRestoreRaw

def stateStall : Bool := k.core.waitFetch || k.core.waitExecute

def stateCommitLoc : Loc :=
  if k.core.rawBranchTargetValidO then ⟨k.state.loc.frontend, k.core.rawBranchTargetO⟩
  else k.core.commitLoc

def frontendState : FrontendState where
  loc := k.state.loc
  init := k.init
  initLoc := ⟨k.initFrontend, k.initPc⟩
  commit := k.core.retire && !k.core.trapReturnRestore
  commitLoc := k.stateCommitLoc
  interruptRestore := k.stateInterruptUpdate
  interruptLoc := k.core.interruptNextLoc
  returnResume := k.core.returnResume
  returnLoc := ⟨k.core.returnResumeFrontend, k.core.returnResumePc⟩
  trapVector := k.core.trapVectorApply
  trapLoc := k.core.trapVectorLoc
  trapReturn := k.core.trapReturnRestore
  trapReturnLoc := k.core.trapReturnRestoreLoc
  fault := k.core.fault
  stall := k.stateStall

def stateUpdate : Bool := k.frontendState.update

def stateConflict : Bool := k.frontendState.conflict

def stateInvalidFrontend : Bool := k.frontendState.invalidFrontend

def stateInvalidPc : Bool := k.frontendState.invalidPc

def next : State where
  loc := k.frontendState.next
  regs := k.core.nextRegs

end StatefulCore

def cycle (s : State) (i : Inputs) : StatefulCore := { i with state := s }

def machine : Hw.Machine State Inputs where
  reset := State.IsReset
  step s i := (cycle s i).next

@[simp] theorem cycle_state (s : State) (i : Inputs) : (cycle s i).state = s := rfl

@[simp] theorem cycle_toInputs (s : State) (i : Inputs) : (cycle s i).toInputs = i := rfl

theorem reach_reset : machine.Reach State.reset := .init State.reset_isReset

end Poly
