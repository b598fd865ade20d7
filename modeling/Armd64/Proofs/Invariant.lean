import Armd64.Proofs.Gate
import Armd64.Spec.Conditions

/-!
# The architectural invariant

One inductive invariant ties together the registers that different modules write: the frontend/pc
register holds an executable location, the transition stack holds at most eight frames of known
frontends, and an interrupted context is an executable raw location.
-/

namespace Poly

open FrontendCore
open InterruptBoundary

structure Inv (s : State) : Prop where
  loc : s.loc.ok = true
  depth : s.regs.transitionStack.Wf
  frames : ∀ f ∈ s.regs.transitionStack.contents, frontendValid f.frontend = true
  interrupted : s.regs.interruptedValid = true →
    frontendRaw s.regs.interruptedLoc.frontend = true ∧ s.regs.interruptedLoc.ok = true

theorem sized8 : TransitionStack.Sized 8 := ⟨by decide, by decide⟩

namespace Inv

variable {s : State}

theorem frontend (h : Inv s) : frontendValid s.loc.frontend := (Loc.ok_iff.mp h.loc).1

theorem canonical (h : Inv s) : canonical64 s.loc.pc := (Loc.ok_iff.mp h.loc).2.1

theorem aligned (h : Inv s) : frontendAligned s.loc.frontend s.loc.pc :=
  (Loc.ok_iff.mp h.loc).2.2

theorem topFrame (h : Inv s) (he : s.regs.transitionStack.empty = false) :
    frontendValid (topFrame s).frontend := by
  refine h.frames _ ?_
  rw [TransitionStack.contents_eq_cons h.depth he]
  exact List.mem_cons_self

end Inv

/-! ## The interrupt boundary under the invariant -/

section

variable {s : State} {i : Inputs}

section

variable (h : Inv s)

include h

theorem interruptError_eq_false : (cycle s i).core.interruptError = false := by
  have hint := h.interrupted
  cases hv : s.regs.interruptedValid
  · simp [interruptError, error,
      invalidCurrentFrontend, invalidCurrentPc,
      invalidInterruptedFrontend, invalidInterruptedPc,
      returnCandidate, interruptBoundary, StatefulCore.core, hv,
      h.frontend, h.canonical, h.aligned]
  · obtain ⟨hraw, hok⟩ := hint hv
    obtain ⟨-, hcan, hal⟩ := Loc.ok_iff.mp hok
    simp [interruptError, error,
      invalidCurrentFrontend, invalidCurrentPc,
      invalidInterruptedFrontend, invalidInterruptedPc,
      interruptedRaw, interruptBoundary, StatefulCore.core, hraw,
      hcan, hal, h.frontend, h.canonical, h.aligned]

theorem interruptEnterX86_eq : (cycle s i).core.interruptEnterX86 = interruptTaken s i := by
  have he : (cycle s i).core.interruptBoundary.error = false := interruptError_eq_false h
  rw [interruptEnterX86, enterX86Interrupt, he, Bool.not_false,
    Bool.and_true]
  rfl

theorem interruptRestoreRaw_eq : (cycle s i).core.interruptRestoreRaw = restoreTaken s i := by
  have he : (cycle s i).core.interruptBoundary.error = false := interruptError_eq_false h
  rw [interruptRestoreRaw, restoreRaw, he, Bool.not_false,
    Bool.and_true]
  rfl

theorem nextInterruptedLoc_of_enter (ht : interruptTaken s i) :
    (cycle s i).core.nextInterruptedValid ∧
      (cycle s i).core.nextInterruptedLoc = s.loc := by
  have hs : (cycle s i).core.interruptBoundary.saveInterrupted :=
    (interruptEnterX86_eq h).trans ht
  have hs' : (cycle s i).core.interruptSaveInterrupted := hs
  refine ⟨if_pos hs', (if_pos hs').trans ?_⟩
  rw [interruptSavedLoc, savedFrontend, if_pos hs,
    savedPc, if_pos hs]
  rfl

theorem nextInterrupted_of_restore (hn : interruptTaken s i = false) (ht : restoreTaken s i) :
    (cycle s i).core.nextInterruptedValid = false ∧
      (cycle s i).core.nextInterruptedLoc = ⟨0, 0⟩ := by
  have hs : (cycle s i).core.interruptSaveInterrupted = false := (interruptEnterX86_eq h).trans hn
  have hc : (cycle s i).core.interruptClearInterrupted :=
    (interruptRestoreRaw_eq h).trans ht
  simp [nextInterruptedValid, nextInterruptedLoc, hs, hc]

theorem nextInterrupted_of_idle (hn : interruptTaken s i = false) (ht : restoreTaken s i = false) :
    (cycle s i).core.nextInterruptedValid = s.regs.interruptedValid ∧
      (cycle s i).core.nextInterruptedLoc = s.regs.interruptedLoc := by
  have hs : (cycle s i).core.interruptSaveInterrupted = false := (interruptEnterX86_eq h).trans hn
  have hc : (cycle s i).core.interruptClearInterrupted = false :=
    (interruptRestoreRaw_eq h).trans ht
  simp [nextInterruptedValid, nextInterruptedLoc, hs, hc]
  exact ⟨rfl, rfl⟩

end

end

/-! ## Every edge keeps the invariant -/

variable {s : State}

theorem frames_next (i : Inputs) (h : Inv s) :
    ∀ f ∈ ((cycle s i).next.regs.transitionStack).contents, frontendValid f.frontend := by
  intro f hf
  rcases TransitionStack.contents_step_cases (r := (cycle s i).core.transitionStackReq) sized8
    h.depth with hc | ⟨-, hc⟩ | ⟨-, hc⟩
  · exact h.frames f (hc ▸ hf)
  · rcases List.mem_cons.mp (hc ▸ hf) with rfl | hf
    · exact h.frontend
    · exact h.frames f hf
  · exact h.frames f (List.mem_of_mem_tail (hc ▸ hf))

theorem interrupted_next (i : Inputs) (h : Inv s) (hv : (cycle s i).core.nextInterruptedValid) :
    frontendRaw (cycle s i).core.nextInterruptedLoc.frontend ∧
      (cycle s i).core.nextInterruptedLoc.ok := by
  cases he : interruptTaken s i
  · cases hr : restoreTaken s i
    · obtain ⟨hval, hloc⟩ := nextInterrupted_of_idle h he hr
      rw [hloc]
      exact h.interrupted (hval ▸ hv)
    · rw [(nextInterrupted_of_restore h he hr).1] at hv
      cases hv
  · rw [(nextInterruptedLoc_of_enter h he).2]
    simp only [interruptTaken, Bool.and_eq_true] at he
    exact ⟨he.2, h.loc⟩

theorem inv_reset (h : s.IsReset) : Inv s where
  loc := by rw [h.loc]; decide
  depth := by
    rw [TransitionStack.Wf, h.regs.transitionStack.1]
    decide
  frames := by
    rw [TransitionStack.contents, h.regs.transitionStack.1]
    simp
  interrupted hv := by rw [h.regs.interruptedValid] at hv; cases hv

theorem inv_step (i : Inputs) (h : Inv s) : Inv (machine.step s i) where
  loc := FrontendState.next_ok (q := (cycle s i).frontendState) h.loc
  depth := TransitionStack.Wf.step sized8 h.depth
  frames := frames_next i h
  interrupted := interrupted_next i h

theorem inv_inductive : machine.Inductive Inv := ⟨fun _ => inv_reset, fun _ i => inv_step i⟩

theorem inv_reach (h : machine.Reach s) : Inv s := inv_inductive.reach h

/-! ## Consequences -/

section

variable {s : State} {i : Inputs}

theorem returnRecoverInvalidFrontend_eq_false (h : Inv s) :
    (cycle s i).core.returnRecoverInvalidFrontend = false := by
  have hp : frontendValid (topFrame s).frontend := by
    cases he : s.regs.transitionStack.empty
    · exact h.topFrame he
    · rw [topFrame, TransitionStack.peekFrame, he]
      rfl
  have hp' : frontendValid (cycle s i).core.returnCookieRecover.popFrontend := hp
  have hc : frontendValid (cycle s i).core.returnCookieRecover.currentFrontend := h.frontend
  simp [returnRecoverInvalidFrontend, ReturnCookieRecover.invalidFrontend, hp', hc]

theorem loc_of_hold (h : (cycle s i).stateUpdate = false) : (machine.step s i).loc = s.loc :=
  FrontendState.next_of_hold (q := (cycle s i).frontendState) h

theorem loc_of_update (h : (cycle s i).stateUpdate) :
    (machine.step s i).loc = (cycle s i).frontendState.selectedLoc :=
  FrontendState.next_of_update (q := (cycle s i).frontendState) h

theorem stateUpdate_eq_false
    (h : (cycle s i).core.fault ∨ (cycle s i).core.waitFetch ∨
      (cycle s i).core.waitExecute ∨ (cycle s i).stateConflict ∨
      (cycle s i).stateInvalidFrontend ∨ (cycle s i).stateInvalidPc) :
    (cycle s i).stateUpdate = false := by
  have hfault : (cycle s i).frontendState.fault = (cycle s i).core.fault := rfl
  have hstall : (cycle s i).frontendState.stall =
      ((cycle s i).core.waitFetch || (cycle s i).core.waitExecute) := rfl
  rw [StatefulCore.stateUpdate, FrontendState.update, FrontendState.error, hfault, hstall]
  rcases h with h | h | h | h | h | h
  · simp [h]
  · simp [h]
  · simp [h]
  · simp [show (cycle s i).frontendState.conflict = true from h]
  · simp [show (cycle s i).frontendState.invalidFrontend = true from h]
  · simp [show (cycle s i).frontendState.invalidPc = true from h]

end

/-- In every reachable state the location is executable, every caller frame has a known frontend and
an interrupted context is an executable raw location. So no boundary ever meets an invalid location,
and a cycle with a fault, a stall, a conflict or an invalid redirect leaves frontend and pc as they
are. -/
theorem architectural_state {s : State} (h : machine.Reach s) (i : Inputs) :
    (s.loc.frontend = frontendX86 ∨ s.loc.frontend = frontendAarch64 ∨
        s.loc.frontend = frontendRiscv) ∧
      canonical64 s.loc.pc = true ∧ frontendAligned s.loc.frontend s.loc.pc = true ∧
      (∀ f ∈ s.regs.transitionStack.contents, f.frontend = frontendX86 ∨
        f.frontend = frontendAarch64 ∨ f.frontend = frontendRiscv) ∧
      (s.regs.interruptedValid = true →
        (s.regs.interruptedLoc.frontend = frontendAarch64 ∨
            s.regs.interruptedLoc.frontend = frontendRiscv) ∧
          canonical64 s.regs.interruptedLoc.pc = true ∧
          frontendAligned s.regs.interruptedLoc.frontend s.regs.interruptedLoc.pc = true) ∧
      (cycle s i).core.interruptError = false ∧
      (cycle s i).core.returnRecoverInvalidFrontend = false ∧
      ((cycle s i).core.fault = true ∨ (cycle s i).core.waitFetch = true ∨
          (cycle s i).core.waitExecute = true ∨ (cycle s i).stateConflict = true ∨
          (cycle s i).stateInvalidFrontend = true ∨ (cycle s i).stateInvalidPc = true →
        (machine.step s i).loc = s.loc) := by
  have hinv := inv_reach h
  refine ⟨frontendValid_iff.mp hinv.frontend, hinv.canonical, hinv.aligned,
    fun f hf => frontendValid_iff.mp (hinv.frames f hf), fun hv => ?_,
    interruptError_eq_false hinv, returnRecoverInvalidFrontend_eq_false hinv,
    fun hold => loc_of_hold (stateUpdate_eq_false hold)⟩
  obtain ⟨hraw, hok⟩ := hinv.interrupted hv
  exact ⟨frontendRaw_iff.mp hraw, (Loc.ok_iff.mp hok).2⟩

/-- An x86 PCALL to AArch64 code at `0x4000`, to return to x86 code at `0x1000`. -/
def pcallCycle : Inputs :=
  { valid := true
    x86FetchValid := true
    x86FetchWord := 0x2dfc3a0f#32
    targetFrontend := frontendAarch64
    targetPc := 0x4000#64
    signatureSlotValid := true
    transitionReturnPc := 0x1000#64
    sp := 0x8000#64 }

def interruptCycle : Inputs :=
  { valid := true
    interruptFeatureEnabled := true
    cpl3 := true
    interrupt := true }

/-- AArch64 code that was called by x86 code is interrupted, the handler calls AArch64 code again,
and the fetch of that code is answered by a fault. -/
theorem architectural_state_nested :
    let s := machine.run State.reset [pcallCycle, interruptCycle, pcallCycle]
    let i : Inputs := { valid := true, rawMemRespValid := true, rawMemRespFault := true }
    machine.Reach s ∧ s.regs.transitionStack.contents.map (·.frontend) = [frontendX86, frontendX86] ∧
      frontendAligned s.regs.interruptedLoc.frontend s.regs.interruptedLoc.pc = true ∧
      (cycle s i).core.fault = true ∧ (machine.step s i).loc = s.loc := by
  intro s i
  have h : machine.Reach s := reach_reset.run _
  obtain ⟨-, -, -, -, hsaved, -, -, hhold⟩ := architectural_state h i
  have hfault : (cycle s i).core.fault = true := by decide
  exact ⟨h, by decide, (hsaved (by decide)).2.2, hfault, hhold (.inl hfault)⟩

end Poly
