import Armd64.Proofs.Retirement

/-!
# Calls and returns across frontends

A PCALL pushes a caller frame and moves to its target in one edge. A native return to the cookie
pops the frame, but the frontend/pc register is gated by conditions that the pop does not see.
-/

namespace Poly

open FrontendCore StatefulCore

variable {s : State} {i : Inputs}

/-! ## Retirement and the register -/

theorem requests_eq (h : Inv s) :
    (cycle s i).frontendState.interruptRestore = (interruptTaken s i || restoreTaken s i) ∧
      (cycle s i).frontendState.returnResume = cookieReturn s i ∧
      (cycle s i).frontendState.trapVector = vectorRedirect i.toCoreInputs := by
  refine ⟨?_, returnResume_eq h, trapVectorApply_eq⟩
  rw [← interruptEnterX86_eq h, ← interruptRestoreRaw_eq h]
  rfl

theorem commit_of_retire (hr : (cycle s i).core.retire) :
    (cycle s i).frontendState.commit = !(cycle s i).frontendState.trapReturn := by
  show ((cycle s i).core.retire && _) = _
  rw [hr]
  rfl

/-- The register follows a retired instruction exactly when no return takes the cycle and the
successor is executable. -/
theorem stateUpdate_of_retire (h : Inv s) (hi : i.init = false)
    (hr : (cycle s i).core.retire) :
    (cycle s i).stateUpdate ↔ cookieReturn s i = false ∧ (successor s i).ok := by
  have ht := retired h hr
  obtain ⟨hfault, hstall⟩ := quiet_of_retire hr
  obtain ⟨hint, hret, hvec⟩ := requests_eq (i := i) h
  rw [ht.noInterrupt, ht.noRestore, Bool.or_self] at hint
  rw [ht.noVector] at hvec
  rw [stateUpdate, FrontendState.update_of_retire hi (commit_of_retire hr), hint, hret,
    hvec]
  constructor
  · rintro ⟨-, -, -, hc, -, hok⟩
    exact ⟨hc, commit_eq_successor h hr hc ▸ hok⟩
  · rintro ⟨hc, hok⟩
    exact ⟨hfault, hstall, rfl, hc, rfl, (commit_eq_successor h hr hc).symm ▸ hok⟩

theorem loc_of_retire (h : Inv s) (hi : i.init = false) (hr : (cycle s i).core.retire)
    (hu : (cycle s i).stateUpdate) : (machine.step s i).loc = successor s i := by
  obtain ⟨hc, -⟩ := (stateUpdate_of_retire h hi hr).mp hu
  rw [loc_of_update hu, ← commit_eq_successor h hr hc]
  exact FrontendState.selectedLoc_of_retire (q := (cycle s i).frontendState) hi
    (commit_of_retire hr) hu

/-! ## Push -/

theorem push_facts (h : Inv s) (hp : (cycle s i).core.commitPushTransition) :
    (cycle s i).core.retire ∧ (ctrlWord s i).polyCtrl ∧
      ctrlOpOf s i = some .call ∧ (cycle s i).core.stackUnavailable = false := by
  have hp' : (cycle s i).core.gate.commitPushTransition := hp
  rw [FrontendPredecodedRetire.commitPushTransition, Bool.and_eq_true] at hp'
  obtain ⟨hr, hpush⟩ := hp'
  have hr' : (cycle s i).core.retire := hr
  cases hc : (ctrlWord s i).polyCtrl
  · rw [(handoff_of_raw h hr' hc).2.2] at hpush
    cases hpush
  · have hl := handoff_live h (steps_of_retire hr') hc
    have he := (retired h hr').handoff
    have ho : ctrlOpOf s i = some .call := by
      rw [hl.pushTransition_eq he] at hpush
      exact of_decide_eq_true hpush
    rw [ho] at hl
    exact ⟨hr', rfl, ho, (hl.call_facts he).2⟩

theorem successor_of_call (hc : (ctrlWord s i).polyCtrl) (ho : ctrlOpOf s i = some .call) :
    successor s i = ⟨i.targetFrontend, i.targetPc⟩ := by
  simp [successor, hc, ho]

theorem call_target_ok (h : Inv s) (hr : (cycle s i).core.retire)
    (hc : (ctrlWord s i).polyCtrl) (ho : ctrlOpOf s i = some .call) :
    (⟨i.targetFrontend, i.targetPc⟩ : Loc).ok := by
  have hl := handoff_live h (steps_of_retire hr) hc
  rw [ho] at hl
  have hok := (hl.call_facts (retired h hr).handoff).1
  have hesc := hl.ops.escape
  rw [FrontendHandoff.target, FrontendHandoff.effectiveTargetFrontend, hesc] at hok
  exact hok

def callFrame (s : State) (i : Inputs) : Frame :=
  ⟨s.loc.frontend, i.transitionReturnPc, i.sp, i.transitionFlags⟩

theorem contents_of_push (h : Inv s) (hp : (cycle s i).core.commitPushTransition) :
    (machine.step s i).regs.transitionStack.contents =
        callFrame s i :: s.regs.transitionStack.contents ∧
      (machine.step s i).regs.transitionStack.overflow = false ∧
      (machine.step s i).regs.transitionStack.conflict = false ∧
      (cycle s i).core.stackPopRequest = false := by
  have hun := (push_facts h hp).2.2.2
  rw [stackUnavailable, Bool.or_eq_false_iff] at hun
  obtain ⟨hfull, hpop⟩ := hun
  obtain ⟨hcont, hover, hconf⟩ := TransitionStack.contents_step_push
    (r := (cycle s i).core.transitionStackReq) sized8 h.depth hp hpop hfull
  exact ⟨hcont, hover, hconf, hpop⟩

theorem loc_of_push (h : Inv s) (hi : i.init = false)
    (hp : (cycle s i).core.commitPushTransition) :
    (cycle s i).stateUpdate ∧ (machine.step s i).loc = ⟨i.targetFrontend, i.targetPc⟩ ∧
      (⟨i.targetFrontend, i.targetPc⟩ : Loc).ok := by
  obtain ⟨hr, hc, ho, -⟩ := push_facts h hp
  have hcookie : cookieReturn s i = false := by
    have hpop := (contents_of_push h hp).2.2.2
    rw [stackPopRequest_eq h, Bool.or_eq_false_iff] at hpop
    exact hpop.2
  have hsucc := successor_of_call hc ho
  have hok := call_target_ok h hr hc ho
  have hu : (cycle s i).stateUpdate :=
    (stateUpdate_of_retire h hi hr).mpr ⟨hcookie, hsucc ▸ hok⟩
  exact ⟨hu, (loc_of_retire h hi hr hu).trans hsucc, hok⟩

/-- In the cycle of its push a PCALL moves the register to the validated target and puts exactly the
caller's frame on the stack. It never overflows and never meets a pop. -/
theorem push_atomic (h : machine.Reach s) (hi : i.init = false)
    (hp : (cycle s i).core.commitPushTransition = true) :
    (cycle s i).stateUpdate = true ∧
      (machine.step s i).loc = ⟨i.targetFrontend, i.targetPc⟩ ∧
      (⟨i.targetFrontend, i.targetPc⟩ : Loc).ok = true ∧
      (machine.step s i).regs.transitionStack.contents =
        ⟨s.loc.frontend, i.transitionReturnPc, i.sp, i.transitionFlags⟩ ::
          s.regs.transitionStack.contents ∧
      (machine.step s i).regs.transitionStack.overflow = false ∧
      (machine.step s i).regs.transitionStack.conflict = false ∧
      (cycle s i).core.stackPopRequest = false := by
  have hinv := inv_reach h
  obtain ⟨hu, hloc, hok⟩ := loc_of_push hinv hi hp
  exact ⟨hu, hloc, hok, contents_of_push hinv hp⟩

theorem push_atomic_pcall :
    (cycle State.reset pcallCycle).core.commitPushTransition = true ∧
      (machine.step State.reset pcallCycle).loc = ⟨frontendAarch64, 0x4000#64⟩ :=
  have hp : (cycle State.reset pcallCycle).core.commitPushTransition = true := by decide
  ⟨hp, (push_atomic reach_reset (by decide) hp).2.1⟩

/-! ## Pop -/

theorem contents_of_pop (h : Inv s) (hc : cookieReturn s i) :
    s.regs.transitionStack.contents =
      topFrame s :: (machine.step s i).regs.transitionStack.contents := by
  have he : s.regs.transitionStack.empty = false := by
    simp only [cookieReturn, Bool.and_eq_true, Bool.not_eq_true'] at hc
    exact hc.1.2
  have hpop : (cycle s i).core.stackPopRequest := by
    rw [stackPopRequest_eq h, hc, Bool.or_true]
  have hpush : (cycle s i).core.commitPushTransition = false := by
    cases hp : (cycle s i).core.commitPushTransition
    · rfl
    · have hun := (push_facts h hp).2.2.2
      rw [stackUnavailable, hpop, Bool.or_true] at hun
      cases hun
  have hstep := TransitionStack.contents_step_pop (r := (cycle s i).core.transitionStackReq)
    h.depth hpush hpop he
  rw [TransitionStack.contents_eq_cons h.depth he] at hstep ⊢
  exact congrArg _ hstep.symm

theorem busy_of_unblocked (h : Inv s) (hv : i.valid)
    (hb : (cycle s i).core.gate.blockRetire = false) :
    (cycle s i).core.fault ∨ (cycle s i).stateStall ∨
      (cycle s i).core.retire := by
  have hd : (cycle s i).core.gate.fetchValid → (cycle s i).core.gate.decodeValid :=
    fun hf => (FrontendFetchDecodePipeline.decodeValid_eq (pipeline_live h hv)).trans
      ((FrontendFetchDecodePipeline.fetchValid_eq (pipeline_live h hv)).symm.trans hf)
  rcases FrontendPredecodedRetire.outcome hv hb hd with hf | hw | hw | hr
  · exact .inl hf
  · exact .inr (.inl (by simp [stateStall, waitFetch, hw]))
  · exact .inr (.inl (by simp [stateStall, waitExecute, hw]))
  · exact .inr (.inr hr)

theorem quiet_of_blocked (h : Inv s) (hv : i.valid)
    (hb : (cycle s i).core.gate.blockRetire) :
    (cycle s i).core.fault = faultPending s i ∧ (cycle s i).stateStall = false ∧
      (cycle s i).core.retire = false := by
  have hval : (cycle s i).core.gate.valid := hv
  refine ⟨?_, ?_, FrontendPredecodedRetire.retire_of_block hb⟩
  · rw [← pending_eq h hv]
    exact (FrontendPredecodedRetire.fault_of_block hb).trans (by rw [hval, Bool.true_and])
  · obtain ⟨h1, h2⟩ := FrontendPredecodedRetire.stall_of_block hb
    rw [stateStall, waitFetch, waitExecute, h1, h2]
    rfl

theorem quiet_of_invalid (hv : i.valid = false) :
    (cycle s i).core.fault = false ∧ (cycle s i).stateStall = false ∧
      (cycle s i).core.retire = false ∧ interruptTaken s i = false ∧ restoreTaken s i = false := by
  obtain ⟨h1, h2, h3, h4⟩ := FrontendPredecodedRetire.quiet (r := (cycle s i).core.gate) hv
  refine ⟨h1, ?_, h4, by simp [interruptTaken, hv], by simp [restoreTaken, hv]⟩
  rw [stateStall, waitFetch, waitExecute, h2, h3]
  rfl

theorem requests_of_no_retire (hr : (cycle s i).core.retire = false) :
    (cycle s i).frontendState.commit = false ∧ (cycle s i).frontendState.trapReturn = false := by
  have hr' : (cycle s i).core.gate.retire = false := hr
  refine ⟨?_, ?_⟩
  · show ((cycle s i).core.retire && _) = false
    rw [hr, Bool.false_and]
  · show ((cycle s i).core.gate.retire && _ && _) = false
    rw [hr', Bool.false_and, Bool.false_and]

theorem no_retire_of_requests (hc : (cycle s i).frontendState.commit = false)
    (ht : (cycle s i).frontendState.trapReturn = false) : (cycle s i).core.retire = false := by
  have hc' : ((cycle s i).core.retire && !(cycle s i).frontendState.trapReturn) = false := hc
  rwa [ht, Bool.not_false, Bool.and_true] at hc'

theorem stateUpdate_of_return (h : Inv s) (hi : i.init = false) (hc : cookieReturn s i) :
    (cycle s i).stateUpdate ↔ returnAlone s i := by
  obtain ⟨hint, hret, hvec⟩ := requests_eq (i := i) h
  rw [hc] at hret
  have hloc : (cycle s i).frontendState.returnLoc = (topFrame s).loc := returnLoc_eq h hc
  rw [stateUpdate, FrontendState.update_of_return hi hret, hloc, hint, hvec]
  cases hv : i.valid
  · obtain ⟨hf, hst, hr, h1, h2⟩ := quiet_of_invalid (s := s) hv
    obtain ⟨hcm, htr⟩ := requests_of_no_retire hr
    simp [returnAlone, hv, h1, h2, hcm, htr, show (cycle s i).frontendState.fault = false from hf,
      show (cycle s i).frontendState.stall = false from hst, and_comm]
  · have hbl := blockRetire_eq (i := i) h
    cases hb : (cycle s i).core.gate.blockRetire
    · -- Nothing holds the cycle, so it faults, stalls or retires beside the return.
      rw [hb] at hbl
      have hno : returnAlone s i = false := by
        have hb' := hbl.symm
        simp only [Bool.or_eq_false_iff] at hb'
        simp [returnAlone, hv, hb'.1.2, hb'.2]
      rw [hno]
      refine iff_of_false ?_ (by decide)
      rintro ⟨hf, hst, hcm, -, -, htr, -⟩
      rcases busy_of_unblocked h hv hb with hf' | hst' | hr
      · cases hf.symm.trans hf'
      · cases hst.symm.trans hst'
      · cases (no_retire_of_requests hcm htr).symm.trans hr
    · obtain ⟨hf, hst, hr⟩ := quiet_of_blocked h hv hb
      obtain ⟨hcm, htr⟩ := requests_of_no_retire hr
      rw [show (cycle s i).frontendState.fault = faultPending s i from hf,
        show (cycle s i).frontendState.stall = false from hst, hcm, htr, returnAlone, hv]
      grind

/-- A return to the cookie takes the top frame off the stack, and the register becomes the caller's
location in that cycle exactly when it is there already or nothing stands beside the return. -/
theorem pop_atomic_iff (h : machine.Reach s) (hi : i.init = false)
    (hp : (cycle s i).core.returnRecoverPop = true) :
    s.regs.transitionStack.contents =
        topFrame s :: (machine.step s i).regs.transitionStack.contents ∧
      ((machine.step s i).loc = (topFrame s).loc ↔
        s.loc = (topFrame s).loc ∨ returnAlone s i = true) := by
  have hinv := inv_reach h
  have hc : cookieReturn s i = true := (returnRecoverPop_eq hinv).symm.trans hp
  have hret : (cycle s i).frontendState.returnResume = true := (returnResume_eq hinv).trans hc
  refine ⟨contents_of_pop hinv hc, ?_⟩
  rw [← stateUpdate_of_return hinv hi hc]
  exact FrontendState.next_eq_iff (q := (cycle s i).frontendState) fun _ =>
    (FrontendState.selectedLoc_of_return (q := (cycle s i).frontendState) hi hret).trans
      (returnLoc_eq hinv hc)

/-- The return of the callee of `pcallCycle` in a cycle that fetches nothing. -/
def returnCycle : Inputs :=
  { returnRecoverValid := true
    returnTargetPc := returnCookie }

theorem pop_atomic_iff_return :
    machine.Reach (machine.step State.reset pcallCycle) ∧
      (machine.run State.reset [pcallCycle, returnCycle]).loc = ⟨frontendX86, 0x1000#64⟩ :=
  have h := reach_reset.next pcallCycle
  ⟨h, ((pop_atomic_iff h (i := returnCycle) (by decide) (by decide)).2.mpr (by decide)).trans
    (by decide)⟩

/-- The same return, while the AArch64 `ret` that makes it is fetched and retires. -/
def retCycle : Inputs :=
  { valid := true
    rawMemRespValid := true
    rawMemRespWord := 0xd65f03c0#32
    returnRecoverValid := true
    returnTargetPc := returnCookie }

/-- A `ret` to the cookie that retires in the cycle of its own pop loses the frame: commit and
resume conflict, so the pc stays while the stack becomes empty. -/
theorem pop_leaves_pc :
    machine.Reach (machine.step State.reset pcallCycle) ∧ retCycle.init = false ∧
      (cycle (machine.step State.reset pcallCycle) retCycle).core.returnRecoverPop = true ∧
      (topFrame (machine.step State.reset pcallCycle)).loc = ⟨frontendX86, 0x1000#64⟩ ∧
      (machine.run State.reset [pcallCycle, retCycle]).loc = ⟨frontendAarch64, 0x4000#64⟩ ∧
      (machine.run State.reset [pcallCycle, retCycle]).regs.transitionStack.empty = true :=
  ⟨reach_reset.next pcallCycle, by decide⟩

theorem returnRecoverError_eq (h : Inv s) :
    (cycle s i).core.returnRecoverError = ((cycle s i).core.returnCookieHit &&
      (s.regs.transitionStack.empty || i.transitionPop)) := by
  have hinv : (cycle s i).core.returnCookieRecover.invalidFrontend = false :=
    returnRecoverInvalidFrontend_eq_false h
  have hmiss : (cycle s i).core.returnCookieRecover.missingTransition =
      ((cycle s i).core.returnCookieHit && !!s.regs.transitionStack.empty) := rfl
  rw [returnRecoverError, ReturnCookieRecover.error, hinv, hmiss, Bool.false_or, Bool.not_not,
    Bool.and_or_distrib_left, returnRecoverBlocked, Bool.and_comm (CoreInputs.transitionPop _)]
  rfl

/-- A return to the cookie either resumes the whole top frame and removes it, or raises the error;
it raises the error exactly when there is no frame or the pop port takes the frame. -/
theorem cookie_return_answered (h : machine.Reach s) (i : Inputs) :
    let c := (cycle s i).core
    c.returnCookieHit = (c.returnRecoverPop ^^ c.returnRecoverError) ∧
      (c.returnRecoverError = true ↔ c.returnCookieHit = true ∧
        (s.regs.transitionStack.contents = [] ∨ i.transitionPop = true)) ∧
      (c.returnRecoverPop = true → s.regs.transitionStack.contents =
        ⟨c.returnResumeFrontend, c.returnResumePc, c.returnResumeSp, c.returnResumeFlags⟩ ::
          (machine.step s i).regs.transitionStack.contents) := by
  intro c
  have hinv := inv_reach h
  have herr : c.returnRecoverError = _ := returnRecoverError_eq hinv
  have hpop : c.returnRecoverPop = cookieReturn s i := returnRecoverPop_eq hinv
  refine ⟨?_, ?_, fun hp => ?_⟩
  · have hret : cookieReturn s i =
        (c.returnCookieHit && !s.regs.transitionStack.empty && !i.transitionPop) := rfl
    rw [hpop, herr, hret]
    cases c.returnCookieHit <;> cases s.regs.transitionStack.empty <;>
      cases i.transitionPop <;> rfl
  · rw [herr, Bool.and_eq_true, Bool.or_eq_true, TransitionStack.empty_iff,
      ← TransitionStack.contents_length hinv.depth, List.length_eq_zero_iff]
  · have hc := hpop.symm.trans hp
    rw [resumeFrame_eq hinv hc]
    exact contents_of_pop hinv hc

/-- The callee of a call returns, and its frame was the last one: a second return is an error. -/
theorem cookie_return_answered_twice :
    let s := machine.step State.reset pcallCycle
    s.regs.transitionStack.contents = [⟨frontendX86, 0x1000#64, 0x8000#64, 0#32⟩] ∧
      (machine.step s returnCycle).regs.transitionStack.contents = [] ∧
      (cycle (machine.step s returnCycle) returnCycle).core.returnRecoverError = true := by
  intro s
  have h := reach_reset.next pcallCycle
  have hpop := (cookie_return_answered h returnCycle).2.2 (by decide)
  have htop : s.regs.transitionStack.contents = [⟨frontendX86, 0x1000#64, 0x8000#64, 0#32⟩] := by
    decide
  have hnone := (List.cons.inj (htop.symm.trans hpop)).2.symm
  exact ⟨htop, hnone, (cookie_return_answered (h.next returnCycle) returnCycle).2.1.mpr
    ⟨by decide, .inl hnone⟩⟩

end Poly
