import Armd64.Proofs.Progress
import Armd64.Proofs.Redirect
import Armd64.Spec.Arch

/-!
# The core refines the architecture

The registers of a reachable state are an architectural state, and a cycle in which no request stands
beside another is a sequence of atomic steps of it.
-/

namespace Poly

open FrontendState

variable {s : State} {i : Inputs}

abbrev State.calls (s : State) : List Frame := s.regs.transitionStack.contents

def savedContext (s : State) : Option Loc :=
  if s.regs.interruptedValid then some s.regs.interruptedLoc else none

def abs (s : State) (h : Inv s) : Arch where
  loc := s.loc
  calls := s.calls
  interrupted := savedContext s
  loc_ok := h.loc
  calls_valid := h.frames
  calls_bound := by
    rw [TransitionStack.contents_length h.depth]
    exact h.depth
  interrupted_ok l hl := by
    cases hv : s.regs.interruptedValid with
    | false => simp [savedContext, hv] at hl
    | true =>
      rw [savedContext, hv, if_pos rfl, Option.mem_some] at hl
      exact hl ▸ h.interrupted hv

/-! ## Clean cycles -/

/-- No request stands beside another, and each that is made can be followed. -/
structure CleanCycle (s : State) (i : Inputs) : Prop where
  start : i.init = true →
    i.valid = false ∧ cookieReturn s i = false ∧ vectorRedirect i.toCoreInputs = false ∧
      (⟨i.initFrontend, i.initPc⟩ : Loc).ok = true
  retire : retireReady s i = true → retireMoves s i = true
  interrupt : (interruptTaken s i || restoreTaken s i) = true → interruptAlone s i = true
  vector : vectorRedirect i.toCoreInputs = true → vectorAlone s i = true
  cookie : cookieReturn s i = true → returnAlone s i = true

def dropEvents (s : State) (i : Inputs) : List Arch.Event :=
  if i.transitionPop && !s.regs.transitionStack.empty then [.drop] else []

def moveEvents (s : State) (i : Inputs) : List Arch.Event :=
  if i.init then [.go ⟨i.initFrontend, i.initPc⟩]
  else if retireReady s i then
    if (ctrlWord s i).polyCtrl && decide (ctrlOpOf s i = some .call) then
      [.call (successor s i) (callFrame s i)]
    else [.go (successor s i)]
  else if interruptTaken s i then [.enter]
  else if restoreTaken s i then [.restore]
  else if vectorRedirect i.toCoreInputs then [.go (vectorLoc i.toCoreInputs)]
  else if cookieReturn s i then [.ret]
  else []

def cycleEvents (s : State) (i : Inputs) : List Arch.Event := dropEvents s i ++ moveEvents s i

/-! ## One cycle -/

section

variable (h : Inv s)

include h

theorem savedContext_of_enter (ht : interruptTaken s i) :
    savedContext (machine.step s i) = some s.loc := by
  obtain ⟨hv, hl⟩ := nextInterruptedLoc_of_enter h ht
  have hv' : (machine.step s i).regs.interruptedValid := hv
  have hl' : (machine.step s i).regs.interruptedLoc = s.loc := hl
  rw [savedContext, hv', hl', if_pos rfl]

theorem savedContext_of_restore (hn : interruptTaken s i = false) (ht : restoreTaken s i) :
    savedContext (machine.step s i) = none := by
  have hv : (machine.step s i).regs.interruptedValid = false :=
    (nextInterrupted_of_restore h hn ht).1
  rw [savedContext, hv, if_neg (by decide)]

theorem savedContext_of_idle (ht : (interruptTaken s i || restoreTaken s i) = false) :
    savedContext (machine.step s i) = savedContext s := by
  rw [Bool.or_eq_false_iff] at ht
  obtain ⟨hv, hl⟩ := nextInterrupted_of_idle h ht.1 ht.2
  have hv' : (machine.step s i).regs.interruptedValid = s.regs.interruptedValid := hv
  have hl' : (machine.step s i).regs.interruptedLoc = s.regs.interruptedLoc := hl
  rw [savedContext, hv', hl', savedContext]

theorem contents_of_drop (hp : (cycle s i).core.commitPushTransition = false)
    (hc : cookieReturn s i = false) :
    (machine.step s i).calls =
      if i.transitionPop && !s.regs.transitionStack.empty then s.calls.tail else s.calls := by
  have hpop : (cycle s i).core.stackPopRequest = i.transitionPop := by
    rw [stackPopRequest_eq h, hc, Bool.or_false]
  cases hd : i.transitionPop && !s.regs.transitionStack.empty with
  | true =>
    rw [Bool.and_eq_true, Bool.not_eq_true'] at hd
    exact TransitionStack.contents_step_pop (r := (cycle s i).core.transitionStackReq) h.depth hp
      (hpop.trans hd.1) hd.2
  | false =>
    refine TransitionStack.contents_step_idle (r := (cycle s i).core.transitionStackReq) ?_ ?_
    · rw [show (cycle s i).core.transitionStackReq.push = false from hp]
      rfl
    · rw [show (cycle s i).core.transitionStackReq.push = false from hp,
        show (cycle s i).core.transitionStackReq.pop = i.transitionPop from hpop]
      exact hd

theorem commitPushTransition_eq :
    (cycle s i).core.commitPushTransition =
      (retireReady s i && ((ctrlWord s i).polyCtrl && decide (ctrlOpOf s i = some .call))) := by
  rw [← retire_eq h, Bool.eq_iff_iff]
  constructor
  · intro hp
    obtain ⟨hr, hc, ho, -⟩ := push_facts h hp
    rw [hr, hc, ho]
    rfl
  · intro hcall
    rw [Bool.and_eq_true, Bool.and_eq_true] at hcall
    obtain ⟨hr, hc, ho⟩ := hcall
    have hret : (cycle s i).core.gate.retire := hr
    have hpush := (handoff_live h (steps_of_retire hr) hc).pushTransition_eq (retired h hr).handoff
    rw [FrontendCore.commitPushTransition, FrontendPredecodedRetire.commitPushTransition, hret,
      hpush, ho]
    rfl

theorem no_push (hr : retireReady s i = false) :
    (cycle s i).core.commitPushTransition = false := by
  rw [commitPushTransition_eq h, hr, Bool.false_and]

end

/-- The architectural state after the pop port has taken its frame. -/
def dropped (h : Inv s) (i : Inputs) : Arch :=
  { abs s h with
    calls := (machine.step s i).calls
    calls_valid := (inv_step i h).frames
    calls_bound := (abs _ (inv_step i h)).calls_bound }

theorem path_dropped (h : Inv s) (hp : (cycle s i).core.commitPushTransition = false)
    (hc : cookieReturn s i = false) :
    Hw.Machine.Path Arch.Step (dropEvents s i) (abs s h) (dropped h i) := by
  have hcont := contents_of_drop h hp hc
  cases hd : i.transitionPop && !s.regs.transitionStack.empty with
  | false =>
    rw [hd, if_neg (by decide)] at hcont
    rw [dropEvents, hd]
    exact Arch.ext rfl hcont.symm rfl
  | true =>
    rw [hd, if_pos rfl] at hcont
    rw [dropEvents, hd]
    rw [Bool.and_eq_true, Bool.not_eq_true'] at hd
    refine ⟨dropped h i, ⟨topFrame s, ?_, rfl, rfl⟩, rfl⟩
    show s.calls = topFrame s :: (machine.step s i).calls
    rw [hcont, State.calls, TransitionStack.contents_eq_cons h.depth hd.2]
    rfl

theorem path_of_step (h : Inv s) (hp : (cycle s i).core.commitPushTransition = false)
    (hc : cookieReturn s i = false) (e : Arch.Event) (he : moveEvents s i = [e])
    (hstep : Arch.Step e (dropped h i) (abs (machine.step s i) (inv_step i h))) :
    Hw.Machine.Path Arch.Step (cycleEvents s i) (abs s h)
      (abs (machine.step s i) (inv_step i h)) := by
  rw [cycleEvents, he]
  exact (path_dropped h hp hc).append ⟨_, hstep, rfl⟩

def Follows (h : Inv s) (i : Inputs) : Prop :=
  Hw.Machine.Path Arch.Step (cycleEvents s i) (abs s h) (abs (machine.step s i) (inv_step i h))

theorem loc_of_init (hi : i.init) (hv : i.valid = false)
    (hok : (⟨i.initFrontend, i.initPc⟩ : Loc).ok) :
    (machine.step s i).loc = ⟨i.initFrontend, i.initPc⟩ := by
  obtain ⟨hf, hst, -⟩ := quiet_of_invalid (s := s) hv
  have hi' : (cycle s i).frontendState.init := hi
  have hsel : (cycle s i).frontendState.selectedLoc = ⟨i.initFrontend, i.initPc⟩ := if_pos hi'
  have hu : (cycle s i).stateUpdate := by
    refine update_iff.mpr ⟨?_, hf, hst, ?_, hsel.symm ▸ hok⟩
    · simp [requestValid, hi']
    · simp [conflict, hi']
  rw [loc_of_update hu, hsel]

theorem loc_of_no_request (h : Inv s) (hi : i.init = false) (hr : retireReady s i = false)
    (ht : (interruptTaken s i || restoreTaken s i) = false)
    (hv : vectorRedirect i.toCoreInputs = false) (hc : cookieReturn s i = false) :
    (machine.step s i).loc = s.loc := by
  obtain ⟨hint, hret, hvec⟩ := requests_eq (i := i) h
  obtain ⟨hcm, htr⟩ := requests_of_no_retire ((retire_eq h).trans hr)
  have hi' : (cycle s i).frontendState.init = false := hi
  apply loc_of_hold
  rw [StatefulCore.stateUpdate, update, requestValid, hi', hcm, htr,
    hint, hret, hvec, ht, hc, hv]
  rfl

section

variable (h : Inv s) (hc : CleanCycle s i)

include hc

theorem follows_start (hi : i.init) : Follows h i := by
  obtain ⟨hv, hcookie, -, hok⟩ := hc.start hi
  have hr : retireReady s i = false := by simp [retireReady, hv]
  have hidle : (interruptTaken s i || restoreTaken s i) = false := by
    simp [interruptTaken, restoreTaken, hv]
  exact path_of_step h (no_push h hr) hcookie (.go ⟨i.initFrontend, i.initPc⟩) (if_pos hi)
    ⟨loc_of_init hi hv hok, rfl, savedContext_of_idle h hidle⟩

theorem follows_retire (hi : i.init = false) (hr : retireReady s i) : Follows h i := by
  have hret : (cycle s i).core.retire := (retire_eq h).trans hr
  have ht := retired h hret
  have hm := hc.retire hr
  simp only [retireMoves, Bool.and_eq_true, Bool.not_eq_true'] at hm
  have hloc : (machine.step s i).loc = successor s i :=
    loc_of_retire h hi hret ((stateUpdate_of_retire h hi hret).mpr ⟨hm.1.2, hm.2⟩)
  have hsaved : savedContext (machine.step s i) = savedContext s :=
    savedContext_of_idle h (by rw [ht.noInterrupt, ht.noRestore]; rfl)
  have hpush := commitPushTransition_eq (i := i) h
  rw [hr, Bool.true_and] at hpush
  cases hcall : (ctrlWord s i).polyCtrl && decide (ctrlOpOf s i = some .call) with
  | true =>
    obtain ⟨hcont, -, -, hpop⟩ := contents_of_push h (hpush.trans hcall)
    rw [stackPopRequest_eq h, Bool.or_eq_false_iff] at hpop
    have hevents : cycleEvents s i = [.call (successor s i) (callFrame s i)] := by
      simp [cycleEvents, dropEvents, moveEvents, hpop.1, hi, hr, hcall]
    rw [Follows, hevents]
    exact ⟨_, ⟨rfl, hloc, hcont, hsaved⟩, rfl⟩
  | false =>
    exact path_of_step h (hpush.trans hcall) hm.1.2 (.go (successor s i))
      (by simp [moveEvents, hi, hr, hcall]) ⟨hloc, rfl, hsaved⟩

variable (hi : i.init = false) (hr : retireReady s i = false)

include hi hr

theorem follows_interrupt (ht : (interruptTaken s i || restoreTaken s i)) :
    Follows h i := by
  have ha := hc.interrupt ht
  have hcookie : cookieReturn s i = false := by
    simp only [interruptAlone, Bool.and_eq_true, Bool.not_eq_true'] at ha
    exact ha.1.2
  have hloc := loc_of_interrupt h hi ht ha
  cases hn : interruptTaken s i with
  | true =>
    rw [interruptLoc_of_enter h hn] at hloc
    have hraw : frontendRaw s.loc.frontend := by
      simp only [interruptTaken, Bool.and_eq_true] at hn
      exact hn.2
    exact path_of_step h (no_push h hr) hcookie .enter (by simp [moveEvents, hi, hr, hn])
      ⟨hraw, hloc, rfl, savedContext_of_enter h hn⟩
  | false =>
    have hrest : restoreTaken s i := by simpa [hn] using ht
    rw [interruptLoc_of_restore h hn hrest] at hloc
    refine path_of_step h (no_push h hr) hcookie .restore (by simp [moveEvents, hi, hr, hn, hrest])
      ⟨?_, rfl, savedContext_of_restore h hn hrest⟩
    show savedContext s = some (machine.step s i).loc
    rw [savedContext, interruptedValid_of_restore hrest, if_pos rfl, hloc]

variable (ht : (interruptTaken s i || restoreTaken s i) = false)

include ht

theorem follows_vector (hv : vectorRedirect i.toCoreInputs) : Follows h i := by
  have ha := hc.vector hv
  have hu := (stateUpdate_of_vector h hi hv).2.mpr ha
  have hcookie : cookieReturn s i = false := by
    simp only [vectorAlone, Bool.and_eq_true, Bool.not_eq_true'] at ha
    exact ha.2
  have hloc : (machine.step s i).loc = vectorLoc i.toCoreInputs :=
    (loc_of_update hu).trans ((selectedLoc_of_trapVector
      (q := (cycle s i).frontendState) hi (trapVectorApply_eq.trans hv) hu).trans
        (trapVectorLoc_eq hv))
  have hsaved := savedContext_of_idle h ht
  rw [Bool.or_eq_false_iff] at ht
  exact path_of_step h (no_push h hr) hcookie (.go (vectorLoc i.toCoreInputs))
    (by simp [moveEvents, hi, hr, ht.1, ht.2, hv]) ⟨hloc, rfl, hsaved⟩

variable (hv : vectorRedirect i.toCoreInputs = false)

include hv

theorem follows_return (hcookie : cookieReturn s i) : Follows h i := by
  have hu := (stateUpdate_of_return h hi hcookie).mpr (hc.cookie hcookie)
  have hret : (cycle s i).frontendState.returnResume := (returnResume_eq h).trans hcookie
  have hloc : (machine.step s i).loc = (topFrame s).loc :=
    (loc_of_update hu).trans ((selectedLoc_of_return
      (q := (cycle s i).frontendState) hi hret).trans (returnLoc_eq h hcookie))
  have hpop : i.transitionPop = false := by
    simp only [cookieReturn, Bool.and_eq_true, Bool.not_eq_true'] at hcookie
    exact hcookie.2
  have hsaved := savedContext_of_idle h ht
  rw [Bool.or_eq_false_iff] at ht
  have hevents : cycleEvents s i = [.ret] := by
    simp [cycleEvents, dropEvents, moveEvents, hpop, hi, hr, ht.1, ht.2, hv, hcookie]
  rw [Follows, hevents]
  exact ⟨abs (machine.step s i) (inv_step i h),
    ⟨topFrame s, contents_of_pop h hcookie, hloc, hsaved⟩, rfl⟩

omit hc in
theorem follows_hold (hcookie : cookieReturn s i = false) : Follows h i := by
  have hsame : abs (machine.step s i) (inv_step i h) = dropped h i :=
    Arch.ext (loc_of_no_request h hi hr ht hv hcookie) rfl (savedContext_of_idle h ht)
  rw [Bool.or_eq_false_iff] at ht
  have hevents : moveEvents s i = [] := by
    simp [moveEvents, hi, hr, ht.1, ht.2, hv, hcookie]
  rw [Follows, cycleEvents, hevents, List.append_nil, hsame]
  exact path_dropped h (no_push h hr) hcookie

end

theorem step_refines (h : Inv s) (hc : CleanCycle s i) : Follows h i := by
  cases hi : i.init with
  | true => exact follows_start h hc hi
  | false =>
    cases hr : retireReady s i with
    | true => exact follows_retire h hc hi hr
    | false =>
      cases ht : interruptTaken s i || restoreTaken s i with
      | true => exact follows_interrupt h hc hi hr ht
      | false =>
        cases hv : vectorRedirect i.toCoreInputs with
        | true => exact follows_vector h hc hi hr ht hv
        | false =>
          cases hcookie : cookieReturn s i with
          | true => exact follows_return h hc hi hr ht hv hcookie
          | false => exact follows_hold h hi hr ht hv hcookie

/-! ## Runs -/

theorem run_refines {is : List Inputs} (h : Inv s)
    (hc : ∀ c ∈ machine.cycles s is, CleanCycle c.1 c.2) :
    ∃ h' : Inv (machine.run s is),
      Hw.Machine.Path Arch.Step ((machine.cycles s is).flatMap fun c => cycleEvents c.1 c.2)
        (abs s h) (abs (machine.run s is) h') := by
  have hstep : ∀ c ∈ machine.cycles s is, ∀ a, (∃ h : Inv c.1, a = abs c.1 h) →
      ∃ a', Hw.Machine.Path Arch.Step (cycleEvents c.1 c.2) a a' ∧
        ∃ h : Inv (machine.step c.1 c.2), a' = abs _ h := by
    rintro c hmem a ⟨hinv, rfl⟩
    exact ⟨_, step_refines hinv (hc c hmem), inv_step c.2 hinv, rfl⟩
  obtain ⟨a', hpath, h', rfl⟩ := Hw.Machine.run_simulates (M := machine)
    (A := fun s a => ∃ h : Inv s, a = abs s h) (E := fun c => cycleEvents c.1 c.2) ⟨h, rfl⟩ hstep
  exact ⟨h', hpath⟩

theorem run_refines_call : ∃ h h',
    Hw.Machine.Path Arch.Step [.call ⟨frontendAarch64, 0x4000#64⟩ (callFrame .reset pcallCycle), .ret]
      (abs .reset h) (abs (machine.run .reset [pcallCycle, returnCycle]) h') := by
  have hc : ∀ c ∈ machine.cycles .reset [pcallCycle, returnCycle], CleanCycle c.1 c.2 := by
    intro c hc
    rcases List.mem_cons.mp hc with rfl | hc
    · constructor <;> decide
    · obtain rfl := List.mem_singleton.mp hc
      constructor <;> decide
  exact ⟨inv_reach reach_reset, run_refines _ hc⟩

/-! ## Calls that return -/

theorem contents_cases (h : Inv s) (i : Inputs) :
    (machine.step s i).calls = s.calls ∨ (∃ f, (machine.step s i).calls = f :: s.calls) ∨
      (machine.step s i).calls = s.calls.tail := by
  rcases TransitionStack.contents_step_cases (r := (cycle s i).core.transitionStackReq) sized8
    h.depth with hsame | ⟨-, hpush⟩ | ⟨-, hpop⟩
  · exact .inl hsame
  · exact .inr (.inl ⟨_, hpush⟩)
  · exact .inr (.inr hpop)

/-- A call pushes its frame; the callee runs anything, further calls, returns and interrupts
included, without giving up that frame; then it returns to the cookie with nothing beside the
return. Execution continues behind the call, with the callers as they were. -/
theorem call_returns {t : State} {j : Inputs} {is : List Inputs} (h : machine.Reach s)
    (hcall : (cycle s i).core.commitPushTransition)
    (hdeep : ∀ c ∈ machine.cycles (machine.step s i) is,
      s.calls.length < (machine.step c.1 c.2).calls.length)
    (ht : t = machine.run (machine.step s i) is) (hlen : t.calls.length = s.calls.length + 1)
    (hj : j.init = false) (hret : cookieReturn t j) (halone : returnAlone t j) :
    (machine.step t j).loc = ⟨s.loc.frontend, i.transitionReturnPc⟩ ∧
      (machine.step t j).calls = s.calls := by
  have hpush := (contents_of_push (inv_reach h) hcall).1
  -- While the callee runs, its frame and everything below it stay at the bottom of the stack.
  have hsuffix : callFrame s i :: s.calls <:+ t.calls := by
    rw [ht]
    refine Hw.Machine.suffix_of_deep State.calls ?_ ?_ ?_
    · exact fun c hc => contents_cases (inv_reach ((h.next i).of_mem_cycles hc)) c.2
    · exact fun c hc => Nat.succ_le_of_lt (hdeep c hc)
    · exact hpush ▸ List.suffix_rfl
  have htop : t.calls = callFrame s i :: s.calls :=
    (hsuffix.eq_of_length (by rw [hlen, List.length_cons])).symm
  have hinv : Inv t := inv_reach (ht ▸ (h.next i).run is)
  have hpop := htop.symm.trans (contents_of_pop hinv hret)
  rw [List.cons.injEq] at hpop
  have hu := (stateUpdate_of_return hinv hj hret).mpr halone
  refine ⟨?_, hpop.2.symm⟩
  rw [loc_of_update hu, selectedLoc_of_return (q := (cycle t j).frontendState) hj
    ((returnResume_eq hinv).trans hret)]
  exact (returnLoc_eq hinv hret).trans (congrArg Frame.loc hpop.1.symm)

/-- The callee is interrupted, and the handler makes a call of its own that returns first. -/
theorem call_returns_pcall :
    let s := machine.step State.reset pcallCycle
    let t := machine.run s [interruptCycle, pcallCycle, returnCycle]
    (machine.step t returnCycle).loc = ⟨frontendX86, 0x1000#64⟩ ∧
      (machine.step t returnCycle).calls = [] := by
  refine @call_returns .reset pcallCycle _ returnCycle [interruptCycle, pcallCycle, returnCycle]
    reach_reset ?_ ?_ rfl ?_ ?_ ?_ ?_
  all_goals decide

end Poly
