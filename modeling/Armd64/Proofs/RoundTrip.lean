import Armd64.Proofs.Redirect

/-!
# The interrupt round trip

Between an interrupt entry and the user return that restores it, the saved context stays whatever
else the core does: calls, traps, x86 code, user returns to other addresses.
-/

namespace Poly

variable {s t : State} {i j : Inputs} {l : Loc}

def entersX86 (s : State) (i : Inputs) : Bool := (cycle s i).core.interruptEnterX86

def restoresRaw (s : State) (i : Inputs) : Bool := (cycle s i).core.interruptRestoreRaw

def Saved (s : State) (l : Loc) : Prop :=
  s.regs.interruptedValid = true ∧ s.regs.interruptedLoc = l

/-! ## One cycle -/

theorem Saved.step (h : Inv s) (hs : Saved s l) (he : entersX86 s i = false)
    (hr : restoresRaw s i = false) : Saved (machine.step s i) l := by
  obtain ⟨hv, hl⟩ := nextInterrupted_of_idle (i := i) h
    ((interruptEnterX86_eq h).symm.trans he) ((interruptRestoreRaw_eq h).symm.trans hr)
  exact ⟨hv.trans hs.1, hl.trans hs.2⟩

theorem restoresRaw_of_not_saved (h : Inv s) (hs : s.regs.interruptedValid = false) :
    restoresRaw s i = false := by
  rw [restoresRaw, interruptRestoreRaw_eq h, restoreTaken, hs, Bool.and_false, Bool.false_and]

theorem not_saved_step (h : Inv s) (hs : s.regs.interruptedValid = false)
    (he : entersX86 s i = false) : (machine.step s i).regs.interruptedValid = false := by
  have hr := restoresRaw_of_not_saved (i := i) h hs
  obtain ⟨hv, -⟩ := nextInterrupted_of_idle (i := i) h
    ((interruptEnterX86_eq h).symm.trans he) ((interruptRestoreRaw_eq h).symm.trans hr)
  exact hv.trans hs

/-! ## Whole runs -/

theorem saved_run (h : machine.Reach s) (hs : Saved s l) {is : List Inputs}
    (hq : ∀ c ∈ machine.cycles s is, entersX86 c.1 c.2 = false ∧ restoresRaw c.1 c.2 = false) :
    Saved (machine.run s is) l := by
  refine Hw.Machine.run_induction (P := fun t => Saved t l) hs fun c hc hsaved => ?_
  obtain ⟨he, hr⟩ := hq c hc
  exact hsaved.step (inv_reach (h.of_mem_cycles hc)) he hr

theorem no_restore_run (h : machine.Reach s) (hs : s.regs.interruptedValid = false)
    {is : List Inputs} (hq : ∀ c ∈ machine.cycles s is, entersX86 c.1 c.2 = false) :
    ∀ c ∈ machine.cycles s is, restoresRaw c.1 c.2 = false := by
  induction is generalizing s with
  | nil => simp
  | cons i is ih =>
    intro c hc
    rcases List.mem_cons.mp hc with rfl | hc
    · exact restoresRaw_of_not_saved (inv_reach h) hs
    · have he : entersX86 s i = false := hq (s, i) List.mem_cons_self
      exact ih (h.next i) (not_saved_step (inv_reach h) hs he)
        (fun c hc => hq c (List.mem_cons_of_mem _ hc)) c hc

/-! ## The user return -/

structure UserReturn (j : Inputs) : Prop where
  valid : j.valid = true
  feature : j.interruptFeatureEnabled = true
  cpl3 : j.cpl3 = true
  userReturn : j.userReturn = true
  noInterrupt : j.interrupt = false

theorem UserReturn.interruptTaken (hj : UserReturn j) : interruptTaken t j = false := by
  simp [Poly.interruptTaken, hj.noInterrupt]

theorem restoresRaw_iff (h : Inv t) (hs : Saved t l) (hj : UserReturn j) :
    restoresRaw t j ↔ j.userReturnPc = l.pc := by
  rw [restoresRaw, interruptRestoreRaw_eq h, restoreTaken, hj.valid, hj.feature, hj.cpl3,
    hj.userReturn, hs.1, hs.2]
  simp

/-- The restore takes the register to `l` through the interrupt path. -/
def RestoresTo (t : State) (j : Inputs) (l : Loc) : Prop :=
  (cycle t j).frontendState.redirectReason = .interrupt ∧
    (cycle t j).frontendState.selectedLoc = l ∧ (machine.step t j).loc = l

theorem restoresTo_iff (h : Inv t) (hs : Saved t l) (hj : UserReturn j) (hr : restoreTaken t j) :
    RestoresTo t j l ↔ j.init = false ∧ interruptAlone t j := by
  have ht : (interruptTaken t j || restoreTaken t j) := by rw [hr, Bool.or_true]
  constructor
  · rintro ⟨hreason, -, -⟩
    have hi : j.init = false := by
      by_contra hi
      have hi' : (cycle t j).frontendState.init := Bool.eq_true_of_not_eq_false hi
      simp only [FrontendState.redirectReason, FrontendState.selectedReason, hi', if_true] at hreason
      split at hreason <;> cases hreason
    exact ⟨hi, ((redirectReason_interrupt_iff h hi).mp hreason).2⟩
  · rintro ⟨hi, ha⟩
    have hu := (stateUpdate_of_interrupt h hi ht).mpr ha
    have hloc : (machine.step t j).loc = l :=
      (loc_of_interrupt h hi ht ha).trans
        ((interruptLoc_of_restore h hj.interruptTaken hr).trans hs.2)
    exact ⟨(redirectReason_interrupt_iff h hi).mpr ⟨ht, ha⟩, (loc_of_update hu).symm.trans hloc, hloc⟩

/-- A user return restores exactly when it goes to the saved pc. Then the register is taken to the
saved location, the context is cleared, and no user return restores before another entry. -/
def RoundTrip (t : State) (j : Inputs) (l : Loc) : Prop :=
  (restoresRaw t j = true ↔ j.userReturnPc = l.pc) ∧
    (restoresRaw t j = true →
      RestoresTo t j l ∧ (machine.step t j).regs.interruptedValid = false ∧
        ∀ js, (∀ c ∈ machine.cycles (machine.step t j) js, entersX86 c.1 c.2 = false) →
          ∀ c ∈ machine.cycles (machine.step t j) js, restoresRaw c.1 c.2 = false)

/-- After an interrupt entry that saves `l`, and any cycles without another entry or a restore, a
user return completes the round trip if and only if it goes elsewhere or no init, no fault and no
other redirect stands beside it. -/
theorem interrupt_round_trip_iff {is : List Inputs} (h : machine.Reach s) (hsave : Loads s i l)
    (hq : ∀ c ∈ machine.cycles (machine.step s i) is,
      entersX86 c.1 c.2 = false ∧ restoresRaw c.1 c.2 = false)
    (ht : t = machine.run (machine.step s i) is) (hj : UserReturn j) :
    RoundTrip t j l ↔ (j.userReturnPc = l.pc → j.init = false ∧ interruptAlone t j = true) := by
  have hreach : machine.Reach t := ht ▸ (h.next i).run is
  have hinv := inv_reach hreach
  have hsaved : Saved t l := ht ▸ saved_run (h.next i) hsave.2 hq
  have hiff := restoresRaw_iff hinv hsaved hj
  have htaken (hr : restoresRaw t j) : restoreTaken t j :=
    (interruptRestoreRaw_eq hinv).symm.trans hr
  constructor
  · rintro ⟨-, hrest⟩ hpc
    have hr := hiff.mpr hpc
    exact (restoresTo_iff hinv hsaved hj (htaken hr)).mp (hrest hr).1
  · intro hcond
    refine ⟨hiff, fun hr => ?_⟩
    have hclear : (machine.step t j).regs.interruptedValid = false :=
      (nextInterrupted_of_restore hinv hj.interruptTaken (htaken hr)).1
    exact ⟨(restoresTo_iff hinv hsaved hj (htaken hr)).mpr (hcond (hiff.mp hr)), hclear,
      fun js hjs => no_restore_run (hreach.next j) hclear hjs⟩

def userReturnCycle : Inputs :=
  { valid := true
    interruptFeatureEnabled := true
    cpl3 := true
    userReturn := true
    userReturnPc := 0x4000#64 }

def handlerCycle : Inputs :=
  { valid := true
    x86FetchValid := true
    x86FetchWord := 0x90909090#32
    x86FallthroughPc := 0x4003#64 }

/-- A call to AArch64 code, an interrupt of it, and a cycle of the handler. -/
theorem interrupt_round_trip_iff_handler :
    let s := machine.step State.reset pcallCycle
    RoundTrip (machine.run (machine.step s interruptCycle) [handlerCycle]) userReturnCycle
      ⟨frontendAarch64, 0x4000#64⟩ := by
  refine (interrupt_round_trip_iff (reach_reset.next pcallCycle) ⟨?_, ?_, ?_⟩ ?_ rfl
    ⟨rfl, rfl, rfl, rfl, rfl⟩).mpr ?_
  all_goals decide

/-- The user return in a cycle with a return to the cookie: the restore is asserted and clears the
context, the frame is popped, and the register stays in x86. -/
theorem restore_beside_return :
    let t := machine.run State.reset [pcallCycle, interruptCycle, handlerCycle]
    let j := { userReturnCycle with returnRecoverValid := true, returnTargetPc := returnCookie }
    restoresRaw t j = true ∧ (machine.step t j).regs.interruptedValid = false ∧
      (machine.step t j).regs.transitionStack.empty = true ∧
      (machine.step t j).loc = ⟨frontendX86, 0x4003#64⟩ ∧
      ¬RoundTrip t j ⟨frontendAarch64, 0x4000#64⟩ :=
  ⟨by decide, by decide, by decide, by decide, fun h => absurd (h.2 (by decide)).1.2.2 (by decide)⟩

end Poly
