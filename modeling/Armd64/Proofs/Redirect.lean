import Armd64.Proofs.Transition

/-!
# Interrupt entry, interrupt restore and trap vectors

The interrupted-context register and the delivery of an event frame follow their own conditions; the
frontend/pc register is gated by faults and by the other redirects of the cycle.
-/

namespace Poly

open InterruptBoundary
open FrontendState

variable {s : State} {i : Inputs}

/-- No fault and no other redirect stands beside an interrupt entry or restore. -/
def interruptAlone (s : State) (i : Inputs) : Bool :=
  !faultPending s i && !cookieReturn s i && !vectorRedirect i.toCoreInputs

/-! ## Where the interrupt path leads -/

theorem interruptLoc_of_enter (h : Inv s) (ht : interruptTaken s i) :
    (cycle s i).frontendState.interruptLoc = ⟨frontendX86, s.loc.pc⟩ := by
  have he : (cycle s i).core.interruptBoundary.enterX86Interrupt :=
    (interruptEnterX86_eq h).trans ht
  show (⟨nextFrontend _, nextPc _⟩ : Loc) = _
  rw [nextFrontend, if_pos he, nextPc, if_pos he]
  rfl

theorem interruptLoc_of_restore (h : Inv s) (hn : interruptTaken s i = false)
    (ht : restoreTaken s i) :
    (cycle s i).frontendState.interruptLoc = s.regs.interruptedLoc := by
  have he : (cycle s i).core.interruptBoundary.enterX86Interrupt = false :=
    (interruptEnterX86_eq h).trans hn
  have hr : (cycle s i).core.interruptBoundary.restoreRaw :=
    (interruptRestoreRaw_eq h).trans ht
  show (⟨nextFrontend _, nextPc _⟩ : Loc) = _
  rw [nextFrontend, he, hr, nextPc, he, hr]
  rfl

theorem interruptedValid_of_restore (ht : restoreTaken s i) :
    s.regs.interruptedValid := by
  simp only [restoreTaken, Bool.and_eq_true] at ht
  exact ht.1.2

theorem interruptLoc_ok (h : Inv s) (ht : (interruptTaken s i || restoreTaken s i)) :
    (cycle s i).frontendState.interruptLoc.ok := by
  cases hn : interruptTaken s i
  · have hr : restoreTaken s i := by simpa [hn] using ht
    rw [interruptLoc_of_restore h hn hr]
    exact (h.interrupted (interruptedValid_of_restore hr)).2
  · rw [interruptLoc_of_enter h hn]
    exact Loc.ok_iff.mpr ⟨rfl, h.canonical, rfl⟩

theorem stateUpdate_of_interrupt (h : Inv s) (hi : i.init = false)
    (ht : (interruptTaken s i || restoreTaken s i)) :
    (cycle s i).stateUpdate ↔ interruptAlone s i := by
  have hv : i.valid := by
    rw [Bool.or_eq_true] at ht
    rcases ht with ht | ht
    · simp only [interruptTaken, Bool.and_eq_true] at ht
      exact ht.1.1.1.1
    · simp only [restoreTaken, Bool.and_eq_true] at ht
      exact ht.1.1.1.1.1
  have hb : (cycle s i).core.gate.blockRetire := by
    rw [blockRetire_eq h, ht, Bool.true_or, Bool.true_or]
  obtain ⟨hf, hst, hr⟩ := quiet_of_blocked h hv hb
  obtain ⟨hcm, htr⟩ := requests_of_no_retire hr
  obtain ⟨hint, hret, hvec⟩ := requests_eq (i := i) h
  have hf' : (cycle s i).frontendState.fault = faultPending s i := hf
  have hst' : (cycle s i).frontendState.stall = false := hst
  rw [StatefulCore.stateUpdate, update_of_interrupt hi (hint.trans ht), hf', hst',
    hcm, htr, hret, hvec, interruptLoc_ok h ht, interruptAlone]
  simp [and_assoc]

/-! ## Interrupt entry and restore -/

/-- The interrupted-context register is loaded with `l` at the edge. -/
def Loads (s : State) (i : Inputs) (l : Loc) : Prop :=
  (cycle s i).core.interruptSaveInterrupted = true ∧
    (machine.step s i).regs.interruptedValid = true ∧ (machine.step s i).regs.interruptedLoc = l

/-- The register leaves the raw location `l` for x86 through the interrupt path. -/
def Enters (s : State) (i : Inputs) (l : Loc) : Prop :=
  s.loc = l ∧ frontendRaw l.frontend = true ∧
    (cycle s i).frontendState.redirectReason = .interrupt ∧
    (machine.step s i).loc = ⟨frontendX86, l.pc⟩

/-- The interrupted-context register is cleared by a restore at the edge. -/
def Clears (s : State) (i : Inputs) : Prop :=
  (cycle s i).core.interruptClearInterrupted = true ∧
    (machine.step s i).regs.interruptedValid = false

/-- The register becomes the saved raw location through the interrupt path. -/
def Restores (s : State) (i : Inputs) : Prop :=
  s.regs.interruptedValid = true ∧ (cycle s i).frontendState.redirectReason = .interrupt ∧
    (machine.step s i).loc = s.regs.interruptedLoc

section

variable (h : Inv s)

include h

theorem loads_iff (l : Loc) : Loads s i l ↔ interruptTaken s i ∧ s.loc = l := by
  have hs : (cycle s i).core.interruptSaveInterrupted = interruptTaken s i := interruptEnterX86_eq h
  rw [Loads, hs]
  constructor
  · rintro ⟨ht, -, hl⟩
    exact ⟨ht, (nextInterruptedLoc_of_enter h ht).2.symm.trans hl⟩
  · rintro ⟨ht, hl⟩
    obtain ⟨hv, hloc⟩ := nextInterruptedLoc_of_enter h ht
    exact ⟨ht, hv, hloc.trans hl⟩

theorem clears_iff : Clears s i ↔ interruptTaken s i = false ∧ restoreTaken s i := by
  have hc : (cycle s i).core.interruptClearInterrupted = restoreTaken s i :=
    interruptRestoreRaw_eq h
  rw [Clears, hc]
  constructor
  · rintro ⟨hr, hv⟩
    cases ht : interruptTaken s i
    · exact ⟨rfl, hr⟩
    · cases ((nextInterruptedLoc_of_enter h ht).1.symm.trans hv)
  · rintro ⟨ht, hr⟩
    exact ⟨hr, (nextInterrupted_of_restore h ht hr).1⟩

theorem redirectReason_interrupt_iff (hi : i.init = false) :
    (cycle s i).frontendState.redirectReason = .interrupt ↔
      (interruptTaken s i || restoreTaken s i) ∧ interruptAlone s i := by
  have hi' : (cycle s i).frontendState.init = false := hi
  have hir := (requests_eq (i := i) h).1
  constructor
  · intro hreason
    have ht : (interruptTaken s i || restoreTaken s i) :=
      hir.symm.trans (interruptRestore_of_reason hreason)
    refine ⟨ht, (stateUpdate_of_interrupt h hi ht).mp ?_⟩
    cases hu : (cycle s i).stateUpdate
    · have hu' : (cycle s i).frontendState.update = false := hu
      rw [redirectReason, hu'] at hreason
      cases hreason
    · rfl
  · rintro ⟨ht, ha⟩
    have hu : (cycle s i).frontendState.update := (stateUpdate_of_interrupt h hi ht).mpr ha
    rw [ht] at hir
    obtain ⟨-, -, -, hret, -⟩ := (update_of_interrupt hi' hir).mp hu
    simp [redirectReason, selectedReason, hu, hi', hret, hir]

theorem loc_of_interrupt (hi : i.init = false)
    (ht : (interruptTaken s i || restoreTaken s i)) (ha : interruptAlone s i) :
    (machine.step s i).loc = (cycle s i).frontendState.interruptLoc := by
  have hu : (cycle s i).stateUpdate := (stateUpdate_of_interrupt h hi ht).mpr ha
  exact (loc_of_update hu).trans (selectedLoc_of_interrupt
    (q := (cycle s i).frontendState) hi ((requests_eq h).1.trans ht) hu)

theorem enters_iff (hi : i.init = false) (l : Loc) :
    Enters s i l ↔ (interruptTaken s i ∧ interruptAlone s i) ∧ s.loc = l := by
  rw [Enters, redirectReason_interrupt_iff h hi]
  constructor
  · rintro ⟨hl, -, ⟨ht, ha⟩, hx⟩
    refine ⟨⟨?_, ha⟩, hl⟩
    cases hn : interruptTaken s i
    · -- A restore leads to a raw location, never to x86.
      have hr : restoreTaken s i := by simpa [hn] using ht
      rw [loc_of_interrupt h hi ht ha, interruptLoc_of_restore h hn hr] at hx
      have hraw := (h.interrupted (interruptedValid_of_restore hr)).1
      rw [hx] at hraw
      cases hraw
    · rfl
  · rintro ⟨⟨hn, ha⟩, rfl⟩
    have ht : (interruptTaken s i || restoreTaken s i) := by rw [hn, Bool.true_or]
    refine ⟨rfl, ?_, ⟨ht, ha⟩, ?_⟩
    · simp only [interruptTaken, Bool.and_eq_true] at hn
      exact hn.2
    · rw [loc_of_interrupt h hi ht ha, interruptLoc_of_enter h hn]

theorem restores_iff (hi : i.init = false) : Restores s i ↔
      (interruptTaken s i = false ∧ restoreTaken s i) ∧ interruptAlone s i := by
  rw [Restores, redirectReason_interrupt_iff h hi]
  constructor
  · rintro ⟨hval, ⟨ht, ha⟩, hloc⟩
    refine ⟨?_, ha⟩
    cases hn : interruptTaken s i
    · exact ⟨rfl, by simpa [hn] using ht⟩
    · -- An entry leads to x86, never to the saved raw location.
      rw [loc_of_interrupt h hi ht ha, interruptLoc_of_enter h hn] at hloc
      have hraw := (h.interrupted hval).1
      rw [← hloc] at hraw
      cases hraw
  · rintro ⟨⟨hn, hr⟩, ha⟩
    have ht : (interruptTaken s i || restoreTaken s i) := by rw [hr, Bool.or_true]
    exact ⟨interruptedValid_of_restore hr, ⟨ht, ha⟩,
      (loc_of_interrupt h hi ht ha).trans (interruptLoc_of_restore h hn hr)⟩

end

/-- The interrupted-context register is loaded exactly with the raw location that the frontend/pc
register leaves for x86, and cleared exactly when that becomes the saved location, if and only if no
fault and no other redirect stands beside an entry or a restore. -/
theorem interrupt_atomic_iff (h : machine.Reach s) (hi : i.init = false) :
    ((∀ l, Loads s i l ↔ Enters s i l) ∧ (Clears s i ↔ Restores s i)) ↔
      ((interruptTaken s i || restoreTaken s i) = true → interruptAlone s i = true) := by
  have hinv := inv_reach h
  simp only [loads_iff hinv, enters_iff hinv hi, clears_iff hinv, restores_iff hinv hi]
  constructor
  · rintro ⟨hload, hclear⟩ ht
    cases hn : interruptTaken s i
    · exact (hclear.mp ⟨hn, by simpa [hn] using ht⟩).2
    · exact ((hload s.loc).mp ⟨hn, rfl⟩).1.2
  · intro ha
    refine ⟨fun l => ⟨fun hl => ⟨⟨hl.1, ha (by rw [hl.1, Bool.true_or])⟩, hl.2⟩,
      fun hl => ⟨hl.1.1, hl.2⟩⟩, fun hc => ⟨hc, ha (by rw [hc.2, Bool.or_true])⟩, fun hc => hc.1⟩

def aarch64Init : Inputs :=
  { init := true
    initFrontend := frontendAarch64
    initPc := 0x4000#64 }

theorem interrupt_atomic_iff_entry :
    machine.Reach (machine.step State.reset aarch64Init) ∧
      Enters (machine.step State.reset aarch64Init) interruptCycle ⟨frontendAarch64, 0x4000#64⟩ :=
  have h := reach_reset.next aarch64Init
  ⟨h, (((interrupt_atomic_iff h (i := interruptCycle) (by decide)).mpr (by decide)).1 _).mp
    ⟨by decide, by decide, by decide⟩⟩

def interruptFaultCycle : Inputs :=
  { interruptCycle with
    rawMemRespValid := true
    rawMemRespFault := true }

/-- An interrupt in the cycle of a fetch fault loads the interrupted context, but the register stays
in the raw frontend. -/
theorem entry_without_leaving :
    let s := machine.step State.reset aarch64Init
    machine.Reach s ∧ interruptFaultCycle.init = false ∧
      Loads s interruptFaultCycle ⟨frontendAarch64, 0x4000#64⟩ ∧
      (machine.step s interruptFaultCycle).loc = ⟨frontendAarch64, 0x4000#64⟩ ∧
      ¬ Enters s interruptFaultCycle ⟨frontendAarch64, 0x4000#64⟩ :=
  ⟨reach_reset.next aarch64Init, by decide, ⟨by decide, by decide, by decide⟩, by decide,
    fun h => absurd h.2.2.1 (by decide)⟩

/-! ## Trap vectors -/

/-- No fault and no other redirect stands beside a trap vector, and the vector is executable. -/
def vectorAlone (s : State) (i : Inputs) : Bool :=
  (vectorLoc i.toCoreInputs).ok && !(i.valid && faultPending s i) && !interruptTaken s i &&
    !restoreTaken s i && !cookieReturn s i

theorem stateUpdate_of_vector (h : Inv s) (hi : i.init = false)
    (hv : vectorRedirect i.toCoreInputs) :
    (cycle s i).core.retire = false ∧
      ((cycle s i).stateUpdate ↔ vectorAlone s i) := by
  obtain ⟨hint, hret, hvec⟩ := requests_eq (i := i) h
  rw [hv] at hvec
  have hloc : (cycle s i).frontendState.trapLoc = vectorLoc i.toCoreInputs := trapVectorLoc_eq hv
  have hquiet : (cycle s i).core.fault = (i.valid && faultPending s i) ∧
      (cycle s i).stateStall = false ∧ (cycle s i).core.retire = false := by
    cases hval : i.valid
    · obtain ⟨hf, hst, hr, -⟩ := quiet_of_invalid (s := s) hval
      exact ⟨hf, hst, hr⟩
    · have hb : (cycle s i).core.gate.blockRetire := by
        rw [vectorRedirect, Bool.and_eq_true] at hv
        rw [blockRetire_eq h, hv.1, Bool.or_true]
      exact quiet_of_blocked h hval hb
  obtain ⟨hf, hst, hr⟩ := hquiet
  obtain ⟨hcm, htr⟩ := requests_of_no_retire hr
  have hf' : (cycle s i).frontendState.fault = (i.valid && faultPending s i) := hf
  have hst' : (cycle s i).frontendState.stall = false := hst
  refine ⟨hr, ?_⟩
  rw [StatefulCore.stateUpdate, update_of_trapVector hi hvec, hf', hst', hcm, htr,
    hint, hret, hloc, vectorAlone]
  grind

/-- In a cycle that delivers an event frame with a vector nothing retires, and the register becomes
the vector exactly when it is there already or no fault and no redirect stands beside it. -/
theorem vector_atomic_iff (h : machine.Reach s) (hi : i.init = false)
    (hd : (cycle s i).core.trapEventFrameDelivered = true) (hv : i.trapVectorValid = true) :
    (cycle s i).core.retire = false ∧
      ((machine.step s i).loc = vectorLoc i.toCoreInputs ↔
        s.loc = vectorLoc i.toCoreInputs ∨ vectorAlone s i = true) := by
  have hinv := inv_reach h
  have hred : vectorRedirect i.toCoreInputs = true := by
    rw [vectorRedirect, ← trapEventFrameDelivered_eq (s := s), hd, hv]
    rfl
  obtain ⟨hr, hu⟩ := stateUpdate_of_vector hinv hi hred
  refine ⟨hr, ?_⟩
  rw [← hu]
  exact next_eq_iff (q := (cycle s i).frontendState) fun hup =>
    (selectedLoc_of_trapVector (q := (cycle s i).frontendState) hi
      (trapVectorApply_eq.trans hred) hup).trans (trapVectorLoc_eq hred)

/-- The delivery of the event frame of an AArch64 system call, with an x86 vector. -/
def deliveryCycle : Inputs :=
  { valid := true
    trapValid := true
    trapMonitorEnabled := true
    trapEventFrameAddr := 0x9000#64
    trapReason := 1#32
    trapSourceMode := 1#32
    trapMemWriteRespValid := true
    trapVectorValid := true
    trapVectorFrontendI := frontendX86
    trapVectorPcI := 0x2000#64 }

theorem vector_atomic_iff_delivery :
    machine.Reach (machine.step State.reset aarch64Init) ∧
      (machine.run State.reset [aarch64Init, deliveryCycle]).loc = ⟨frontendX86, 0x2000#64⟩ :=
  have h := reach_reset.next aarch64Init
  ⟨h, (vector_atomic_iff h (i := deliveryCycle) (by decide) (by decide) (by decide)).2.mpr
    (by decide)⟩

def deliveryInterruptCycle : Inputs :=
  { deliveryCycle with
    interruptFeatureEnabled := true
    cpl3 := true
    interrupt := true }

/-- An event frame is dropped when an interrupt arrives in its cycle: the redirects conflict and the
register stays at the trapping instruction. -/
theorem vector_dropped :
    let s := machine.step State.reset aarch64Init
    machine.Reach s ∧ deliveryInterruptCycle.init = false ∧
      (cycle s deliveryInterruptCycle).core.trapEventFrameDelivered = true ∧
      deliveryInterruptCycle.trapVectorValid = true ∧
      vectorLoc deliveryInterruptCycle.toCoreInputs = ⟨frontendX86, 0x2000#64⟩ ∧
      (machine.step s deliveryInterruptCycle).loc = ⟨frontendAarch64, 0x4000#64⟩ :=
  ⟨reach_reset.next aarch64Init, by decide⟩

end Poly
