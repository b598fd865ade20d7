import Armd64.Proofs.ControlFlow
import Armd64.Proofs.Outcome

/-!
# Trap instructions

The core decodes a raw trap instruction, and drives a wire with it that nothing reads. A trap is no
control word, no branch and no memory operation either, so the retirement gate takes it for an
ordinary instruction: it falls through to the next pc unless something else holds the cycle back.
-/

namespace Poly

open Hw FrontendFetchDecodePipeline Pattern
open InterruptBoundary

/-! ## Decoding -/

namespace RawInsnDecode

variable {d : RawInsnDecode}

/-- The decoder marks the word as no memory operation, no barrier and no branch. -/
structure Plain (d : RawInsnDecode) : Prop where
  order : d.memoryOrderValid = false
  load : d.memoryLoad = false
  store : d.memoryStore = false
  atomic : d.memoryAtomic = false
  barrier : d.memoryBarrier = false
  branch : d.branch = false

theorem plain_of_a64Trap (ha : d.aarch64Valid) (hr : d.riscvValid = false)
    (ht : d.a64Trap) : d.Plain := by
  have hfits : (⟨0xff000000, 0xd4000000⟩ : Pattern 32).fits d.insn := ht
  have hgroup : d.a64LoadStoreGroup = false := by
    rw [a64LoadStoreGroup, extract_of_fits (by decide) hfits]
    decide
  have hbarrier : d.a64Barrier = false :=
    fits_of_clashes (q := ⟨0xfffff01f, 0xd503301f⟩) (by decide) hfits
  have hbranch : a64BranchMarks.any (·.fits d.insn) = false :=
    any_fits_of_settles (by rfl) hfits
  have hload : d.memoryLoad = false := by simp [memoryLoad, hr, hgroup]
  have hstore : d.memoryStore = false := by simp [memoryStore, hr, hgroup]
  have hatomic : d.memoryAtomic = false := by simp [memoryAtomic, a64AtomicGroup, hr, hgroup]
  have hbar : d.memoryBarrier = false := by simp [memoryBarrier, hr, hbarrier]
  refine ⟨by simp [memoryOrderValid, *], hload, hstore, hatomic, hbar, ?_⟩
  simpa [branch, ha, hr, a64BranchMarks, fits, a64B, a64CondB, a64Br, a64Bl, a64Blr, a64Ret,
    Bool.or_assoc] using hbranch

theorem plain_of_rvTrap (ha : d.aarch64Valid = false) (ht : d.rvTrap) : d.Plain := by
  obtain ⟨h32, hop, hquad, h3, h4, -, heb⟩ := rv_fields d
  rw [rvTrap, heb, h32, hop, Bool.or_eq_true, Bool.and_eq_true, Bool.and_eq_true] at ht
  -- A SYSTEM instruction is told by its opcode, `C.EBREAK` by its quadrant and funct4.
  have hkinds : d.rvLoad = false ∧ d.rvStore = false ∧ d.rvAtomic = false ∧ d.rvBarrier = false ∧
      d.rvBranch = false := by
    simp only [rvLoad, rvStore, rvAtomic, rvBarrier, rvBranch, h32, hop, hquad, h3, h4]
    rcases ht with ⟨hq, hsystem⟩ | ⟨-, hebreak⟩
    · rw [hq, beq_iff_eq.mp hsystem]
      simp
    · obtain ⟨hq, hf4, -⟩ := Isa.Rv64Flow.fields_of_cEbreak hebreak
      rw [Isa.compressedFunct3_eq_funct4, hq, hf4]
      simp
  constructor <;>
    simp [memoryOrderValid, memoryLoad, memoryStore, memoryAtomic, memoryBarrier, branch, *]

theorem plain_of_trap (ht : d.trap) : d.Plain := by
  rw [trap, Bool.or_eq_true, Bool.and_eq_true, Bool.and_eq_true] at ht
  rcases ht with ⟨hv, ha⟩ | ⟨hv, hr⟩
  · rw [aarch64Valid, Bool.and_eq_true, beq_iff_eq] at hv
    obtain ⟨hav, hrv⟩ := valid_of_aarch64 hv.1 hv.2
    exact plain_of_a64Trap hav hrv ha
  · rw [riscvValid, Bool.and_eq_true, beq_iff_eq] at hv
    exact plain_of_rvTrap (valid_of_riscv hv.1 hv.2).1 hr

theorem not_polyCtrl_of_trap (ht : d.trap) {k : CtrlDecode} (hf : k.frontend = d.frontend)
    (hw : k.insn = d.insn) : k.polyCtrl = false := by
  rw [← Bool.not_eq_true]
  intro hk
  rw [trap, Bool.or_eq_true, Bool.and_eq_true, Bool.and_eq_true] at ht
  rcases ht with ⟨hv, ha⟩ | ⟨hv, hr⟩
  · rw [aarch64Valid, Bool.and_eq_true, beq_iff_eq, ← hf] at hv
    rcases CtrlDecode.ctrl_of_raw hk (by rw [hv.2]; rfl) with ⟨-, hctrl⟩ | ⟨hrv, -⟩
    · have hno := fits_of_clashes (q := ⟨0xfffff01f, 0xd503201f⟩) (by decide)
        (show (⟨0xff000000, 0xd4000000⟩ : Pattern 32).fits d.insn = true from ha)
      rw [← hw, fits_iff.mpr hctrl] at hno
      cases hno
    · exact Flow.aarch64_ne_riscv (hv.2.symm.trans hrv)
  · rw [riscvValid, Bool.and_eq_true, beq_iff_eq, ← hf] at hv
    rcases CtrlDecode.ctrl_of_raw hk (by rw [hv.2]; rfl) with ⟨hav, -⟩ | ⟨-, hctrl⟩
    · exact Flow.aarch64_ne_riscv (hav.symm.trans hv.2)
    · have hop : Isa.opcode d.insn = 0x0b#7 := by
        rw [← hw]
        exact extract_of_fits (p := ⟨0x01ffffff, 0x0000700b⟩) (by decide)
          (fits_iff.mpr hctrl)
      obtain ⟨h32, hopd, -, -, -, -, heb⟩ := rv_fields d
      rw [rvTrap, heb, h32, hopd, hop, Bool.or_eq_true] at hr
      rcases hr with hsystem | hebreak
      · simp at hsystem
      · rw [Bool.and_eq_true] at hebreak
        have hquad := (Isa.Rv64Flow.fields_of_cEbreak hebreak.2).1
        rw [Isa.quadrant_eq_opcode, hop] at hquad
        exact absurd hquad (by decide)

end RawInsnDecode

/-! ## Retirement -/

namespace FrontendCore

variable (c : FrontendCore)

def rawTrap : Bool := FrontendMemoryRetire.rawTrap c.pipeline

def nextLoc : Loc := ⟨c.frontend, c.pc + rawInsnBytes c.frontend c.rawMemRespWord⟩

/-- A trap instruction leaves through the delivery of an event frame, a fault or a wait, not to the
next instruction. -/
structure LeavesAsTrap : Prop where
  noFallthrough : ¬(c.retire = true ∧ c.commitLoc = c.nextLoc)
  leaves : c.trapEventFrameDelivered = true ∨ c.fault = true ∨ c.waitFetch = true ∨
    c.waitExecute = true ∨ c.waitRetire = true

/-- A memory operation that is flagged from outside is no operation, or has to wait. -/
def flaggedOrderHolds : Bool :=
  c.memoryOrderValid &&
    (!(c.memoryLoad || c.memoryStore || c.memoryAtomic || c.memoryBarrier) ||
      (c.storeBufferFull && (c.memoryStore || c.memoryAtomic)) ||
      (c.memoryAtomic && c.olderStorePending))

/-- A user-mode interrupt is taken, or a user return to the saved context or with one which no raw
frontend can execute. -/
def interruptHolds : Bool :=
  let saved := c.regs.interruptedLoc
  c.interruptFeatureEnabled && c.cpl3 &&
    (c.interrupt ||
      (c.userReturn && c.regs.interruptedValid &&
        (!(frontendRaw saved.frontend && saved.ok) || c.userReturnPc == saved.pc)))

/-- The inputs hold the cycle back: a fault from outside, a flagged memory operation, an interrupt
or an event frame. -/
def heldBack : Bool :=
  c.olderFaultI || c.executeFaultI || c.flaggedOrderHolds || c.interruptHolds || c.trapValid

theorem frame_eq :
    (c.trapFault || c.trapWaitResponse || c.trapEventFrameDelivered) = c.trapValid := by
  let s : State := ⟨⟨c.frontend, c.pc⟩, c.regs⟩
  let i : Inputs := { toCoreInputs := c.toCoreInputs }
  have hfault : c.trapFault = frameFails c.toCoreInputs := trapFault_eq (s := s) (i := i)
  have hwait : c.trapWaitResponse = framePending c.toCoreInputs :=
    trapWaitResponse_eq (s := s) (i := i)
  have hdone : c.trapEventFrameDelivered = frameDelivered c.toCoreInputs :=
    trapEventFrameDelivered_eq (s := s) (i := i)
  rw [hfault, hwait, hdone, frameFails, framePending, frameDelivered]
  grind

section

variable {c : FrontendCore} (hv : c.valid = true) (hraw : frontendRaw c.frontend = true)
  (ht : c.rawTrap = true)

include ht

theorem decode_of_trap :
    c.pipeline.decodeValid ∧ c.pipeline.decodeDispatch.rawInsnDecode.trap := by
  rw [rawTrap, FrontendMemoryRetire.rawTrap, Bool.and_eq_true] at ht
  exact ht

theorem plain_sidebands :
    c.rawMemoryOrderValid = false ∧ c.rawMemoryLoad = false ∧ c.rawMemoryStore = false ∧
      c.rawMemoryAtomic = false ∧ c.rawMemoryBarrier = false ∧ c.rawBranch = false := by
  obtain ⟨hd, htrap⟩ := decode_of_trap ht
  obtain ⟨ho, hl, hs, ha, hb, hbr⟩ := RawInsnDecode.plain_of_trap htrap
  have hside (b : Bool) (h : b = false) : (c.pipeline.decodeValid && b) = false := by
    rw [h, Bool.and_false]
  exact ⟨hside _ ho, hside _ hl, hside _ hs, hside _ ha, hside _ hb, hside _ hbr⟩

theorem polyCtrlI_of_trap : c.gate.polyCtrlI = false :=
  RawInsnDecode.not_polyCtrl_of_trap (decode_of_trap ht).2 rfl rfl

theorem handoff_of_trap :
    c.gate.frontendHandoff.error = false ∧ c.gate.frontendHandoff.transition = false := by
  have hctrl : c.gate.frontendHandoff.polyCtrl = false := polyCtrlI_of_trap ht
  simp [FrontendHandoff.error, FrontendHandoff.transition, FrontendHandoff.invalidFrontend,
    FrontendHandoff.invalidSubop, FrontendHandoff.noncanonicalTarget,
    FrontendHandoff.targetAlignFault, FrontendHandoff.invalidSignatureSlot,
    FrontendHandoff.transitionStackFull, hctrl]

theorem ready_of_trap : c.gate.ready = (!c.memoryOrderValid || c.memoryRetireAllowed) := by
  obtain ⟨ho, hl, hs, ha, hb, hbr⟩ := plain_sidebands ht
  have hret : c.gate.trapReturnDecode = false := by
    simp [FrontendPredecodedRetire.trapReturnDecode, polyCtrlI_of_trap ht]
  rw [FrontendPredecodedRetire.ready, hret, Bool.not_false, Bool.true_or, Bool.and_true]
  show c.executeReady = _
  simp [executeReady, effectiveMemoryOrderValid, rawUnresolvedBranchWait, rawUnresolvedBranch,
    rawMemoryExecuteWait, rawMemoryAccess, ho, hbr]

theorem executeFault_of_trap :
    c.executeFault = (c.executeFaultI || c.memoryFault || c.interruptError || c.trapFault) := by
  obtain ⟨ho, -, -, -, -, hbr⟩ := plain_sidebands ht
  simp [executeFault, rawResolvedBranchTargetInvalid, rawResolvedBranchTargetValid,
    rawUnresolvedBranch, rawMemoryExecuteFault, rawMemoryAccess, ho, hbr]

include hraw in
theorem order_of_trap :
    (c.memoryFault || !(!c.memoryOrderValid || c.memoryRetireAllowed)) = c.flaggedOrderHolds := by
  obtain ⟨ho, hl, hs, ha, hb, -⟩ := plain_sidebands ht
  have hf : frontendValid c.frontend :=
    frontendValid_iff.mpr (.inr (frontendRaw_iff.mp hraw))
  simp only [memoryFault, memoryRetireAllowed, MemoryOrder.retireAllowed, MemoryOrder.fault,
    MemoryOrder.invalidFrontend, MemoryOrder.invalidOp, MemoryOrder.opPresent,
    MemoryOrder.waitStoreBuffer, MemoryOrder.waitAtomicOrder, memoryOrder,
    effectiveMemoryOrderValid, effectiveMemoryLoad, effectiveMemoryStore, effectiveMemoryAtomic,
    effectiveMemoryBarrier, ho, hl, hs, ha, hb, hf, flaggedOrderHolds]
  grind

include hraw in
theorem valid_of_trap : c.valid := by
  have hfetch : c.pipeline.fetchValid := by
    have hd := (decode_of_trap ht).1
    rw [decodeValid, FrontendDecodeDispatch.decodeValid,
      Bool.and_eq_true] at hd
    exact hd.1
  have hx : c.pipeline.x86Frontend = false := by
    rcases frontendRaw_iff.mp hraw with hf | hf <;>
      rw [x86Frontend, show c.pipeline.frontend = _ from hf] <;> rfl
  rw [fetchValid, hx, Bool.false_and, Bool.false_or, Bool.and_eq_true,
    RawFetchResponseStage.insnValid, RawFetchPlan.rawFetch] at hfetch
  simp only [RawFetchResponseStage.fetchPlan, RawFetchResponseStage.planValid,
    rawFetchResponseStage, Bool.and_eq_true] at hfetch
  exact hfetch.2.1.1.1.1.1.1

include hv hraw

theorem arrived_of_trap : c.pipeline.Live ∧ c.pipeline.arrived := by
  have hd := (decode_of_trap ht).1
  have hl := live_of_decodeValid (p := c.pipeline) hv
    (frontendValid_iff.mpr (.inr (frontendRaw_iff.mp hraw))) hd
  exact ⟨hl, (decodeValid_eq hl).symm.trans hd⟩

theorem pending_of_trap : c.gate.pending = (c.olderFaultI || c.executeFault) := by
  obtain ⟨hl, ha⟩ := arrived_of_trap hv hraw ht
  have hfetch : c.pipeline.fetchFault = false := by
    rw [FrontendFetchDecodePipeline.arrived, Bool.and_eq_true, Bool.and_eq_true,
      Bool.not_eq_true'] at ha
    rw [fetchFault_eq hl, ha.1.1, ha.2]
    simp
  show (c.olderFaultI || c.pipeline.fetchFault || c.executeFault) = _
  rw [hfetch, Bool.or_false]

theorem interrupt_of_trap :
    (c.interruptError || c.interruptEnterX86 || c.interruptRestoreRaw) = c.interruptHolds := by
  obtain ⟨hl, ha⟩ := arrived_of_trap hv hraw ht
  have hcan : canonical64 c.pc := by
    rw [FrontendFetchDecodePipeline.arrived, Bool.and_eq_true, Bool.and_eq_true, fetchable,
      Bool.and_eq_true, Bool.and_eq_true] at ha
    exact ha.1.1.1.1
  have hok : frontendValid c.frontend := hl.frontend
  have hal : frontendAligned c.frontend c.pc := hl.aligned
  have hsaved : frontendRaw c.regs.interruptedLoc.frontend = true →
      frontendValid c.regs.interruptedLoc.frontend = true :=
    fun h => frontendValid_iff.mpr (.inr (frontendRaw_iff.mp h))
  simp only [interruptError, interruptEnterX86, interruptRestoreRaw, error,
    enterX86Interrupt, restoreRaw,
    invalidCurrentFrontend, invalidCurrentPc,
    invalidInterruptedFrontend, invalidInterruptedPc,
    interruptCandidate, returnCandidate,
    currentRaw, interruptedRaw, interruptBoundary, hv, hraw,
    hcan, hok, hal, interruptHolds, Loc.ok]
  grind

theorem retire_of_trap : c.retire = !c.heldBack := by
  obtain ⟨hl, ha⟩ := arrived_of_trap hv hraw ht
  have hd : c.gate.fetchValid → c.gate.decodeValid :=
    decodeValid_of_fetchValid
  have hfetch : c.gate.fetchValid := (fetchValid_eq hl).trans ha
  have hblock : c.gate.blockRetire = c.blockRetire := rfl
  rw [retire, FrontendPredecodedRetire.retire, FrontendPredecodedRetire.stepValid_eq hv hd,
    (handoff_of_trap ht).1, hfetch, pending_of_trap hv hraw ht, executeFault_of_trap ht,
    ready_of_trap ht, hblock, blockRetire, heldBack, ← order_of_trap hraw ht,
    ← interrupt_of_trap hv hraw ht, ← frame_eq]
  grind

theorem commitLoc_of_trap (hr : c.retire) : c.commitLoc = c.nextLoc := by
  obtain ⟨hl, ha⟩ := arrived_of_trap hv hraw ht
  have hx : c.pipeline.frontend ≠ frontendX86 := fun hx => by
    rw [show c.frontend = frontendX86 from hx] at hraw
    cases hraw
  have hpc : c.pipeline.fetchFallthroughPc = c.nextLoc.pc := by
    rw [fetchFallthroughPc_eq hl ha, if_neg hx]
    rfl
  have hr' : c.gate.retire := hr
  rw [commitLoc, FrontendPredecodedRetire.commitFrontend, FrontendPredecodedRetire.commitPc,
    if_pos hr', if_pos hr', FrontendHandoff.nextFrontend, FrontendHandoff.nextPc,
    (handoff_of_trap ht).2]
  exact congrArg (Loc.mk c.frontend) hpc

end

theorem leavesAsTrap_iff (hraw : frontendRaw c.frontend) (ht : c.rawTrap) :
    c.LeavesAsTrap ↔ c.heldBack := by
  have hv := valid_of_trap hraw ht
  have hretire := retire_of_trap hv hraw ht
  constructor
  · intro hleaves
    cases hh : c.heldBack with
    | true => rfl
    | false =>
      rw [hh] at hretire
      exact absurd ⟨hretire, commitLoc_of_trap hv hraw ht hretire⟩ hleaves.noFallthrough
  · intro hh
    rw [hh] at hretire
    refine ⟨fun hfall => absurd (hfall.1.symm.trans hretire) (by decide), ?_⟩
    have ha : c.gate.asserts c.gate.outcomeOf :=
      FrontendPredecodedRetire.asserts_outcomeOf hv
        decodeValid_of_fetchValid
    cases ho : c.gate.outcomeOf <;> rw [ho] at ha
    case fault => exact .inr (.inl ha)
    case waitFetch => exact .inr (.inr (.inl ha))
    case waitExecute => exact .inr (.inr (.inr (.inl ha)))
    case waitRetire => exact .inr (.inr (.inr (.inr ha)))
    case retire => exact absurd (Eq.trans (Eq.symm ha) hretire) (by decide)

end FrontendCore

/-- From any registers, in any cycle with a raw frontend, a trap instruction is kept from falling
through exactly when the inputs hold the cycle back; the trap itself never does. So a run that holds
back every such cycle has none that falls through. -/
theorem trap_leaves_iff (r : CoreRegs) (is : List (CoreInputs × Loc)) :
    (∀ i : CoreInputs × Loc, frontendRaw i.2.frontend = true → (coreCycle r i).rawTrap = true →
      ((coreCycle r i).LeavesAsTrap ↔ (coreCycle r i).heldBack = true)) ∧
    ((∀ k ∈ coreMachine.cycles r is, (coreCycle k.1 k.2).rawTrap = true →
        (coreCycle k.1 k.2).heldBack = true) →
      ∀ k ∈ coreMachine.cycles r is, frontendRaw k.2.2.frontend = true →
        (coreCycle k.1 k.2).rawTrap = true → (coreCycle k.1 k.2).LeavesAsTrap) :=
  ⟨fun _ hraw ht => FrontendCore.leavesAsTrap_iff _ hraw ht,
    fun hheld k hk hraw ht => (FrontendCore.leavesAsTrap_iff _ hraw ht).mpr (hheld k hk ht)⟩

/-- A cycle at an `SVC` of AArch64 code, with the ports `i` beside its fetch. -/
def svcCycle (i : CoreInputs) : CoreInputs × Loc :=
  ({ i with valid := true, rawMemRespValid := true, rawMemRespWord := 0xd4000001#32 },
    ⟨frontendAarch64, 0x4000⟩)

/-- An older fault keeps an `SVC` from retiring. -/
theorem trap_leaves_iff_older_fault :
    let c := coreCycle State.reset.regs (svcCycle { olderFaultI := true })
    c.rawTrap = true ∧ c.heldBack = true ∧ c.LeavesAsTrap :=
  ⟨by decide, by decide,
    ((trap_leaves_iff State.reset.regs []).1 _ (by decide) (by decide)).mpr (by decide)⟩

/-- An `SVC` with nothing beside it retires, and the pc moves to the instruction behind it: the
system call is lost. -/
theorem svc_falls_through :
    let c := coreCycle State.reset.regs (svcCycle {})
    let s := machine.step State.reset aarch64Init
    coreMachine.Reach State.reset.regs ∧ c.rawTrap = true ∧ c.retire = true ∧
      c.commitLoc = ⟨frontendAarch64, 0x4004⟩ ∧ ¬c.LeavesAsTrap ∧
      machine.Reach s ∧ s.loc = ⟨frontendAarch64, 0x4000⟩ ∧
      (machine.step s (rawCycle 0xd4000001#32)).loc = ⟨frontendAarch64, 0x4004⟩ :=
  ⟨.init State.reset_isReset.regs, by decide, by decide, by decide,
    fun h => h.noFallthrough (by decide), reach_reset.next _, by decide, by decide⟩

end Poly
