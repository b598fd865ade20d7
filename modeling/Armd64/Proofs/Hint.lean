import Armd64.Proofs.ControlFlow
import Armd64.Proofs.Progress

/-!
# The A64 hint space

The control words of the AArch64 frontend are the whole hint space of A64: `poly_ctrl_decode` takes
`NOP`, `YIELD`, `BTI` and `PACIASP` for control words as well. A hint that the table of control
operations does not list is rejected by the handoff, so it raises a control fault at its pc and never
retires.
-/

namespace Poly

open FrontendPredecodedRetire

def isHint (w : BitVec 32) : Bool := w &&& 0xfffff01f#32 == 0xd503201f#32

def hintOp (w : BitVec 32) : BitVec 7 := w.extractLsb' 5 7

variable {s : State} {i : Inputs}

theorem ctrlWord_of_hint (hf : s.loc.frontend = frontendAarch64) (hw : isHint (insn s i)) :
    (ctrlWord s i).polyCtrl ∧ (ctrlWord s i).subop = hintOp (insn s i) := by
  have hx : (ctrlWord s i).isX86Ctrl = false := by
    rw [CtrlDecode.isX86Ctrl, show (ctrlWord s i).frontend = frontendAarch64 from hf]
    rfl
  have ha : (ctrlWord s i).isAarch64Ctrl := by
    rw [CtrlDecode.isAarch64Ctrl, show (ctrlWord s i).frontend = frontendAarch64 from hf]
    exact hw
  have hp : (ctrlWord s i).polyCtrl := by
    rw [CtrlDecode.polyCtrl, hx, ha]
    rfl
  refine ⟨hp, ?_⟩
  rw [CtrlDecode.subop_eq hp, CtrlDecode.decodedSubop, hx, ha]
  rfl

theorem controlFault_of_rejected (h : Inv s) (hr : Ready s i)
    (hp : (ctrlWord s i).polyCtrl) (ho : ctrlOpOf s i = none) :
    (cycle s i).core.controlFault ∧ (cycle s i).core.faultPc = s.loc.pc ∧
      (machine.step s i).loc = s.loc := by
  have hs : (cycle s i).core.gate.Steps := by
    refine (steps_iff h).mpr ⟨hr, fun _ htr => ?_⟩
    rw [ho] at htr
    cases htr
  have hcf : (cycle s i).core.gate.controlFault := by
    rw [controlFault, stepValid_iff.mpr hs,
      handoff_error_eq h hs, hp, ctrlAccepted, ho]
    rfl
  have hfault : (cycle s i).core.gate.fault := by
    rw [fault, hcf, Bool.or_true]
  refine ⟨hcf, ?_, loc_of_hold (stateUpdate_eq_false (.inl hfault))⟩
  rw [FrontendCore.faultPc, faultPc, if_pos hfault]
  rfl

/-- A hint whose `CRm:op2` is no control operation never executes: where nothing else stands in its
way, it raises a control fault at its own pc, and frontend and pc stay. -/
theorem hint_faults (h : machine.Reach s) (hf : s.loc.frontend = frontendAarch64)
    (hw : isHint (insn s i) = true) (ho : ctrlOp frontendAarch64 (hintOp (insn s i)) = none)
    (hr : Ready s i) :
    ¬(retires s i = true ∧ (machine.step s i).loc = ⟨frontendAarch64, s.loc.pc + 4⟩) ∧
      retires s i = false ∧ (cycle s i).core.controlFault = true ∧
      (cycle s i).core.faultPc = s.loc.pc ∧ (machine.step s i).loc = s.loc := by
  have hinv := inv_reach h
  obtain ⟨hp, hsub⟩ := ctrlWord_of_hint hf hw
  have hop : ctrlOpOf s i = none := by
    rw [ctrlOpOf, hf, hsub]
    exact ho
  have hret : retires s i = false := by
    rw [retires, retire_eq hinv, ← Bool.not_eq_true, retireReady_iff]
    rintro ⟨-, hacc⟩
    have ha := hacc hp
    rw [ctrlAccepted, hop] at ha
    cases ha
  refine ⟨fun hyes => ?_, hret, controlFault_of_rejected hinv hr hp hop⟩
  rw [hret] at hyes
  exact Bool.false_ne_true hyes.1

theorem ready_nop : Ready (machine.step State.reset aarch64Init) (rawCycle 0xd503201f) :=
  ⟨by decide, by decide, by decide, by decide, by decide, by decide, by decide⟩

theorem hint_faults_nop :
    isHint 0xd503201f = true ∧
      (machine.step (machine.step State.reset aarch64Init) (rawCycle 0xd503201f)).loc =
        ⟨frontendAarch64, 0x4000⟩ :=
  ⟨by decide, (hint_faults (reach_reset.next aarch64Init) (by decide) (by decide) (by decide)
    ready_nop).2.2.2.2.trans (by decide)⟩

/-- A `NOP` at `0x4000`, with fetch and execute ready and nothing else in the cycle, does not
retire. -/
theorem nop_does_not_retire :
    let s := machine.step State.reset aarch64Init
    let nop := rawCycle 0xd503201f
    machine.Reach s ∧ s.loc = ⟨frontendAarch64, 0x4000⟩ ∧ Ready s nop ∧ nop.init = false ∧
      cookieReturn s nop = false ∧ isHint (insn s nop) = true ∧
      ctrlOp frontendAarch64 (hintOp (insn s nop)) = none ∧ retires s nop = false ∧
      (cycle s nop).core.controlFault = true ∧
      (machine.step s nop).loc = ⟨frontendAarch64, 0x4000⟩ :=
  ⟨reach_reset.next aarch64Init, by decide, ready_nop, by decide, by decide, by decide, by decide,
    by decide, by decide, by decide⟩

end Poly
