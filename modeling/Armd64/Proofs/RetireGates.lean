import Armd64.Proofs.Pipeline
import Armd64.Rtl.FrontendRetire

/-!
# The two retirement gates agree

`poly_frontend_retire` gates first and decodes then; `poly_frontend_predecoded_retire` gets what
`poly_frontend_decode_dispatch` has decoded, and gates that.
-/

namespace Poly

open FrontendPredecodedRetire

namespace FrontendRetire

variable {r : FrontendRetire}

def decodeDispatch (r : FrontendRetire) : FrontendDecodeDispatch := { r with valid := r.fetchValid }

/-- The other gate with the same inputs, behind that decoder, with a valid trap-return state. -/
def predecoded (r : FrontendRetire) : FrontendPredecodedRetire :=
  { r with
    decodeValid := r.decodeDispatch.decodeValid
    fallthroughPc := r.decodeDispatch.fallthroughPc
    polyCtrlI := r.decodeDispatch.ctrlDecode.polyCtrl
    subopI := r.decodeDispatch.ctrlDecode.subop
    callSigImm := r.decodeDispatch.ctrlDecode.callSigImm
    signatureSlot := r.decodeDispatch.ctrlDecode.signatureSlot
    trapReturnRestoreValid := true }

theorem rawAlignFault_of_aligned {d : FrontendDecodeDispatch}
    (h : frontendAligned d.frontend d.pc) : d.rawAlignFault = false :=
  RawFetchPlan.alignFault_eq_false h

theorem fetchValid_of_stepValid (hstep : r.stepValid) : r.fetchValid := by
  simp only [stepValid, Bool.and_eq_true] at hstep
  exact hstep.1.1.1.1.1.2

theorem dispatch_eq_of_stepValid (hstep : r.stepValid) :
    r.frontendStep.decodeDispatch = r.decodeDispatch := by
  unfold FrontendStep.decodeDispatch decodeDispatch
  rw [fetchValid_of_stepValid hstep, show r.frontendStep.valid = true from hstep]
  rfl

section

variable (h : frontendAligned r.frontend r.pc)

include h

theorem decodeValid_of_aligned :
    r.predecoded.decodeValid = r.fetchValid := by
  have hfault : r.decodeDispatch.rawAlignFault = false := rawAlignFault_of_aligned h
  show (r.fetchValid && !r.decodeDispatch.rawAlignFault) = r.fetchValid
  rw [hfault, Bool.not_false, Bool.and_true]

theorem stepValid_predecoded :
    r.predecoded.stepValid = r.stepValid := by
  have hdecode := decodeValid_of_aligned h
  unfold FrontendPredecodedRetire.stepValid stepValid
  rw [hdecode, show r.predecoded.trapReturnRestoreValid = true from rfl, Bool.or_true]
  show (r.valid && r.fetchValid && r.fetchValid && r.executeReady && true && !r.blockRetire &&
    !r.olderFaultI && !r.fetchFaultI && !r.executeFaultI) = _
  rw [Bool.and_assoc r.valid, Bool.and_self, Bool.and_true]

theorem handoff_eq_of_stepValid (hstep : r.stepValid) :
    r.frontendStep.frontendHandoff = r.predecoded.frontendHandoff := by
  have hdispatch := dispatch_eq_of_stepValid hstep
  have hvalid : r.decodeDispatch.decodeValid :=
    (decodeValid_of_aligned h).trans (fetchValid_of_stepValid hstep)
  unfold FrontendStep.frontendHandoff FrontendStep.polyCtrl FrontendStep.subop
    frontendHandoff
  rw [hdispatch, stepValid_predecoded h, hstep, hvalid]
  rfl

theorem waitExecute_predecoded :
    r.predecoded.waitExecute = r.waitExecute := by
  have hdecode := decodeValid_of_aligned h
  unfold FrontendPredecodedRetire.waitExecute waitExecute
  rw [hdecode, show r.predecoded.trapReturnRestoreValid = true from rfl, Bool.not_true,
    Bool.and_false, Bool.or_false]
  show (r.valid && r.fetchValid && r.fetchValid && !r.executeReady && !r.olderFaultI &&
    !r.fetchFaultI && !r.executeFaultI && !r.blockRetire) = _
  rw [Bool.and_assoc r.valid, Bool.and_self]

theorem polyCtrl_predecoded :
    r.predecoded.polyCtrl = r.frontendStep.polyCtrl := by
  unfold polyCtrl FrontendStep.polyCtrl
  rw [stepValid_predecoded h]
  cases hstep : r.stepValid with
  | true =>
    rw [dispatch_eq_of_stepValid hstep, Bool.true_and]
    rfl
  | false => simp [CtrlDecode.polyCtrl, FrontendDecodeDispatch.ctrlDecode,
      FrontendDecodeDispatch.decodeValid, FrontendStep.decodeDispatch, frontendStep, hstep]

theorem subop_predecoded :
    r.predecoded.subop = r.frontendStep.subop := by
  have hctrl := polyCtrl_predecoded h
  unfold subop FrontendStep.subop
  unfold FrontendStep.polyCtrl at hctrl
  rw [hctrl, CtrlDecode.subop]
  by_cases hpoly : r.frontendStep.decodeDispatch.ctrlDecode.polyCtrl = true
  · have hstep : r.stepValid := by
      by_contra hstep
      simp [CtrlDecode.polyCtrl, FrontendDecodeDispatch.ctrlDecode,
        FrontendDecodeDispatch.decodeValid, FrontendStep.decodeDispatch, frontendStep,
        Bool.eq_false_iff.mpr hstep] at hpoly
    rw [dispatch_eq_of_stepValid hstep] at hpoly ⊢
    exact if_pos hpoly
  · rw [if_neg hpoly, if_neg hpoly]

theorem handoff_valid :
    r.frontendStep.frontendHandoff.valid = r.stepValid := by
  have hfault : r.frontendStep.decodeDispatch.rawAlignFault = false := rawAlignFault_of_aligned h
  show (r.stepValid && !r.frontendStep.decodeDispatch.rawAlignFault) = r.stepValid
  rw [hfault, Bool.not_false, Bool.and_true]

end

/-- For every frontend, word, aligned pc and gating inputs, the gate behind the decoder has the
outputs of the gate with its own decoder. -/
theorem retire_gates_agree (r : FrontendRetire) (h : frontendAligned r.frontend r.pc = true) :
    r.predecoded.outputs = r.outputs := by
  have hvalid := stepValid_predecoded h
  have hfault : r.frontendStep.rawAlignFault = false := rawAlignFault_of_aligned h
  unfold FrontendPredecodedRetire.outputs outputs
  rw [waitExecute_predecoded h, polyCtrl_predecoded h, subop_predecoded h, hfault]
  cases hstep : r.stepValid with
  | true =>
    have hhandoff := handoff_eq_of_stepValid h hstep
    have herror : r.frontendStep.error = r.predecoded.frontendHandoff.error := by
      rw [FrontendStep.error, hfault, hhandoff, Bool.false_or]
    have hfrontend : r.frontendStep.nextFrontend = r.predecoded.frontendHandoff.nextFrontend := by
      rw [FrontendStep.nextFrontend, hfault, hhandoff, if_neg Bool.false_ne_true]
    have hpc : r.frontendStep.nextPc = r.predecoded.frontendHandoff.nextPc := by
      rw [FrontendStep.nextPc, hfault, hhandoff, if_neg Bool.false_ne_true]
    have hretire : r.predecoded.retire = r.retire := by
      rw [FrontendPredecodedRetire.retire, retire, hvalid, herror]
    have hcontrol : r.predecoded.controlFault = r.controlFault := by
      rw [FrontendPredecodedRetire.controlFault, controlFault, hvalid, herror]
    simp only [FrontendPredecodedRetire.commitTransition,
      FrontendPredecodedRetire.commitPushTransition, FrontendPredecodedRetire.commitFrontend,
      FrontendPredecodedRetire.commitPc, FrontendPredecodedRetire.commitSignatureSlot,
      FrontendPredecodedRetire.faultPc, FrontendPredecodedRetire.fault, commitTransition,
      commitPushTransition, commitFrontend, commitPc, commitSignatureSlot, faultPc, fault, hretire,
      hcontrol, hhandoff, hfrontend, hpc]
    rfl
  | false =>
    have hidle : r.frontendStep.frontendHandoff.valid = false := (handoff_valid h).trans hstep
    have hother : r.predecoded.frontendHandoff.valid = false := hvalid.trans hstep
    simp only [FrontendPredecodedRetire.commitTransition,
      FrontendPredecodedRetire.commitPushTransition, FrontendPredecodedRetire.commitFrontend,
      FrontendPredecodedRetire.commitPc, FrontendPredecodedRetire.commitSignatureSlot,
      FrontendPredecodedRetire.faultPc, FrontendPredecodedRetire.fault,
      FrontendPredecodedRetire.retire, FrontendPredecodedRetire.controlFault, commitTransition,
      commitPushTransition, commitFrontend, commitPc, commitSignatureSlot, faultPc, fault, retire,
      controlFault, hvalid, hstep, Bool.false_and]
    simp only [FrontendPredecodedRetire.invalidSubop, FrontendPredecodedRetire.invalidFrontend,
      FrontendPredecodedRetire.noncanonicalTarget, FrontendPredecodedRetire.targetAlignFault,
      FrontendPredecodedRetire.invalidSignatureSlot, FrontendPredecodedRetire.transitionStackFull,
      FrontendHandoff.invalidSubop, FrontendHandoff.invalidFrontend,
      FrontendHandoff.noncanonicalTarget, FrontendHandoff.targetAlignFault,
      FrontendHandoff.invalidSignatureSlot, FrontendHandoff.transitionStackFull, hidle, hother,
      Bool.false_and]
    rfl

/-- An escape to x86 from AArch64 at an aligned address. -/
theorem retire_gates_agree_escape :
    let r : FrontendRetire := ⟨true, true, true, false, false, false, false, frontendAarch64,
      0x400000#64, 0xd5032e1f#32, 0#64, frontendX86, 0x401000#64, true, false⟩
    frontendAligned r.frontend r.pc = true ∧ r.retire = true ∧ r.predecoded.outputs = r.outputs :=
  ⟨by decide, by decide, retire_gates_agree _ (by decide)⟩

end FrontendRetire

end Poly
