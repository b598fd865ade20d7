import Armd64.Proofs.Gate

/-!
# One outcome for each cycle

A valid cycle of `poly_frontend_memory_retire` waits for the fetch, the execution or the retirement,
retires an instruction, or faults, and never two of these. What the pipeline fetches it can decode:
the alignment check of the decoder repeats the one before the fetch.
-/

namespace Poly

namespace FrontendFetchDecodePipeline

variable {p : FrontendFetchDecodePipeline}

theorem decodeValid_of_fetchValid (h : p.fetchValid) : p.decodeValid := by
  have hplan : p.decodeDispatch.rawFetchPlan.valid := h
  have halign : p.decodeDispatch.rawAlignFault = false := by
    show p.decodeDispatch.rawFetchPlan.alignFault = false
    rw [fetchValid, Bool.or_eq_true, Bool.and_eq_true, Bool.and_eq_true] at h
    rcases h with ⟨hx, -⟩ | ⟨-, hraw⟩
    · have hf : p.frontend = frontendX86 := beq_iff_eq.mp hx
      have hf' : p.decodeDispatch.rawFetchPlan.frontend = frontendX86 := hf
      rw [RawFetchPlan.alignFault, hf']
      simp [frontendX86, frontendAarch64, frontendRiscv]
    · -- The plan of the response stage has checked the same frontend and pc.
      rw [RawFetchResponseStage.insnValid, Bool.and_eq_true, Bool.not_eq_true'] at hraw
      obtain ⟨hfetch, hfault⟩ := hraw
      rw [RawFetchPlan.rawFetch, Bool.and_eq_true] at hfetch
      rw [RawFetchPlan.alignFault, hfetch.1] at hfault
      rw [RawFetchPlan.alignFault, hplan]
      exact hfault
  rw [decodeValid, FrontendDecodeDispatch.decodeValid, halign, Bool.not_false, Bool.and_true]
  exact h

end FrontendFetchDecodePipeline

namespace FrontendMemoryRetire

abbrev gate (m : FrontendMemoryRetire) : FrontendPredecodedRetire := m.frontendPredecodedRetire

/-- Every valid cycle asserts exactly one of the five outputs, whatever frontend, pc, responses and
gating inputs are; a fault reports the current pc and commits nothing. -/
theorem one_outcome (m : FrontendMemoryRetire) (hv : m.pipeline.valid = true) :
    (∃! o, m.gate.asserts o = true) ∧
      (m.fault = true →
        m.gate.faultPc = m.pipeline.pc ∧ m.gate.commitTransition = false ∧
          m.gate.commitPushTransition = false ∧ m.gate.trapReturnRetire = false ∧
          m.gate.commitFrontend = m.pipeline.frontend ∧ m.gate.commitPc = m.pipeline.pc) := by
  have hd : m.gate.fetchValid = true → m.gate.decodeValid = true :=
    FrontendFetchDecodePipeline.decodeValid_of_fetchValid
  refine ⟨⟨m.gate.outcomeOf, FrontendPredecodedRetire.asserts_outcomeOf hv hd, ?_⟩,
    fun hf => FrontendPredecodedRetire.commit_of_fault hf⟩
  intro o ho
  rw [FrontendPredecodedRetire.asserts_eq hv hd] at ho
  exact of_decide_eq_true ho

/-- A cycle at the code that names no frontend, with an instruction on both ports. -/
def unknownFrontend : FrontendMemoryRetire where
  pipeline :=
    { valid := true
      frontend := 3#2
      pc := 0x1000#64
      x86FetchRespValid := true
      x86FetchRespFault := false
      x86FetchRespWord := 0x90909090#32
      x86FetchRespFallthroughPc := 0x1001#64
      rawMemRespValid := true
      rawMemRespFault := false
      rawMemRespWord := 0xd503201f#32 }
  olderFaultI := false
  executeReady := true
  blockRetire := false
  executeFaultI := false
  targetFrontend := 0#2
  targetPc := 0#64
  signatureSlotValid := false
  transitionStackFullI := false
  trapReturnRestoreValid := false

theorem one_outcome_unknown_frontend :
    (∃! o, unknownFrontend.gate.asserts o = true) ∧ unknownFrontend.fault = true ∧
      unknownFrontend.gate.faultPc = 0x1000#64 :=
  have h := one_outcome unknownFrontend rfl
  ⟨h.1, by decide, (h.2 (by decide)).1⟩

end FrontendMemoryRetire

end Poly
