import Armd64.Spec.Conditions

/-!
# The pipeline delivers the arrived instruction

At an executable location the fetch/decode pipeline of a valid cycle is a function of the arrived
instruction: it decodes exactly when one has arrived, it decodes that word, and it faults exactly
when the fetch fails.
-/

namespace Poly

open CoreInputs RawFetchPlan FrontendDecodeDispatch RawFetchResponseStage

/-! ## Raw instructions -/

theorem extract_compressed (w : BitVec 32) {n : Nat} (hn : n ≤ 16) :
    ((w.extractLsb' 0 16).setWidth 32).extractLsb' 0 n = w.extractLsb' 0 n := by
  apply BitVec.eq_of_getLsbD_eq
  intro j hj
  have h16 : j < 16 := by omega
  have h32 : j < 32 := by omega
  simp [hj, h16, h32]

@[simp] theorem compressed_rawInsn (f : BitVec 2) (w : BitVec 32) :
    compressed f (rawInsn f w) = compressed f w := by
  unfold rawInsn
  split
  · rw [compressed, extract_compressed w (by decide), compressed]
  · rfl

/-- A word is cut once, however often it is decoded. -/
@[simp] theorem rawInsn_rawInsn (f : BitVec 2) (w : BitVec 32) :
    rawInsn f (rawInsn f w) = rawInsn f w := by
  rw [rawInsn, compressed_rawInsn]
  split
  · rw [rawInsn, if_pos ‹_›, extract_compressed w (by decide)]
  · rfl

@[simp] theorem rawInsnBytes_rawInsn (f : BitVec 2) (w : BitVec 32) :
    rawInsnBytes f (rawInsn f w) = rawInsnBytes f w := by
  rw [rawInsnBytes, compressed_rawInsn, rawInsnBytes]

namespace RawFetchPlan

variable {p : RawFetchPlan}

theorem compressed_eq (hf : p.frontend = frontendRiscv) :
    compressed p.frontend p.fetchWord = !p.riscvIs32 := by
  simp [compressed, hf, riscvIs32, bne]

theorem compressed_eq_false (hf : p.frontend = frontendAarch64) :
    compressed p.frontend p.fetchWord = false := by
  simp [compressed, hf, frontendAarch64, frontendRiscv]

/-- The plan cuts the word to its instruction. -/
theorem insn_eq (hv : p.valid) (hr : frontendRaw p.frontend) :
    p.insn = rawInsn p.frontend p.fetchWord := by
  rcases frontendRaw_iff.mp hr with hf | hf
  · rw [insn, if_pos hv, if_pos hf, rawInsn, compressed_eq_false hf, if_neg (by decide)]
  · rw [insn, if_pos hv, if_neg (by rw [hf]; decide), if_pos hf, rawInsn, compressed_eq hf]
    cases p.riscvIs32 <;> rfl

theorem nextPc_eq (hv : p.valid) (hr : frontendRaw p.frontend) :
    p.nextPc = p.pc + rawInsnBytes p.frontend p.fetchWord := by
  rcases frontendRaw_iff.mp hr with hf | hf
  · rw [nextPc, if_pos hv, if_pos hf, rawInsnBytes, compressed_eq_false hf, if_neg (by decide)]
  · rw [nextPc, if_pos hv, if_neg (by rw [hf]; decide), if_pos hf, rawInsnBytes, compressed_eq hf]
    cases p.riscvIs32 <;> rfl

end RawFetchPlan

/-! ## Requests and responses -/

theorem RawFetchPlan.alignFault_eq_false {p : RawFetchPlan}
    (h : frontendAligned p.frontend p.pc) : p.alignFault = false := by
  unfold alignFault
  unfold frontendAligned at h
  split at h
  · simp_all
  · split at h <;> simp_all

/-- An aligned request fails exactly where nothing can be fetched. -/
theorem RawFetchRequest.error_eq {r : RawFetchRequest} (hv : r.valid)
    (hr : frontendRaw r.frontend) (ha : frontendAligned r.frontend r.pc) :
    r.error = !fetchable ⟨r.frontend, r.pc⟩ := by
  rcases frontendRaw_iff.mp hr with hf | hf <;>
    simp_all [error, invalidFrontend, noncanonicalPc, alignFault, rangeFault, requestLastAddr,
      lastOffset, rawFrontend, frontendAligned, fetchable, frontendX86, frontendAarch64,
      frontendRiscv]

namespace FrontendFetchIssue

variable {q : FrontendFetchIssue}

theorem x86FetchReqValid_eq (hv : q.valid) :
    q.x86FetchReqValid = (q.x86Frontend && fetchable ⟨q.frontend, q.pc⟩) := by
  cases hx : q.x86Frontend
  · simp [x86FetchReqValid, hx]
  · have hf : q.frontend = frontendX86 := by simpa [x86Frontend] using hx
    simp [x86FetchReqValid, invalidFrontend, x86NoncanonicalPc, x86RangeFault, x86LastAddr,
      fetchable, hv, hx, hf]

theorem rawFetchReqValid_eq (hv : q.valid) (ha : frontendAligned q.frontend q.pc) :
    q.rawFetchReqValid = (q.rawFrontend && fetchable ⟨q.frontend, q.pc⟩) := by
  cases hr : q.rawFrontend
  · simp [rawFetchReqValid, RawFetchRequest.requestValid, rawFetchRequest, hr]
  · have he : q.rawFetchRequest.error = !fetchable ⟨q.frontend, q.pc⟩ :=
      RawFetchRequest.error_eq (by simp [rawFetchRequest, hv, hr]) hr ha
    rw [rawFetchReqValid, RawFetchRequest.requestValid, he]
    rw [rawFrontend] at hr
    simp [rawFetchRequest, RawFetchRequest.rawFrontend, rawFrontend, hv, hr]

/-- At an aligned location only the range of the pc is left to fail. -/
theorem fault_eq (hv : q.valid) (hf : frontendValid q.frontend)
    (ha : frontendAligned q.frontend q.pc) :
    q.fault = !fetchable ⟨q.frontend, q.pc⟩ := by
  cases hr : q.rawFrontend
  · have hx : q.frontend = frontendX86 := eq_x86_of_not_raw hf hr
    have he : q.rawFetchRequest.error = false := by
      simp [RawFetchRequest.error, RawFetchRequest.invalidFrontend, RawFetchRequest.noncanonicalPc,
        RawFetchRequest.alignFault, RawFetchRequest.rangeFault, rawFetchRequest, hr]
    simp [fault, rawRequestError, he, invalidFrontend, x86NoncanonicalPc, x86RangeFault,
      x86Frontend, x86LastAddr, fetchable, hv, hx]
  · have hx : (q.frontend == frontendX86) = false := by
      rcases frontendRaw_iff.mp hr with h | h <;> rw [h] <;> rfl
    have he : q.rawFetchRequest.error = !fetchable ⟨q.frontend, q.pc⟩ :=
      RawFetchRequest.error_eq (by simp [rawFetchRequest, hv, hr]) hr ha
    simp [fault, rawRequestError, he, invalidFrontend, x86NoncanonicalPc, x86RangeFault,
      x86Frontend, hx, hr]

end FrontendFetchIssue

namespace RawFetchResponseStage

variable {w : RawFetchResponseStage}

theorem insnValid_eq (ha : frontendAligned w.frontend w.pc) :
    w.insnValid = (w.planValid && frontendRaw w.frontend) := by
  rw [insnValid, alignFault_eq_false ha, Bool.not_false, Bool.and_true]
  rfl

theorem fault_eq (ha : frontendAligned w.frontend w.pc) : w.fault = w.memFault := by
  rw [fault, responseAlignFault, alignFault_eq_false ha, Bool.and_false, Bool.or_false]

end RawFetchResponseStage

namespace FrontendFetchDecodePipeline

/-- A valid cycle at a location where its frontend can execute. -/
structure Live (p : FrontendFetchDecodePipeline) : Prop where
  valid : p.valid = true
  frontend : frontendValid p.frontend = true
  aligned : frontendAligned p.frontend p.pc = true

def loc (p : FrontendFetchDecodePipeline) : Loc := ⟨p.frontend, p.pc⟩

/-- The answers, as the inputs of the core have them. -/
def ports (p : FrontendFetchDecodePipeline) : CoreInputs :=
  { x86FetchValid := p.x86FetchRespValid
    x86FetchFault := p.x86FetchRespFault
    x86FetchWord := p.x86FetchRespWord
    x86FallthroughPc := p.x86FetchRespFallthroughPc
    rawMemRespValid := p.rawMemRespValid
    rawMemRespFault := p.rawMemRespFault
    rawMemRespWord := p.rawMemRespWord }

/-- The instruction has arrived: it can be fetched, and was answered without a fault. -/
def arrived (p : FrontendFetchDecodePipeline) : Bool :=
  fetchable p.loc && p.ports.fetchResp p.frontend && !p.ports.fetchRespFault p.frontend

variable {p : FrontendFetchDecodePipeline}

theorem Live.alignFault (h : p.Live) : p.decodeDispatch.rawAlignFault = false :=
  alignFault_eq_false h.aligned

/-- A pipeline that decodes is live. -/
theorem live_of_decodeValid (hv : p.valid) (hf : frontendValid p.frontend)
    (hd : p.decodeValid) : p.Live := by
  rw [decodeValid, FrontendDecodeDispatch.decodeValid, Bool.and_eq_true, Bool.not_eq_true'] at hd
  obtain ⟨hfetch, halign⟩ := hd
  have hplan : p.decodeDispatch.rawFetchPlan = ⟨true, p.frontend, p.pc, p.fetchWord⟩ :=
    congrArg (RawFetchPlan.mk · _ _ _) hfetch
  rw [rawAlignFault, hplan, alignFault, Bool.true_and] at halign
  refine ⟨hv, hf, ?_⟩
  rw [frontendAligned]
  rcases frontendValid_iff.mp hf with hf | hf | hf <;> rw [hf] at halign ⊢
  · rfl
  · simpa [frontendAarch64] using halign
  · simpa [frontendAarch64, frontendRiscv] using halign

section

variable (h : p.Live)

include h

theorem Live.x86_or_raw : (p.frontend = frontendX86 ∧ p.x86Frontend ∧ p.rawFrontend = false) ∨
      (p.frontend ≠ frontendX86 ∧ p.x86Frontend = false ∧ p.rawFrontend) := by
  rcases frontendValid_iff.mp h.frontend with hf | hf | hf
  · exact .inl ⟨hf, by simp [x86Frontend, hf], by simp [rawFrontend, hf]⟩
  · exact .inr ⟨by rw [hf]; decide, by rw [x86Frontend, hf]; rfl, by rw [rawFrontend, hf]; rfl⟩
  · exact .inr ⟨by rw [hf]; decide, by rw [x86Frontend, hf]; rfl, by rw [rawFrontend, hf]; rfl⟩

theorem x86FetchReqValid_eq : p.x86FetchReqValid = (p.x86Frontend && fetchable p.loc) :=
  FrontendFetchIssue.x86FetchReqValid_eq h.valid

theorem rawMemReqValid_eq : p.rawMemReqValid = (p.rawFrontend && fetchable p.loc) :=
  FrontendFetchIssue.rawFetchReqValid_eq h.valid h.aligned

theorem fetchIssue_fault_eq : p.fetchIssue.fault = !fetchable p.loc :=
  FrontendFetchIssue.fault_eq h.valid h.frontend h.aligned

/-- The fetch is valid exactly when the instruction has arrived. -/
theorem fetchValid_eq : p.fetchValid = p.arrived := by
  rcases h.x86_or_raw with ⟨hf, hx, hr⟩ | ⟨hf, hx, hr⟩
  · simp [fetchValid, X86FetchStage.insnValid, x86FetchStage, x86FetchReqValid_eq h, hx, hr,
      h.valid, arrived, fetchResp, fetchRespFault, ports, hf]
  · rw [fetchValid, hx, hr, insnValid_eq h.aligned]
    rw [rawFrontend] at hr
    simp [planValid, rawFetchResponseStage, rawMemReqValid_eq h, rawFrontend,
      hr, h.valid, arrived, fetchResp, fetchRespFault, ports, hf]

/-- A fetch fails where nothing can be fetched, or with a fault as its answer. -/
theorem fetchFault_eq : p.fetchFault =
      (!fetchable p.loc || (p.ports.fetchResp p.frontend && p.ports.fetchRespFault p.frontend)) := by
  rcases h.x86_or_raw with ⟨hf, hx, hr⟩ | ⟨hf, hx, hr⟩
  · cases hc : fetchable p.loc <;>
      simp [fetchFault, fetchIssue_fault_eq h, X86FetchStage.fault, X86FetchStage.memFault,
        x86FetchStage, x86FetchReqValid_eq h, hx, hr, h.valid, fetchResp,
        fetchRespFault, ports, hf, hc]
  · rw [fetchFault, fetchIssue_fault_eq h, fault_eq h.aligned]
    cases hc : fetchable p.loc <;>
      simp [memFault, rawFetchResponseStage, rawMemReqValid_eq h, hx, hr,
        h.valid, fetchResp, fetchRespFault, ports, hf, hc]

theorem decodeValid_eq : p.decodeValid = p.arrived := by
  rw [decodeValid, FrontendDecodeDispatch.decodeValid, h.alignFault, Bool.not_false, Bool.and_true]
  exact fetchValid_eq h

theorem x86_insnValid (ha : p.arrived) (hx : p.frontend = frontendX86) :
    p.x86FetchStage.insnValid := by
  have hv := fetchValid_eq h
  simpa [fetchValid, x86Frontend, rawFrontend, hx, ha] using hv

theorem raw_planValid (ha : p.arrived) (hr : p.rawFrontend) :
    p.rawFetchResponseStage.planValid := by
  have hx : p.frontend ≠ frontendX86 := fun hx => by rw [rawFrontend, hx] at hr; cases hr
  simp [arrived, fetchResp, fetchRespFault, hx, ports] at ha
  simp [planValid, rawFetchResponseStage, rawMemReqValid_eq h, h.valid, hr,
    ha.1.1, ha.1.2, ha.2]

theorem fetchWord_eq (ha : p.arrived) : p.fetchWord = p.ports.insn p.frontend := by
  rcases h.x86_or_raw with ⟨hf, -, hr⟩ | ⟨hf, -, hr⟩
  · rw [fetchWord, hr, if_neg (by decide), X86FetchStage.insn, if_pos (x86_insnValid h ha hf),
      CoreInputs.insn, if_pos hf]
    rfl
  · rw [fetchWord, hr, if_pos rfl, CoreInputs.insn, if_neg hf]
    exact insn_eq (p := p.rawFetchResponseStage.fetchPlan) (raw_planValid h ha hr) hr

theorem decode_rawFetch_eq (ha : p.arrived) : p.decodeDispatch.rawFetch = p.rawFrontend := by
  exact (congrArg (· && _) ((fetchValid_eq h).trans ha)).trans (Bool.true_and _)

/-- The decoders get the arrived instruction. -/
theorem decode_insn_eq (ha : p.arrived) : p.decodeDispatch.insn = p.ports.insn p.frontend := by
  rw [FrontendDecodeDispatch.insn, decode_rawFetch_eq h ha]
  rcases h.x86_or_raw with ⟨-, -, hr⟩ | ⟨hf, -, hr⟩
  · rw [hr, if_neg (by decide)]
    exact fetchWord_eq h ha
  · have hi : p.decodeDispatch.rawFetchPlan.insn = rawInsn p.frontend p.fetchWord :=
      insn_eq (p := p.decodeDispatch.rawFetchPlan) ((fetchValid_eq h).trans ha) hr
    rw [hr, if_pos rfl, hi, fetchWord_eq h ha, CoreInputs.insn, if_neg hf, rawInsn_rawInsn]

/-- The next pc is the answer of the x86 fetch, or behind the raw instruction. -/
theorem fetchFallthroughPc_eq (ha : p.arrived) : p.fetchFallthroughPc =
      if p.frontend = frontendX86 then p.x86FetchRespFallthroughPc
      else p.pc + rawInsnBytes p.frontend p.rawMemRespWord := by
  rw [fetchFallthroughPc, fallthroughPc, decode_rawFetch_eq h ha]
  rcases h.x86_or_raw with ⟨hf, hx, hr⟩ | ⟨hf, -, hr⟩
  · rw [hr, if_neg (by decide), if_pos hf]
    show p.fetchStageFallthroughPc = _
    rw [fetchStageFallthroughPc, if_pos hx, X86FetchStage.fallthroughPc,
      if_pos (x86_insnValid h ha hf)]
    rfl
  · have hn : p.decodeDispatch.rawFetchPlan.nextPc =
        p.pc + rawInsnBytes p.frontend p.fetchWord :=
      nextPc_eq (p := p.decodeDispatch.rawFetchPlan) ((fetchValid_eq h).trans ha) hr
    rw [hr, if_pos rfl, if_neg hf, hn, fetchWord_eq h ha, CoreInputs.insn, if_neg hf,
      rawInsnBytes_rawInsn]
    rfl

theorem ctrlDecode_eq (ha : p.arrived) :
    p.decodeDispatch.ctrlDecode = ⟨true, p.frontend, p.ports.insn p.frontend⟩ := by
  rw [ctrlDecode, decode_insn_eq h ha]
  exact congrArg (fun v => CtrlDecode.mk v p.frontend _) ((decodeValid_eq h).trans ha)

/-- The raw decoder works for the raw frontends only. -/
theorem rawInsnDecode_eq (ha : p.arrived) :
    p.decodeDispatch.rawInsnDecode = ⟨p.rawFrontend, p.frontend, p.pc, p.ports.insn p.frontend⟩ := by
  have hv : (p.decodeDispatch.decodeValid && p.decodeDispatch.rawFetch) = p.rawFrontend := by
    rw [show p.decodeDispatch.decodeValid = true from (decodeValid_eq h).trans ha, Bool.true_and,
      decode_rawFetch_eq h ha]
  rw [rawInsnDecode, decode_insn_eq h ha]
  exact congrArg (fun v => RawInsnDecode.mk v p.frontend p.pc _) hv

end

end FrontendFetchDecodePipeline

end Poly
