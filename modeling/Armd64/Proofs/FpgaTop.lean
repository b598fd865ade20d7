import Armd64.Proofs.ControlFlow
import Armd64.Rtl.FpgaTop

/-!
# The instruction bus

The top steers a response by its tag to the x86 port or to the raw port. The two raw frontends share
a port, and nothing behind it compares the tag with the frontend that is active: a response that is
tagged with one raw frontend is executed while the other one is. The requests are always those of
the active frontend.
-/

namespace Poly

open FrontendFetchDecodePipeline FrontendPredecodedRetire

/-- The response is consumed: its instruction retires or raises a control fault, or its own fault is
reported. -/
def FpgaTop.consumes (t : FpgaTop) : Bool :=
  t.statefulCore.core.retire || t.statefulCore.core.controlFault ||
    (t.statefulCore.core.fetchFault && (t.x86MemFault || t.rawMemFault))

/-- The fault of a response reaches the output: the location can be fetched, its port's response is
a fault, and there is no older one. -/
structure RespFaults (s : State) (i : Inputs) : Prop where
  valid : i.valid = true
  fetchable : fetchable s.loc = true
  resp : i.fetchResp s.loc.frontend = true
  fault : i.fetchRespFault s.loc.frontend = true
  noOlder : i.olderFaultI = false

def RespTaken (s : State) (i : Inputs) : Prop := Stepping s i ∨ RespFaults s i

def mistagged (s : State) (t : TopInputs) : Bool :=
  frontendRaw s.loc.frontend && frontendRaw t.instrRespFrontend &&
    t.instrRespFrontend != s.loc.frontend

variable {s : State} {i : Inputs} {t : TopInputs}

theorem retire_or_controlFault_iff (h : Inv s) :
    ((cycle s i).core.retire || (cycle s i).core.controlFault) ↔ Stepping s i := by
  rw [← steps_iff h, ← stepValid_iff]
  show ((cycle s i).core.gate.retire || (cycle s i).core.gate.controlFault) = true ↔ _
  rw [retire, controlFault]
  cases (cycle s i).core.gate.stepValid <;> simp

theorem memFault_eq (h : Inv s) (hv : i.valid) :
    ((cycle s i).core.pipeline.x86MemFault || (cycle s i).core.pipeline.rawMemFault) =
      (fetchable s.loc && i.fetchResp s.loc.frontend && i.fetchRespFault s.loc.frontend) := by
  have hl := pipeline_live (i := i) h hv
  rw [x86MemFault, rawMemFault,
    X86FetchStage.memFault, RawFetchResponseStage.memFault,
    x86FetchStage, rawFetchResponseStage,
    x86FetchReqValid_eq hl,
    rawMemReqValid_eq hl, hl.valid, CoreInputs.fetchResp,
    CoreInputs.fetchRespFault]
  rcases hl.x86_or_raw with ⟨hf, hx, hr⟩ | ⟨hf, hx, hr⟩
  · rw [hx, hr, if_pos (show s.loc.frontend = frontendX86 from hf),
      if_pos (show s.loc.frontend = frontendX86 from hf)]
    simp only [Bool.true_and, Bool.false_and, Bool.and_false, Bool.or_false]
    rfl
  · rw [hx, hr, if_neg (show s.loc.frontend ≠ frontendX86 from hf),
      if_neg (show s.loc.frontend ≠ frontendX86 from hf)]
    rfl

theorem respFault_iff (h : Inv s) :
    ((cycle s i).core.fetchFault &&
        ((cycle s i).core.pipeline.x86MemFault || (cycle s i).core.pipeline.rawMemFault)) ↔
      RespFaults s i := by
  constructor
  · intro hf
    rw [Bool.and_eq_true] at hf
    obtain ⟨hgate, hmem⟩ := hf
    rw [FrontendCore.fetchFault, FrontendPredecodedRetire.fetchFault, Bool.and_eq_true,
      Bool.and_eq_true, Bool.not_eq_true'] at hgate
    have hv : i.valid := hgate.1.1
    rw [memFault_eq h hv, Bool.and_eq_true, Bool.and_eq_true] at hmem
    exact ⟨hv, hmem.1.1, hmem.1.2, hmem.2, hgate.1.2⟩
  · rintro ⟨hv, hfe, hresp, hfault, hold⟩
    have hmem := memFault_eq (i := i) h hv
    rw [hfe, hresp, hfault] at hmem
    have hpf : (cycle s i).core.pipeline.fetchFault := by
      rw [fetchFault_eq (pipeline_live h hv)]
      show (!fetchable s.loc || (i.fetchResp s.loc.frontend && _)) = true
      rw [hresp, Bool.true_and]
      exact (congrArg (_ || ·) hfault).trans (Bool.or_true _)
    have hgate : (cycle s i).core.fetchFault := by
      show (i.valid && !i.olderFaultI && (cycle s i).core.pipeline.fetchFault) = true
      rw [hv, hold, hpf]
      rfl
    rw [hgate, hmem]
    rfl

theorem consumes_iff (h : Inv s) :
    (topCycle s t).consumes ↔ RespTaken s (topCycle s t).coreInputs := by
  rw [FpgaTop.consumes, Bool.or_eq_true, RespTaken]
  exact or_congr (retire_or_controlFault_iff h) (respFault_iff h)

theorem RespTaken.resp (h : RespTaken s i) : i.fetchResp s.loc.frontend := by
  rcases h with hs | hf
  · have ha := hs.ready.arrived
    rw [arrived, Bool.and_eq_true, Bool.and_eq_true] at ha
    exact ha.1.2
  · exact hf.resp

theorem tag_of_resp (h : Inv s)
    (hr : (topCycle s t).coreInputs.fetchResp s.loc.frontend) :
    t.instrRespFrontend = s.loc.frontend ∨ mistagged s t := by
  rw [CoreInputs.fetchResp] at hr
  by_cases hx : s.loc.frontend = frontendX86
  · rw [if_pos hx] at hr
    have hresp : (t.instrRespValid && t.instrRespFrontend == frontendX86) := hr
    rw [Bool.and_eq_true, beq_iff_eq] at hresp
    exact .inl (hresp.2.trans hx.symm)
  · rw [if_neg hx] at hr
    have hresp : (t.instrRespValid && frontendRaw t.instrRespFrontend) := hr
    rw [Bool.and_eq_true] at hresp
    have hraw : frontendRaw s.loc.frontend := by
      rw [frontendRaw_iff]
      exact (frontendValid_iff.mp h.frontend).resolve_left hx
    by_cases htag : t.instrRespFrontend = s.loc.frontend
    · exact .inl htag
    · exact .inr (by simp [mistagged, hraw, hresp.2, htag])

theorem not_mistagged_of_tag (h : t.instrRespFrontend = s.loc.frontend) :
    mistagged s t = false := by
  simp [mistagged, h]

/-- A consumed response has the tag of the active frontend unless the raw port takes a mistagged
one. -/
theorem consumes_tagged_iff (h : Inv s) :
    ((topCycle s t).consumes → t.instrRespFrontend = s.loc.frontend) ↔
      ¬(mistagged s t ∧ RespTaken s (topCycle s t).coreInputs) := by
  rw [consumes_iff h]
  constructor
  · rintro htag ⟨hm, ht⟩
    rw [not_mistagged_of_tag (htag ht)] at hm
    exact Bool.false_ne_true hm
  · intro hno ht
    exact (tag_of_resp h ht.resp).resolve_right fun hm => hno ⟨hm, ht⟩

/-- In every reachable state a consumed response has the tag of the active frontend, unless the raw
port takes one of the other raw frontend. So without such responses a run only executes those of the
active frontend. -/
theorem fetch_isolated_iff (s : State) (h : topMachine.Reach s) :
    (∀ t, ((topCycle s t).consumes = true → t.instrRespFrontend = s.loc.frontend) ↔
      ¬(mistagged s t = true ∧ RespTaken s (topCycle s t).coreInputs)) ∧
    ∀ ts, (∀ c ∈ topMachine.cycles s ts, mistagged c.1 c.2 = false) →
      ∀ c ∈ topMachine.cycles s ts, (topCycle c.1 c.2).consumes = true →
        c.2.instrRespFrontend = c.1.loc.frontend := by
  refine ⟨fun t => consumes_tagged_iff (inv_reach h.of_comap), fun ts hm c hc => ?_⟩
  have hinv := inv_reach (h.of_mem_cycles hc).of_comap
  refine (consumes_tagged_iff hinv).mpr fun hbad => ?_
  rw [hm c hc] at hbad
  exact Bool.false_ne_true hbad.1

def riscvResponse (tag : BitVec 2) : TopInputs :=
  { pass := { valid := true }
    instrRespValid := true
    instrRespFrontend := tag
    instrRespWord := 0x00000013#32 }

theorem topReach_reset : topMachine.Reach State.reset := .init State.reset_isReset

theorem fetch_isolated_iff_riscv :
    let s := topMachine.step State.reset { pass := riscvInit }
    (topCycle s (riscvResponse frontendRiscv)).consumes = true ∧
      (riscvResponse frontendRiscv).instrRespFrontend = s.loc.frontend :=
  have hc : (topCycle (topMachine.step State.reset { pass := riscvInit })
    (riscvResponse frontendRiscv)).consumes = true := by decide
  ⟨hc, ((fetch_isolated_iff _ (topReach_reset.next _)).1 _).mpr
    (fun hbad => absurd hbad.1 (by decide)) hc⟩

/-- While RISC-V is active, a late AArch64 response retires as a RISC-V instruction: a `movz` has a
compressed length there, and the pc moves by two. -/
theorem mistagged_response_retires :
    let s := topMachine.step State.reset { pass := riscvInit }
    let t : TopInputs := { riscvResponse frontendAarch64 with instrRespWord := 0x52800000#32 }
    topMachine.Reach s ∧ s.loc = ⟨frontendRiscv, 0x4000⟩ ∧ t.instrRespFrontend = frontendAarch64 ∧
      (topCycle s t).statefulCore.core.retire = true ∧ (topCycle s t).consumes = true ∧
      (topMachine.step s t).loc = ⟨frontendRiscv, 0x4002⟩ :=
  ⟨topReach_reset.next _, by decide⟩

/-! ## Requests -/

def fetchWindow (f : BitVec 2) : Nat := if f = frontendX86 then 16 else 4

/-- All bytes of a fetch at this location have canonical addresses, and the last does not wrap. -/
def Addressable (l : Loc) : Prop :=
  ∀ k < fetchWindow l.frontend, l.pc.toNat + k < 2 ^ 64 ∧ canonical64 (l.pc + BitVec.ofNat 64 k)

theorem canonical64_iff {x : BitVec 64} :
    canonical64 x ↔ x.toNat < 2 ^ 47 ∨ 2 ^ 64 - 2 ^ 47 ≤ x.toNat := by
  have hx := x.isLt
  rw [canonical64, beq_iff_eq, ← BitVec.toNat_inj, BitVec.extractLsb'_toNat,
    Nat.shiftRight_eq_div_pow, BitVec.getLsbD, Nat.testBit_eq_decide_div_mod_eq]
  by_cases hbit : x.toNat / 2 ^ 47 % 2 = 1
  · rw [decide_eq_true hbit, show (BitVec.fill 16 true).toNat = 2 ^ 16 - 1 from rfl]
    omega
  · rw [decide_eq_false hbit, show (BitVec.fill 16 false).toNat = 0 from rfl]
    omega

theorem fetchable_iff {l : Loc} : fetchable l ↔ Addressable l := by
  unfold fetchable Addressable fetchWindow
  have hpc := l.pc.isLt
  have hult : ∀ x : BitVec 64, (!x.ult l.pc) = true ↔ l.pc.toNat ≤ x.toNat := by
    simp [BitVec.ult]
  by_cases hx : l.frontend = frontendX86
  all_goals
    simp only [hx, if_true, if_false, Bool.and_eq_true, hult, canonical64_iff, BitVec.toNat_add,
      BitVec.toNat_ofNat]
    constructor
    · intro h k hk
      omega
    · intro h
      have h0 := h 0 (by decide)
      have hlast := h _ (Nat.lt_succ_self _)
      omega

theorem no_request_of_invalid {q : FrontendFetchIssue} (hv : q.valid = false) :
    q.x86FetchReqValid = false ∧ q.rawFetchReqValid = false := by
  simp [FrontendFetchIssue.x86FetchReqValid, FrontendFetchIssue.rawFetchReqValid,
    RawFetchRequest.requestValid, FrontendFetchIssue.rawFetchRequest, hv]

theorem reqValid_eq (h : Inv s) (t : TopInputs) :
    let c := topCycle s t
    let v := t.pass.valid && fetchable s.loc
    c.x86FetchReqValid = (s.loc.frontend == frontendX86 && v) ∧
      c.rawMemReqValid = (frontendRaw s.loc.frontend && v) := by
  cases hv : t.pass.valid with
  | false =>
    simp only [Bool.false_and, Bool.and_false]
    exact no_request_of_invalid (q := (topCycle s t).statefulCore.core.pipeline.fetchIssue) hv
  | true =>
    have hl := pipeline_live (i := (topCycle s t).coreInputs) h hv
    exact ⟨x86FetchReqValid_eq hl, rawMemReqValid_eq hl⟩

/-- In every reachable state and cycle the bus carries at most one request. There is one exactly if
the cycle is valid and the bytes of a fetch can be addressed. It is for the active frontend and the
pc, and no response is consumed without it. -/
theorem instruction_bus (s : State) (h : topMachine.Reach s) (t : TopInputs) :
    let c := topCycle s t
    c.instrReqConflict = false ∧
      (c.instrReqValid = true ↔ t.pass.valid = true ∧ Addressable s.loc) ∧
      (c.instrReqValid = true → c.instrReqFrontend = s.loc.frontend ∧ c.instrReqAddr = s.loc.pc ∧
        c.instrReqBytes.toNat = fetchWindow s.loc.frontend) ∧
      (c.consumes = true → c.instrReqValid = true) := by
  intro c
  have hinv := inv_reach h.of_comap
  have hfrontend := frontendValid_iff.mp hinv.frontend
  obtain ⟨hx86, hraw⟩ := reqValid_eq hinv t
  have hreq : c.instrReqConflict = false ∧
      c.instrReqValid = (t.pass.valid && fetchable s.loc) := by
    rw [FpgaTop.instrReqConflict, FpgaTop.instrReqValid, hx86, hraw]
    rcases hfrontend with hf | hf | hf <;> rw [hf] <;>
      cases t.pass.valid && fetchable s.loc <;> decide
  refine ⟨hreq.1, ?_, fun hv => ?_, fun hc => ?_⟩
  · rw [hreq.2, Bool.and_eq_true, fetchable_iff]
  · rw [← hreq.2, hv, Bool.and_true] at hx86
    have hissue : c.statefulCore.core.pipeline.fetchIssue =
      ⟨t.pass.valid, s.loc.frontend, s.loc.pc⟩ := rfl
    rw [FpgaTop.instrReqFrontend, FpgaTop.instrReqAddr, FpgaTop.instrReqBytes, hx86,
      x86FetchReqBytes, rawMemReqBytes, hissue, fetchWindow]
    refine ⟨?_, ite_self s.loc.pc, ?_⟩
    · show (if _ then _ else s.loc.frontend) = _
      rcases hfrontend with hf | hf | hf <;> rw [hf] <;> rfl
    · rcases hfrontend with hf | hf | hf <;> rw [hf] <;> rfl
  · rw [hreq.2, Bool.and_eq_true]
    rcases (consumes_iff hinv).mp hc with hs | hf
    · have ha := hs.ready.arrived
      rw [arrived, Bool.and_eq_true, Bool.and_eq_true] at ha
      exact ⟨hs.ready.valid, ha.1.1⟩
    · exact ⟨hf.valid, hf.fetchable⟩

theorem instruction_bus_riscv :
    let s := topMachine.step State.reset { pass := riscvInit }
    (topCycle s (riscvResponse frontendRiscv)).instrReqValid = true ∧ Addressable s.loc :=
  have hv : (topCycle (topMachine.step State.reset { pass := riscvInit })
    (riscvResponse frontendRiscv)).instrReqValid = true := by decide
  ⟨hv, ((instruction_bus _ (topReach_reset.next _) _).2.1.mp hv).2⟩

end Poly
