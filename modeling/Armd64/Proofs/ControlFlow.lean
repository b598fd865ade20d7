import Armd64.Isa.ControlFlow
import Armd64.Proofs.Redirect

/-!
# Control-flow classification

The raw decoder marks branches and traps by comparing masked words and fields. Against the encodings
of the two instruction sets it misses the compare, test, hinted and authenticated branches and the
exception returns of A64 and the compressed `C.JALR` of RISC-V, and it takes `C.ADDIW` for the
`C.JAL` of RV32.
-/

namespace Poly

open Isa Hw Rv64Flow FrontendCore
open RawInsnDecode

/-! ## The instruction sets of the raw frontends -/

inductive Flow
  | a64 (c : A64Flow)
  | rv64 (c : Rv64Flow)

namespace Flow

def all : List Flow := A64Flow.all.map a64 ++ Rv64Flow.all.map rv64

theorem mem_all (c : Flow) : c ∈ all := by
  cases c with
  | a64 c => exact List.mem_append_left _ (List.mem_map_of_mem c.mem_all)
  | rv64 c => exact List.mem_append_right _ (List.mem_map_of_mem c.mem_all)

def frontend : Flow → BitVec 2
  | a64 _ => frontendAarch64
  | rv64 _ => frontendRiscv

theorem aarch64_ne_riscv : frontendAarch64 ≠ frontendRiscv := by decide

def fits : Flow → BitVec 32 → Bool
  | a64 c => c.fits
  | rv64 c => c.fits

def direct : Flow → Bool
  | a64 c => c.direct
  | rv64 c => c.direct

def exceptional : Flow → Bool
  | a64 c => c.exceptional
  | rv64 c => c.exceptional

/-- The decoder marks the instruction neither as a branch nor as a trap. -/
def missed : Flow → Bool
  | a64 .bcCond | a64 .cbz | a64 .cbnz | a64 .tbz | a64 .tbnz | a64 .eret | a64 .drps | a64 .braz
  | a64 .blraz | a64 .reta | a64 .ereta | a64 .bra | a64 .blra | rv64 .cJalr => true
  | _ => false

theorem not_exceptional_of_missed {c : Flow} (h : c.missed) : c.exceptional = false := by
  cases c with
  | a64 c => cases c <;> first | rfl | exact absurd h (by decide)
  | rv64 c => cases c <;> first | rfl | exact absurd h (by decide)

end Flow

/-- The word is an instruction of the given kind in the frontend `f`. -/
def flowOf (kind : Flow → Bool) (f : BitVec 2) (w : BitVec 32) : Bool :=
  Flow.all.any fun c => kind c && c.frontend == f && c.fits w

def controlFlow : BitVec 2 → BitVec 32 → Bool := flowOf fun _ => true

def directJump : BitVec 2 → BitVec 32 → Bool := flowOf Flow.direct

def generatesException : BitVec 2 → BitVec 32 → Bool := flowOf Flow.exceptional

def missedFlow : BitVec 2 → BitVec 32 → Bool := flowOf Flow.missed

def spuriousJump (f : BitVec 2) (w : BitVec 32) : Bool :=
  f == frontendRiscv && Rv64Flow.cAddiw w

variable {kind : Flow → Bool} {f : BitVec 2} {w : BitVec 32}

theorem flowOf_iff :
    flowOf kind f w ↔ ∃ c, kind c ∧ c.frontend = f ∧ c.fits w := by
  simp [flowOf, List.any_eq_true, Flow.mem_all, and_assoc]

theorem controlFlow_of_flow (h : flowOf kind f w) : controlFlow f w := by
  obtain ⟨c, -, hf, hc⟩ := flowOf_iff.mp h
  exact flowOf_iff.mpr ⟨c, rfl, hf, hc⟩

/-! ## A64 -/

namespace RawInsnDecode

variable {d : RawInsnDecode}

def a64BranchMarks : List (Pattern 32) :=
  [⟨0x7c000000, 0x14000000⟩, ⟨0xff000010, 0x54000000⟩, ⟨0xfffffc1f, 0xd61f0000⟩,
    ⟨0xfc000000, 0x94000000⟩, ⟨0xfffffc1f, 0xd63f0000⟩, ⟨0xfffffc1f, 0xd65f0000⟩]

def a64TrapMarks : List (Pattern 32) := [⟨0xff000000, 0xd4000000⟩]

section

variable (hv : d.valid = true) (hf : d.frontend = frontendAarch64)

include hv hf

theorem valid_of_aarch64 : d.aarch64Valid ∧ d.riscvValid = false := by
  simp [aarch64Valid, riscvValid, hv, hf, frontendAarch64, frontendRiscv]

variable {c : A64Flow}

theorem a64_branch (hc : c.fits d.insn) :
    d.branch = (!(Flow.a64 c).missed && !c.exceptional) := by
  obtain ⟨ha, hr⟩ := valid_of_aarch64 hv hf
  have hmarks : d.branch = a64BranchMarks.any (·.fits d.insn) := by
    simp [branch, ha, hr, a64BranchMarks, Pattern.fits, a64B, a64CondB, a64Br, a64Bl, a64Blr,
      a64Ret, Bool.or_assoc]
  rw [hmarks]
  exact any_fits_of_settles (by cases c <;> rfl) hc

theorem a64_trap (hc : c.fits d.insn) : d.trap = c.exceptional := by
  obtain ⟨ha, hr⟩ := valid_of_aarch64 hv hf
  have hmarks : d.trap = a64TrapMarks.any (·.fits d.insn) := by
    simp [trap, ha, hr, a64TrapMarks, Pattern.fits, a64Trap]
  rw [hmarks]
  exact any_fits_of_settles (by cases c <;> rfl) hc

theorem a64_direct (ht : d.branchTargetValid) : ∃ c : A64Flow, c.direct ∧
    c.fits d.insn := by
  obtain ⟨ha, hr⟩ := valid_of_aarch64 hv hf
  simp only [branchTargetValid, ha, hr, Bool.true_and, Bool.false_and, Bool.or_false,
    Bool.or_eq_true] at ht
  rcases ht with hb | hbl
  · -- The mask leaves bit 31 open, which tells `BL` from `B`.
    have hfits : (⟨0x7c000000, 0x14000000⟩ : Pattern 32).fits d.insn := hb
    have hbit := Pattern.fits_withBit 31 hfits
    cases h31 : d.insn.getLsbD 31 <;> rw [h31] at hbit
    · exact ⟨.b, rfl, hbit⟩
    · exact ⟨.bl, rfl, hbit⟩
  · exact ⟨.bl, rfl, hbl⟩

end

/-! ## RV64GC -/

section

variable (hv : d.valid = true) (hf : d.frontend = frontendRiscv)

theorem rv_fields (d : RawInsnDecode) :
    d.riscv32 = (quadrant d.insn == 3#2) ∧ d.rvOpcode = opcode d.insn ∧
      d.rv16Quad = quadrant d.insn ∧ d.rv16Funct3 = compressedFunct3 d.insn ∧
      d.rv16.extractLsb' 12 4 = compressedFunct4 d.insn ∧
      d.rv16.extractLsb' 2 5 = compressedRs2 d.insn ∧
      (d.rv16 == 0x9002#16) = cEbreak.fits d.insn :=
  ⟨rfl, rfl, BitVec.extractLsb'_extractLsb'_of_le (by decide),
    BitVec.extractLsb'_extractLsb'_of_le (by decide),
    BitVec.extractLsb'_extractLsb'_of_le (by decide),
    BitVec.extractLsb'_extractLsb'_of_le (by decide), rfl⟩

include hv hf

theorem valid_of_riscv : d.aarch64Valid = false ∧ d.riscvValid := by
  simp [aarch64Valid, riscvValid, hv, hf, frontendAarch64, frontendRiscv]

theorem rv_marks {c : Rv64Flow} (hc : c.fits d.insn) :
    d.branch = (!(Flow.rv64 c).missed && !c.exceptional) ∧ d.trap = c.exceptional := by
  obtain ⟨ha, hr⟩ := valid_of_riscv hv hf
  obtain ⟨h32, hop, hquad, h3, h4, hrs2, heb⟩ := rv_fields d
  simp only [branch, trap, ha, hr, rvBranch, rvTrap, h32, hop, hquad, h3, h4, hrs2, heb,
    Bool.false_and, Bool.false_or, Bool.true_and]
  cases c with
  | branch | jal | jalr =>
    -- The opcode says that the instruction has 32 bits.
    simp only [fits, Bool.and_eq_true, beq_iff_eq] at hc
    simp only [quadrant_eq_opcode, hc]
    exact ⟨rfl, rfl⟩
  | ecall | ebreak =>
    rw [beq_iff_eq.mp hc]
    decide
  | cJ | cBeqz | cBnez =>
    simp only [fits, Bool.and_eq_true, beq_iff_eq] at hc
    have hno : cEbreak.fits d.insn = false := by
      rw [← Bool.not_eq_true]
      intro he
      have hquad := (fields_of_cEbreak he).1
      rw [hc.1] at hquad
      exact absurd hquad (by decide)
    simp only [hc, hno]
    exact ⟨rfl, rfl⟩
  | cJr | cJalr =>
    simp only [fits, Bool.and_eq_true, beq_iff_eq, bne_iff_ne] at hc
    have hno : cEbreak.fits d.insn = false := by
      rw [← Bool.not_eq_true]
      exact fun he => hc.1.2 (fields_of_cEbreak he).2.2.1
    simp only [compressedFunct3_eq_funct4, hc, hno]
    exact ⟨rfl, rfl⟩
  | cEbreak =>
    obtain ⟨hq, hf4, hrs1, hrs2'⟩ := fields_of_cEbreak hc
    simp only [compressedFunct3_eq_funct4, hq, hf4, hrs2', hc]
    exact ⟨rfl, rfl⟩

theorem rv_targetValid :
    d.branchTargetValid = (jal.fits d.insn || cJ.fits d.insn ||
      cAddiw d.insn) := by
  obtain ⟨ha, hr⟩ := valid_of_riscv hv hf
  obtain ⟨h32, hop, hquad, h3, -⟩ := rv_fields d
  simp only [branchTargetValid, ha, hr, rv32UncondDirect, rv16UncondDirect, h32, hop, hquad, h3,
    fits, cAddiw, Bool.false_and, Bool.false_or, Bool.true_and]
  cases hj : opcode d.insn == 0x6f#7 with
  | true => simp [quadrant_eq_opcode, beq_iff_eq.mp hj]
  | false =>
    cases hq : quadrant d.insn == 1#2 with
    | true => simp [beq_iff_eq.mp hq, Bool.or_comm]
    | false => simp

end

/-! ## Classification -/

section

variable (hv : d.valid = true)

include hv

theorem marks {c : Flow} (hf : c.frontend = d.frontend) (hc : c.fits d.insn) :
    d.branch = (!c.missed && !c.exceptional) ∧ d.trap = c.exceptional := by
  cases c with
  | a64 c => exact ⟨a64_branch hv hf.symm hc, a64_trap hv hf.symm hc⟩
  | rv64 c => exact rv_marks hv hf.symm hc

theorem marks_of_missed (h : missedFlow d.frontend d.insn) :
    d.branch = false ∧ d.trap = false := by
  obtain ⟨c, hk, hf, hc⟩ := flowOf_iff.mp h
  obtain ⟨hb, ht⟩ := marks hv hf hc
  rw [hk] at hb
  exact ⟨hb, ht.trans (Flow.not_exceptional_of_missed hk)⟩

theorem marks_of_exception (h : generatesException d.frontend d.insn) :
    d.branch = false ∧ d.trap := by
  obtain ⟨c, hk, hf, hc⟩ := flowOf_iff.mp h
  obtain ⟨hb, ht⟩ := marks hv hf hc
  rw [hk, Bool.not_true, Bool.and_false] at hb
  exact ⟨hb, ht.trans hk⟩

theorem branch_of_flow (h : controlFlow d.frontend d.insn)
    (hm : missedFlow d.frontend d.insn = false)
    (he : generatesException d.frontend d.insn = false) : d.branch := by
  obtain ⟨c, -, hf, hc⟩ := flowOf_iff.mp h
  have hcm : c.missed = false := by
    rw [← Bool.not_eq_true] at hm ⊢
    exact fun hk => hm (flowOf_iff.mpr ⟨c, hk, hf, hc⟩)
  have hce : c.exceptional = false := by
    rw [← Bool.not_eq_true] at he ⊢
    exact fun hk => he (flowOf_iff.mpr ⟨c, hk, hf, hc⟩)
  rw [(marks hv hf hc).1, hcm, hce]
  rfl

variable (hraw : frontendRaw d.frontend = true)

include hraw

theorem direct_of_target (h : d.branchTargetValid) :
    directJump d.frontend d.insn ∨ spuriousJump d.frontend d.insn := by
  rcases frontendRaw_iff.mp hraw with hf | hf
  · obtain ⟨c, hk, hc⟩ := a64_direct hv hf h
    exact .inl (flowOf_iff.mpr ⟨.a64 c, hk, hf.symm, hc⟩)
  · rw [rv_targetValid hv hf, Bool.or_eq_true, Bool.or_eq_true] at h
    rcases h with (hj | hj) | hj
    · exact .inl (flowOf_iff.mpr ⟨.rv64 .jal, rfl, hf.symm, hj⟩)
    · exact .inl (flowOf_iff.mpr ⟨.rv64 .cJ, rfl, hf.symm, hj⟩)
    · exact .inr (by rw [spuriousJump, hf, hj]; rfl)

omit hraw in
theorem target_of_spurious (h : spuriousJump d.frontend d.insn) :
    d.branchTargetValid ∧ directJump d.frontend d.insn = false := by
  rw [spuriousJump, Bool.and_eq_true, beq_iff_eq] at h
  obtain ⟨hf, hc⟩ := h
  refine ⟨by rw [rv_targetValid hv hf, hc, Bool.or_true], ?_⟩
  rw [← Bool.not_eq_true]
  intro hd
  obtain ⟨c, hk, hcf, hfit⟩ := flowOf_iff.mp hd
  rw [cAddiw, Bool.and_eq_true, beq_iff_eq, beq_iff_eq] at hc
  obtain ⟨hq, h3⟩ := hc
  cases c with
  | a64 c => exact absurd (hcf.trans hf) Flow.aarch64_ne_riscv
  | rv64 c =>
    cases c with
    | jal =>
      rw [quadrant_eq_opcode, beq_iff_eq.mp hfit] at hq
      exact absurd hq (by decide)
    | cJ =>
      rw [Flow.fits, fits, hq, h3] at hfit
      exact absurd hfit (by decide)
    | _ => exact absurd hk (by decide)

end

structure Classified (d : RawInsnDecode) : Prop where
  complete : controlFlow d.frontend d.insn = true → d.branch = true ∨ d.trap = true
  exact : d.branchTargetValid = true → directJump d.frontend d.insn = true

theorem classified_iff (hv : d.valid) (hraw : frontendRaw d.frontend) :
    d.Classified ↔
      missedFlow d.frontend d.insn = false ∧ spuriousJump d.frontend d.insn = false := by
  constructor
  · intro h
    refine ⟨?_, ?_⟩
    · rw [← Bool.not_eq_true]
      intro hm
      have hmarks := marks_of_missed hv hm
      rcases h.complete (controlFlow_of_flow hm) with hb | ht
      · exact Bool.false_ne_true (hmarks.1.symm.trans hb)
      · exact Bool.false_ne_true (hmarks.2.symm.trans ht)
    · rw [← Bool.not_eq_true]
      intro hs
      obtain ⟨ht, hd⟩ := target_of_spurious hv hs
      exact Bool.false_ne_true (hd.symm.trans (h.exact ht))
  · rintro ⟨hm, hs⟩
    refine ⟨fun hc => ?_, fun ht => ?_⟩
    · cases he : generatesException d.frontend d.insn with
      | true => exact .inr (marks_of_exception hv he).2
      | false => exact .inl (branch_of_flow hv hc hm he)
    · exact (direct_of_target hv hraw ht).resolve_right fun hsp =>
        Bool.false_ne_true (hs.symm.trans hsp)

end RawInsnDecode

/-! ## Control words -/

theorem CtrlDecode.ctrl_of_raw {d : CtrlDecode} (h : d.polyCtrl)
    (hraw : frontendRaw d.frontend) :
    (d.frontend = frontendAarch64 ∧ d.insn &&& 0xfffff01f#32 = 0xd503201f#32) ∨
      (d.frontend = frontendRiscv ∧ d.insn &&& 0x01ffffff#32 = 0x0000700b#32) := by
  simp only [polyCtrl, isX86Ctrl, isAarch64Ctrl, isRiscvCtrl, Bool.and_eq_true, Bool.or_eq_true,
    beq_iff_eq] at h
  rcases h.2 with (hx | ha) | hr
  · rw [hx.1.1.1.1] at hraw
    exact absurd hraw (by decide)
  · exact .inl ha
  · exact .inr hr

theorem flow_of_polyCtrl {d : CtrlDecode} (h : d.polyCtrl)
    (hraw : frontendRaw d.frontend) :
    controlFlow d.frontend d.insn = false ∧ spuriousJump d.frontend d.insn = false := by
  rcases CtrlDecode.ctrl_of_raw h hraw with ⟨hf, hw⟩ | ⟨hf, hw⟩
  · refine ⟨?_, by rw [spuriousJump, hf]; rfl⟩
    rw [← Bool.not_eq_true]
    intro hc
    obtain ⟨c, -, hcf, hfit⟩ := flowOf_iff.mp hc
    cases c with
    | rv64 c => exact absurd (hcf.trans hf) Flow.aarch64_ne_riscv.symm
    | a64 c =>
      have hctrl : [(⟨0xfffff01f, 0xd503201f⟩ : Pattern 32)].any (·.fits d.insn) = false :=
        any_fits_of_settles (by cases c <;> rfl) hfit
      rw [List.any_cons, Pattern.fits_iff.mpr hw] at hctrl
      exact Bool.false_ne_true hctrl.symm
  · -- The opcode of a RISC-V control word is the custom one.
    have hop : opcode d.insn = 0x0b#7 :=
      Pattern.extract_of_fits (p := ⟨0x01ffffff, 0x0000700b⟩) (by decide) (Pattern.fits_iff.mpr hw)
    have hquad : quadrant d.insn = 3#2 := by
      rw [quadrant_eq_opcode, hop]
      decide
    refine ⟨?_, by rw [spuriousJump, cAddiw, hquad]; simp⟩
    rw [← Bool.not_eq_true]
    intro hc
    obtain ⟨c, -, hcf, hfit⟩ := flowOf_iff.mp hc
    cases c with
    | a64 c => exact absurd (hcf.trans hf) Flow.aarch64_ne_riscv
    | rv64 c =>
      have hflow := opcode_of_fits hfit
      rw [hop, hquad] at hflow
      revert hflow
      decide

/-! ## Retirement -/

section

variable {s : State} {i : Inputs}

structure RetiresByKind (s : State) (i : Inputs) : Prop where
  /-- A control-flow instruction has a static target, is resolved by the execution unit or returns
  to the cookie. -/
  noFallthrough : controlFlow s.loc.frontend (insn s i) = true →
    (cycle s i).core.rawBranch = true ∧
      ((cycle s i).core.rawBranchTargetValid = true ∨ i.rawBranchResolved = true ∨
        cookieReturn s i = true)
  /-- Only a direct jump, or a branch that the execution unit resolves as taken, retires as a jump. -/
  noJump : (cycle s i).core.rawBranchTargetValidO = true →
    directJump s.loc.frontend (insn s i) = true ∨
      (cycle s i).core.rawResolvedBranchTargetValid = true

section

variable (h : Inv s)

include h

theorem no_branchWaits_of_retire (hr : (cycle s i).core.retire) : branchWaits s i = false := by
  rw [retire_eq h, retireReady] at hr
  simp only [Bool.and_eq_true, Bool.not_eq_true'] at hr
  exact hr.1.1.2

theorem rawBranch_of_retire (hr : (cycle s i).core.retire) :
    (cycle s i).core.rawBranch = (rawWord s i).branch ∧
      (cycle s i).core.rawBranchTargetValid = (rawWord s i).branchTargetValid := by
  have ht := retired h hr
  have hb := (sidebands h ht.valid).branch
  have htv := (sidebands h ht.valid).target
  rw [ht.arrived, Bool.true_and] at hb htv
  exact ⟨hb, htv⟩

theorem stateCommitLoc_of_raw (hr : (cycle s i).core.retire)
    (hp : (ctrlWord s i).polyCtrl = false) : (cycle s i).stateCommitLoc =
      ⟨s.loc.frontend, if (cycle s i).core.rawBranchTargetValidO then
        (cycle s i).core.rawBranchTargetO else fallthrough s i⟩ := by
  rw [StatefulCore.stateCommitLoc, commitLoc_of_stay h hr (handoff_of_raw h hr hp).1]
  cases (cycle s i).core.rawBranchTargetValidO <;> rfl

theorem not_retiresByKind_of_unmarked (hr : (cycle s i).core.retire)
    (hc : controlFlow s.loc.frontend (insn s i)) (hb : (rawWord s i).branch = false) :
    ¬RetiresByKind s i := fun hk =>
  Bool.false_ne_true
    (((rawBranch_of_retire h hr).1.trans hb).symm.trans (hk.noFallthrough hc).1)

theorem not_retiresByKind_of_spurious (hraw : frontendRaw s.loc.frontend)
    (hr : (cycle s i).core.retire)
    (hs : spuriousJump s.loc.frontend (insn s i)) : ¬RetiresByKind s i := by
  intro hk
  have htarget := (rawBranch_of_retire h hr).2
  have hvalid : (rawWord s i).valid := hraw
  obtain ⟨htv, hd⟩ := target_of_spurious hvalid hs
  have hp : (ctrlWord s i).polyCtrl = false := by
    rw [← Bool.not_eq_true]
    exact fun hp => Bool.false_ne_true ((flow_of_polyCtrl hp hraw).2.symm.trans hs)
  have hjump : (cycle s i).core.rawBranchTargetValidO := by
    rw [rawBranchTargetValidO, hr, rawCommitBranchTargetValid,
      htarget, htv, polyCtrl_eq h hr, hp]
    rfl
  rcases hk.noJump hjump with hdirect | hresolved
  · exact Bool.false_ne_true (hd.symm.trans hdirect)
  · rw [rawResolvedBranchTargetValid, rawUnresolvedBranch, htarget,
      htv] at hresolved
    simp at hresolved

theorem retiresByKind_iff (hraw : frontendRaw s.loc.frontend) (hr : (cycle s i).core.retire) :
    RetiresByKind s i ↔
      missedFlow s.loc.frontend (insn s i) = false ∧
        spuriousJump s.loc.frontend (insn s i) = false ∧
        generatesException s.loc.frontend (insn s i) = false := by
  obtain ⟨hbranch, htarget⟩ := rawBranch_of_retire h hr
  have hvalid : (rawWord s i).valid := hraw
  constructor
  · intro hk
    refine ⟨?_, ?_, ?_⟩ <;> rw [← Bool.not_eq_true]
    · exact fun hm => not_retiresByKind_of_unmarked h hr (controlFlow_of_flow hm)
        (marks_of_missed hvalid hm).1 hk
    · exact fun hs => not_retiresByKind_of_spurious h hraw hr hs hk
    · exact fun he => not_retiresByKind_of_unmarked h hr (controlFlow_of_flow he)
        (marks_of_exception hvalid he).1 hk
  · rintro ⟨hm, hs, he⟩
    refine ⟨fun hc => ?_, fun hjump => ?_⟩
    · have hb := branch_of_flow hvalid hc hm he
      have hwait := no_branchWaits_of_retire h hr
      rw [branchWaits, hb] at hwait
      refine ⟨hbranch.trans hb, ?_⟩
      grind
    · rw [rawBranchTargetValidO, Bool.and_eq_true, Bool.and_eq_true,
        rawCommitBranchTargetValid, htarget, Bool.or_eq_true] at hjump
      rcases hjump.1.2 with htv | hresolved
      · exact .inl ((direct_of_target hvalid hraw htv).resolve_right
          fun hsp => Bool.false_ne_true (hs.symm.trans hsp))
      · exact .inr hresolved

end

end

/-- The decoder classifies a raw word as its instruction set does unless it does not mark the
control-flow instruction or takes another for a jump. Of those that retire, these words and the
exception-generating ones are exactly the ones that do not retire as what they are: a trap
instruction retires to the next one. -/
theorem control_flow_classified_iff (d : RawInsnDecode) (hv : d.valid = true)
    (hraw : frontendRaw d.frontend = true) :
    (d.Classified ↔
      missedFlow d.frontend d.insn = false ∧ spuriousJump d.frontend d.insn = false) ∧
    ∀ s i, machine.Reach s → rawWord s i = d → (cycle s i).core.retire = true →
      (RetiresByKind s i ↔
        missedFlow d.frontend d.insn = false ∧ spuriousJump d.frontend d.insn = false ∧
          generatesException d.frontend d.insn = false) ∧
      ((ctrlWord s i).polyCtrl = false →
        (cycle s i).stateCommitLoc =
          ⟨d.frontend, if (cycle s i).core.rawBranchTargetValidO then
            (cycle s i).core.rawBranchTargetO else fallthrough s i⟩) := by
  refine ⟨classified_iff hv hraw, ?_⟩
  rintro s i h rfl hr
  exact ⟨retiresByKind_iff (inv_reach h) hraw hr, stateCommitLoc_of_raw (inv_reach h) hr⟩

/-- The fetch of one raw instruction, with nothing else in the cycle. -/
def rawCycle (w : BitVec 32) : Inputs :=
  { valid := true
    rawMemRespValid := true
    rawMemRespWord := w }

/-- `b .+8` retires as a jump. -/
theorem control_flow_classified_iff_b :
    (mk true frontendAarch64 0x4000 0x14000002).Classified ∧
      RetiresByKind (machine.step State.reset aarch64Init) (rawCycle 0x14000002) ∧
      (cycle (machine.step State.reset aarch64Init) (rawCycle 0x14000002)).stateCommitLoc =
        ⟨frontendAarch64, 0x4008⟩ :=
  have hword := control_flow_classified_iff ⟨true, frontendAarch64, 0x4000, 0x14000002⟩ rfl
    (by decide)
  have hretire := hword.2 _ (rawCycle 0x14000002) (reach_reset.next aarch64Init) rfl
    (by decide)
  ⟨hword.1.mpr (by decide), hretire.1.mpr (by decide),
    (hretire.2 (by decide)).trans (by decide)⟩

def riscvInit : Inputs :=
  { init := true
    initFrontend := frontendRiscv
    initPc := 0x4000#64 }

/-- A `cbz x0, .+8` retires to the next instruction while nothing has resolved it, and a
`c.addiw a0, 1` retires as a jump. -/
theorem cbz_falls_through :
    let s := machine.step State.reset aarch64Init
    let t := machine.step State.reset riscvInit
    machine.Reach s ∧ controlFlow frontendAarch64 0xb4000040 = true ∧
      (cycle s (rawCycle 0xb4000040)).core.retire = true ∧
      (cycle s (rawCycle 0xb4000040)).core.rawBranch = false ∧
      (machine.step s (rawCycle 0xb4000040)).loc = ⟨frontendAarch64, 0x4004⟩ ∧
      ¬(mk true frontendAarch64 0x4000 0xb4000040).Classified ∧
      machine.Reach t ∧ controlFlow frontendRiscv 0x2505 = false ∧
      (cycle t (rawCycle 0x2505)).core.retire = true ∧
      (machine.step t (rawCycle 0x2505)).loc = ⟨frontendRiscv, 0x4620⟩ :=
  ⟨reach_reset.next aarch64Init, by decide, by decide, by decide, by decide,
    fun h => absurd (h.complete (by decide)) (by decide), reach_reset.next riscvInit, by decide,
    by decide, by decide⟩

end Poly
