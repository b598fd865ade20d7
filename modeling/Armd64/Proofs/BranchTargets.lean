import Armd64.Proofs.ControlFlow

/-!
# Direct branch targets

The raw decoder undoes the encodings of the immediate jumps of A64 and RV64GC: it cuts the fields of
the offset out of the word, puts them in order and extends the sign. An offset that the jump can
represent is then the join of its own fields, since the bits above them repeat its sign and those
below are zero.
-/

namespace Isa.DirectJump

theorem Represents.outer {j : DirectJump} {off : Int} (h : j.Represents off) :
    BitVec.fill (64 - j.width) ((BitVec.ofInt 64 off).getLsbD (j.width - 1)) =
        (BitVec.ofInt 64 off).extractLsb' j.width (64 - j.width) ∧
      0#j.scale = (BitVec.ofInt 64 off).extractLsb' 0 j.scale := by
  obtain ⟨hal, hlo, hup⟩ := h
  have hint : (BitVec.ofInt 64 off).toInt = off := by
    apply BitVec.toInt_ofInt_eq_self (by decide) <;> cases j <;> simp only [width] at hlo hup <;>
      omega
  constructor
  · have hw : j.width - 1 + 1 + (64 - j.width) = 64 := by cases j <;> rfl
    have hsign := Hw.fill_sign_eq_extract hw (by rw [hint]; exact ⟨hlo, hup⟩)
    rwa [show j.width - 1 + 1 = j.width by cases j <;> rfl] at hsign
  · exact (Hw.extract_ofInt_eq_zero (by cases j <;> simp [scale]) hal).symm

end Isa.DirectJump

namespace Poly

open Isa

def jumpFrontend : DirectJump → BitVec 2
  | .b _ => frontendAarch64
  | .jal _ | .cJ _ => frontendRiscv

namespace RawInsnDecode

variable {d : RawInsnDecode} {off : Int}

section

-- In each of the three proofs the decoder's fields are first found in the word, and the offset is
-- then joined from them, from its sign down to its low zeros.

theorem a64BOffset_encode {link : Bool} (h : (DirectJump.b link).Represents off)
    (hw : d.insn = (DirectJump.b link).encode off) : d.a64BOffset = BitVec.ofInt 64 off := by
  obtain ⟨hsign, hlow⟩ := h.outer
  simp only [DirectJump.width, DirectJump.scale, Nat.reduceSub] at hsign hlow
  rw [a64BOffset, hw, DirectJump.encode, hlow]
  simp (disch := decide) only [BitVec.extractLsb'_append_eq_of_add_le, BitVec.extractLsb'_eq_self,
    BitVec.getLsbD_append]
  simp only [BitVec.getLsbD_extractLsb', Nat.reduceLT, decide_true, Bool.true_and, if_true,
    Nat.reduceAdd, hsign]
  rw [BitVec.extractLsb'_append_extractLsb'_eq_extractLsb' (show 28 = 2 + 26 from rfl),
    BitVec.extractLsb'_append_extractLsb'_eq_extractLsb' (show 2 = 0 + 2 from rfl)]
  exact BitVec.extractLsb'_eq_self

theorem rvJalOffset_encode {rd : BitVec 5} (h : (DirectJump.jal rd).Represents off)
    (hw : d.insn = (DirectJump.jal rd).encode off) : d.rvJalOffset = BitVec.ofInt 64 off := by
  obtain ⟨hsign, hlow⟩ := h.outer
  simp only [DirectJump.width, DirectJump.scale, Nat.reduceSub] at hsign hlow
  rw [rvJalOffset, hw, DirectJump.encode, hlow]
  simp (disch := decide) only [BitVec.extractLsb'_append_eq_of_add_le,
    BitVec.extractLsb'_append_eq_of_le, BitVec.getLsbD_append]
  simp only [BitVec.getLsbD_extractLsb', BitVec.extractLsb'_eq_self, Nat.reduceLT, Nat.reduceSub,
    decide_true, Bool.true_and, if_false, Nat.reduceAdd, hsign]
  rw [BitVec.extractLsb'_append_extractLsb'_eq_extractLsb' (show 21 = 20 + 1 from rfl),
    BitVec.extractLsb'_append_extractLsb'_eq_extractLsb' (show 20 = 12 + 8 from rfl),
    BitVec.extractLsb'_append_extractLsb'_eq_extractLsb' (show 12 = 11 + 1 from rfl),
    BitVec.extractLsb'_append_extractLsb'_eq_extractLsb' (show 11 = 1 + 10 from rfl),
    BitVec.extractLsb'_append_extractLsb'_eq_extractLsb' (show 1 = 0 + 1 from rfl)]
  exact BitVec.extractLsb'_eq_self

theorem rv16JOffset_encode {next : BitVec 16} (h : (DirectJump.cJ next).Represents off)
    (hw : d.insn = (DirectJump.cJ next).encode off) : d.rv16JOffset = BitVec.ofInt 64 off := by
  obtain ⟨hsign, hlow⟩ := h.outer
  simp only [DirectJump.width, DirectJump.scale, Nat.reduceSub] at hsign hlow
  rw [rv16JOffset, rv16, hw, DirectJump.encode, hlow]
  simp (disch := decide) only [BitVec.extractLsb'_append_eq_of_add_le,
    BitVec.extractLsb'_append_eq_of_le, BitVec.extractLsb'_eq_self, BitVec.getLsbD_append]
  simp only [BitVec.getLsbD_extractLsb', BitVec.extractLsb'_eq_self, Nat.reduceLT, Nat.reduceSub,
    decide_true, Bool.true_and, if_true, if_false, Nat.reduceAdd, hsign]
  rw [BitVec.extractLsb'_append_extractLsb'_eq_extractLsb' (show 12 = 11 + 1 from rfl),
    BitVec.extractLsb'_append_extractLsb'_eq_extractLsb' (show 11 = 10 + 1 from rfl),
    BitVec.extractLsb'_append_extractLsb'_eq_extractLsb' (show 10 = 8 + 2 from rfl),
    BitVec.extractLsb'_append_extractLsb'_eq_extractLsb' (show 8 = 7 + 1 from rfl),
    BitVec.extractLsb'_append_extractLsb'_eq_extractLsb' (show 7 = 6 + 1 from rfl),
    BitVec.extractLsb'_append_extractLsb'_eq_extractLsb' (show 6 = 5 + 1 from rfl),
    BitVec.extractLsb'_append_extractLsb'_eq_extractLsb' (show 5 = 4 + 1 from rfl),
    BitVec.extractLsb'_append_extractLsb'_eq_extractLsb' (show 4 = 1 + 3 from rfl),
    BitVec.extractLsb'_append_extractLsb'_eq_extractLsb' (show 1 = 0 + 1 from rfl)]
  exact BitVec.extractLsb'_eq_self

end

section

variable (hv : d.valid = true)

include hv

theorem target_of_b {link : Bool} (hf : d.frontend = frontendAarch64)
    (hw : (if link then A64Flow.bl else A64Flow.b).fits d.insn) :
    d.branchTargetValid ∧ d.branchTarget = d.pc + d.a64BOffset := by
  obtain ⟨ha, hr⟩ := valid_of_aarch64 hv hf
  have hb : (d.a64B || d.a64Bl) := by
    cases link with
    | false =>
      have hsub : (⟨0x7c000000, 0x14000000⟩ : Hw.Pattern 32).fits d.insn :=
        Hw.Pattern.fits_of_subsumes (by decide) hw
      rw [show d.a64B = true from hsub, Bool.true_or]
    | true => rw [show d.a64Bl = true from hw, Bool.or_true]
  have hvalid : d.branchTargetValid := by simp [branchTargetValid, ha, hb]
  exact ⟨hvalid, by simp [branchTarget, hvalid, ha, hb]⟩

theorem target_of_jal (hf : d.frontend = frontendRiscv) (hw : Rv64Flow.jal.fits d.insn) :
    d.branchTargetValid ∧ d.branchTarget = d.pc + d.rvJalOffset := by
  obtain ⟨ha, hr⟩ := valid_of_riscv hv hf
  obtain ⟨h32, hop, -⟩ := rv_fields d
  have hvalid : d.branchTargetValid := by rw [rv_targetValid hv hf, hw]; rfl
  have hjal : opcode d.insn = 0x6f#7 := beq_iff_eq.mp hw
  refine ⟨hvalid, ?_⟩
  simp [branchTarget, hvalid, ha, hr, h32, hop, quadrant_eq_opcode, hjal]

theorem target_of_cJ (hf : d.frontend = frontendRiscv) (hw : Rv64Flow.cJ.fits d.insn) :
    d.branchTargetValid ∧ d.branchTarget = d.pc + d.rv16JOffset := by
  obtain ⟨ha, hr⟩ := valid_of_riscv hv hf
  obtain ⟨h32, -⟩ := rv_fields d
  have hvalid : d.branchTargetValid := by rw [rv_targetValid hv hf, hw]; simp
  have hquad : quadrant d.insn = 1#2 := by
    simp only [Rv64Flow.fits, Bool.and_eq_true, beq_iff_eq] at hw
    exact hw.1
  refine ⟨hvalid, ?_⟩
  simp [branchTarget, hvalid, ha, hr, h32, hquad]

end

/-- The decoder finds the target of every encoded jump: the pc plus the offset, modulo `2 ^ 64`. -/
theorem branchTarget_encode (j : DirectJump) (off : Int) (h : j.Represents off) (pc : BitVec 64) :
    let d : RawInsnDecode := ⟨true, jumpFrontend j, pc, j.encode off⟩
    d.branchTargetValid = true ∧ d.branchTarget = pc + BitVec.ofInt 64 off := by
  intro d
  cases j with
  | b link =>
    rw [← a64BOffset_encode (d := d) h rfl]
    exact target_of_b rfl rfl (DirectJump.b_fits link off)
  | jal rd =>
    rw [← rvJalOffset_encode (d := d) h rfl]
    exact target_of_jal rfl rfl (DirectJump.jal_fits rd off)
  | cJ next =>
    rw [← rv16JOffset_encode (d := d) h rfl]
    exact target_of_cJ rfl rfl (DirectJump.cJ_fits next off)

/-- The furthest backward `C.J`, at pc 0. -/
theorem branchTarget_encode_back :
    (DirectJump.cJ 0).Represents (-2048) ∧
      (let d : RawInsnDecode := ⟨true, frontendRiscv, 0, (DirectJump.cJ 0).encode (-2048)⟩
       d.branchTargetValid = true ∧ d.branchTarget = 0 + BitVec.ofInt 64 (-2048)) :=
  have h : (DirectJump.cJ 0).Represents (-2048) :=
    ⟨⟨-1024, by decide⟩, by decide, by decide⟩
  ⟨h, branchTarget_encode (.cJ 0) (-2048) h 0⟩

end RawInsnDecode

end Poly
