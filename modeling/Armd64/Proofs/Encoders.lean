import Armd64.Isa.Execution
import Armd64.Polyexec.Trampoline

/-!
# The instructions that the trampoline emitters encode

The architectures decode the emitted words to the intended instructions, with immediates that are
truncated.
-/

namespace Poly.Polyexec

open Isa
open A64Insn
open Hw

/-! ## Encodings -/

/-- The word is `ADR`, and its fields are parts of the offset. -/
theorem aarch64Adr_fields (rd : BitVec 32) (off : BitVec 64) :
    adrPattern.fits (aarch64Adr rd off) ∧
      (aarch64Adr rd off).extractLsb' 0 5 = rd.setWidth 5 ∧
      (aarch64Adr rd off).extractLsb' 5 19 = off.extractLsb' 2 19 ∧
      (aarch64Adr rd off).extractLsb' 29 2 = off.extractLsb' 0 2 := by
  have hword : aarch64Adr rd off =
      0x10000000#32 ||| ((off.setWidth 32 &&& 0x1fffff &&& 0x3) <<< 29) |||
        (((off.setWidth 32 &&& 0x1fffff) >>> 2 &&& 0x7ffff) <<< 5) ||| ((rd &&& 0x1f) <<< 0) := by
    rw [BitVec.shiftLeft_zero]
    rfl
  rw [Pattern.fits_iff, hword]
  simp only [BitVec.extractLsb'_or]
  refine ⟨?_, ?_, ?_, ?_⟩
  · rw [BitVec.and_or_distrib_right, BitVec.and_or_distrib_right, BitVec.and_or_distrib_right,
      field_and_eq_zero (by decide), field_and_eq_zero (by decide),
      field_and_eq_zero (by decide)]
    decide
  · rw [extract_other_field (by decide), extract_other_field (by decide),
      extract_field (by decide)]
    simp
  · have hop : (0x10000000#32).extractLsb' 5 19 = 0#19 := by decide
    rw [hop, extract_other_field (by decide), extract_field (by decide),
      extract_other_field (by decide), BitVec.or_zero, BitVec.or_zero, BitVec.zero_or]
    apply BitVec.eq_of_getLsbD_eq
    intro i hi
    rw [BitVec.getLsbD_setWidth, BitVec.getLsbD_ushiftRight, BitVec.getLsbD_and,
      getLsbD_mask (m := 0x1fffff) (k := 21) rfl (by omega), BitVec.getLsbD_setWidth,
      BitVec.getLsbD_extractLsb']
    simp [hi, show 2 + i < 21 by omega, show 2 + i < 32 by omega]
  · have hop : (0x10000000#32).extractLsb' 29 2 = 0#2 := by decide
    rw [hop, extract_field (by decide), extract_other_field (by decide),
      extract_other_field (by decide), BitVec.or_zero, BitVec.or_zero, BitVec.zero_or]
    apply BitVec.eq_of_getLsbD_eq
    intro i hi
    rw [BitVec.getLsbD_setWidth, BitVec.getLsbD_and,
      getLsbD_mask (m := 0x1fffff) (k := 21) rfl (by omega), BitVec.getLsbD_setWidth,
      BitVec.getLsbD_extractLsb']
    simp [hi, show i < 21 by omega, show i < 32 by omega]

/-- The offset is cut to 21 bits. -/
theorem decode_aarch64Adr (rd : BitVec 32) (off : BitVec 64) :
    decode (aarch64Adr rd off) = some (.adr (rd.setWidth 5) (off.setWidth 21)) := by
  obtain ⟨hfits, hrd, hhi, hlo⟩ := aarch64Adr_fields rd off
  have himm : off.setWidth 21 = off.extractLsb' 0 21 := BitVec.setWidth_eq_extractLsb' (by decide)
  rw [decode, if_pos hfits, hrd, hhi, hlo, himm,
    BitVec.extractLsb'_append_extractLsb'_eq_extractLsb' (by decide : 2 = 0 + 2)]

variable {op : BitVec 32} {k : BitVec 2}

/-- The operation has the position of its 16 bits in it; the emitter adds register and value. -/
theorem aarch64MovWide_fields {p : Pattern 32} (hp : p = movzPattern ∨ p = movkPattern)
    (hop : op = p.value ||| k.setWidth 32 <<< 21) (rd : BitVec 32) (v : BitVec 64) :
    p.fits (aarch64MovWide op rd v) ∧
      (aarch64MovWide op rd v).extractLsb' 0 5 = rd.setWidth 5 ∧
      (aarch64MovWide op rd v).extractLsb' 21 2 = k ∧
      (aarch64MovWide op rd v).extractLsb' 5 16 = v.setWidth 16 := by
  obtain ⟨hfits, hrd, hk, himm⟩ : op &&& p.mask = p.value ∧ op.extractLsb' 0 5 = 0 ∧
      op.extractLsb' 21 2 = k ∧ op.extractLsb' 5 16 = 0 := by
    subst hop
    rcases hp with rfl | rfl <;> revert k <;> decide
  have hmask : (0xffff <<< 5) &&& p.mask = 0 ∧ (0x1f <<< 0) &&& p.mask = 0 := by
    rcases hp with rfl | rfl <;> decide
  have hword : aarch64MovWide op rd v =
      op ||| ((v.setWidth 32 &&& 0xffff) <<< 5) ||| ((rd &&& 0x1f) <<< 0) := by
    rw [BitVec.shiftLeft_zero]
    rfl
  rw [Pattern.fits_iff, hword]
  simp only [BitVec.extractLsb'_or]
  refine ⟨?_, ?_, ?_, ?_⟩
  · rw [BitVec.and_or_distrib_right, BitVec.and_or_distrib_right, hfits,
      field_and_eq_zero hmask.1, field_and_eq_zero hmask.2, BitVec.or_zero, BitVec.or_zero]
  · rw [hrd, extract_other_field (by decide), extract_field (by decide)]
    simp
  · rw [hk, extract_other_field (by decide), extract_other_field (by decide)]
    simp
  · rw [himm, extract_field (by decide), extract_other_field (by decide)]
    simp

theorem decode_movz (hop : op = movzPattern.value ||| k.setWidth 32 <<< 21) (rd : BitVec 32)
    (v : BitVec 64) : decode (aarch64MovWide op rd v) =
      some (.movz (rd.setWidth 5) k (v.setWidth 16)) := by
  obtain ⟨hfits, hrd, hhw, himm⟩ := aarch64MovWide_fields (.inl rfl) hop rd v
  have hadr := Pattern.fits_of_clashes (q := adrPattern) (by decide) hfits
  rw [decode, if_neg (by simp [hadr]), if_pos hfits, hrd, hhw, himm]

theorem decode_movk (hop : op = movkPattern.value ||| k.setWidth 32 <<< 21) (rd : BitVec 32)
    (v : BitVec 64) : decode (aarch64MovWide op rd v) =
      some (.movk (rd.setWidth 5) k (v.setWidth 16)) := by
  obtain ⟨hfits, hrd, hhw, himm⟩ := aarch64MovWide_fields (.inr rfl) hop rd v
  have hadr := Pattern.fits_of_clashes (q := adrPattern) (by decide) hfits
  have hmovz := Pattern.fits_of_clashes (q := movzPattern) (by decide) hfits
  rw [decode, if_neg (by simp [hadr]), if_neg (by simp [hmovz]), if_pos hfits, hrd, hhw,
    himm]

/-- The upper part is cut to 20 bits. -/
theorem decode_riscvAuipc (rd : BitVec 32) (off : BitVec 64) :
    Rv64Insn.decode (riscvAuipc rd off) =
      some (.auipc (rd.setWidth 5) ((riscvHi20 off).setWidth 20)) := by
  have hfields : opcode (riscvAuipc rd off) = 0x17 ∧
      (riscvAuipc rd off).extractLsb' 7 5 = rd.setWidth 5 ∧
      (riscvAuipc rd off).extractLsb' 12 20 = (riscvHi20 off).setWidth 20 := by
    unfold opcode riscvAuipc
    simp only [BitVec.extractLsb'_or]
    refine ⟨?_, ?_, ?_⟩
    · rw [extract_other_field (by decide), extract_other_field (by decide)]
      decide
    · rw [extract_other_field (by decide), extract_field (by decide)]
      simp
    · rw [extract_field (by decide), extract_other_field (by decide)]
      simp
  obtain ⟨hop, hrd, himm⟩ := hfields
  rw [Rv64Insn.decode, if_pos hop, hrd, himm]

/-- The lower part is cut to 12 bits. -/
theorem decode_riscvAddi (rd rs1 : BitVec 32) (off : BitVec 64) :
    Rv64Insn.decode (riscvAddi rd rs1 off) =
      some (.addi (rd.setWidth 5) (rs1.setWidth 5) ((off - riscvHi20 off <<< 12).setWidth 12)) := by
  have hfields : opcode (riscvAddi rd rs1 off) = 0x13 ∧ funct3 (riscvAddi rd rs1 off) = 0 ∧
      (riscvAddi rd rs1 off).extractLsb' 7 5 = rd.setWidth 5 ∧
      (riscvAddi rd rs1 off).extractLsb' 15 5 = rs1.setWidth 5 ∧
      (riscvAddi rd rs1 off).extractLsb' 20 12 = (off - riscvHi20 off <<< 12).setWidth 12 := by
    unfold opcode funct3 riscvAddi
    simp only [BitVec.extractLsb'_or]
    refine ⟨?_, ?_, ?_, ?_, ?_⟩
    · rw [extract_other_field (by decide), extract_other_field (by decide),
        extract_other_field (by decide)]
      decide
    · rw [extract_other_field (by decide), extract_other_field (by decide),
        extract_other_field (by decide)]
      decide
    · rw [extract_other_field (by decide), extract_other_field (by decide),
        extract_field (by decide)]
      simp
    · rw [extract_other_field (by decide), extract_field (by decide),
        extract_other_field (by decide)]
      simp
    · rw [extract_field (by decide), extract_other_field (by decide),
        extract_other_field (by decide)]
      simp
  obtain ⟨hop, hfunct3, hrd, hrs1, himm⟩ := hfields
  rw [Rv64Insn.decode, if_neg (by simp [hop]), if_pos ⟨hop, hfunct3⟩, hrd, hrs1, himm]

/-! ## Reach -/

theorem sshiftRight_shiftLeft (y : BitVec 64) : y.sshiftRight 12 <<< 12 = (y >>> 12) <<< 12 := by
  apply BitVec.eq_of_getLsbD_eq
  intro i hi
  rcases Nat.lt_or_ge i 12 with h | h
  · simp [h]
  · obtain ⟨j, rfl⟩ : ∃ j, i = j + 12 := ⟨i - 12, by omega⟩
    simp [BitVec.getLsbD_sshiftRight, show 12 + j < 64 by omega, show ¬ 64 ≤ j by omega]

theorem toNat_riscvHi20 (off : BitVec 64) :
    (riscvHi20 off <<< 12).toNat = (off.toNat + 2048) % 2 ^ 64 / 4096 * 4096 := by
  have hround : (0x800 : BitVec 64).toNat = 2048 := rfl
  rw [riscvHi20, sshiftRight_shiftLeft, BitVec.toNat_shiftLeft, BitVec.toNat_ushiftRight,
    BitVec.toNat_add, Nat.shiftLeft_eq, Nat.shiftRight_eq_div_pow, hround]
  omega

/-- The lower part is within 12 bits, by the rounding of the upper one. -/
theorem lo12_signExtend (off : BitVec 64) :
    ((off - riscvHi20 off <<< 12).setWidth 12).signExtend 64 = off - riscvHi20 off <<< 12 := by
  rw [signExtend_setWidth_eq_iff (k := 11) (by omega), BitVec.toInt_eq_toNat_cond,
    BitVec.toNat_sub, toNat_riscvHi20]
  omega

theorem hi20_append (off : BitVec 64) :
    (riscvHi20 off).setWidth 20 ++ 0#12 = (riscvHi20 off <<< 12).setWidth 32 := by
  apply BitVec.eq_of_getLsbD_eq
  intro i hi
  rw [BitVec.getLsbD_append]
  rcases Nat.lt_or_ge i 12 with h | h
  · simp [h]
  · simp [hi, show ¬ i < 12 by omega, show i - 12 < 20 by omega]

/-- The offsets that `AUIPC` and `ADDI` reach. -/
def FitsAuipc (off : BitVec 64) : Prop :=
  -2 ^ 31 - 2 ^ 11 ≤ off.toInt ∧ off.toInt < 2 ^ 31 - 2 ^ 11

theorem hi20_signExtend_iff (off : BitVec 64) :
    ((riscvHi20 off).setWidth 20 ++ 0#12).signExtend 64 = riscvHi20 off <<< 12 ↔ FitsAuipc off := by
  rw [FitsAuipc, hi20_append, signExtend_setWidth_eq_iff (k := 31) (by omega),
    BitVec.toInt_eq_toNat_cond, BitVec.toInt_eq_toNat_cond, toNat_riscvHi20]
  omega

end Poly.Polyexec
