import Armd64.Isa.MemoryAccess
import Armd64.Proofs.ControlFlow

/-!
# Decoding of memory operations

The raw decoder classifies the loads and stores of A64 by a few bits of the word. For RV64GC its
answer is right for every instruction. For A64 it is right for the integer registers, except the
loads that extend the sign to 64 bits, and for the exclusive accesses; it misses the SIMD&FP
registers, takes the atomic operations of LSE for loads or stores, and reads a part of the offset of
a literal as the direction.
-/

namespace Poly

open Isa Hw
open RawInsnDecode

inductive MemInsn
  | a64 (m : A64Mem)
  | rv64 (m : Rv64Mem)

namespace MemInsn

def frontend : MemInsn → BitVec 2
  | a64 _ => frontendAarch64
  | rv64 _ => frontendRiscv

def fits : MemInsn → BitVec 32 → Bool
  | a64 m, w => m.fits w
  | rv64 m, w => m.fits w

def kind : MemInsn → MemKind
  | a64 m => m.kind
  | rv64 m => m.kind

def bytes : MemInsn → Nat
  | a64 m => m.bytes
  | rv64 m => m.bytes

end MemInsn

/-- The outputs of the decoder for an access of this kind and width. -/
structure RawInsnDecode.Marks (d : RawInsnDecode) (kind : MemKind) (bytes : Nat) : Prop where
  load : d.memoryLoad = decide (kind = .load)
  store : d.memoryStore = decide (kind = .store)
  atomic : d.memoryAtomic = decide (kind = .atomic)
  bytes : d.memoryAccessBytes.toNat = bytes

/-! ## A64 -/

/-- What the decoder makes of the highest byte and bit 22 of an A64 word. -/
def a64Class (top : BitVec 8) (bit22 : Bool) : MemKind × Nat :=
  if top.extractLsb' 1 3 = 4#3 then
    (if top.extractLsb' 0 6 = 8#6 then .atomic else if bit22 then .load else .store,
      (1#4 <<< top.extractLsb' 6 2).toNat)
  else (.prefetch, 0)

namespace RawInsnDecode

variable {d : RawInsnDecode}

theorem marks_iff {kind kind' : MemKind} {bytes bytes' : Nat} (h : d.Marks kind bytes) :
    d.Marks kind' bytes' ↔ (kind, bytes) = (kind', bytes') := by
  constructor
  · intro h'
    have hl := h.load.symm.trans h'.load
    have hs := h.store.symm.trans h'.store
    have ha := h.atomic.symm.trans h'.atomic
    have hb := h.bytes.symm.trans h'.bytes
    cases kind <;> cases kind' <;> simp_all
  · rintro ⟨⟩
    exact h

theorem a64_marks (hv : d.valid) (hf : d.frontend = frontendAarch64) :
    d.Marks (a64Class (d.insn.extractLsb' 24 8) (d.insn.getLsbD 22)).1
      (a64Class (d.insn.extractLsb' 24 8) (d.insn.getLsbD 22)).2 := by
  obtain ⟨ha, hr⟩ := valid_of_aarch64 hv hf
  rw [a64Class, extract_extract (by decide), extract_extract (by decide),
    extract_extract (by decide)]
  by_cases hg : d.insn.extractLsb' 25 3 = 4#3
  · by_cases hat : d.insn.extractLsb' 24 6 = 8#6
    · constructor <;>
        simp [memoryLoad, memoryStore, memoryAtomic, memoryAccessBytes, a64LoadStoreGroup,
          a64AtomicGroup, a64MemoryAccessBytes, ha, hr, hg, hat]
    · have hbit : d.insn[22] = d.insn.getLsbD 22 := rfl
      cases h22 : d.insn.getLsbD 22 <;> rw [h22] at hbit <;> constructor <;>
        simp [memoryLoad, memoryStore, memoryAtomic, memoryAccessBytes, a64LoadStoreGroup,
          a64AtomicGroup, a64MemoryAccessBytes, ha, hr, hg, hat, hbit]
  · constructor <;>
      simp [memoryLoad, memoryStore, memoryAtomic, memoryAccessBytes, a64LoadStoreGroup,
        a64AtomicGroup, ha, hr, hg]

end RawInsnDecode

/-- The A64 instructions that are classified as what they are: integer registers except sign
extension to 64 bits and prefetches, sign-extending literal or authenticated loads with bit 22 set,
exclusive accesses, and `CAS`. -/
def a64Right (bit22 : Bool) : A64Mem → Bool
  | .reg v _ _ opc => !v && opc != 0b10#2
  | .literal v opc => !v && opc == 0b10#2 && bit22
  | .exclusive _ _ _ _ | .cas _ _ _ => true
  | .rcpc _ opc => opc != 0b10#2
  | .authenticated => bit22
  | .pair _ _ _ _ | .casp _ _ _ | .ordered _ _ _ | .lse _ _ _ _ | .ldapr _ => false

/-- The bits that the decoder looks at are in the encoding, except bit 22 of a literal and of an
authenticated load. -/
theorem a64_table (m : A64Mem) (hm : m.allocated) :
    m.pattern.mask.extractLsb' 24 8 = BitVec.allOnes 8 ∧
      ∀ b, (m.pattern.mask.getLsbD 22 → b = m.pattern.value.getLsbD 22) →
        (a64Class (m.pattern.value.extractLsb' 24 8) b = (m.kind, m.bytes) ↔
          a64Right b m) := by
  revert hm
  cases m with
  | reg v mode size opc => revert size opc; cases v <;> cases mode <;> decide +kernel
  | pair v mode opc load => revert mode opc; cases v <;> cases load <;> decide +kernel
  | literal v opc => revert opc; cases v <;> decide +kernel
  | exclusive size two load order =>
    revert size; cases two <;> cases load <;> cases order <;> decide +kernel
  | casp wide acquire release => cases wide <;> cases acquire <;> cases release <;> decide +kernel
  | cas size acquire release => revert size; cases acquire <;> cases release <;> decide +kernel
  | ordered size load order => revert size; cases load <;> cases order <;> decide +kernel
  | lse size acquire release op =>
    revert size op; cases acquire <;> cases release <;> decide +kernel
  | ldapr size => revert size; decide +kernel
  | rcpc size opc => revert size opc; decide +kernel
  | authenticated => decide +kernel

theorem a64_classifies_iff {d : RawInsnDecode} {m : A64Mem} (hv : d.valid)
    (hf : d.frontend = frontendAarch64) (hw : m.fits d.insn) :
    d.Marks m.kind m.bytes ↔ a64Right (d.insn.getLsbD 22) m := by
  rw [A64Mem.fits, Bool.and_eq_true] at hw
  obtain ⟨hm, hfit⟩ := hw
  obtain ⟨htop, htable⟩ := a64_table m hm
  rw [marks_iff (a64_marks hv hf), Pattern.extract_of_fits htop hfit]
  exact htable _ fun hbit => Pattern.getLsbD_of_fits hbit hfit

/-! ## RV64GC -/

theorem rv64_marks {d : RawInsnDecode} {m : Rv64Mem} (hv : d.valid)
    (hf : d.frontend = frontendRiscv) (hw : m.fits d.insn) : d.Marks m.kind m.bytes := by
  obtain ⟨ha, hr⟩ := valid_of_riscv hv hf
  obtain ⟨h32, hop, hquad, h3, -⟩ := rv_fields d
  rw [Rv64Mem.fits, Bool.and_eq_true] at hw
  have hcode := hw.1
  have hq := Rv64Code.quadrant_of_fits hcode
  have hf3 : d.insn.extractLsb' 12 3 = funct3 d.insn := rfl
  -- Each code fixes all the fields that the decoder looks at.
  cases m
  case' amo op wide => cases wide
  all_goals
    simp only [Rv64Mem.code, Rv64Code.fits, Bool.and_eq_true, beq_iff_eq] at hcode
    simp only [Rv64Mem.code, Rv64Code.quad] at hq
    constructor <;>
      simp [memoryLoad, memoryStore, memoryAtomic,
        memoryAccessBytes, rvLoad, rvStore,
        rvAtomic, rvMemoryAccessBytes, ha, hr, h32, hop, hquad, h3,
        hf3, hq, hcode, Rv64Mem.kind, Rv64Mem.bytes]

/-! ## Both architectures -/

/-- The decoder classifies the instruction in this word as what it is. -/
def MemInsn.classified (w : BitVec 32) : MemInsn → Bool
  | a64 m => a64Right (w.getLsbD 22) m
  | rv64 _ => true

/-- Every RV64GC load, store and atomic operation is marked as what it is, with its width; an A64
instruction exactly if it is one of `a64Right`. -/
theorem memory_class_iff (m : MemInsn) (w : BitVec 32) (hw : m.fits w = true) (pc : BitVec 64) :
    (mk true m.frontend pc w).Marks m.kind m.bytes ↔ m.classified w = true := by
  cases m with
  | a64 m => exact a64_classifies_iff rfl rfl hw
  | rv64 m => exact iff_of_true (rv64_marks rfl rfl hw) rfl

/-- `ldr x0, [x1]`. -/
theorem memory_class_iff_ldr :
    let m := MemInsn.a64 (.reg false .unsignedOffset 3 1)
    m.fits 0xf9400020#32 = true ∧
      (mk true frontendAarch64 0 0xf9400020#32).Marks .load 8 :=
  ⟨by decide, (memory_class_iff (.a64 (.reg false .unsignedOffset 3 1)) 0xf9400020#32 (by decide)
    0).mpr (by decide)⟩

/-- `ldrsw x0, [x1]` is marked as a store, `ldp x0, x1, [x2]` as four bytes, `ldr d0, [x1]` as no
access, and `ldadd x0, x1, [x2]` as a store. -/
theorem memory_misclassified :
    let decode (w : BitVec 32) := mk true frontendAarch64 0 w
    (A64Mem.reg false .unsignedOffset 2 2).fits 0xb9800020 = true ∧
      (decode 0xb9800020).memoryStore = true ∧ (decode 0xb9800020).memoryLoad = false ∧
      (A64Mem.pair false 2 2 true).fits 0xa9400440 = true ∧
      (decode 0xa9400440).memoryAccessBytes = 4 ∧
      (A64Mem.reg true .unsignedOffset 3 1).fits 0xfd400020 = true ∧
      (decode 0xfd400020).memoryOrderValid = false ∧
      (A64Mem.lse 3 false false 0).fits 0xf8200041 = true ∧
      (decode 0xf8200041).memoryAtomic = false ∧ (decode 0xf8200041).memoryStore = true := by
  decide

end Poly
