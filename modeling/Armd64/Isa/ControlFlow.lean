import Mathlib.Algebra.Ring.Int.Defs
import Armd64.Lib.Encoding

/-!
# The control-flow instructions of A64 and RV64GC

The encodings of the instructions that may continue elsewhere than at the next instruction, as the
two architectures define them: A64 of Armv8-A with its optional branches (pointer authentication,
hinted conditional branches, transactions), and RV64GC with its compressed forms.
-/

namespace Isa

/-! ## A64 -/

/-- Branches, calls, returns and exception-generating instructions of A64. -/
inductive A64Flow
  | b | bl
  | bCond | bcCond
  | cbz | cbnz | tbz | tbnz
  /-- Branches to a register, and the returns from exception and debug state. -/
  | br | blr | ret | eret | drps
  /-- `BRAAZ`/`BRABZ`, `BLRAAZ`/`BLRABZ`, `RETAA`/`RETAB`, `ERETAA`/`ERETAB`. -/
  | braz | blraz | reta | ereta
  | bra | blra
  | svc | hvc | smc | brk | hlt | tcancel | dcps1 | dcps2 | dcps3
  deriving DecidableEq, Repr

namespace A64Flow

def all : List A64Flow :=
  [b, bl, bCond, bcCond, cbz, cbnz, tbz, tbnz, br, blr, ret, eret, drps, braz, blraz, reta, ereta,
    bra, blra, svc, hvc, smc, brk, hlt, tcancel, dcps1, dcps2, dcps3]

theorem mem_all (c : A64Flow) : c ∈ all := by cases c <;> decide

def pattern : A64Flow → Hw.Pattern 32
  | b => ⟨0xfc000000, 0x14000000⟩
  | bl => ⟨0xfc000000, 0x94000000⟩
  | bCond => ⟨0xff000010, 0x54000000⟩
  | bcCond => ⟨0xff000010, 0x54000010⟩
  | cbz => ⟨0x7f000000, 0x34000000⟩
  | cbnz => ⟨0x7f000000, 0x35000000⟩
  | tbz => ⟨0x7f000000, 0x36000000⟩
  | tbnz => ⟨0x7f000000, 0x37000000⟩
  | br => ⟨0xfffffc1f, 0xd61f0000⟩
  | blr => ⟨0xfffffc1f, 0xd63f0000⟩
  | ret => ⟨0xfffffc1f, 0xd65f0000⟩
  | eret => ⟨0xffffffff, 0xd69f03e0⟩
  | drps => ⟨0xffffffff, 0xd6bf03e0⟩
  | braz => ⟨0xfffff81f, 0xd61f081f⟩
  | blraz => ⟨0xfffff81f, 0xd63f081f⟩
  | reta => ⟨0xfffffbff, 0xd65f0bff⟩
  | ereta => ⟨0xfffffbff, 0xd69f0bff⟩
  | bra => ⟨0xfffff800, 0xd71f0800⟩
  | blra => ⟨0xfffff800, 0xd73f0800⟩
  | svc => ⟨0xffe0001f, 0xd4000001⟩
  | hvc => ⟨0xffe0001f, 0xd4000002⟩
  | smc => ⟨0xffe0001f, 0xd4000003⟩
  | brk => ⟨0xffe0001f, 0xd4200000⟩
  | hlt => ⟨0xffe0001f, 0xd4400000⟩
  | tcancel => ⟨0xffe0001f, 0xd4600000⟩
  | dcps1 => ⟨0xffe0001f, 0xd4a00001⟩
  | dcps2 => ⟨0xffe0001f, 0xd4a00002⟩
  | dcps3 => ⟨0xffe0001f, 0xd4a00003⟩

def fits (c : A64Flow) (w : BitVec 32) : Bool := c.pattern.fits w

def direct : A64Flow → Bool
  | b | bl => true
  | _ => false

def exceptional : A64Flow → Bool
  | svc | hvc | smc | brk | hlt | tcancel | dcps1 | dcps2 | dcps3 => true
  | _ => false

end A64Flow

/-! ## RV64GC -/

section

variable (w : BitVec 32)

def opcode : BitVec 7 := w.extractLsb' 0 7

def funct3 : BitVec 3 := w.extractLsb' 12 3

def quadrant : BitVec 2 := w.extractLsb' 0 2

def compressedFunct3 : BitVec 3 := w.extractLsb' 13 3

def compressedFunct4 : BitVec 4 := w.extractLsb' 12 4

def compressedRs1 : BitVec 5 := w.extractLsb' 7 5

def compressedRs2 : BitVec 5 := w.extractLsb' 2 5

theorem quadrant_eq_opcode : quadrant w = (opcode w).extractLsb' 0 2 :=
  (BitVec.extractLsb'_extractLsb'_of_le (by decide)).symm

theorem compressedFunct3_eq_funct4 : compressedFunct3 w = (compressedFunct4 w).extractLsb' 1 3 := by
  ext k hk
  have hk4 : 1 + k < 4 := by omega
  simp [compressedFunct3, compressedFunct4, hk4, ← Nat.add_assoc]

end

inductive Rv64Flow
  | branch
  | jal | jalr | ecall | ebreak
  | cJ | cBeqz | cBnez | cJr | cJalr | cEbreak
  deriving DecidableEq, Repr

namespace Rv64Flow

def all : List Rv64Flow :=
  [branch, jal, jalr, ecall, ebreak, cJ, cBeqz, cBnez, cJr, cJalr, cEbreak]

theorem mem_all (c : Rv64Flow) : c ∈ all := by cases c <;> decide

def fits (c : Rv64Flow) (w : BitVec 32) : Bool :=
  match c with
  | branch => opcode w == 0x63#7 && funct3 w != 2#3 && funct3 w != 3#3
  | jal => opcode w == 0x6f#7
  | jalr => opcode w == 0x67#7 && funct3 w == 0#3
  | ecall => w == 0x00000073#32
  | ebreak => w == 0x00100073#32
  | cJ => quadrant w == 1#2 && compressedFunct3 w == 5#3
  | cBeqz => quadrant w == 1#2 && compressedFunct3 w == 6#3
  | cBnez => quadrant w == 1#2 && compressedFunct3 w == 7#3
  | cJr =>
    quadrant w == 2#2 && compressedFunct4 w == 8#4 && compressedRs1 w != 0#5 &&
      compressedRs2 w == 0#5
  | cJalr =>
    quadrant w == 2#2 && compressedFunct4 w == 9#4 && compressedRs1 w != 0#5 &&
      compressedRs2 w == 0#5
  | cEbreak => w.extractLsb' 0 16 == 0x9002#16

def direct : Rv64Flow → Bool
  | jal | cJ => true
  | _ => false

def exceptional : Rv64Flow → Bool
  | ecall | ebreak | cEbreak => true
  | _ => false

theorem fields_of_cEbreak {w : BitVec 32} (h : cEbreak.fits w) :
    quadrant w = 2#2 ∧ compressedFunct4 w = 9#4 ∧ compressedRs1 w = 0#5 ∧ compressedRs2 w = 0#5 := by
  have h16 : w.extractLsb' 0 16 = 0x9002#16 := beq_iff_eq.mp h
  have hfield (k len : Nat) (hk : k + len ≤ 16) :
      w.extractLsb' k len = (0x9002#16).extractLsb' k len := by
    rw [← h16, BitVec.extractLsb'_extractLsb'_of_le hk]
  exact ⟨hfield 0 2 (by decide), hfield 12 4 (by decide), hfield 7 5 (by decide),
    hfield 2 5 (by decide)⟩

theorem opcode_of_fits {c : Rv64Flow} {w : BitVec 32} (h : c.fits w) :
    opcode w = 0x63#7 ∨ opcode w = 0x67#7 ∨ opcode w = 0x6f#7 ∨ opcode w = 0x73#7 ∨
      quadrant w ≠ 3#2 := by
  cases c with
  | ecall | ebreak =>
    rw [beq_iff_eq.mp h]
    decide
  | cEbreak => simp [(fields_of_cEbreak h).1]
  | _ =>
    simp only [fits, Bool.and_eq_true, beq_iff_eq] at h
    simp [h]

def cAddiw (w : BitVec 32) : Bool := quadrant w == 1#2 && compressedFunct3 w == 1#3

end Rv64Flow

/-! ## Jumps with an immediate -/

/-- The unconditional jumps with an immediate offset: `B` and `BL`, `JAL`, and `C.J` with the half
word that follows it. -/
inductive DirectJump
  | b (link : Bool)
  | jal (rd : BitVec 5)
  | cJ (next : BitVec 16)
  deriving DecidableEq, Repr

namespace DirectJump

def width : DirectJump → Nat
  | b _ => 28
  | jal _ => 21
  | cJ _ => 12

/-- The low bits of a byte offset that are zero and are not encoded. -/
def scale : DirectJump → Nat
  | b _ => 2
  | jal _ | cJ _ => 1

structure Represents (j : DirectJump) (off : Int) : Prop where
  aligned : (2 ^ j.scale : Int) ∣ off
  lower : -2 ^ (j.width - 1) ≤ off
  upper : off < 2 ^ (j.width - 1)

/-- The word of the jump by `off`. RISC-V scrambles the offset: `imm[20|10:1|11|19:12]` in a `JAL`,
`imm[11|4|9:8|10|6|7|3:1|5]` in a `C.J`. -/
def encode (j : DirectJump) (off : Int) : BitVec 32 :=
  let imm := BitVec.ofInt 64 off
  match j with
  | b link => (if link then 0x25#6 else 0x05#6) ++ imm.extractLsb' 2 26
  | jal rd =>
    imm.extractLsb' 20 1 ++ imm.extractLsb' 1 10 ++ imm.extractLsb' 11 1 ++
      imm.extractLsb' 12 8 ++ rd ++ 0x6f#7
  | cJ next =>
    next ++ (5#3 ++ imm.extractLsb' 11 1 ++ imm.extractLsb' 4 1 ++ imm.extractLsb' 8 2 ++
      imm.extractLsb' 10 1 ++ imm.extractLsb' 6 1 ++ imm.extractLsb' 7 1 ++
      imm.extractLsb' 1 3 ++ imm.extractLsb' 5 1 ++ 1#2)

theorem b_fits (link : Bool) (off : Int) :
    (if link then A64Flow.bl else A64Flow.b).fits ((b link).encode off) := by
  have hhigh (x : BitVec 6) : x ++ (BitVec.ofInt 64 off).extractLsb' 2 26 &&& 0xfc000000#32 =
      x ++ 0#26 := by
    rw [show 0xfc000000#32 = BitVec.allOnes 6 ++ 0#26 by decide, BitVec.and_append,
      BitVec.and_allOnes, BitVec.and_zero]
  cases link
  · exact beq_iff_eq.mpr (hhigh 0x05#6)
  · exact beq_iff_eq.mpr (hhigh 0x25#6)

theorem jal_fits (rd : BitVec 5) (off : Int) : Rv64Flow.jal.fits ((jal rd).encode off) := by
  simp (disch := decide) only [Rv64Flow.fits, opcode, encode,
    BitVec.extractLsb'_append_eq_of_add_le, BitVec.extractLsb'_eq_self, beq_self_eq_true]

theorem cJ_fits (next : BitVec 16) (off : Int) :
    Rv64Flow.cJ.fits ((cJ next).encode off) := by
  simp (disch := decide) only [Rv64Flow.fits, quadrant, compressedFunct3, encode,
    BitVec.extractLsb'_append_eq_of_add_le, BitVec.extractLsb'_append_eq_of_le]
  rfl

end DirectJump

end Isa
