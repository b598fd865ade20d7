import Armd64.Isa.ControlFlow
import Armd64.Lib.Code

/-!
# Instructions that load an address and jump

The instructions of A64, RV64 and x86-64 that put a constant or a code address into a register and
jump to a register, with their encodings and effects as the architectures define them.
-/

namespace Isa

abbrev Regs := BitVec 5 → BitVec 64

/-- The registers after a write, where register `zero` reads as zero and ignores writes. -/
def Regs.write (regs : Regs) (zero rd : BitVec 5) (v : BitVec 64) : Regs :=
  fun r => if r = rd ∧ rd ≠ zero then v else regs r

def Regs.read (regs : Regs) (zero r : BitVec 5) : BitVec 64 := if r = zero then 0 else regs r

structure Effect where
  pc : BitVec 64
  regs : Regs
  jumps : Bool

/-! ## A64 -/

inductive A64Insn
  | adr (rd : BitVec 5) (imm : BitVec 21)
  | movz (rd : BitVec 5) (hw : BitVec 2) (imm : BitVec 16)
  | movk (rd : BitVec 5) (hw : BitVec 2) (imm : BitVec 16)
  | br (rn : BitVec 5)
  deriving DecidableEq

namespace A64Insn

def xzr : BitVec 5 := 31

def adrPattern : Hw.Pattern 32 := ⟨0x9f000000, 0x10000000⟩

def movzPattern : Hw.Pattern 32 := ⟨0xff800000, 0xd2800000⟩

def movkPattern : Hw.Pattern 32 := ⟨0xff800000, 0xf2800000⟩

def decode (w : BitVec 32) : Option A64Insn :=
  if adrPattern.fits w then
    some (.adr (w.extractLsb' 0 5) (w.extractLsb' 5 19 ++ w.extractLsb' 29 2))
  else if movzPattern.fits w then
    some (.movz (w.extractLsb' 0 5) (w.extractLsb' 21 2) (w.extractLsb' 5 16))
  else if movkPattern.fits w then
    some (.movk (w.extractLsb' 0 5) (w.extractLsb' 21 2) (w.extractLsb' 5 16))
  else if A64Flow.br.fits w then some (.br (w.extractLsb' 5 5))
  else none

def position (hw : BitVec 2) : Nat := 16 * hw.toNat

def exec (pc : BitVec 64) (regs : Regs) : A64Insn → Effect
  | adr rd imm => ⟨pc + 4, regs.write xzr rd (pc + imm.signExtend 64), false⟩
  | movz rd hw imm => ⟨pc + 4, regs.write xzr rd (imm.setWidth 64 <<< position hw), false⟩
  | movk rd hw imm =>
    let kept := regs.read xzr rd &&& ~~~(0xffff#64 <<< position hw)
    ⟨pc + 4, regs.write xzr rd (kept ||| imm.setWidth 64 <<< position hw), false⟩
  | br rn => ⟨regs.read xzr rn, regs, true⟩

end A64Insn

/-! ## RV64 -/

inductive Rv64Insn
  | auipc (rd : BitVec 5) (imm : BitVec 20)
  | addi (rd rs1 : BitVec 5) (imm : BitVec 12)
  | jalr (rd rs1 : BitVec 5) (imm : BitVec 12)
  deriving DecidableEq

namespace Rv64Insn

def x0 : BitVec 5 := 0

def decode (w : BitVec 32) : Option Rv64Insn :=
  let rd := w.extractLsb' 7 5
  let rs1 := w.extractLsb' 15 5
  if opcode w = 0x17 then some (.auipc rd (w.extractLsb' 12 20))
  else if opcode w = 0x13 ∧ funct3 w = 0 then some (.addi rd rs1 (w.extractLsb' 20 12))
  else if opcode w = 0x67 ∧ funct3 w = 0 then some (.jalr rd rs1 (w.extractLsb' 20 12))
  else none

def exec (pc : BitVec 64) (regs : Regs) : Rv64Insn → Effect
  | auipc rd imm => ⟨pc + 4, regs.write x0 rd (pc + (imm ++ 0#12).signExtend 64), false⟩
  | addi rd rs1 imm => ⟨pc + 4, regs.write x0 rd (regs.read x0 rs1 + imm.signExtend 64), false⟩
  | jalr rd rs1 imm =>
    -- The lowest bit of the target is cleared.
    ⟨(regs.read x0 rs1 + imm.signExtend 64) &&& ~~~1#64, regs.write x0 rd (pc + 4), true⟩

end Rv64Insn

/-! ## x86-64 -/

inductive X86Insn
  | nop
  | movImm32 (r : BitVec 3) (imm : BitVec 32)
  | movImm64 (r : BitVec 3) (imm : BitVec 64)
  | call (r : BitVec 3)
  | jmp (r : BitVec 3)
  deriving DecidableEq

namespace X86Insn

def decode (mem : Hw.Memory) (pc : BitVec 64) : Option (X86Insn × Nat) :=
  let op := mem (pc + 1)
  if mem pc = 0x90 then some (nop, 1)
  else if mem pc = 0x41 ∧ op.extractLsb' 3 5 = 0x17 then
    some (movImm32 (op.extractLsb' 0 3) (Hw.fetch 4 mem (pc + 2)), 6)
  else if mem pc = 0x49 ∧ op.extractLsb' 3 5 = 0x17 then
    some (movImm64 (op.extractLsb' 0 3) (Hw.fetch 8 mem (pc + 2)), 10)
  else if mem pc = 0x41 ∧ op = 0xff then
    let modrm := mem (pc + 2)
    if modrm.extractLsb' 3 5 = 0x1a then some (call (modrm.extractLsb' 0 3), 3)
    else if modrm.extractLsb' 3 5 = 0x1c then some (jmp (modrm.extractLsb' 0 3), 3)
    else none
  else none

end X86Insn

end Isa
