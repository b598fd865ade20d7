import Armd64.Isa.Execution
import Armd64.Rtl.Handoff

/-!
# Execution in the three frontends

A processor runs the instructions of its current frontend. In the x86 frontend the control operation
`PENTER` changes to the frontend whose number is in `R15`, at the next instruction.
-/

namespace Poly

structure Cpu where
  frontend : BitVec 2
  pc : BitVec 64
  regs : Isa.Regs
  x86Regs : BitVec 3 → BitVec 64
  stack : List (BitVec 64)
  entry : Option (BitVec 64)

namespace Cpu

def fetchAlign (frontend : BitVec 2) : Nat :=
  if frontend = frontendAarch64 then 4 else if frontend = frontendRiscv then 2 else 1

/-- `PENTER` with the next instruction at `next`. An unknown frontend and a misaligned entry are
faults. -/
def penter (s : Cpu) (next : BitVec 64) : Option Cpu :=
  let frontend := (s.x86Regs 7).setWidth 2
  if 2 < (s.x86Regs 7).toNat ∨ next.toNat % fetchAlign frontend ≠ 0 then none
  else some { s with frontend, pc := next, entry := some next }

/-- The state after the x86 register `R8 + r` is written and `n` bytes are executed. -/
def x86Write (s : Cpu) (r : BitVec 3) (v : BitVec 64) (n : Nat) : Cpu :=
  { s with x86Regs := fun q => if q = r then v else s.x86Regs q, pc := s.pc + BitVec.ofNat 64 n }

def x86Exec (s : Cpu) (n : Nat) : Isa.X86Insn → Cpu × Bool
  | .nop => ({ s with pc := s.pc + BitVec.ofNat 64 n }, false)
  | .movImm32 r imm => (s.x86Write r (imm.setWidth 64) n, false)
  | .movImm64 r imm => (s.x86Write r imm n, false)
  | .call r =>
    ({ s with pc := s.x86Regs r, stack := (s.pc + BitVec.ofNat 64 n) :: s.stack }, true)
  | .jmp r => ({ s with pc := s.x86Regs r }, true)

def x86Control (mem : Hw.Memory) (pc : BitVec 64) : Prop :=
  mem pc = 0x0f ∧ mem (pc + 1) = 0x3a ∧ mem (pc + 2) = 0xfc

instance (mem : Hw.Memory) (pc : BitVec 64) : Decidable (x86Control mem pc) :=
  inferInstanceAs (Decidable (_ ∧ _ ∧ _))

def x86Step (mem : Hw.Memory) (s : Cpu) : Option (Cpu × Bool) :=
  if x86Control mem s.pc then
    if mem (s.pc + 3) = FrontendHandoff.x86CtrlPenterMode.setWidth 8 then
      (s.penter (s.pc + 4)).map (·, false)
    else none
  else (Isa.X86Insn.decode mem s.pc).map fun (insn, n) => s.x86Exec n insn

/-- The state after an instruction of the AArch64 or RISC-V frontend. -/
def apply (s : Cpu) (e : Isa.Effect) : Cpu × Bool := ({ s with pc := e.pc, regs := e.regs }, e.jumps)

def step (mem : Hw.Memory) (s : Cpu) : Option (Cpu × Bool) :=
  if s.frontend = frontendX86 then s.x86Step mem
  else if s.frontend = frontendAarch64 then
    (Isa.A64Insn.decode (Hw.fetch 4 mem s.pc)).map fun i => s.apply (i.exec s.pc s.regs)
  else if s.frontend = frontendRiscv then
    (Isa.Rv64Insn.decode (Hw.fetch 4 mem s.pc)).map fun i => s.apply (i.exec s.pc s.regs)
  else none

end Cpu

end Poly
