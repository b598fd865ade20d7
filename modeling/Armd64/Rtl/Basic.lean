import Mathlib.Tactic.Common

/-!
# Frontends, addresses and architectural locations

What the `poly_*` hardware modules share: the two-bit frontend codes, the canonical-address and
alignment checks (each module of the source has its own copy), and the frontend and pc that the
architectural register holds.

An RTL module is a structure with one field for each input port and each register, and each wire and
output port is a function of that structure under the source's name. A port keeps its `I` or `O`
only where the bare name is another signal of the module.
-/

namespace Poly

def frontendX86 : BitVec 2 := 0#2

def frontendAarch64 : BitVec 2 := 1#2

def frontendRiscv : BitVec 2 := 2#2

def frontendValid (f : BitVec 2) : Bool :=
  f == frontendX86 || f == frontendAarch64 || f == frontendRiscv

def frontendRaw (f : BitVec 2) : Bool := f == frontendAarch64 || f == frontendRiscv

def canonical64 (addr : BitVec 64) : Bool :=
  addr.extractLsb' 48 16 == BitVec.fill 16 (addr.getLsbD 47)

/-- The instruction alignment of a frontend (`frontend_aligned`, `aligned_target`,
`aligned_raw_target`). -/
def frontendAligned (f : BitVec 2) (addr : BitVec 64) : Bool :=
  if f = frontendAarch64 then addr.extractLsb' 0 2 == 0#2
  else if f = frontendRiscv then addr.getLsbD 0 == false
  else true

/-- A frontend and a pc: what the architectural register of the core holds. -/
@[ext] structure Loc where
  frontend : BitVec 2
  pc : BitVec 64
  deriving DecidableEq, Repr

/-- The location can be executed: a frontend, and a canonical pc that is aligned for it. -/
def Loc.ok (l : Loc) : Bool :=
  frontendValid l.frontend && canonical64 l.pc && frontendAligned l.frontend l.pc

/-! ## Small facts -/

variable {f : BitVec 2}

theorem frontendValid_iff :
    frontendValid f ↔ f = frontendX86 ∨ f = frontendAarch64 ∨ f = frontendRiscv := by
  simp [frontendValid, or_assoc]

theorem frontendRaw_iff : frontendRaw f ↔ f = frontendAarch64 ∨ f = frontendRiscv := by
  simp [frontendRaw]

@[simp] theorem frontendValid_x86 : frontendValid frontendX86 := rfl

@[simp] theorem frontendRaw_x86 : frontendRaw frontendX86 = false := rfl

theorem eq_x86_of_not_raw (hv : frontendValid f)
    (hr : frontendRaw f = false) : f = frontendX86 := by
  rcases frontendValid_iff.mp hv with h | h | h
  · exact h
  · rw [h] at hr; cases hr
  · rw [h] at hr; cases hr

theorem Loc.ok_iff {l : Loc} :
    l.ok ↔
      frontendValid l.frontend ∧ canonical64 l.pc ∧
        frontendAligned l.frontend l.pc := by
  simp [Loc.ok, and_assoc]

end Poly
