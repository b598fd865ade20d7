import Mathlib.Algebra.Ring.Nat
import Armd64.Isa.ControlFlow

/-!
# The load and store instructions of A64 and RV64GC

The encodings of the instructions that access memory, as the two architectures define them, with
what each does and the bytes of one of its elements. The structure loads of SIMD, and the tag and
64-byte accesses of later extensions, are left out.
-/

namespace Isa

open Hw Hw.Pattern

/-- What an instruction does to memory. An atomic or exclusive access is neither a load nor a store;
a prefetch is no access. -/
inductive MemKind
  | prefetch | load | store | atomic
  deriving DecidableEq, Repr

/-! ## A64 -/

inductive RegMode
  | unscaled | postIndex | unprivileged | preIndex | registerOffset | unsignedOffset
  deriving DecidableEq, Repr

namespace RegMode

def group : RegMode → BitVec 2
  | unsignedOffset => 0b01#2
  | _ => 0b00#2

def operands : RegMode → Pattern 22
  | unscaled => bits 0#1 ++ free 9 ++ bits 0b00#2 ++ free 10
  | postIndex => bits 0#1 ++ free 9 ++ bits 0b01#2 ++ free 10
  | unprivileged => bits 0#1 ++ free 9 ++ bits 0b10#2 ++ free 10
  | preIndex => bits 0#1 ++ free 9 ++ bits 0b11#2 ++ free 10
  | registerOffset => bits 1#1 ++ free 6 ++ bits 1#1 ++ free 2 ++ bits 0b10#2 ++ free 10
  | unsignedOffset => free 22

def prefetches : RegMode → Bool
  | unscaled | registerOffset | unsignedOffset => true
  | _ => false

end RegMode

/-- Loads and stores of A64. `v` selects the SIMD&FP registers; `opc` and `size` are fields of the
encoding. -/
inductive A64Mem
  | reg (v : Bool) (mode : RegMode) (size opc : BitVec 2)
  /-- A pair; `mode` is non-temporal, post-indexed, with an offset or pre-indexed. -/
  | pair (v : Bool) (mode opc : BitVec 2) (load : Bool)
  | literal (v : Bool) (opc : BitVec 2)
  /-- `LDXR`, `STXR` and their forms with acquire, release and pairs. -/
  | exclusive (size : BitVec 2) (two load order : Bool)
  | casp (wide acquire release : Bool)
  | cas (size : BitVec 2) (acquire release : Bool)
  | ordered (size : BitVec 2) (load order : Bool)
  | lse (size : BitVec 2) (acquire release : Bool) (op : BitVec 4)
  /-- `LDAPR`; `LDAPUR`, `STLUR` and the sign-extending loads beside them. -/
  | ldapr (size : BitVec 2)
  | rcpc (size opc : BitVec 2)
  | authenticated
  deriving DecidableEq, Repr

namespace A64Mem

def pattern : A64Mem → Pattern 32
  | reg v mode size opc =>
    bits size ++ bits 0b111#3 ++ bit v ++ bits mode.group ++ bits opc ++ mode.operands
  | pair v mode opc load =>
    bits opc ++ bits 0b101#3 ++ bit v ++ bits 0#1 ++ bits mode ++ bit load ++ free 22
  | literal v opc => bits opc ++ bits 0b011#3 ++ bit v ++ bits 0b00#2 ++ free 24
  | exclusive size two load order =>
    bits size ++ bits 0b001000#6 ++ bits 0#1 ++ bit load ++ bit two ++ free 5 ++ bit order ++
      free 15
  | casp wide acquire release =>
    bits 0#1 ++ bit wide ++ bits 0b001000#6 ++ bits 0#1 ++ bit acquire ++ bits 1#1 ++ free 5 ++
      bit release ++ bits 0b11111#5 ++ free 10
  | cas size acquire release =>
    bits size ++ bits 0b001000#6 ++ bits 1#1 ++ bit acquire ++ bits 1#1 ++ free 5 ++
      bit release ++ bits 0b11111#5 ++ free 10
  | ordered size load order =>
    bits size ++ bits 0b001000#6 ++ bits 1#1 ++ bit load ++ bits 0#1 ++ free 5 ++ bit order ++
      free 15
  | lse size acquire release op =>
    bits size ++ bits 0b111000#6 ++ bit acquire ++ bit release ++ bits 1#1 ++ free 5 ++
      bits op ++ bits 0b00#2 ++ free 10
  | ldapr size =>
    bits size ++ bits 0b111000#6 ++ bits 0b101#3 ++ bits 0b11111#5 ++ bits 0b1100#4 ++
      bits 0b00#2 ++ free 10
  | rcpc size opc =>
    bits size ++ bits 0b011001#6 ++ bits opc ++ bits 0#1 ++ free 9 ++ bits 0b00#2 ++ free 10
  | authenticated =>
    bits 0b11#2 ++ bits 0b111000#6 ++ free 2 ++ bits 1#1 ++ free 10 ++ bits 1#1 ++ free 10

def allocated : A64Mem → Bool
  | reg false mode size opc =>
    match opc with
    | 0b00#2 | 0b01#2 => true
    | 0b10#2 => size != 3#2 || mode.prefetches
    | _ => size.ult 2#2
  | reg true mode size opc => mode != .unprivileged && (opc.ult 2#2 || size == 0#2)
  | pair false mode opc load =>
    opc == 0b00#2 || opc == 0b10#2 || (opc == 0b01#2 && load && mode != 0#2)
  | pair true _ opc _ => opc != 3#2
  | literal v opc => !v || opc != 3#2
  | exclusive size two _ _ => !two || (2#2).ule size
  | casp _ _ _ | cas _ _ _ | ordered _ _ _ | ldapr _ | authenticated => true
  | lse _ _ _ op => op.ule 8#4
  | rcpc size opc =>
    match opc with
    | 0b00#2 | 0b01#2 => true
    | 0b10#2 => size != 3#2
    | _ => size.ult 2#2

/-- What the instruction does. `opc` 2 is a sign-extending load, or a prefetch for the size that
needs no extension. -/
def kind : A64Mem → MemKind
  | reg false _ size opc =>
    match opc with
    | 0b00#2 => .store
    | 0b10#2 => if size = 3#2 then .prefetch else .load
    | _ => .load
  | reg true _ _ opc => if opc.getLsbD 0 then .load else .store
  | pair _ _ _ load => if load then .load else .store
  | literal v opc => if !v && opc == 3#2 then .prefetch else .load
  | exclusive _ _ _ _ | casp _ _ _ | cas _ _ _ | lse _ _ _ _ => .atomic
  | ordered _ load _ => if load then .load else .store
  | ldapr _ | authenticated => .load
  | rcpc _ opc => if opc = 0b00#2 then .store else .load

def bytes : A64Mem → Nat
  | reg false _ size opc => if opc = 0b10#2 ∧ size = 3#2 then 0 else 2 ^ size.toNat
  | reg true _ size opc => if opc.getLsbD 1 then 16 else 2 ^ size.toNat
  | pair false _ opc _ => if opc = 0b10#2 then 8 else 4
  | pair true _ opc _ => 4 * 2 ^ opc.toNat
  | literal false opc =>
    match opc with
    | 0b01#2 => 8
    | 0b11#2 => 0
    | _ => 4
  | literal true opc => 4 * 2 ^ opc.toNat
  | casp wide _ _ => if wide then 8 else 4
  | exclusive size _ _ _ | cas size _ _ | ordered size _ _ | lse size _ _ _ | ldapr size
  | rcpc size _ => 2 ^ size.toNat
  | authenticated => 8

def fits (m : A64Mem) (w : BitVec 32) : Bool := m.allocated && m.pattern.fits w

end A64Mem

/-! ## RV64GC -/

/-- The memory instructions of RV64GC: opcode and funct3 of a 32-bit instruction, quadrant and
funct3 of a compressed one. -/
inductive Rv64Code
  | word (op : BitVec 7) (f3 : BitVec 3)
  | half (quad : BitVec 2) (f3 : BitVec 3)
  deriving DecidableEq, Repr

def Rv64Code.fits : Rv64Code → BitVec 32 → Bool
  | word op f3, w => opcode w == op && funct3 w == f3
  | half quad f3, w => quadrant w == quad && compressedFunct3 w == f3

def Rv64Code.quad : Rv64Code → BitVec 2
  | word op _ => op.extractLsb' 0 2
  | half quad _ => quad

theorem Rv64Code.quadrant_of_fits {c : Rv64Code} {w : BitVec 32} (h : c.fits w) :
    quadrant w = c.quad := by
  cases c with
  | word op f3 =>
    rw [fits, Bool.and_eq_true, beq_iff_eq] at h
    rw [quadrant_eq_opcode, h.1, quad]
  | half q f3 =>
    rw [fits, Bool.and_eq_true, beq_iff_eq] at h
    exact h.1

inductive AmoOp
  | lr | sc | swap | add | xor | and | or | min | max | minu | maxu
  deriving DecidableEq, Repr

def AmoOp.funct5 : AmoOp → BitVec 5
  | lr => 0b00010#5
  | sc => 0b00011#5
  | swap => 0b00001#5
  | add => 0b00000#5
  | xor => 0b00100#5
  | and => 0b01100#5
  | or => 0b01000#5
  | min => 0b10000#5
  | max => 0b10100#5
  | minu => 0b11000#5
  | maxu => 0b11100#5

inductive Rv64Mem
  | lb | lh | lw | ld | lbu | lhu | lwu | flw | fld
  | sb | sh | sw | sd | fsw | fsd
  | amo (op : AmoOp) (wide : Bool)
  | cLw | cLd | cFld | cSw | cSd | cFsd
  | cLwsp | cLdsp | cFldsp | cSwsp | cSdsp | cFsdsp
  deriving DecidableEq, Repr

namespace Rv64Mem

def code : Rv64Mem → Rv64Code
  | lb => .word 0x03 0
  | lh => .word 0x03 1
  | lw => .word 0x03 2
  | ld => .word 0x03 3
  | lbu => .word 0x03 4
  | lhu => .word 0x03 5
  | lwu => .word 0x03 6
  | flw => .word 0x07 2
  | fld => .word 0x07 3
  | sb => .word 0x23 0
  | sh => .word 0x23 1
  | sw => .word 0x23 2
  | sd => .word 0x23 3
  | fsw => .word 0x27 2
  | fsd => .word 0x27 3
  | amo _ wide => .word 0x2f (if wide then 3 else 2)
  | cFld => .half 0 1
  | cLw => .half 0 2
  | cLd => .half 0 3
  | cFsd => .half 0 5
  | cSw => .half 0 6
  | cSd => .half 0 7
  | cFldsp => .half 2 1
  | cLwsp => .half 2 2
  | cLdsp => .half 2 3
  | cFsdsp => .half 2 5
  | cSwsp => .half 2 6
  | cSdsp => .half 2 7

/-- The other fields: the operation of an atomic instruction (`LR` has no second source), and a
destination other than 0 for loads from the stack. -/
def operands : Rv64Mem → BitVec 32 → Bool
  | amo op _, w => w.extractLsb' 27 5 == op.funct5 && (op != .lr || w.extractLsb' 20 5 == 0#5)
  | cLwsp, w | cLdsp, w => compressedRs1 w != 0#5
  | _, _ => true

def fits (m : Rv64Mem) (w : BitVec 32) : Bool := m.code.fits w && m.operands w

def kind : Rv64Mem → MemKind
  | lb | lh | lw | ld | lbu | lhu | lwu | flw | fld | cLw | cLd | cFld | cLwsp | cLdsp | cFldsp =>
    .load
  | sb | sh | sw | sd | fsw | fsd | cSw | cSd | cFsd | cSwsp | cSdsp | cFsdsp => .store
  | amo _ _ => .atomic

def bytes : Rv64Mem → Nat
  | lb | lbu | sb => 1
  | lh | lhu | sh => 2
  | lw | lwu | flw | sw | fsw | cLw | cSw | cLwsp | cSwsp => 4
  | ld | fld | sd | fsd | cLd | cFld | cSd | cFsd | cLdsp | cFldsp | cSdsp | cFsdsp => 8
  | amo _ wide => if wide then 8 else 4

end Rv64Mem

end Isa
