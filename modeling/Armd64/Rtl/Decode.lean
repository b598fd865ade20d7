import Armd64.Rtl.Fetch

/-!
# Instruction decode

`poly_ctrl_decode` recognises the Poly control words of the three frontends,
`poly_raw_insn_decode` classifies a raw word, and `poly_frontend_decode_dispatch` feeds both with
the word of the active frontend.
-/

namespace Poly

/-! ## Control words -/

/-- The inputs of `poly_ctrl_decode`. -/
structure CtrlDecode where
  valid : Bool
  frontend : BitVec 2
  insn : BitVec 32

namespace CtrlDecode

def abiSignatureSlotCount : BitVec 7 := 13#7

def x86PcallSigImmBase : BitVec 7 := 0x30#7

def aarch64CallSigImmBase : BitVec 7 := 0x50#7

def riscvCallSigImmBase : BitVec 7 := 0x20#7

variable (d : CtrlDecode)

/-- The bytes `0f 3a fc`, and the sub-operation in the fourth one. -/
def isX86Ctrl : Bool :=
  d.frontend == frontendX86 && d.insn.extractLsb' 0 8 == 0x0f#8 &&
    d.insn.extractLsb' 8 8 == 0x3a#8 && d.insn.extractLsb' 16 8 == 0xfc#8 &&
    d.insn.getLsbD 31 == false

/-- A hint instruction: all bits but `CRm` and `op2` are fixed. -/
def isAarch64Ctrl : Bool :=
  d.frontend == frontendAarch64 && d.insn &&& 0xfffff01f#32 == 0xd503201f#32

/-- The opcode `custom-0`, with the sub-operation in `funct7`. -/
def isRiscvCtrl : Bool :=
  d.frontend == frontendRiscv && d.insn &&& 0x01ffffff#32 == 0x0000700b#32

def decodedSubop : BitVec 7 :=
  if d.isX86Ctrl then d.insn.extractLsb' 24 7
  else if d.isAarch64Ctrl then d.insn.extractLsb' 5 7
  else if d.isRiscvCtrl then d.insn.extractLsb' 25 7
  else 0#7

def polyCtrl : Bool := d.valid && (d.isX86Ctrl || d.isAarch64Ctrl || d.isRiscvCtrl)

def subop : BitVec 7 := if d.polyCtrl then d.decodedSubop else 0#7

/-- The sub-operation names one of the signature slots. -/
def inSlots (base : BitVec 7) : Bool :=
  base.ule d.decodedSubop && d.decodedSubop.ult (base + abiSignatureSlotCount)

/-- A call with an immediate signature slot. -/
def callSigImm : Bool :=
  d.polyCtrl &&
    ((d.isX86Ctrl && d.inSlots x86PcallSigImmBase) ||
      (d.isAarch64Ctrl && d.inSlots aarch64CallSigImmBase) ||
      (d.isRiscvCtrl && d.inSlots riscvCallSigImmBase))

def signatureSlot : BitVec 7 :=
  if d.callSigImm then
    if d.isX86Ctrl then d.decodedSubop - x86PcallSigImmBase
    else if d.isAarch64Ctrl then d.decodedSubop - aarch64CallSigImmBase
    else d.decodedSubop - riscvCallSigImmBase
  else 0#7

end CtrlDecode

/-! ## Raw words -/

/-- The inputs of `poly_raw_insn_decode`. -/
structure RawInsnDecode where
  valid : Bool
  frontend : BitVec 2
  pc : BitVec 64
  insn : BitVec 32

namespace RawInsnDecode

variable (d : RawInsnDecode)

def aarch64Valid : Bool := d.valid && d.frontend == frontendAarch64

def riscvValid : Bool := d.valid && d.frontend == frontendRiscv

def a64LoadStoreGroup : Bool := d.insn.extractLsb' 25 3 == 4#3

/-- The exclusive, ordered and compare-and-swap accesses. The other atomics count as loads or
stores. -/
def a64AtomicGroup : Bool := d.a64LoadStoreGroup && d.insn.extractLsb' 24 6 == 8#6

def a64Barrier : Bool := d.insn &&& 0xfffff01f#32 == 0xd503301f#32

def a64Bl : Bool := d.insn &&& 0xfc000000#32 == 0x94000000#32

/-- The mask leaves bit 31 open, so `BL` is one too. -/
def a64B : Bool := d.insn &&& 0x7c000000#32 == 0x14000000#32

def a64CondB : Bool := d.insn &&& 0xff000010#32 == 0x54000000#32

def a64Br : Bool := d.insn &&& 0xfffffc1f#32 == 0xd61f0000#32

def a64Blr : Bool := d.insn &&& 0xfffffc1f#32 == 0xd63f0000#32

def a64Ret : Bool := d.insn &&& 0xfffffc1f#32 == 0xd65f0000#32

def a64Trap : Bool := d.insn &&& 0xff000000#32 == 0xd4000000#32

def a64MemoryAccessBytes : BitVec 4 := 1#4 <<< d.insn.extractLsb' 30 2

/-- The 26-bit immediate of `B` and `BL`, in words. -/
def a64BOffset : BitVec 64 :=
  BitVec.fill 36 (d.insn.getLsbD 25) ++ d.insn.extractLsb' 0 26 ++ 0#2

/-- An instruction of four bytes. -/
def riscv32 : Bool := d.insn.extractLsb' 0 2 == 3#2

def rvOpcode : BitVec 7 := d.insn.extractLsb' 0 7

def rvRd : BitVec 5 := d.insn.extractLsb' 7 5

def rv16 : BitVec 16 := d.insn.extractLsb' 0 16

def rv16Funct3 : BitVec 3 := d.rv16.extractLsb' 13 3

def rv16Quad : BitVec 2 := d.rv16.extractLsb' 0 2

def rvLoad : Bool :=
  (d.riscv32 && (d.rvOpcode == 0x03#7 || d.rvOpcode == 0x07#7)) ||
    (!d.riscv32 &&
      ((d.rv16Quad == 0#2 &&
          (d.rv16Funct3 == 1#3 || d.rv16Funct3 == 2#3 || d.rv16Funct3 == 3#3)) ||
        (d.rv16Quad == 2#2 &&
          (d.rv16Funct3 == 1#3 || d.rv16Funct3 == 2#3 || d.rv16Funct3 == 3#3))))

def rvStore : Bool :=
  (d.riscv32 && (d.rvOpcode == 0x23#7 || d.rvOpcode == 0x27#7)) ||
    (!d.riscv32 &&
      ((d.rv16Quad == 0#2 &&
          (d.rv16Funct3 == 5#3 || d.rv16Funct3 == 6#3 || d.rv16Funct3 == 7#3)) ||
        (d.rv16Quad == 2#2 &&
          (d.rv16Funct3 == 5#3 || d.rv16Funct3 == 6#3 || d.rv16Funct3 == 7#3))))

def rvAtomic : Bool := d.riscv32 && d.rvOpcode == 0x2f#7

def rvBarrier : Bool := d.riscv32 && d.rvOpcode == 0x0f#7

def rvBranch : Bool :=
  (d.riscv32 && (d.rvOpcode == 0x63#7 || d.rvOpcode == 0x67#7 || d.rvOpcode == 0x6f#7)) ||
    (!d.riscv32 &&
      ((d.rv16Quad == 1#2 &&
          (d.rv16Funct3 == 1#3 || d.rv16Funct3 == 5#3 || d.rv16Funct3 == 6#3 ||
            d.rv16Funct3 == 7#3)) ||
        (d.rv16Quad == 2#2 && d.rv16.extractLsb' 12 4 == 8#4 && d.rv16.extractLsb' 2 5 == 0#5)))

/-- A jump that links to `ra` or `t0`, or `C.JALR`. -/
def rvCall : Bool :=
  (d.riscv32 &&
      ((d.rvOpcode == 0x6f#7 && (d.rvRd == 1#5 || d.rvRd == 5#5)) ||
        (d.rvOpcode == 0x67#7 && (d.rvRd == 1#5 || d.rvRd == 5#5)))) ||
    (!d.riscv32 && d.rv16Quad == 2#2 && d.rv16.extractLsb' 12 4 == 9#4 &&
      d.rv16.extractLsb' 7 5 != 0#5 && d.rv16.extractLsb' 2 5 == 0#5)

def rvReturn : Bool := d.riscv32 && d.insn == 0x00008067#32

def rvTrap : Bool := (d.riscv32 && d.rvOpcode == 0x73#7) || (!d.riscv32 && d.rv16 == 0x9002#16)

/-- The jump `JAL`. -/
def rv32UncondDirect : Bool := d.riscv32 && d.rvOpcode == 0x6f#7

/-- The jump `C.J`, and `funct3` 1, which is `C.ADDIW` on RV64. -/
def rv16UncondDirect : Bool :=
  !d.riscv32 && d.rv16Quad == 1#2 && (d.rv16Funct3 == 1#3 || d.rv16Funct3 == 5#3)

def rvJalOffset : BitVec 64 :=
  BitVec.fill 43 (d.insn.getLsbD 31) ++ d.insn.extractLsb' 31 1 ++ d.insn.extractLsb' 12 8 ++
    d.insn.extractLsb' 20 1 ++ d.insn.extractLsb' 21 10 ++ 0#1

def rv16JOffset : BitVec 64 :=
  BitVec.fill 52 (d.rv16.getLsbD 12) ++ d.rv16.extractLsb' 12 1 ++ d.rv16.extractLsb' 8 1 ++
    d.rv16.extractLsb' 9 2 ++ d.rv16.extractLsb' 6 1 ++ d.rv16.extractLsb' 7 1 ++
    d.rv16.extractLsb' 2 1 ++ d.rv16.extractLsb' 11 1 ++ d.rv16.extractLsb' 3 3 ++ 0#1

/-- The size by `funct3`, whatever the opcode. -/
def rvMemoryAccessBytes : BitVec 4 :=
  if d.riscv32 then
    match d.insn.extractLsb' 12 3 with
    | 0#3 | 4#3 => 1#4
    | 1#3 | 5#3 => 2#4
    | 2#3 | 6#3 => 4#4
    | 3#3 => 8#4
    | _ => 0#4
  else
    match d.rv16Funct3 with
    | 1#3 | 3#3 | 5#3 | 7#3 => 8#4
    | 2#3 | 6#3 => 4#4
    | _ => 0#4

def rawInsnValid : Bool := d.aarch64Valid || d.riscvValid

/-- Bit 22 is the load bit of most AArch64 loads and stores. -/
def memoryLoad : Bool :=
  (d.aarch64Valid && d.a64LoadStoreGroup && !d.a64AtomicGroup && d.insn.getLsbD 22) ||
    (d.riscvValid && d.rvLoad)

def memoryStore : Bool :=
  (d.aarch64Valid && d.a64LoadStoreGroup && !d.a64AtomicGroup && !d.insn.getLsbD 22) ||
    (d.riscvValid && d.rvStore)

def memoryAtomic : Bool := (d.aarch64Valid && d.a64AtomicGroup) || (d.riscvValid && d.rvAtomic)

def memoryBarrier : Bool := (d.aarch64Valid && d.a64Barrier) || (d.riscvValid && d.rvBarrier)

def memoryOrderValid : Bool :=
  d.rawInsnValid && (d.memoryLoad || d.memoryStore || d.memoryAtomic || d.memoryBarrier)

def memoryAccessBytes : BitVec 4 :=
  if d.memoryLoad || d.memoryStore || d.memoryAtomic then
    if d.aarch64Valid then d.a64MemoryAccessBytes else d.rvMemoryAccessBytes
  else 0#4

def call : Bool := (d.aarch64Valid && (d.a64Bl || d.a64Blr)) || (d.riscvValid && d.rvCall)

def returnO : Bool := (d.aarch64Valid && d.a64Ret) || (d.riscvValid && d.rvReturn)

def branch : Bool :=
  (d.aarch64Valid &&
      (d.a64B || d.a64CondB || d.a64Br || d.a64Bl || d.a64Blr || d.a64Ret)) ||
    (d.riscvValid && d.rvBranch)

def trap : Bool := (d.aarch64Valid && d.a64Trap) || (d.riscvValid && d.rvTrap)

/-- Only direct and unconditional branches have their target in the word. -/
def branchTargetValid : Bool :=
  (d.aarch64Valid && (d.a64B || d.a64Bl)) ||
    (d.riscvValid && (d.rv32UncondDirect || d.rv16UncondDirect))

def branchTarget : BitVec 64 :=
  if d.branchTargetValid then
    if d.aarch64Valid && (d.a64B || d.a64Bl) then d.pc + d.a64BOffset
    else if d.riscvValid && d.riscv32 && d.rvOpcode == 0x6f#7 then d.pc + d.rvJalOffset
    else d.pc + d.rv16JOffset
  else 0#64

end RawInsnDecode

/-! ## Dispatch -/

/-- The inputs of `poly_frontend_decode_dispatch`. -/
structure FrontendDecodeDispatch where
  valid : Bool
  frontend : BitVec 2
  pc : BitVec 64
  fetchWord : BitVec 32
  x86FallthroughPc : BitVec 64

namespace FrontendDecodeDispatch

variable (d : FrontendDecodeDispatch)

def rawFetchPlan : RawFetchPlan where
  valid := d.valid
  frontend := d.frontend
  pc := d.pc
  fetchWord := d.fetchWord

def rawFetch : Bool := d.rawFetchPlan.rawFetch

def fetchAddr : BitVec 64 := d.rawFetchPlan.fetchAddr

def fetchBytes : BitVec 3 := d.rawFetchPlan.fetchBytes

def rawAlignFault : Bool := d.rawFetchPlan.alignFault

/-- A raw word is cut to its instruction, an x86 word is taken as it came. -/
def insn : BitVec 32 := if d.rawFetch then d.rawFetchPlan.insn else d.fetchWord

def decodeValid : Bool := d.valid && !d.rawAlignFault

def fallthroughPc : BitVec 64 := if d.rawFetch then d.rawFetchPlan.nextPc else d.x86FallthroughPc

def ctrlDecode : CtrlDecode where
  valid := d.decodeValid
  frontend := d.frontend
  insn := d.insn

def rawInsnDecode : RawInsnDecode where
  valid := d.decodeValid && d.rawFetch
  frontend := d.frontend
  pc := d.pc
  insn := d.insn

end FrontendDecodeDispatch

end Poly
