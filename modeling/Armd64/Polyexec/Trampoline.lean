import Armd64.Abi.Layout
import Armd64.Lib.Code
import Armd64.Lib.Layout
import Armd64.Polyexec.ElfSymbols
import Armd64.Rtl.Handoff

/-!
# Entry trampolines (`polyexec.c`)

The runtime enters a program through a few instructions that it writes in front of the image. For a
program of another architecture they change the frontend, load the link register with the address of
the code that leaves the frontend again, and jump to the program.
-/

namespace Poly.Polyexec

def frontendOf : Abi.Arch → BitVec 32
  | .x86 => 0
  | .aarch64 => 1
  | .riscv => 2

/-! ## Emitters -/

def emitU32 (value : BitVec 32) : List (BitVec 8) := Hw.toBytes 4 value

def emitU64 (value : BitVec 64) : List (BitVec 8) := Hw.toBytes 8 value

def emitX86PolyControl (subop : BitVec 8) : List (BitVec 8) := [0x0f, 0x3a, 0xfc, subop]

def x86PenterBaseSize : Nat := 10

def x86TrampolineSize : Nat := 14

def polyFrontendEntryAlignment : Abi.Arch → Nat
  | .aarch64 | .riscv => 4
  | .x86 => 1

def x86PenterFrontendMaxSize (frontend : Abi.Arch) : Nat :=
  let align := polyFrontendEntryAlignment frontend
  x86PenterBaseSize + if 1 < align then align - 1 else 0

/-- The padding that `x86_penter_frontend_size_for_code` adds for code at address `code + offset`. -/
def x86PenterPad (code : BitVec 64) (offset : Nat) (frontend : Abi.Arch) : Nat :=
  let align := polyFrontendEntryAlignment frontend
  let target := code + BitVec.ofNat 64 offset + BitVec.ofNat 64 x86PenterBaseSize
  if 1 < align then
    ((BitVec.ofNat 64 align - (target &&& BitVec.ofNat 64 (align - 1))) &&&
      BitVec.ofNat 64 (align - 1)).toNat
  else 0

def x86PenterFrontendSizeForCode (code : BitVec 64) (offset : Nat) (frontend : Abi.Arch) : Nat :=
  x86PenterBaseSize + x86PenterPad code offset frontend

def emitX86EntryAlignment (code : BitVec 64) (offset : Nat) (frontend : Abi.Arch) :
    List (BitVec 8) :=
  List.replicate (x86PenterFrontendSizeForCode code offset frontend - x86PenterBaseSize) 0x90

def emitX86PenterFrontend (code : BitVec 64) (offset : Nat) (frontend : Abi.Arch) :
    List (BitVec 8) :=
  emitX86EntryAlignment code offset frontend ++ ([0x41, 0xbf] ++ emitU32 (frontendOf frontend)) ++
    emitX86PolyControl (FrontendHandoff.x86CtrlPenterMode.setWidth 8)

def emitX86MovabsR11 (value : BitVec 64) : List (BitVec 8) := [0x49, 0xbb] ++ emitU64 value

def aarch64Adr (rd : BitVec 32) (byteOffset : BitVec 64) : BitVec 32 :=
  let imm := byteOffset.setWidth 32 &&& 0x1fffff
  0x10000000 ||| ((imm &&& 0x3) <<< 29) ||| (((imm >>> 2) &&& 0x7ffff) <<< 5) ||| (rd &&& 0x1f)

/-- One instruction of `emit_aarch64_movabs`: `op` with 16 bits of the value. -/
def aarch64MovWide (op rd : BitVec 32) (value : BitVec 64) : BitVec 32 :=
  op ||| ((value.setWidth 32 &&& 0xffff) <<< 5) ||| (rd &&& 0x1f)

def emitAarch64Movabs (rd : BitVec 32) (value : BitVec 64) : List (BitVec 8) :=
  emitU32 (aarch64MovWide 0xd2800000 rd value) ++
    emitU32 (aarch64MovWide 0xf2a00000 rd (value >>> 16)) ++
    emitU32 (aarch64MovWide 0xf2c00000 rd (value >>> 32)) ++
    emitU32 (aarch64MovWide 0xf2e00000 rd (value >>> 48))

/-- The upper part of an offset in `riscv_auipc` and `riscv_addi`, rounded for the lower part. -/
def riscvHi20 (byteOffset : BitVec 64) : BitVec 64 := (byteOffset + 0x800).sshiftRight 12

def riscvAuipc (rd : BitVec 32) (byteOffset : BitVec 64) : BitVec 32 :=
  (((riscvHi20 byteOffset).setWidth 32 &&& 0xfffff) <<< 12) ||| ((rd &&& 0x1f) <<< 7) ||| 0x17

def riscvAddi (rd rs1 : BitVec 32) (byteOffset : BitVec 64) : BitVec 32 :=
  let lo12 := byteOffset - riscvHi20 byteOffset <<< 12
  ((lo12.setWidth 32 &&& 0xfff) <<< 20) ||| ((rs1 &&& 0x1f) <<< 15) ||| ((rd &&& 0x1f) <<< 7) |||
    0x13

def riscvJalr (rd rs1 : BitVec 32) (byteOffset : BitVec 16) : BitVec 32 :=
  ((byteOffset.signExtend 32 &&& 0xfff) <<< 20) ||| ((rs1 &&& 0x1f) <<< 15) |||
    ((rd &&& 0x1f) <<< 7) ||| 0x67

/-! ## The trampoline -/

/-- Where the program's frontend starts in the trampoline at `code`. -/
def rawEntry (arch : Abi.Arch) (code : BitVec 64) : BitVec 64 :=
  code + BitVec.ofNat 64 (emitX86PenterFrontend code 0 arch).length

/-- The instructions of `emit_poly_trampoline`, before the padding. -/
def trampolineCode (arch : Abi.Arch) (code returnPc targetPc : BitVec 64) (tailEntry : Bool) :
    List (BitVec 8) :=
  match arch with
  | .aarch64 =>
    emitX86PenterFrontend code 0 .aarch64 ++
      (emitU32 (aarch64Adr 30 (returnPc - rawEntry .aarch64 code)) ++
        (emitAarch64Movabs 16 targetPc ++ emitU32 0xd61f0200))
  | .riscv =>
    let escapeOffset := returnPc - rawEntry .riscv code
    let targetOffset := targetPc - (rawEntry .riscv code + 8)
    emitX86PenterFrontend code 0 .riscv ++
      (emitU32 (riscvAuipc 1 escapeOffset) ++ (emitU32 (riscvAddi 1 1 escapeOffset) ++
        (emitU32 (riscvAuipc 5 targetOffset) ++ (emitU32 (riscvAddi 5 5 targetOffset) ++
          emitU32 (riscvJalr 0 5 0)))))
  | .x86 =>
    emitX86MovabsR11 targetPc ++ [0x41, 0xff, if tailEntry then 0xe3 else 0xd3] ++
      [if tailEntry then 0x90 else 0xc3]

def emitPolyTrampoline (arch : Abi.Arch) (code prefixSize returnPc targetPc : BitVec 64)
    (tailEntry : Bool) : Option (List (BitVec 8)) :=
  let bytes := trampolineCode arch code returnPc targetPc tailEntry
  let padded := bytes ++ List.replicate (prefixSize.toNat - bytes.length) 0x90
  if padded.length = prefixSize.toNat then some padded else none

def polyTrampolinePrefixSize : Abi.Arch → Nat
  | .aarch64 => x86PenterFrontendMaxSize .aarch64 + 4 + 20
  | .riscv => x86PenterFrontendMaxSize .riscv + 8 + 12
  | .x86 => x86TrampolineSize

/-! ## The call in `emit_and_run` -/

structure EntryMapping where
  arch : Abi.Arch
  mapping : BitVec 64
  codeSize : Nat
  codeSize_le : codeSize ≤ maxProgramBytes
  entryOffset : BitVec 64

namespace EntryMapping

variable (m : EntryMapping)

def prefixSize : BitVec 64 := BitVec.ofNat 64 (polyTrampolinePrefixSize m.arch)

def code : BitVec 64 := m.mapping + (4096 - m.prefixSize)

def imageMappingSize : Nat :=
  Hw.alignUp 0x1000 (m.codeSize + if m.arch = .x86 then 1 else 5)

def returnPc : BitVec 64 := m.mapping + (4096 + BitVec.ofNat 64 m.imageMappingSize)

def entryPc : BitVec 64 := m.mapping + 4096 + m.entryOffset

def emit : Option (List (BitVec 8)) :=
  emitPolyTrampoline m.arch m.code m.prefixSize m.returnPc m.entryPc false

end EntryMapping

end Poly.Polyexec
