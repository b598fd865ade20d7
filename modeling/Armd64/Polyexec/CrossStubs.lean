import Armd64.Lib.Attempt
import Armd64.Lib.Emit
import Armd64.Polyexec.Relocations
import Armd64.Polyexec.Tls

/-!
# Stubs for calls between architectures (`polyexec.c`)

A call from code of one architecture to code of another goes through a stub, which changes the
frontend and moves what the two calling conventions have in different places. The stubs of a process
are in one arena, one after the other. A stub that calls x86 code may call it through a wrapper,
which sets the base of thread-local storage.
-/

namespace Poly.Polyexec

open Hw (Traced Attempt emitAt storeAt)

/-! ## Kinds of bridges -/

namespace ProcessBridge

def isCompact (kind : ProcessBridge) : Bool := [compactU32F32, compactF32U32].contains kind

def isAarch64Hfa32Ret (kind : ProcessBridge) : Bool :=
  [aarch64Hfa3F32Ret, aarch64Hfa4F32Ret].contains kind

def isAarch64Hfa64Ret (kind : ProcessBridge) : Bool :=
  [aarch64Hfa3F64Ret, aarch64Hfa4F64Ret].contains kind

def isAarch64Hfa64Arg (kind : ProcessBridge) : Bool :=
  [aarch64Hfa3F64Arg, aarch64Hfa4F64Arg].contains kind

def aarch64Hfa64RetCount (kind : ProcessBridge) : Nat := if kind = aarch64Hfa4F64Ret then 4 else 3

def aarch64Hfa64ArgCount (kind : ProcessBridge) : Nat := if kind = aarch64Hfa4F64Arg then 4 else 3

def isAarch64Hfa32Arg (kind : ProcessBridge) : Bool :=
  [aarch64Hfa3F32Arg, aarch64Hfa4F32Arg].contains kind

def isFpair (kind : ProcessBridge) : Bool :=
  [fpair32Arg, fpair64Arg, fpair32Ret, fpair64Ret].contains kind

def isFpair32 (kind : ProcessBridge) : Bool := [fpair32Arg, fpair32Ret].contains kind

def isFpair64 (kind : ProcessBridge) : Bool := [fpair64Arg, fpair64Ret].contains kind

def isSret (kind : ProcessBridge) : Bool := kind == sretX86Sysv

def isNativeSret (kind : ProcessBridge) : Bool := kind == nativeSret

def isX86SourceSignature (kind : ProcessBridge) : Bool :=
  kind.isAarch64Hfa32Ret || kind.isAarch64Hfa64Ret || kind.isAarch64Hfa32Arg || kind.isFpair ||
    kind.isSret

def needsForeignSignatureSet (caller callee : Abi.Arch) (kind : ProcessBridge) : Bool :=
  caller != .x86 && callee == .x86 && kind.isFpair

def isDirectForeignFpair (caller callee : Abi.Arch) (kind : ProcessBridge) : Bool :=
  caller != .x86 && callee != .x86 && caller != callee && kind.isFpair

/-- `poly_abi_descriptor_signature_kind`, without a number for the kinds that have none. -/
def descriptorSignatureKind : ProcessBridge → Option (BitVec 32)
  | vec128U32 => some 6
  | compactU32F32 => some 7
  | compactF32U32 => some 8
  | fp64 => some 9
  | fp32 => some 10
  | aarch64Hfa3F32Ret => some 22
  | aarch64Hfa4F32Ret => some 23
  | fpair32Arg => some 14
  | fpair64Arg => some 20
  | fpair32Ret => some 13
  | fpair64Ret => some 19
  | aarch64Hfa3F32Arg => some 24
  | aarch64Hfa4F32Arg => some 25
  | sretX86Sysv => some 11
  | nativeSret => some 26
  | aarch64Hfa3F64Ret => some 27
  | aarch64Hfa4F64Ret => some 28
  | default | u64Stack9 => some 4
  | aarch64Hfa3F64Arg | aarch64Hfa4F64Arg => none

def signatureKind (kind : ProcessBridge) : Option (BitVec 32) :=
  if [aarch64Hfa3F32Ret, aarch64Hfa4F32Ret, aarch64Hfa3F64Ret, aarch64Hfa4F64Ret, aarch64Hfa3F32Arg,
      aarch64Hfa4F32Arg, fpair32Arg, fpair64Arg, fpair32Ret, fpair64Ret, sretX86Sysv,
      nativeSret].contains kind then kind.descriptorSignatureKind
  else none

end ProcessBridge

def abiSignatureSlots : Nat := 13

/-- `poly_abi_signature_register_map`. The kinds from 2 on have the maps from 1 on. -/
def abiSignatureRegisterMap (kind : BitVec 32) : BitVec 32 :=
  if kind = 0 then 0
  else if 2 ≤ kind.toNat ∧ kind.toNat ≤ 28 then kind - 1
  else BitVec.allOnes 32

def abiSignatureControlValue (kind : BitVec 32) : BitVec 64 :=
  let registerMap := abiSignatureRegisterMap kind
  if registerMap = BitVec.allOnes 32 then kind.setWidth 64
  else kind.setWidth 64 ||| registerMap.setWidth 64 <<< 32

/-! ## Emitters -/

def emitX86MovabsRax (value : BitVec 64) : List (BitVec 8) := [0x48, 0xb8] ++ emitU64 value

def emitX86MovabsRbx (value : BitVec 64) : List (BitVec 8) := [0x48, 0xbb] ++ emitU64 value

def emitX86MovR15dImm (value : BitVec 32) : List (BitVec 8) := [0x41, 0xbf] ++ emitU32 value

def emitX86PcallSigImm (frontend signatureSlot : BitVec 32) : List (BitVec 8) :=
  emitX86MovR15dImm frontend ++ emitX86PolyControl ((0x30 + signatureSlot).setWidth 8)

def emitX86PreserveSretPtrRax : List (BitVec 8) := [0x48, 0x89, 0xf8]

def emitX86StoreHfa64ReturnToSret (count : Nat) : List (BitVec 8) :=
  (List.range count).flatMap fun n =>
    [0xf2, 0x0f, 0x11, BitVec.ofNat 8 (0x40 + n <<< 3), BitVec.ofNat 8 (n * 8)]

def emitX86LoadHfa64ArgFromStack (count : Nat) : List (BitVec 8) :=
  [0xf2, 0x0f, 0x10, BitVec.ofNat 8 (0xc0 + count <<< 3)] ++
    (List.range count).flatMap fun n =>
      [0xf2, 0x0f, 0x10, BitVec.ofNat 8 (0x44 + n <<< 3), 0x24, BitVec.ofNat 8 (32 + n * 8)]

def emitX86AbiSignatureSet (slot kind : BitVec 32) : List (BitVec 8) :=
  [0x50, 0x52, 0xb8] ++ emitU32 slot ++ [0x48, 0xba] ++ emitU64 (abiSignatureControlValue kind) ++
    emitX86PolyControl 0x69 ++ [0x5a, 0x58]

/-- The instructions that set the base of `fs` to `rsi`: `arch_prctl(ARCH_SET_FS, rsi)`. -/
def emitX86ArchSetFs : List (BitVec 8) :=
  [0xb8] ++ emitU32 158 ++ [0xbf] ++ emitU32 0x1002 ++ [0x0f, 0x05]

def emitX86SetFsFromGlobal (globalAddr : BitVec 64) : List (BitVec 8) :=
  emitX86MovabsRax globalAddr ++ [0x48, 0x8b, 0x30] ++ emitX86ArchSetFs

def aarch64LsrImm (rd rn shift : BitVec 32) : BitVec 32 :=
  0xd340fc00 ||| ((shift &&& 63) <<< 16) ||| (rn <<< 5) ||| rd

def aarch64LslImm (rd rn shift : BitVec 32) : BitVec 32 :=
  0xd3400000 ||| (((64 - shift) &&& 63) <<< 16) ||| ((63 - shift) <<< 10) ||| (rn <<< 5) ||| rd

def aarch64OrrReg (rd rn rm : BitVec 32) : BitVec 32 :=
  0xaa000000 ||| (rm <<< 16) ||| (rn <<< 5) ||| rd

def aarch64FmovSFromW (rd rn : BitVec 32) : BitVec 32 := 0x1e270000 ||| (rn <<< 5) ||| rd

def aarch64FmovWFromS (rd rn : BitVec 32) : BitVec 32 := 0x1e260000 ||| (rn <<< 5) ||| rd

def riscvSrli (rd rs1 shamt : BitVec 32) : BitVec 32 :=
  0x00005013 ||| ((shamt &&& 63) <<< 20) ||| (rs1 <<< 15) ||| (rd <<< 7)

def riscvSlli (rd rs1 shamt : BitVec 32) : BitVec 32 :=
  0x00001013 ||| ((shamt &&& 63) <<< 20) ||| (rs1 <<< 15) ||| (rd <<< 7)

def riscvOr (rd rs1 rs2 : BitVec 32) : BitVec 32 :=
  0x00006033 ||| (rs2 <<< 20) ||| (rs1 <<< 15) ||| (rd <<< 7)

def riscvFmvXW (rd rs1 : BitVec 32) : BitVec 32 := 0xe0000053 ||| (rs1 <<< 15) ||| (rd <<< 7)

def riscvFmvWX (rd rs1 : BitVec 32) : BitVec 32 := 0xf0000053 ||| (rs1 <<< 15) ||| (rd <<< 7)

def riscvLd (rd rs1 : BitVec 32) (byteOffset : BitVec 16) : BitVec 32 :=
  ((byteOffset.signExtend 32 &&& 0xfff) <<< 20) ||| ((rs1 &&& 0x1f) <<< 15) ||| (3 <<< 12) |||
    ((rd &&& 0x1f) <<< 7) ||| 0x03

def riscvSd (rs2 rs1 : BitVec 32) (byteOffset : BitVec 16) : BitVec 32 :=
  let imm := byteOffset.signExtend 32 &&& 0xfff
  ((imm >>> 5) <<< 25) ||| ((rs2 &&& 0x1f) <<< 20) ||| ((rs1 &&& 0x1f) <<< 15) ||| (3 <<< 12) |||
    ((imm &&& 0x1f) <<< 7) ||| 0x23

def emitAarch64AbiSignatureSet (slot kind : BitVec 32) : List (BitVec 8) :=
  emitAarch64Movabs 0 (slot.setWidth 64) ++ emitAarch64Movabs 1 (abiSignatureControlValue kind) ++
    emitU32 (aarch64CtrlEncoding 0x7c)

def emitRiscvAbiSignatureSet (slot kind : BitVec 32) : List (BitVec 8) :=
  emitU32 (riscvAddi 10 0 (slot.setWidth 64)) ++
    emitU32 (riscvAddi 11 0 ((abiSignatureRegisterMap kind).setWidth 64)) ++
    emitU32 (riscvSlli 11 11 32) ++ emitU32 (riscvAddi 28 0 (kind.setWidth 64)) ++
    emitU32 (riscvOr 11 11 28) ++ emitU32 (riscvCtrlEncoding 12)

def emitAarch64CompactPrePcall : ProcessBridge → List (BitVec 8)
  | .compactU32F32 => emitU32 (aarch64LsrImm 9 0 32) ++ emitU32 (aarch64FmovSFromW 0 9)
  | .compactF32U32 => emitU32 (aarch64FmovSFromW 0 0) ++ emitU32 (aarch64LsrImm 0 0 32)
  | _ => []

def emitAarch64CompactPostPcall : ProcessBridge → List (BitVec 8)
  | .compactU32F32 => emitU32 (aarch64FmovWFromS 9 0) ++ emitU32 (aarch64LslImm 9 9 32) ++
      emitU32 (aarch64OrrReg 0 0 9)
  | .compactF32U32 => emitU32 (aarch64FmovWFromS 9 0) ++ emitU32 (aarch64LslImm 0 0 32) ++
      emitU32 (aarch64OrrReg 0 0 9)
  | _ => []

def emitRiscvCompactPrePcall : ProcessBridge → List (BitVec 8)
  | .compactU32F32 => emitU32 (riscvFmvXW 28 10) ++ emitU32 (riscvSlli 28 28 32) ++
      emitU32 (riscvOr 10 10 28)
  | .compactF32U32 => emitU32 (riscvFmvXW 28 10) ++ emitU32 (riscvSlli 10 10 32) ++
      emitU32 (riscvOr 10 10 28)
  | _ => []

def emitRiscvCompactPostPcall : ProcessBridge → List (BitVec 8)
  | .compactU32F32 => emitU32 (riscvSrli 28 10 32) ++ emitU32 (riscvFmvWX 10 28)
  | .compactF32U32 => emitU32 (riscvFmvWX 10 10) ++ emitU32 (riscvSrli 10 10 32)
  | _ => []

/-! ## Code in the arena -/

def processCrossStubBytes : Nat := 64 * 1024

abbrev CodeWrite := Hw.Write (BitVec 8)

def alignOffset8 (offset : Nat) : Option Nat :=
  (alignUpSize (BitVec.ofNat 64 offset) 8).map (·.toNat)

def roomAfter (size offset : Nat) : Nat := (BitVec.ofNat 64 size - BitVec.ofNat 64 offset).toNat

structure StubHost where
  needsX86TlsWrapper : Bool
  /-- The addresses of `process_runtime_x86_tls_base` and `process_runtime_host_fs_base`. -/
  x86TlsBaseAddr : BitVec 64
  hostFsBaseAddr : BitVec 64
  /-- `process_native_signature_slot`, `process_fp32_signature_slot`,
  `process_fp64_signature_slot`. -/
  nativeSignatureSlot : BitVec 32
  fp32SignatureSlot : BitVec 32
  fp64SignatureSlot : BitVec 32

structure StubRequest where
  caller : Abi.Arch
  callee : Abi.Arch
  target : BitVec 64
  bridge : ProcessBridge
  signatureSlot : BitVec 32

/-- The code that tests the base of thread-local storage, up to the operand of its `jz`. -/
def x86TestTlsBase (host : StubHost) : List (BitVec 8) :=
  emitX86MovabsRax host.x86TlsBaseAddr ++ [0x48, 0x8b, 0x30, 0x48, 0x85, 0xf6, 0x74]

/-- The code of `emit_process_x86_tls_call_wrapper`. The operands of its two jumps are written when
their targets are known. -/
def x86TlsCallWrapper (host : StubHost) (kind : ProcessBridge) (target : BitVec 64)
    (start : Nat) : Traced CodeWrite Nat := do
  let skipSetDisp ← emitAt
    ([0x41, 0x53, 0x57, 0x56, 0x52, 0x51, 0x41, 0x50, 0x41, 0x51] ++ x86TestTlsBase host) start
  let offset ← emitAt emitX86ArchSetFs (skipSetDisp + 1)
  storeAt skipSetDisp [BitVec.ofNat 8 (offset - (skipSetDisp + 1))]
  let skipRestoreDisp ← emitAt
    ([0x41, 0x59, 0x41, 0x58, 0x59, 0x5a, 0x5e, 0x5f, 0x41, 0x5b] ++
      (if kind = .u64Stack9 then
        [0x48, 0x83, 0xec, 0x18, 0x4d, 0x8b, 0x13, 0x4c, 0x89, 0x14, 0x24, 0x4d, 0x8b, 0x53, 0x08,
          0x4c, 0x89, 0x54, 0x24, 0x08, 0x4d, 0x8b, 0x53, 0x10, 0x4c, 0x89, 0x54, 0x24, 0x10]
      else []) ++
      emitX86MovabsR11 target ++ [0x41, 0xff, 0xd3] ++
      (if kind = .u64Stack9 then [0x48, 0x83, 0xc4, 0x18] else []) ++
      [0x50, 0x52] ++ x86TestTlsBase host) offset
  let offset ← emitAt (emitX86SetFsFromGlobal host.hostFsBaseAddr) (skipRestoreDisp + 1)
  storeAt skipRestoreDisp [BitVec.ofNat 8 (offset - (skipRestoreDisp + 1))]
  emitAt [0x5a, 0x58, 0xc3] offset

def emitSignatureSet (needed : Bool) (kind : ProcessBridge) (code : BitVec 32 → List (BitVec 8))
    (offset : Nat) : Traced CodeWrite Nat :=
  if needed then
    match kind.signatureKind with
    | none => .fail
    | some signatureKind => emitAt (code signatureKind) offset
  else pure offset

/-- `emit_aarch64_pcall_sig` and `emit_riscv_pcall_sig`, with the encoding of the call. -/
def emitPcallSig (encoding : BitVec 32 → BitVec 32) (signatureSlot : BitVec 32) (offset : Nat) :
    Traced CodeWrite Nat :=
  if signatureSlot.toNat < abiSignatureSlots then
    emitAt (emitU32 (encoding signatureSlot)) offset
  else .fail

/-- The nine integer arguments of an x86 caller, where the exchange registers have them. -/
def x86Stack9Arguments : List (BitVec 8) :=
  [0x4c, 0x8b, 0x64, 0x24, 0x38, 0x4c, 0x8d, 0x9c, 0x24] ++ emitU32 0xffffc000 ++
    [0x49, 0x83, 0xe3, 0xf0, 0x4d, 0x89, 0x23, 0x49, 0x89, 0xcb, 0x49, 0x89, 0xd4, 0x48, 0x89, 0xf8,
      0x48, 0x89, 0xf2, 0x4c, 0x89, 0xe1, 0x4c, 0x89, 0xdf, 0x4c, 0x89, 0xc6, 0x4d, 0x89, 0xc8,
      0x4c, 0x8b, 0x4c, 0x24, 0x28, 0x4c, 0x8b, 0x54, 0x24, 0x30]

/-- The stub for an x86 caller, at address `code`. `state_key` is 0 for any caller. -/
def x86Stub (code : Nat) (callee : Abi.Arch) (kind : ProcessBridge) (target : BitVec 64)
    (signatureSlot : BitVec 32) (start : Nat) : Traced CodeWrite Nat := do
  let stack9 := kind = .u64Stack9
  let offset ← emitAt
    ([0x53] ++ (if stack9 then [0x41, 0x54] else []) ++
      [0x41, 0x57, 0x48, 0x83, 0xec, 0x08, 0x50, 0x58] ++
      if stack9 then x86Stack9Arguments else []) start
  -- `POLY_ABI_SIGNATURE_SLOT_EXCHANGE`
  let signatureSlot := if stack9 then 0 else signatureSlot
  let offset ← emitSignatureSet kind.isX86SourceSignature kind
    (emitX86AbiSignatureSet signatureSlot)
    offset
  let offset ← emitAt
    ((if kind.isAarch64Hfa64Arg then emitX86LoadHfa64ArgFromStack kind.aarch64Hfa64ArgCount
      else []) ++
      (if kind.isAarch64Hfa64Ret then emitX86PreserveSretPtrRax else []) ++
      emitX86MovabsRbx target) offset
  let returnImmOffset := offset + 2
  let offset ← emitAt
    (emitX86MovabsR11 0 ++ emitX86PcallSigImm (frontendOf callee) signatureSlot) offset
  let returnAddr := BitVec.ofNat 64 (code + offset)
  let offset ← emitAt
    ((if kind.isAarch64Hfa64Ret then emitX86StoreHfa64ReturnToSret kind.aarch64Hfa64RetCount
      else []) ++
      [0x48, 0x83, 0xc4, 0x08, 0x41, 0x5f] ++ (if stack9 then [0x41, 0x5c] else []) ++
      [0x5b, 0xc3]) offset
  storeAt returnImmOffset (emitU64 returnAddr)
  pure offset

def aarch64Stub (code : Nat) (callee : Abi.Arch) (kind : ProcessBridge) (pcallTarget : BitVec 64)
    (signatureSlot : BitVec 32) (start : Nat) : Traced CodeWrite Nat := do
  let stack9 := kind = .u64Stack9 ∧ callee = .x86
  let shuffle := kind.isCompact && callee != .x86
  let frontend := frontendOf callee
  let offset ← emitAt
    (if stack9 then
      emitU32 0xd100c3ff ++ emitU32 0xf9401bf2 ++ emitU32 0xf90003e6 ++ emitU32 0xf90007e7 ++
        emitU32 0xf9000bf2 ++ emitU32 0xf9000ffe ++ emitU32 0xf90013e0
    else
      emitU32 0xd10083ff ++ emitU32 0xf94013f2 ++ emitU32 0xf90003f2 ++ emitU32 0xf90007fe ++
        emitU32 0xf9000be0) start
  let offset ← emitSignatureSet (kind.needsForeignSignatureSet .aarch64 callee) kind
    (emitAarch64AbiSignatureSet signatureSlot) offset
  let offset ← emitAt
    (emitU32 (if stack9 then 0xf94013e0 else 0xf9400be0) ++
      (if shuffle then emitAarch64CompactPrePcall kind else []) ++
      emitAarch64Movabs 16 pcallTarget ++
      emitU32 (0xd2800011 ||| ((frontend &&& 0xffff) <<< 5))) offset
  let returnAddr := BitVec.ofNat 64 (code + offset + 20)
  let offset ← emitAt (emitAarch64Movabs 18 returnAddr) offset
  let offset ← emitPcallSig (fun slot => aarch64CtrlEncoding (0x50 + slot)) signatureSlot offset
  emitAt
    ((if shuffle then emitAarch64CompactPostPcall kind else []) ++
      emitU32 (if stack9 then 0xf9400ffe else 0xf94007fe) ++
      emitU32 (if stack9 then 0x9100c3ff else 0x910083ff) ++ emitU32 0xd65f03c0) offset

/-- The stub for a RISC-V caller. It loads the addresses from two words after its code. -/
def riscvStub (size code : Nat) (callee : Abi.Arch) (kind : ProcessBridge) (pcallTarget : BitVec 64)
    (signatureSlot : BitVec 32) (start : Nat) : Traced CodeWrite Nat := do
  let stack9 := kind = .u64Stack9 ∧ callee = .x86
  let shuffle := kind.isCompact && callee != .x86
  let auipcTargetPc := start
  let ldTargetOffset ← emitAt (emitU32 0x00000297) auipcTargetPc
  let auipcReturnPc ← emitAt
    (emitU32 0 ++ emitU32 (riscvAddi 6 0 ((frontendOf callee).setWidth 64))) ldTargetOffset
  let ldReturnOffset ← emitAt (emitU32 0x00000397) auipcReturnPc
  let offset ← emitAt
    (emitU32 0 ++
      if stack9 then
        emitU32 (riscvAddi 2 2 (-48)) ++ emitU32 (riscvSd 16 2 0) ++ emitU32 (riscvSd 17 2 8) ++
          emitU32 (riscvLd 29 2 48) ++ emitU32 (riscvSd 29 2 16) ++ emitU32 (riscvSd 1 2 24) ++
          emitU32 (riscvSd 10 2 32)
      else
        emitU32 0xfe010113 ++ emitU32 (riscvLd 29 2 32) ++ emitU32 (riscvSd 29 2 0) ++
          emitU32 (riscvSd 1 2 8) ++ emitU32 (riscvSd 10 2 16)) ldReturnOffset
  let offset ← emitSignatureSet (kind.needsForeignSignatureSet .riscv callee) kind
    (emitRiscvAbiSignatureSet signatureSlot) offset
  let offset ← emitAt
    (emitU32 (riscvLd 10 2 (if stack9 then 32 else 16)) ++
      if shuffle then emitRiscvCompactPrePcall kind else []) offset
  let returnPc ← emitPcallSig (fun slot => riscvCtrlEncoding (32 + slot)) signatureSlot offset
  let offset ← emitAt
    ((if shuffle then emitRiscvCompactPostPcall kind else []) ++
      emitU32 (riscvLd 1 2 (if stack9 then 24 else 8)) ++
      emitU32 (riscvAddi 2 2 (if stack9 then 48 else 32)) ++ emitU32 0x00008067) returnPc
  let targetDataOffset ← Traced.ofOption (alignOffset8 offset)
  if roomAfter size targetDataOffset < 24 then .fail
  else
    let returnDataOffset ← emitAt (emitU64 pcallTarget) targetDataOffset
    let offset ← emitAt (emitU64 (BitVec.ofNat 64 (code + returnPc))) returnDataOffset
    storeAt ldTargetOffset
      (emitU32 (riscvLd 5 5 (BitVec.ofNat 16 targetDataOffset - BitVec.ofNat 16 auipcTargetPc)))
    storeAt ldReturnOffset
      (emitU32 (riscvLd 7 7 (BitVec.ofNat 16 returnDataOffset - BitVec.ofNat 16 auipcReturnPc)))
    pure offset

/-! ## The arena -/

structure StubMapping where
  addr : Nat
  aligned : addr % 4096 = 0
  fits : addr + processCrossStubBytes ≤ 2 ^ 64

/-- `struct poly_cross_stub_arena`, with the bytes of the mapping and the writes to it. -/
structure StubArena where
  mapping : Option StubMapping
  size : Nat
  offset : Nat
  bytes : CodeBytes
  writes : List CodeWrite

def StubArena.empty : StubArena := ⟨none, 0, 0, fun _ => 0, []⟩

def StubArena.code (a : StubArena) : Nat := (a.mapping.map (·.addr)).getD 0

def ensureProcessCrossStubArena (mmap : Option StubMapping) : Attempt StubArena Unit := fun a =>
  if a.mapping.isSome then (some (), a)
  else
    match mmap with
    | none => (none, { a with size := 0, offset := 0 })
    | some m =>
      (some (), { a with mapping := some m, size := processCrossStubBytes, offset := 0,
                         bytes := fun _ => 0 })

def alignArena : Attempt StubArena Unit := fun a =>
  match alignOffset8 a.offset with
  | none => (none, a)
  | some offset => (some (), { a with offset := offset })

def writeCode {α : Type} (t : Traced CodeWrite α) : Attempt StubArena α := fun a =>
  (t.value, { a with bytes := t.log.foldl (fun bytes w => patch bytes w.offset w.data) a.bytes,
                     writes := a.writes ++ t.log })

/-- Code at the offset of the arena, if there are `budget` bytes left: the address of the code. -/
def emitStub (budget : Nat) (code : StubArena → Traced CodeWrite Nat) :
    Attempt StubArena (BitVec 64) := do
  let a ← Attempt.get
  if roomAfter a.size a.offset < budget then .fail
  else
    let offset ← writeCode (code a)
    Attempt.modify fun a => { a with offset := offset }
    pure (BitVec.ofNat 64 (a.code + a.offset))

section

variable (host : StubHost) (mmap : Option StubMapping)

def emitProcessX86TlsCallWrapper (target : BitVec 64) (kind : ProcessBridge) :
    Attempt StubArena (BitVec 64) := do
  ensureProcessCrossStubArena mmap
  alignArena
  emitStub 192 fun a => x86TlsCallWrapper host kind target a.offset

/-- The kinds of bridges that a request with an x86 callee may have. -/
def x86CalleeBridges : List ProcessBridge :=
  [.default, .vec128U32, .compactU32F32, .compactF32U32, .u64Stack9, .fp64, .fp32, .fpair32Arg,
    .fpair64Arg, .fpair32Ret, .fpair64Ret, .sretX86Sysv]

/-- The kinds of bridges that a request with an x86 caller may have. -/
def x86CallerBridges : List ProcessBridge :=
  [.default, .vec128U32, .compactU32F32, .compactF32U32, .u64Stack9, .fp64, .fp32,
    .aarch64Hfa3F32Ret, .aarch64Hfa4F32Ret, .aarch64Hfa3F64Ret, .aarch64Hfa4F64Ret,
    .aarch64Hfa3F64Arg, .aarch64Hfa4F64Arg, .aarch64Hfa3F32Arg, .aarch64Hfa4F32Arg, .fpair32Arg,
    .fpair64Arg, .fpair32Ret, .fpair64Ret, .sretX86Sysv]

/-- The checks of `emit_process_cross_isa_call_stub` for two different architectures, in the order
of the source. -/
def StubRequest.rejected (r : StubRequest) : Bool :=
  let x86ToAarch64 := r.caller == .x86 && r.callee == .aarch64
  let x86ToForeign := r.caller == .x86 && (r.callee == .aarch64 || r.callee == .riscv)
  let foreignToX86 := r.caller != .x86 && r.callee == .x86
  let foreignToForeign := (r.caller == .aarch64 && r.callee == .riscv) ||
    (r.caller == .riscv && r.callee == .aarch64)
  let kind := r.bridge
  !((r.caller == .aarch64 && (r.callee == .riscv || r.callee == .x86)) ||
      (r.caller == .riscv && (r.callee == .aarch64 || r.callee == .x86)) || x86ToForeign) ||
    (kind.isAarch64Hfa32Ret && !x86ToAarch64) ||
    (kind.isAarch64Hfa64Ret && !x86ToAarch64) ||
    (kind.isAarch64Hfa64Arg && !x86ToAarch64) ||
    (kind.isAarch64Hfa32Arg && !x86ToAarch64) ||
    (kind.isFpair && !(x86ToForeign || foreignToX86 || foreignToForeign)) ||
    (kind.isSret && !(x86ToForeign || foreignToX86)) ||
    (kind.isNativeSret && !foreignToForeign) ||
    (r.callee == .x86 && !x86CalleeBridges.contains kind) ||
    (r.caller == .x86 && !x86CallerBridges.contains kind) ||
    (kind == .u64Stack9 && r.caller != .x86 && r.callee != .x86 && !foreignToForeign) ||
    (kind == .vec128U32 && !(x86ToForeign || foreignToX86 || foreignToForeign))

def StubRequest.needsX86CallWrapper (r : StubRequest) : Bool :=
  r.caller != .x86 && r.callee == .x86 && (r.bridge == .u64Stack9 || host.needsX86TlsWrapper)

def emitPcallTarget (r : StubRequest) : Attempt StubArena (BitVec 64) :=
  if r.needsX86CallWrapper host then do
    let wrapper ← emitProcessX86TlsCallWrapper host mmap r.target r.bridge
    alignArena
    pure wrapper
  else pure r.target

def StubRequest.callSignatureSlot (r : StubRequest) : Option (BitVec 32) :=
  let signatureSlot :=
    if r.bridge = .u64Stack9 ∧ r.callee = .x86 then host.nativeSignatureSlot else r.signatureSlot
  if r.bridge.isDirectForeignFpair r.caller r.callee then
    if r.bridge.isFpair32 then some host.fp32SignatureSlot
    else if r.bridge.isFpair64 then some host.fp64SignatureSlot
    else none
  else some signatureSlot

def emitCallerStub (r : StubRequest) (pcallTarget : BitVec 64) (slot : BitVec 32) :
    Attempt StubArena (BitVec 64) :=
  match r.caller with
  | .x86 => emitStub 224 fun a => x86Stub a.code r.callee r.bridge r.target slot a.offset
  | .aarch64 => emitStub 160 fun a => aarch64Stub a.code r.callee r.bridge pcallTarget slot a.offset
  | .riscv =>
    emitStub 160 fun a => riscvStub a.size a.code r.callee r.bridge pcallTarget slot a.offset

def emitProcessCrossIsaCallStub (r : StubRequest) : Attempt StubArena (BitVec 64) :=
  if r.caller = r.callee then pure r.target
  else if r.rejected then .fail
  else do
    ensureProcessCrossStubArena mmap
    alignArena
    let pcallTarget ← emitPcallTarget host mmap r
    match r.callSignatureSlot host with
    | none => .fail
    | some slot =>
      if abiSignatureSlots ≤ slot.toNat then .fail
      else emitCallerStub r pcallTarget slot

end

end Poly.Polyexec
