import Armd64.Abi.Bridge
import Armd64.Polyexec.ElfFile

/-!
# Signatures of bridge kinds (`poly_abi_descriptor.c`, `poly_bridge_plan.c`)

A library names the kind of a bridge, and the runtime has one signature for each kind.
-/

namespace Poly.Abi

open Polyexec (ProcessBridge)

def aggregate2 (first second : TypeKind) : AbiType :=
  let firstType := abiScalarType first
  let secondType := abiScalarType second
  { kind := .aggregate
    fields := [⟨first, 0, firstType.size⟩, ⟨second, firstType.size, secondType.size⟩]
    size := firstType.size + secondType.size
    align := if secondType.align < firstType.align then firstType.align else secondType.align }

def aggregate4 (kind : TypeKind) : AbiType :=
  let fieldType := abiScalarType kind
  { kind := .aggregate
    fields := (List.range 4).map fun n => ⟨kind, BitVec.ofNat 16 n * fieldType.size, fieldType.size⟩
    size := fieldType.size * 4
    align := fieldType.align }

def functionSigFlagOpaqueDescriptor : BitVec 32 := 1#32 <<< 0

def functionSigFlagNativeSret : BitVec 32 := 1#32 <<< 2

def hfaRetSig (elemKind : TypeKind) (count : BitVec 8) : FunctionSig :=
  ⟨List.replicate count.toNat (abiScalarType elemKind), abiHfaType elemKind count, 0⟩

def hfaArgSig (elemKind : TypeKind) (count : BitVec 8) : FunctionSig :=
  ⟨[abiHfaType elemKind count, abiScalarType elemKind], abiScalarType elemKind, 0⟩

def fpairArgSig (elemKind : TypeKind) : FunctionSig :=
  ⟨[aggregate2 elemKind elemKind, abiScalarType elemKind], abiScalarType elemKind, 0⟩

def fpairRetSig (elemKind : TypeKind) : FunctionSig :=
  ⟨List.replicate 3 (abiScalarType elemKind), aggregate2 elemKind elemKind, 0⟩

def sretSig (flags : BitVec 32) : FunctionSig :=
  ⟨List.replicate 3 (abiScalarType .i64), aggregate4 .i64, flags⟩

/-- The signature of a structure argument with a scalar one, and the structure as the result. -/
def compactSig (first second : TypeKind) : FunctionSig :=
  ⟨[aggregate2 first second, abiScalarType .i32], aggregate2 first second, 0⟩

def descriptorDecodeKind : ProcessBridge → FunctionSig
  | .default => ⟨[], abiScalarType .i64, functionSigFlagOpaqueDescriptor⟩
  | .vec128U32 => ⟨List.replicate 2 (abiScalarType .vec128), abiScalarType .vec128, 0⟩
  | .compactU32F32 => compactSig .i32 .f32
  | .compactF32U32 => compactSig .f32 .i32
  | .u64Stack9 => ⟨List.replicate 9 (abiScalarType .i64), abiScalarType .i64, 0⟩
  | .fp64 => ⟨[], abiScalarType .f64, 0⟩
  | .fp32 => ⟨[], abiScalarType .f32, 0⟩
  | .aarch64Hfa3F32Ret => hfaRetSig .f32 3
  | .aarch64Hfa4F32Ret => hfaRetSig .f32 4
  | .aarch64Hfa3F64Ret => hfaRetSig .f64 3
  | .aarch64Hfa4F64Ret => hfaRetSig .f64 4
  | .aarch64Hfa3F64Arg => hfaArgSig .f64 3
  | .aarch64Hfa4F64Arg => hfaArgSig .f64 4
  | .aarch64Hfa3F32Arg => hfaArgSig .f32 3
  | .aarch64Hfa4F32Arg => hfaArgSig .f32 4
  | .fpair32Arg => fpairArgSig .f32
  | .fpair64Arg => fpairArgSig .f64
  | .fpair32Ret => fpairRetSig .f32
  | .fpair64Ret => fpairRetSig .f64
  | .sretX86Sysv => sretSig functionSigFlagRetBySret
  | .nativeSret => sretSig (functionSigFlagRetBySret ||| functionSigFlagNativeSret)

def planFromDescriptorKind (caller callee : Arch) (kind : ProcessBridge) (signatureSlot : BitVec 32)
    (needsStateKey : Bool) : Option BridgePlan := do
  let sig := descriptorDecodeKind kind
  let callerLayout ← classifyCallAbi caller sig
  let calleeLayout ← classifyCallAbi callee sig
  planFromLayouts callerLayout calleeLayout signatureSlot needsStateKey

end Poly.Abi
