import Mathlib.Tactic.Common

/-!
# Signatures and call layouts (`poly_abi_type.h`, `poly_abi_layout.h`)

A function signature, and the layout that the classifier of an architecture gives it: the locations
of every argument and of the result. A count that the source keeps beside an array is the length of
a list here; register numbers and counts are `Nat`, since the checks of the source keep them far
below the width of their types, while sizes, alignments and stack offsets are 16-bit integers.
-/

namespace Poly.Abi

/-! ## Types and signatures -/

inductive TypeKind
  | void | i32 | i64 | f32 | f64 | ptr | vec128 | aggregate | hfa
  deriving DecidableEq, Repr

structure AbiField where
  kind : TypeKind
  offset : BitVec 16
  size : BitVec 16
  deriving DecidableEq, Repr

/-- `struct poly_abi_type`. `field_count` counts the list; more than four fields are more parts than
a layout takes, and fail where the source reads past its array. -/
structure AbiType where
  kind : TypeKind
  elemKind : TypeKind := .void
  count : BitVec 8 := 0
  fields : List AbiField := []
  size : BitVec 16
  align : BitVec 16
  deriving DecidableEq, Repr

structure FunctionSig where
  args : List AbiType
  ret : AbiType
  flags : BitVec 32 := 0
  deriving DecidableEq, Repr

def functionSigMaxArgs : Nat := 16

def functionSigFlagRetBySret : BitVec 32 := 1#32 <<< 1

def FunctionSig.retBySret (sig : FunctionSig) : Bool :=
  sig.flags &&& functionSigFlagRetBySret != 0#32

def abiScalarType (kind : TypeKind) : AbiType :=
  match kind with
  | .void => { kind, size := 0, align := 1 }
  | .i32 | .f32 => { kind, size := 4, align := 4 }
  | .i64 | .f64 | .ptr => { kind, size := 8, align := 8 }
  | .vec128 => { kind, size := 16, align := 16 }
  | .aggregate | .hfa => { kind, size := 0, align := 1 }

def abiHfaType (elemKind : TypeKind) (count : BitVec 8) : AbiType :=
  let elem := abiScalarType elemKind
  { kind := .hfa
    elemKind := elemKind
    count := count
    size := elem.size * count.setWidth 16
    align := elem.align }

def isFloatKind (kind : TypeKind) : Bool := kind == .f32 || kind == .f64

def isIntegerKind (kind : TypeKind) : Bool := kind == .i32 || kind == .i64 || kind == .ptr

/-! ## Locations and layouts -/

inductive Arch
  | x86 | aarch64 | riscv
  deriving DecidableEq, Repr

inductive LocKind
  | none | gpr | fpr | vec | stack | sretPtr
  deriving DecidableEq, Repr

structure AbiLoc where
  kind : LocKind
  reg : Nat := 0
  stackOffset : BitVec 16 := 0
  size : BitVec 16 := 0
  deriving DecidableEq, Repr

def locMaxParts : Nat := 4

def layoutMaxArgs : Nat := functionSigMaxArgs

def layoutMaxRet : Nat := 4

structure AbiLayout where
  arch : Arch
  args : List (List AbiLoc)
  argCount : Nat
  ret : List AbiLoc
  usesSret : Bool
  stackArgSize : BitVec 16
  stackAlign : BitVec 16
  deriving DecidableEq, Repr

def layoutInit (arch : Arch) : AbiLayout where
  arch := arch
  args := List.replicate layoutMaxArgs []
  argCount := 0
  ret := []
  usesSret := false
  stackArgSize := 0
  stackAlign := 16

def locNone : AbiLoc := { kind := .none }

def locReg (kind : LocKind) (reg : Nat) (size : BitVec 16) : AbiLoc := { kind, reg, size }

def locStack (stackOffset size : BitVec 16) : AbiLoc := { kind := .stack, stackOffset, size }

def locSretPtr (reg : Nat) (size : BitVec 16) : AbiLoc := { kind := .sretPtr, reg, size }

namespace AbiLayout

def addArgLoc (layout : AbiLayout) (argIndex : Nat) (loc : AbiLoc) : Option AbiLayout :=
  if layoutMaxArgs ≤ argIndex then none
  else if locMaxParts ≤ (layout.args.getD argIndex []).length then none
  else some
    { layout with
      args := layout.args.modify argIndex (· ++ [loc])
      argCount := max layout.argCount (argIndex + 1) }

def addRetLoc (layout : AbiLayout) (loc : AbiLoc) : Option AbiLayout :=
  if layoutMaxRet ≤ layout.ret.length then none
  else some { layout with ret := layout.ret ++ [loc] }

def argLocs (layout : AbiLayout) : List AbiLoc := layout.args.flatten

end AbiLayout

end Poly.Abi
