import Armd64.Abi.Classify

/-!
# Bridge plans (`poly_bridge_plan.c`)

A plan is the list of operations of a bridge between a caller and a callee of two architectures:
the moves before the call, the call, and the moves after it. The arrays of the source with their
counts are lists here, and an architecture is always one of the three, so `valid_arch` has nothing
to check.
-/

namespace Poly.Abi

inductive MoveKind
  | regToReg | regToStack | stackToReg | stackToStack | loadImm | saveCallerReg | restoreCallerReg
  | setStateKey | setSignatureSlot | pcall
  deriving DecidableEq, Repr

structure BridgeOp where
  kind : MoveKind
  src : AbiLoc
  dst : AbiLoc
  imm : BitVec 64
  deriving DecidableEq, Repr

structure BridgePlan where
  caller : Arch
  callee : Arch
  ops : List BridgeOp
  signatureSlot : BitVec 32
  needsStateKey : Bool
  deriving DecidableEq, Repr

def planMaxOps : Nat := 128

def noSignatureSlot : BitVec 32 := 0xffffffff#32

def planInit (caller callee : Arch) : BridgePlan where
  caller := caller
  callee := callee
  ops := []
  signatureSlot := noSignatureSlot
  needsStateKey := false

def validLoc (loc : AbiLoc) : Bool :=
  match loc.kind with
  | .none => loc.reg == 0 && loc.stackOffset == 0 && loc.size == 0
  | .gpr | .fpr | .vec | .sretPtr | .stack => loc.size != 0

def validOpLocs (op : BridgeOp) : Bool :=
  match op.kind with
  | .regToReg =>
    op.src.kind != .stack && op.src.kind != .none && op.dst.kind != .stack && op.dst.kind != .none
  | .regToStack => op.src.kind != .stack && op.src.kind != .none && op.dst.kind == .stack
  | .stackToReg => op.src.kind == .stack && op.dst.kind != .stack && op.dst.kind != .none
  | .stackToStack => op.src.kind == .stack && op.dst.kind == .stack
  | .loadImm => op.src.kind == .none && op.dst.kind != .none
  | .saveCallerReg | .restoreCallerReg => op.src.kind != .none || op.dst.kind != .none
  | .setStateKey | .setSignatureSlot | .pcall => op.src.kind == .none && op.dst.kind == .none

def planValidate (plan : BridgePlan) : Bool :=
  decide (plan.ops.length ≤ planMaxOps) &&
    plan.ops.all fun op => validLoc op.src && validLoc op.dst && validOpLocs op

def planAddOp (plan : BridgePlan) (kind : MoveKind) (src dst : AbiLoc) (imm : BitVec 64) :
    Option BridgePlan :=
  if planMaxOps ≤ plan.ops.length then none
  else some { plan with ops := plan.ops ++ [⟨kind, src, dst, imm⟩] }

def locIsRegisterLike (loc : AbiLoc) : Bool :=
  loc.kind == .gpr || loc.kind == .fpr || loc.kind == .vec || loc.kind == .sretPtr

def addMoveForLocs (plan : BridgePlan) (src dst : AbiLoc) : Option BridgePlan :=
  if src.size ≠ dst.size then none
  else if locIsRegisterLike src ∧ locIsRegisterLike dst then planAddOp plan .regToReg src dst 0
  else if locIsRegisterLike src ∧ dst.kind = .stack then planAddOp plan .regToStack src dst 0
  else if src.kind = .stack ∧ locIsRegisterLike dst then planAddOp plan .stackToReg src dst 0
  else if src.kind = .stack ∧ dst.kind = .stack then planAddOp plan .stackToStack src dst 0
  else none

/-- The loop of `add_move_for_locs` over two arrays of locations with equal counts. -/
def addMoves : List AbiLoc → List AbiLoc → BridgePlan → Option BridgePlan
  | [], [], plan => some plan
  | src :: srcs, dst :: dsts, plan => (addMoveForLocs plan src dst).bind (addMoves srcs dsts)
  | _, _, _ => none

def addMovesOfArgs (caller callee : AbiLayout) : List Nat → BridgePlan → Option BridgePlan
  | [], plan => some plan
  | arg :: args, plan =>
    (addMoves (caller.args.getD arg []) (callee.args.getD arg []) plan).bind
      (addMovesOfArgs caller callee args)

def addArgMoves (plan : BridgePlan) (caller callee : AbiLayout) : Option BridgePlan :=
  if caller.argCount ≠ callee.argCount then none
  else addMovesOfArgs caller callee (List.range caller.argCount) plan

def addRetMoves (plan : BridgePlan) (caller callee : AbiLayout) : Option BridgePlan :=
  addMoves callee.ret caller.ret plan

/-- An operation without locations, added only if the plan wants it. -/
def addSetup (wanted : Bool) (plan : BridgePlan) (kind : MoveKind) (imm : BitVec 64) :
    Option BridgePlan :=
  if wanted then planAddOp plan kind locNone locNone imm else some plan

def planFromLayouts (caller callee : AbiLayout) (signatureSlot : BitVec 32)
    (needsStateKey : Bool) : Option BridgePlan := do
  let plan : BridgePlan := { planInit caller.arch callee.arch with signatureSlot, needsStateKey }
  let plan ← addSetup needsStateKey plan .setStateKey 0
  let plan ← addSetup (signatureSlot != noSignatureSlot) plan .setSignatureSlot
    (signatureSlot.setWidth 64)
  let plan ← addArgMoves plan caller callee
  let plan ← planAddOp plan .pcall locNone locNone 0
  let plan ← addRetMoves plan caller callee
  if planValidate plan then some plan else none

end Poly.Abi
