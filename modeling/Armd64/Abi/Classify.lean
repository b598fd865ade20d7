import Armd64.Abi.Layout

/-!
# The three call classifiers (`poly_abi_x86_sysv.c`, `poly_abi_aarch64.c`, `poly_abi_riscv.c`)

`poly_classify_x86_sysv_call_abi`, `poly_classify_aarch64_call_abi` and
`poly_classify_riscv_lp64d_call_abi` walk a signature with one cursor each. The cursors, the stack
slots and the argument loop are the same code three times, so they are one definition with the
register file of the architecture as a parameter; what an architecture does with a type is its own
definition.
-/

namespace Poly.Abi

/-! ## Cursor and parts -/

/-- `struct x86_cursor`, `struct aarch64_cursor` and `struct riscv_cursor`. -/
structure Cursor where
  gpr : Nat := 0
  fpr : Nat := 0
  stack : BitVec 16 := 0
  deriving DecidableEq, Repr

def alignTo (value align : BitVec 16) : BitVec 16 := (value + align - 1) &&& ~~~(align - 1)

def stackLoc (cursor : Cursor) (size align : BitVec 16) : AbiLoc × Cursor :=
  let offset := alignTo cursor.stack (if 8#16 < align then align else 8)
  (locStack offset size, { cursor with stack := offset + alignTo size 8 })

/-- The argument registers of an architecture, and whether vectors go in floating-point registers.
-/
structure RegFile where
  gprs : Nat
  vecs : Bool

/-- `x86_add_arg_loc`, `aarch64_add_arg_loc` and `riscv_add_arg_loc`: a part in the next register of
its kind, or on the stack. -/
def addPart (r : RegFile) (out : AbiLayout) (argIndex : Nat) (cursor : Cursor) (kind : LocKind)
    (size : BitVec 16) : Option (AbiLayout × Cursor) :=
  if kind = .gpr ∧ cursor.gpr < r.gprs then
    (out.addArgLoc argIndex (locReg kind cursor.gpr size)).map
      (·, { cursor with gpr := cursor.gpr + 1 })
  else if (kind = .fpr ∨ (r.vecs ∧ kind = .vec)) ∧ cursor.fpr < 8 then
    (out.addArgLoc argIndex (locReg kind cursor.fpr size)).map
      (·, { cursor with fpr := cursor.fpr + 1 })
  else
    let slot := stackLoc cursor size (if 16#16 ≤ size then 16 else 8)
    (out.addArgLoc argIndex slot.1).map (·, slot.2)

def addParts (r : RegFile) (argIndex : Nat) :
    List (LocKind × BitVec 16) → AbiLayout → Cursor → Option (AbiLayout × Cursor)
  | [], out, cursor => some (out, cursor)
  | (kind, size) :: parts, out, cursor =>
    (addPart r out argIndex cursor kind size).bind fun p => addParts r argIndex parts p.1 p.2

def addStackPart (out : AbiLayout) (argIndex : Nat) (cursor : Cursor) (size align : BitVec 16) :
    Option (AbiLayout × Cursor) :=
  let slot := stackLoc cursor size align
  (out.addArgLoc argIndex slot.1).map (·, slot.2)

/-- The sizes of the eight-byte parts of a value of at most 16 bytes. -/
def partSizes (size : BitVec 16) : List (BitVec 16) :=
  let parts := (size.toNat + 7) / 8
  (List.range parts).map fun n => if n + 1 = parts then size - BitVec.ofNat 16 n * 8 else 8

/-- The checks of the source on a homogeneous floating-point aggregate. -/
def hfaOk (type : AbiType) : Bool :=
  isFloatKind type.elemKind && type.count != 0 && decide (type.count.toNat ≤ locMaxParts)

def hfaElemSize (type : AbiType) : BitVec 16 := (abiScalarType type.elemKind).size

/-! ## Arguments -/

def x86Regs : RegFile := ⟨6, true⟩

def aarch64Regs : RegFile := ⟨8, true⟩

def riscvRegs : RegFile := ⟨8, false⟩

def x86ClassifyArg (type : AbiType) (out : AbiLayout) (argIndex : Nat) (cursor : Cursor) :
    Option (AbiLayout × Cursor) :=
  if isIntegerKind type.kind then addPart x86Regs out argIndex cursor .gpr type.size
  else if isFloatKind type.kind then addPart x86Regs out argIndex cursor .fpr type.size
  else if type.kind = .vec128 then addPart x86Regs out argIndex cursor .vec type.size
  else if type.kind = .aggregate ∧ type.size ≤ 16#16 ∧ type.fields ≠ [] then
    addParts x86Regs argIndex
      (type.fields.map fun f => (if isFloatKind f.kind then .fpr else .gpr, f.size)) out cursor
  else if type.kind = .hfa ∧ type.size ≤ 16#16 then
    addParts x86Regs argIndex ((partSizes type.size).map (.fpr, ·)) out cursor
  else addStackPart out argIndex cursor type.size type.align

def addElems (argIndex : Nat) (size : BitVec 16) :
    Nat → AbiLayout → Cursor → Option (AbiLayout × Cursor)
  | 0, out, cursor => some (out, cursor)
  | n + 1, out, cursor =>
    (out.addArgLoc argIndex (locReg .fpr cursor.fpr size)).bind fun out =>
      addElems argIndex size n out { cursor with fpr := cursor.fpr + 1 }

def aarch64ClassifyHfaArg (type : AbiType) (out : AbiLayout) (argIndex : Nat) (cursor : Cursor) :
    Option (AbiLayout × Cursor) :=
  if !hfaOk type then none
  else if cursor.fpr + type.count.toNat ≤ 8 then
    addElems argIndex (hfaElemSize type) type.count.toNat out cursor
  else addStackPart out argIndex cursor type.size type.align

def aarch64ClassifyArg (type : AbiType) (out : AbiLayout) (argIndex : Nat) (cursor : Cursor) :
    Option (AbiLayout × Cursor) :=
  if isIntegerKind type.kind then addPart aarch64Regs out argIndex cursor .gpr type.size
  else if isFloatKind type.kind then addPart aarch64Regs out argIndex cursor .fpr type.size
  else if type.kind = .vec128 then addPart aarch64Regs out argIndex cursor .vec type.size
  else if type.kind = .hfa then aarch64ClassifyHfaArg type out argIndex cursor
  else if type.kind = .aggregate ∧ type.size ≤ 16#16 then
    addParts aarch64Regs argIndex ((partSizes type.size).map (.gpr, ·)) out cursor
  else addStackPart out argIndex cursor type.size type.align

def riscvClassifyArg (type : AbiType) (out : AbiLayout) (argIndex : Nat) (cursor : Cursor) :
    Option (AbiLayout × Cursor) :=
  if isIntegerKind type.kind ∨ type.kind = .vec128 then
    addPart riscvRegs out argIndex cursor .gpr type.size
  else if isFloatKind type.kind then addPart riscvRegs out argIndex cursor .fpr type.size
  else if type.kind = .hfa then
    if !hfaOk type then none
    else
      addParts riscvRegs argIndex (List.replicate type.count.toNat (.fpr, hfaElemSize type)) out cursor
  else if type.kind = .aggregate ∧ type.size ≤ 16#16 then
    addParts riscvRegs argIndex ((partSizes type.size).map (.gpr, ·)) out cursor
  else addStackPart out argIndex cursor type.size type.align

/-! ## Results -/

def addRets : List AbiLoc → AbiLayout → Option AbiLayout
  | [], out => some out
  | loc :: locs, out => (out.addRetLoc loc).bind (addRets locs)

def retRegs (kind : LocKind) (sizes : List (BitVec 16)) : List AbiLoc :=
  sizes.zipIdx.map fun p => locReg kind p.2 p.1

/-- The loop of `x86_classify_ret` over the fields of an aggregate: each field takes the next
register of its own kind. -/
def x86FieldRegs : List AbiField → Nat → Nat → List AbiLoc
  | [], _, _ => []
  | f :: fields, gpr, fpr =>
    if isFloatKind f.kind then locReg .fpr fpr f.size :: x86FieldRegs fields gpr (fpr + 1)
    else locReg .gpr gpr f.size :: x86FieldRegs fields (gpr + 1) fpr

/-- The result goes to memory that the caller points to with register `reg`. -/
def retSret (out : AbiLayout) (reg : Nat) (size : BitVec 16) : Option AbiLayout :=
  { out with usesSret := true }.addRetLoc (locSretPtr reg size)

def x86ClassifyRet (type : AbiType) (out : AbiLayout) : Option AbiLayout :=
  if type.kind = .void then some out
  else if isIntegerKind type.kind then out.addRetLoc (locReg .gpr 0 type.size)
  else if isFloatKind type.kind then out.addRetLoc (locReg .fpr 0 type.size)
  else if type.kind = .vec128 then out.addRetLoc (locReg .vec 0 type.size)
  else if type.kind = .aggregate ∧ type.size ≤ 16#16 ∧ type.fields ≠ [] then
    addRets (x86FieldRegs type.fields 0 0) out
  else if type.kind = .hfa ∧ type.size ≤ 16#16 then addRets (retRegs .fpr (partSizes type.size)) out
  else retSret out 0 type.size

/-- The result of a homogeneous floating-point aggregate in one register for each element. -/
def retHfa (type : AbiType) (out : AbiLayout) : Option AbiLayout :=
  if !hfaOk type then none
  else addRets (retRegs .fpr (List.replicate type.count.toNat (hfaElemSize type))) out

def aarch64ClassifyRet (type : AbiType) (out : AbiLayout) : Option AbiLayout :=
  if type.kind = .void then some out
  else if isIntegerKind type.kind then out.addRetLoc (locReg .gpr 0 type.size)
  else if isFloatKind type.kind then out.addRetLoc (locReg .fpr 0 type.size)
  else if type.kind = .vec128 then out.addRetLoc (locReg .vec 0 type.size)
  else if type.kind = .hfa then retHfa type out
  else if type.kind = .aggregate ∧ type.size ≤ 16#16 then
    addRets (retRegs .gpr (partSizes type.size)) out
  else retSret out 8 type.size

def riscvClassifyRet (type : AbiType) (out : AbiLayout) : Option AbiLayout :=
  if type.kind = .void then some out
  else if isIntegerKind type.kind ∨ type.kind = .vec128 then
    out.addRetLoc (locReg .gpr 0 type.size)
  else if isFloatKind type.kind then out.addRetLoc (locReg .fpr 0 type.size)
  else if type.kind = .hfa then retHfa type out
  else if type.kind = .aggregate ∧ type.size ≤ 16#16 then
    addRets (retRegs .gpr (partSizes type.size)) out
  else retSret out 0 type.size

/-! ## Calls -/

/-- What differs between the classifiers: the register of the result pointer, whether the flag takes
it from the arguments, results and arguments, and the rounding of the stack area. -/
structure CallAbi where
  arch : Arch
  sretReg : Nat
  sretCursor : Cursor
  classifyRet : AbiType → AbiLayout → Option AbiLayout
  classifyArg : AbiType → AbiLayout → Nat → Cursor → Option (AbiLayout × Cursor)
  stackArea : BitVec 16 → BitVec 16

namespace CallAbi

variable (abi : CallAbi)

def classifyArgs : List AbiType → Nat → AbiLayout → Cursor → Option (AbiLayout × Cursor)
  | [], _, out, cursor => some (out, cursor)
  | type :: types, argIndex, out, cursor =>
    (abi.classifyArg type out argIndex cursor).bind fun p =>
      classifyArgs types (argIndex + 1) p.1 p.2

def classifyResult (sig : FunctionSig) : Option (AbiLayout × Cursor) :=
  if sig.retBySret then
    (retSret (layoutInit abi.arch) abi.sretReg sig.ret.size).map (·, abi.sretCursor)
  else (abi.classifyRet sig.ret (layoutInit abi.arch)).map (·, {})

def classify (sig : FunctionSig) : Option AbiLayout :=
  if functionSigMaxArgs < sig.args.length then none
  else
    (abi.classifyResult sig).bind fun p =>
      (abi.classifyArgs sig.args 0 p.1 p.2).map fun q =>
        { q.1 with stackArgSize := abi.stackArea q.2.stack }

end CallAbi

def x86Sysv : CallAbi where
  arch := .x86
  sretReg := 0
  sretCursor := { gpr := 1 }
  classifyRet := x86ClassifyRet
  classifyArg := x86ClassifyArg
  stackArea := id

def aarch64Aapcs : CallAbi where
  arch := .aarch64
  sretReg := 8
  sretCursor := {}
  classifyRet := aarch64ClassifyRet
  classifyArg := aarch64ClassifyArg
  stackArea stack := alignTo stack 16

def riscvLp64d : CallAbi where
  arch := .riscv
  sretReg := 0
  sretCursor := { gpr := 1 }
  classifyRet := riscvClassifyRet
  classifyArg := riscvClassifyArg
  stackArea stack := alignTo stack 16

def classifyX86SysvCallAbi : FunctionSig → Option AbiLayout := x86Sysv.classify

def classifyAarch64CallAbi : FunctionSig → Option AbiLayout := aarch64Aapcs.classify

def classifyRiscvLp64dCallAbi : FunctionSig → Option AbiLayout := riscvLp64d.classify

def classifyCallAbi : Arch → FunctionSig → Option AbiLayout
  | .x86 => classifyX86SysvCallAbi
  | .aarch64 => classifyAarch64CallAbi
  | .riscv => classifyRiscvLp64dCallAbi

end Poly.Abi
