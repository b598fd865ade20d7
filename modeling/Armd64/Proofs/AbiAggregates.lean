import Armd64.Proofs.AbiSpill

/-!
# Aggregates of scalars

The classifiers take an aggregate field by field (x86) or by its size (AArch64), and only a type
that is marked as homogeneous goes in floating-point registers on AArch64. The ABIs look at the
fields instead: AAPCS64 at whether they are all of one floating-point kind, SysV at the eightbytes
that they lie in.
-/

namespace Poly.Abi

open Arch

/-! ## Replacing a type of a signature -/

variable {out layout : AbiLayout} {first second : TypeKind}

theorem classifyArgs_congr {arch : Arch} {before after : List AbiType} {type type' : AbiType}
    {n : Nat} {c : Cursor} (hfresh : Fresh out n) (hlen : n + before.length < layoutMaxArgs)
    (hok : (arch.request type).ok = (arch.request type').ok)
    (hplace : arch.placeArg type (arch.cursorAfter before c) =
      arch.placeArg type' (arch.cursorAfter before c)) :
    arch.abi.classifyArgs (before ++ type :: after) n out c =
      arch.abi.classifyArgs (before ++ type' :: after) n out c := by
  induction before generalizing n out c with
  | nil =>
    replace hplace : arch.placeArg type c = arch.placeArg type' c := hplace
    rw [List.nil_append, List.nil_append, classifyArgs_cons hfresh (by simpa using hlen),
      classifyArgs_cons hfresh (by simpa using hlen), hok, hplace]
  | cons first before ih =>
    rw [List.length_cons] at hlen
    rw [List.cons_append, List.cons_append, classifyArgs_cons hfresh (by omega),
      classifyArgs_cons hfresh (by omega), ih (hfresh.next (by omega) _) (by omega) hplace]

def FunctionSig.setArg (sig : FunctionSig) (k : Nat) (type : AbiType) : FunctionSig :=
  { sig with args := sig.args.set k type }

section

variable {arch : Arch} {sig : FunctionSig} {k : Nat} {type t : AbiType}

theorem getElem?_setArg (hk : sig.args[k]? = some type) :
    (sig.setArg k t).args[k]? = some t :=
  List.getElem?_set_self (List.getElem?_eq_some_iff.mp hk).1

theorem cursorAt_setArg : arch.cursorAt (sig.setArg k t) k = arch.cursorAt sig k := by
  rw [cursorAt, FunctionSig.setArg, List.take_set_of_le (Nat.le_refl k)]
  rfl

section

variable (hk : sig.args[k]? = some type)

include hk

theorem args_split : sig.args = sig.args.take k ++ type :: sig.args.drop (k + 1) ∧
      (sig.setArg k t).args = sig.args.take k ++ t :: sig.args.drop (k + 1) := by
  obtain ⟨hlt, htype⟩ := List.getElem?_eq_some_iff.mp hk
  refine ⟨?_, List.set_eq_take_append_cons_drop.trans (if_pos hlt)⟩
  rw [← htype, List.getElem_cons_drop, List.take_append_drop]

theorem classify_setArg (hok : (arch.request type).ok = (arch.request t).ok)
    (hplace : arch.placeArg type (arch.cursorAt sig k) =
      arch.placeArg t (arch.cursorAt sig k)) :
    classifyCallAbi arch (sig.setArg k t) = classifyCallAbi arch sig := by
  have hlt := (List.getElem?_eq_some_iff.mp hk).1
  obtain ⟨hsplit, hset⟩ := args_split (t := t) hk
  have hlength : (sig.setArg k t).args.length = sig.args.length := List.length_set
  rw [classifyCallAbi_eq, classifyCallAbi_eq, CallAbi.classify, CallAbi.classify, hlength]
  split
  · rfl
  · next hmax =>
    have hresult : arch.abi.classifyResult (sig.setArg k t) = arch.abi.classifyResult sig := rfl
    refine Option.bind_congr fun p hp => ?_
    obtain ⟨hfresh, -, hstart⟩ := fresh_classifyResult hp
    have hle : sig.args.length ≤ layoutMaxArgs := Nat.le_of_not_lt hmax
    rw [hset, ← classifyArgs_congr hfresh (by rw [List.length_take]; omega) hok
      (by rw [hstart]; exact hplace), ← hsplit]

theorem classify_setArg_isSome (hok : (arch.request type).ok) (hok' : (arch.request t).ok) :
    (classifyCallAbi arch (sig.setArg k t)).isSome = (classifyCallAbi arch sig).isSome := by
  have hlength : (sig.setArg k t).args.length = sig.args.length := List.length_set
  obtain ⟨hsplit, hset⟩ := args_split (t := t) hk
  have hall : (∀ x ∈ (sig.setArg k t).args, (arch.request x).ok = true) ↔
      ∀ x ∈ sig.args, (arch.request x).ok = true := by
    rw [hset]
    conv_rhs => rw [hsplit]
    simp only [List.forall_mem_append, List.forall_mem_cons, hok, hok']
  rw [Bool.eq_iff_iff, classify_isSome_iff, classify_isSome_iff, hlength, hall]
  rfl

end

end

/-! ## Homogeneous aggregates on AArch64 -/

structure HomogeneousAggregate (type : AbiType) (kind : TypeKind) (count : BitVec 8) : Prop where
  aggregate : type.kind = .aggregate
  float : isFloatKind kind = true
  pos : 0 < count.toNat
  le : count.toNat ≤ 4
  fields : type.fields.map AbiField.kind = List.replicate count.toNat kind
  size : type.size = (abiHfaType kind count).size
  align : type.align = (abiHfaType kind count).align

theorem homogeneous_aggregate2 {kind : TypeKind} (h : isFloatKind kind) :
    HomogeneousAggregate (aggregate2 kind kind) kind 2 := by
  have hk : kind = .f32 ∨ kind = .f64 := by simpa [isFloatKind] using h
  rcases hk with rfl | rfl <;> exact ⟨rfl, rfl, by decide, by decide, rfl, rfl, rfl⟩

theorem length_partSizes (size : BitVec 16) : (partSizes size).length = (size.toNat + 7) / 8 := by
  simp [partSizes]

theorem partSizes_of_le {size : BitVec 16} (h0 : 0 < size.toNat) (h : size.toNat ≤ 8) :
    partSizes size = [size] := by
  have hone : (size.toNat + 7) / 8 = 1 := by omega
  simp [partSizes, hone]

section

variable {type : AbiType} {kind : TypeKind} {count : BitVec 8}

section

variable (h : HomogeneousAggregate type kind count)

include h

theorem HomogeneousAggregate.cases :
    (kind = .f32 ∨ kind = .f64) ∧ (count = 1 ∨ count = 2 ∨ count = 3 ∨ count = 4) := by
  obtain ⟨-, hfloat, hpos, hle, -, -, -⟩ := h
  constructor
  · simpa [isFloatKind] using hfloat
  · bv_omega

theorem HomogeneousAggregate.bounds :
    4 ≤ type.size.toNat ∧ type.size.toNat ≤ 32 ∧ type.align ≤ 8#16 := by
  obtain ⟨hk, hc⟩ := h.cases
  rw [h.size, h.align]
  rcases hk with rfl | rfl <;> rcases hc with rfl | rfl | rfl | rfl <;> decide

theorem HomogeneousAggregate.hfaOk : hfaOk (abiHfaType kind count) := by
  obtain ⟨hk, hc⟩ := h.cases
  rcases hk with rfl | rfl <;> rcases hc with rfl | rfl | rfl | rfl <;> decide

theorem HomogeneousAggregate.request : Arch.aarch64.request type =
      if type.size ≤ 16#16 then .parts ((partSizes type.size).map (.gpr, ·))
      else .memory type.size type.align := by
  simp [Arch.request, aarch64Request, isIntegerKind, isFloatKind, h.aggregate]

theorem HomogeneousAggregate.request_hfa : Arch.aarch64.request (abiHfaType kind count) =
      .together count.toNat (abiScalarType kind).size type.size type.align := by
  simp only [Arch.request, aarch64Request, h.hfaOk, h.size, h.align]
  rfl

theorem HomogeneousAggregate.request_ok : (Arch.aarch64.request type).ok := by
  rw [h.request]
  split
  · rw [Request.ok, decide_eq_true_iff, List.length_map, length_partSizes, locMaxParts]
    bv_omega
  · rfl

theorem HomogeneousAggregate.request_hfa_ok :
    (Arch.aarch64.request (abiHfaType kind count)).ok := by
  rw [h.request_hfa, Request.ok, decide_eq_true_iff]
  exact h.le

end

/-- With these registers taken, a homogeneous aggregate is one value on the stack, be it marked as
such or not. -/
def OnStackEitherWay (type : AbiType) (count : BitVec 8) (gprs fprs : Nat) : Prop :=
  8 < fprs + count.toNat ∧ (16#16 < type.size ∨ type.size ≤ 8#16 ∧ aarch64Regs.gprs ≤ gprs)

variable {c : Cursor}

theorem HomogeneousAggregate.placeArg_hfa (h : HomogeneousAggregate type kind count) :
    Arch.aarch64.placeArg (abiHfaType kind count) c =
      if c.fpr + count.toNat ≤ 8 then
        ((List.range' c.fpr count.toNat).map (locReg .fpr · (abiScalarType kind).size),
          { c with fpr := c.fpr + count.toNat })
      else ([(stackLoc c type.size type.align).1], (stackLoc c type.size type.align).2) := by
  rw [placeArg, h.request_hfa]
  rfl

theorem HomogeneousAggregate.placeArg_of_le (h : HomogeneousAggregate type kind count)
    (hs : type.size ≤ 8#16) :
    Arch.aarch64.placeArg type c =
      ([(aarch64Regs.take .gpr type.size c).1], (aarch64Regs.take .gpr type.size c).2) := by
  have hle : type.size ≤ 16#16 := BitVec.le_trans hs (by decide)
  have hpos := h.bounds.1
  rw [placeArg, h.request, if_pos hle, partSizes_of_le (by omega) (by bv_omega)]
  rfl

theorem stackLoc_align {size align : BitVec 16} (h : align ≤ 8#16) (c : Cursor) :
    stackLoc c size align = stackLoc c size 8 := by
  have hno : ¬8#16 < align := by bv_omega
  simp [stackLoc, hno]

theorem placeArg_eq_of_onStack (h : HomogeneousAggregate type kind count)
    (hc : OnStackEitherWay type count c.gpr c.fpr) :
    Arch.aarch64.placeArg type c = Arch.aarch64.placeArg (abiHfaType kind count) c := by
  obtain ⟨hf, hg⟩ := hc
  rw [h.placeArg_hfa, if_neg (by omega)]
  rcases hg with hs | ⟨hs, hg⟩
  · rw [placeArg, h.request, if_neg (by bv_omega)]
    rfl
  · have htake : aarch64Regs.take .gpr type.size c = stackLoc c type.size 8 := by
      rw [RegFile.take, if_neg (by omega), if_neg (by simp), if_neg (by bv_omega)]
    rw [h.placeArg_of_le hs, htake, stackLoc_align h.bounds.2.2]

theorem onStack_of_placeArg_eq (h : HomogeneousAggregate type kind count)
    (heq : (Arch.aarch64.placeArg type c).1 =
      (Arch.aarch64.placeArg (abiHfaType kind count) c).1) :
    OnStackEitherWay type count c.gpr c.fpr := by
  have hpos := h.pos
  rw [h.placeArg_hfa] at heq
  by_cases hfit : c.fpr + count.toNat ≤ 8
  · -- the elements are in floating-point registers, which the aggregate never is
    have hneed : aarch64FprNeed type = 0 := by simp [aarch64FprNeed, isFloatKind, h.aggregate]
    have hnone := mem_fpr_placeArg (c := c) h.request_ok
    rw [if_pos hfit] at heq
    rw [heq, hneed] at hnone
    have hmem : c.fpr ∈ List.range' c.fpr count.toNat := by simpa using hpos
    exact absurd (hnone.mp ⟨_, List.mem_map.mpr ⟨_, hmem, rfl⟩, by simp [locReg]⟩).1
      (Nat.lt_irrefl 0)
  · rw [if_neg hfit] at heq
    refine ⟨by omega, ?_⟩
    by_cases hs : type.size ≤ 8#16
    · refine .inr ⟨hs, ?_⟩
      rw [h.placeArg_of_le hs] at heq
      have hstack := kind_take (r := aarch64Regs) (c := c) type.size (.inl rfl)
      rw [List.head_eq_of_cons_eq heq] at hstack
      simpa [stackLoc, locStack] using hstack
    · refine .inl ?_
      by_contra hle
      have hlen := congrArg List.length heq
      rw [placeArg, h.request, if_pos (by bv_omega), Request.place, length_takeAll,
        List.length_map, length_partSizes] at hlen
      simp only [List.length_singleton] at hlen
      bv_omega

/-! ### Results -/

theorem HomogeneousAggregate.classifyRet (h : HomogeneousAggregate type kind count) :
    ∃ out, Arch.aarch64.abi.classifyRet type (layoutInit .aarch64) = some out ∧
      ∀ l ∈ out.ret, l.kind ≠ .fpr := by
  have hret : Arch.aarch64.abi.classifyRet type (layoutInit .aarch64) =
      if type.size ≤ 16#16 then addRets (retRegs .gpr (partSizes type.size)) (layoutInit .aarch64)
      else retSret (layoutInit .aarch64) 8 type.size := by
    simp [abi, aarch64Aapcs, aarch64ClassifyRet, isIntegerKind, isFloatKind, h.aggregate]
  obtain ⟨hk, hc⟩ := h.cases
  rw [hret, h.size]
  rcases hk with rfl | rfl <;> rcases hc with rfl | rfl | rfl | rfl <;> exact ⟨_, rfl, by decide⟩

theorem HomogeneousAggregate.classifyRet_hfa (h : HomogeneousAggregate type kind count) :
    ∃ out, Arch.aarch64.abi.classifyRet (abiHfaType kind count) (layoutInit .aarch64) = some out ∧
      ∃ l ∈ out.ret, l.kind = .fpr := by
  obtain ⟨hk, hc⟩ := h.cases
  rcases hk with rfl | rfl <;> rcases hc with rfl | rfl | rfl | rfl <;>
    exact ⟨_, rfl, locReg .fpr 0 _, List.mem_cons_self, rfl⟩

end

variable {sig : FunctionSig}

theorem ret_eq_of_classifyRet {arch : Arch}
    (h : classifyCallAbi arch sig = some layout) (hflag : sig.retBySret = false)
    (hret : arch.abi.classifyRet sig.ret (layoutInit arch) = some out) : layout.ret = out.ret := by
  obtain ⟨p, hp, hlayout, -⟩ := (classify_laid h).result
  rw [CallAbi.classifyResult, hflag, if_neg Bool.false_ne_true, abi_arch, hret] at hp
  cases Option.some.inj hp
  exact hlayout

theorem isSome_classifyResult {arch : Arch} (hflag : sig.retBySret = false)
    (hret : arch.abi.classifyRet sig.ret (layoutInit arch) = some out) :
    (arch.abi.classifyResult sig).isSome := by
  rw [CallAbi.classifyResult, hflag, if_neg Bool.false_ne_true, abi_arch, hret]
  rfl

variable {type : AbiType}

theorem homogeneous_arg_iff {kind : TypeKind} {count : BitVec 8} {k : Nat}
    (hk : sig.args[k]? = some type) (hom : HomogeneousAggregate type kind count) :
    classifyCallAbi .aarch64 (sig.setArg k (abiHfaType kind count)) =
        classifyCallAbi .aarch64 sig ↔
      ((classifyCallAbi .aarch64 sig).isSome →
        OnStackEitherWay type count (Arch.aarch64.gprsBefore sig k)
          (Arch.aarch64.fprsBefore sig k)) := by
  have hsome := classify_setArg_isSome hk hom.request_ok hom.request_hfa_ok
  rw [← gpr_cursorAt, ← fpr_cursorAt]
  constructor
  · intro heq hs
    obtain ⟨layout, hl⟩ := Option.isSome_iff_exists.mp hs
    have harg := (classify_laid hl).arg hk
    rw [(classify_laid (heq.trans hl)).arg (getElem?_setArg hk), cursorAt_setArg] at harg
    exact onStack_of_placeArg_eq hom harg.symm
  · intro hcond
    by_cases hs : (classifyCallAbi .aarch64 sig).isSome = true
    · exact classify_setArg hk (hom.request_ok.trans hom.request_hfa_ok.symm)
        (placeArg_eq_of_onStack hom (hcond hs))
    · rw [Option.not_isSome_iff_eq_none.mp hs]
      exact Option.not_isSome_iff_eq_none.mp (hsome ▸ hs)

theorem homogeneous_ret_iff {kind : TypeKind} {count : BitVec 8}
    (hom : HomogeneousAggregate sig.ret kind count) :
    classifyCallAbi .aarch64 { sig with ret := abiHfaType kind count } =
        classifyCallAbi .aarch64 sig ↔
      ((classifyCallAbi .aarch64 sig).isSome → sig.retBySret) := by
  cases hflag : sig.retBySret with
  | true =>
    -- of the type only the size is read
    have hresult : aarch64Aapcs.classifyResult { sig with ret := abiHfaType kind count } =
        aarch64Aapcs.classifyResult sig := by
      have hflag' : { sig with ret := abiHfaType kind count }.retBySret := hflag
      rw [CallAbi.classifyResult, CallAbi.classifyResult, if_pos hflag, if_pos hflag', hom.size]
    refine iff_of_true ?_ fun _ => rfl
    exact if_congr Iff.rfl rfl (congrArg (Option.bind · _) hresult)
  | false =>
    obtain ⟨out, hret, hno⟩ := hom.classifyRet
    obtain ⟨out', hret', l, hl, hfpr⟩ := hom.classifyRet_hfa
    have hsome : (classifyCallAbi .aarch64 { sig with ret := abiHfaType kind count }).isSome =
        (classifyCallAbi .aarch64 sig).isSome := by
      have hflag' : { sig with ret := abiHfaType kind count }.retBySret = false := hflag
      rw [Bool.eq_iff_iff, classify_isSome_iff, classify_isSome_iff,
        isSome_classifyResult hflag hret, isSome_classifyResult hflag' hret']
    constructor
    · intro heq hs
      obtain ⟨layout, hlayout⟩ := Option.isSome_iff_exists.mp hs
      have hsame := ret_eq_of_classifyRet (heq.trans hlayout) hflag hret'
      rw [ret_eq_of_classifyRet hlayout hflag hret] at hsame
      exact absurd hfpr (hno l (hsame ▸ hl))
    · intro hcond
      have hs : ¬(classifyCallAbi .aarch64 sig).isSome := fun h =>
        Bool.false_ne_true (hcond h)
      rw [Option.not_isSome_iff_eq_none.mp hs]
      exact Option.not_isSome_iff_eq_none.mp (hsome ▸ hs)

/-- Marking a homogeneous aggregate as such keeps the AArch64 layout for an argument that is on the
stack either way, and for a result in memory by the flag. -/
theorem homogeneous_replaced_iff (sig : FunctionSig) (kind : TypeKind) (count : BitVec 8) :
    (∀ k type, sig.args[k]? = some type → HomogeneousAggregate type kind count →
      (classifyCallAbi .aarch64 (sig.setArg k (abiHfaType kind count)) =
          classifyCallAbi .aarch64 sig ↔
        ((classifyCallAbi .aarch64 sig).isSome = true →
          OnStackEitherWay type count (Arch.aarch64.gprsBefore sig k)
            (Arch.aarch64.fprsBefore sig k)))) ∧
    (HomogeneousAggregate sig.ret kind count →
      (classifyCallAbi .aarch64 { sig with ret := abiHfaType kind count } =
          classifyCallAbi .aarch64 sig ↔
        ((classifyCallAbi .aarch64 sig).isSome = true → sig.retBySret = true))) :=
  ⟨fun _ _ => homogeneous_arg_iff, homogeneous_ret_iff⟩

/-- Four doubles after five: on the stack either way. The result is in memory by the flag. -/
theorem homogeneous_replaced_iff_stacked :
    let sig : FunctionSig := ⟨List.replicate 5 (abiScalarType .f64) ++ [aggregate4 .f64],
      aggregate4 .f64, functionSigFlagRetBySret⟩
    (classifyCallAbi .aarch64 sig).map (·.args.getD 5 []) = some [locStack 0 32] ∧
      classifyCallAbi .aarch64 (sig.setArg 5 (abiHfaType .f64 4)) = classifyCallAbi .aarch64 sig ∧
      classifyCallAbi .aarch64 { sig with ret := abiHfaType .f64 4 } =
        classifyCallAbi .aarch64 sig := by
  intro sig
  have hom : HomogeneousAggregate (aggregate4 .f64) .f64 4 :=
    ⟨rfl, rfl, by decide, by decide, rfl, rfl, rfl⟩
  obtain ⟨harg, hret⟩ := homogeneous_replaced_iff sig .f64 4
  exact ⟨by decide, (harg 5 _ rfl hom).mpr fun _ => ⟨by decide, .inl (by decide)⟩,
    (hret hom).mpr fun _ => by decide⟩

/-- A pair of doubles and a double: general registers and the first floating-point register, where
the marked pair has the first two. So the bridge for pairs of doubles moves it from floating-point
registers of x86 to general ones of AArch64, and there is none for pairs of floats. -/
theorem fpair_not_homogeneous :
    HomogeneousAggregate (aggregate2 .f64 .f64) .f64 2 ∧
    (classifyCallAbi .aarch64 (fpairArgSig .f64)).map (·.args.take 2) =
      some [[locReg .gpr 0 8, locReg .gpr 1 8], [locReg .fpr 0 8]] ∧
    (classifyCallAbi .aarch64 ((fpairArgSig .f64).setArg 0 (abiHfaType .f64 2))).map
        (·.args.take 2) =
      some [[locReg .fpr 0 8, locReg .fpr 1 8], [locReg .fpr 2 8]] ∧
    (planFromDescriptorKind .x86 .aarch64 .fpair64Arg noSignatureSlot false).map
        (fun plan => (plan.ops.take 2).map fun op => (op.src, op.dst)) =
      some [(locReg .fpr 0 8, locReg .gpr 0 8), (locReg .fpr 1 8, locReg .gpr 1 8)] ∧
    planFromDescriptorKind .x86 .aarch64 .fpair32Arg noSignatureSlot false = none := by
  refine ⟨homogeneous_aggregate2 rfl, by decide, by decide, by decide, by decide⟩

/-! ## Eightbytes on x86 -/

def AbiField.meets (field : AbiField) (eightbyte : Nat) : Bool :=
  decide (field.offset.toNat < 8 * eightbyte + 8 ∧
    8 * eightbyte < field.offset.toNat + field.size.toNat)

/-- The class of each eightbyte of an aggregate: general if an integer lies in it. -/
def eightbyteKinds (type : AbiType) : List LocKind :=
  (List.range ((type.size.toNat + 7) / 8)).map fun n =>
    if type.fields.any fun f => f.meets n && isIntegerKind f.kind then .gpr else .fpr

inductive Built : AbiType → Prop
  | pair (first second : TypeKind) : Built (aggregate2 first second)
  | four (kind : TypeKind) : Built (aggregate4 kind)

def Passed (sig : FunctionSig) (layout : AbiLayout) (type : AbiType) (locs : List AbiLoc) : Prop :=
  (∃ k, sig.args[k]? = some type ∧ locs = layout.args.getD k []) ∨
    (sig.ret = type ∧ locs = layout.ret)

/-- Registers of the two files, for integers and for floating-point values. -/
def RegistersOnly (locs : List AbiLoc) : Prop := ∀ l ∈ locs, l.kind ∈ [LocKind.gpr, .fpr, .vec]
  deriving Decidable

/-- Two scalars, at least one of eight bytes, and no float before an integer of eight bytes. -/
def goodPair (first second : TypeKind) : Bool :=
  (isIntegerKind first || isFloatKind first) && (isIntegerKind second || isFloatKind second) &&
    ((abiScalarType first).size == 8#16 || (abiScalarType second).size == 8#16) &&
    !(first == .f32 && isIntegerKind second)

def fieldKinds (type : AbiType) : List LocKind :=
  type.fields.map fun f => if isFloatKind f.kind then .fpr else .gpr

theorem kinds_x86FieldRegs (fields : List AbiField) (gpr fpr : Nat) :
    (x86FieldRegs fields gpr fpr).map AbiLoc.kind =
      fields.map fun f => if isFloatKind f.kind then .fpr else .gpr := by
  induction fields generalizing gpr fpr with
  | nil => rfl
  | cons f fields ih =>
    rw [x86FieldRegs, List.map_cons]
    split <;> rw [List.map_cons, ih] <;> rfl

theorem Built.aggregate (h : Built type) : type.kind = .aggregate ∧ type.fields ≠ [] := by
  cases h <;> exact ⟨rfl, List.cons_ne_nil _ _⟩

theorem x86Request_fields (hk : type.kind = .aggregate) (hs : type.size ≤ 16#16)
    (hf : type.fields ≠ []) : x86.request type =
      .parts (type.fields.map fun f => (if isFloatKind f.kind then .fpr else .gpr, f.size)) := by
  simp [Arch.request, x86Request, isIntegerKind, isFloatKind, hk, hs, hf]

theorem kinds_of_passed {locs : List AbiLoc}
    (h : classifyCallAbi .x86 sig = some layout) (hb : Built type) (hs : type.size ≤ 16#16)
    (hp : Passed sig layout type locs) (hr : RegistersOnly locs) :
    locs.map AbiLoc.kind = fieldKinds type := by
  obtain ⟨hkind, hfields⟩ := hb.aggregate
  rcases hp with ⟨k, hk, rfl⟩ | ⟨rfl, rfl⟩
  · rw [(classify_laid h).arg hk, placeArg, x86Request_fields hkind hs hfields] at hr ⊢
    have hparts := takeAll_registers fun l hl hstack => by simpa [hstack] using hr l hl
    have hkinds := congrArg (List.map Prod.fst) hparts
    rw [List.map_map, List.map_map] at hkinds
    exact hkinds
  · obtain ⟨p, hp, hret, -⟩ := (classify_laid h).result
    have hplaced := classifyResult_placed hp
    cases hsret : p.1.usesSret with
    | true =>
      have hmem := hr _ (by rw [hret, hplaced.memory hsret]; exact List.mem_cons_self)
      simp [locSretPtr] at hmem
    | false =>
      rw [hret, (hplaced.registers hsret).1, retLocs, hkind]
      exact kinds_x86FieldRegs sig.ret.fields 0 0

theorem aggregate2_inj {first' second' : TypeKind}
    (h : aggregate2 first second = aggregate2 first' second') :
    first = first' ∧ second = second' := by
  have hfields := congrArg (·.fields.map AbiField.kind) h
  simpa [aggregate2] using hfields

theorem fieldKinds_aggregate2 (hs : (aggregate2 first second).size ≤ 16#16) :
    fieldKinds (aggregate2 first second) = eightbyteKinds (aggregate2 first second) ↔
      goodPair first second := by
  revert hs
  cases first <;> cases second <;> decide

theorem fieldKinds_aggregate4 {kind : TypeKind} (hs : (aggregate4 kind).size ≤ 16#16) :
    fieldKinds (aggregate4 kind) ≠ eightbyteKinds (aggregate4 kind) := by
  revert hs
  cases kind <;> decide

/-- An aggregate is in one register for each eightbyte, of its class, exactly when it is a good
pair. -/
theorem eightbytes_iff {sig : FunctionSig} {layout : AbiLayout} {type : AbiType}
    {locs : List AbiLoc} (h : classifyCallAbi .x86 sig = some layout) (hb : Built type)
    (hs : type.size ≤ 16#16) (hp : Passed sig layout type locs) (hr : RegistersOnly locs) :
    locs.map AbiLoc.kind = eightbyteKinds type ↔
      ∃ first second, type = aggregate2 first second ∧ goodPair first second = true := by
  rw [kinds_of_passed h hb hs hp hr]
  cases hb with
  | pair first second =>
    rw [fieldKinds_aggregate2 hs]
    constructor
    · exact fun hgood => ⟨first, second, rfl, hgood⟩
    · rintro ⟨first', second', heq, hgood⟩
      obtain ⟨rfl, rfl⟩ := aggregate2_inj heq
      exact hgood
  | four kind =>
    refine iff_of_false (fieldKinds_aggregate4 hs) ?_
    rintro ⟨first, second, heq, -⟩
    have hlen := congrArg (·.fields.length) heq
    simp [aggregate2, aggregate4] at hlen

/-- The pair of an integer and a double, as an argument. -/
theorem eightbytes_iff_mixedSig :
    ∃ layout, classifyCallAbi .x86 mixedSig = some layout ∧
      (layout.args.getD 0 []).map AbiLoc.kind = eightbyteKinds (aggregate2 .i64 .f64) := by
  have hlayout : classifyCallAbi .x86 mixedSig = some _ := rfl
  refine ⟨_, hlayout, (eightbytes_iff hlayout (.pair .i64 .f64) (by decide) (.inl ⟨0, rfl, rfl⟩)
    (by decide)).mpr ⟨.i64, .f64, rfl, by decide⟩⟩

/-- An integer and a float of four bytes share an eightbyte, and are in two registers as an argument
and as the result. -/
theorem compact_two_registers :
    ∃ layout, classifyCallAbi .x86 (compactSig .i32 .f32) = some layout ∧
      layout.args.getD 0 [] = [locReg .gpr 0 4, locReg .fpr 0 4] ∧
      layout.ret = [locReg .gpr 0 4, locReg .fpr 0 4] ∧
      eightbyteKinds (aggregate2 .i32 .f32) = [.gpr] :=
  ⟨_, rfl, by decide, by decide, by decide⟩

end Poly.Abi
