import Armd64.Abi.Classify
import Mathlib.Data.List.Nodup

/-!
# Where the result of a call goes

A result goes to registers, or to memory that a register points to.
-/

namespace Poly.Abi

/-! ## Registers of locations -/

namespace AbiLoc

def gprReg (l : AbiLoc) : Option Nat := if l.kind = .gpr then some l.reg else none

def fprReg (l : AbiLoc) : Option Nat :=
  if l.kind = .fpr ∨ l.kind = .vec then some l.reg else none

def sretReg (l : AbiLoc) : Option Nat := if l.kind = .sretPtr then some l.reg else none

def IsValue (l : AbiLoc) : Prop := l.kind ≠ .sretPtr ∧ l.kind ≠ .none

end AbiLoc

open AbiLoc

/-! ## Architectures -/

/-- The kinds of the parts of an argument on x86, before the registers run out. -/
def x86Kinds (type : AbiType) : List LocKind :=
  if isIntegerKind type.kind then [.gpr]
  else if isFloatKind type.kind then [.fpr]
  else if type.kind = .vec128 then [.vec]
  else if type.kind = .aggregate ∧ type.size ≤ 16#16 ∧ type.fields ≠ [] then
    type.fields.map fun f => if isFloatKind f.kind then .fpr else .gpr
  else if type.kind = .hfa ∧ type.size ≤ 16#16 then (partSizes type.size).map fun _ => .fpr
  else [.stack]

def aarch64Kinds (type : AbiType) : List LocKind :=
  if isIntegerKind type.kind then [.gpr]
  else if isFloatKind type.kind then [.fpr]
  else if type.kind = .vec128 then [.vec]
  else if type.kind = .hfa then [.fpr]
  else if type.kind = .aggregate ∧ type.size ≤ 16#16 then (partSizes type.size).map fun _ => .gpr
  else [.stack]

def riscvKinds (type : AbiType) : List LocKind :=
  if isIntegerKind type.kind ∨ type.kind = .vec128 then [.gpr]
  else if isFloatKind type.kind then [.fpr]
  else if type.kind = .hfa then [.fpr]
  else if type.kind = .aggregate ∧ type.size ≤ 16#16 then (partSizes type.size).map fun _ => .gpr
  else [.stack]

/-- The registers of an architecture and the kinds of its argument parts. -/
structure Profile where
  regs : RegFile
  kinds : AbiType → List LocKind

def x86Profile : Profile := ⟨x86Regs, x86Kinds⟩

def aarch64Profile : Profile := ⟨aarch64Regs, aarch64Kinds⟩

def riscvProfile : Profile := ⟨riscvRegs, riscvKinds⟩

def Arch.abi : Arch → CallAbi
  | .x86 => x86Sysv
  | .aarch64 => aarch64Aapcs
  | .riscv => riscvLp64d

def Arch.profile : Arch → Profile
  | .x86 => x86Profile
  | .aarch64 => aarch64Profile
  | .riscv => riscvProfile

theorem classifyCallAbi_eq (arch : Arch) (sig : FunctionSig) :
    classifyCallAbi arch sig = arch.abi.classify sig := by
  cases arch <;> rfl

theorem abi_arch (arch : Arch) : arch.abi.arch = arch := by
  cases arch <;> rfl

/-! ## Results -/

variable {out' : AbiLayout} {loc : AbiLoc} {kind : LocKind}

def retInMemory : Arch → AbiType → Bool
  | .x86, t =>
    (t.kind == .aggregate && !(decide (t.size ≤ 16#16) && !t.fields.isEmpty)) ||
      (t.kind == .hfa && !decide (t.size ≤ 16#16))
  | .aarch64, t | .riscv, t => t.kind == .aggregate && !decide (t.size ≤ 16#16)

theorem nodup_of_regs {locs : List AbiLoc} (hg : (locs.filterMap gprReg).Nodup)
    (hf : (locs.filterMap fprReg).Nodup) (hs : (locs.filter (·.kind == .stack)).Nodup)
    (hv : ∀ l ∈ locs, l.IsValue) : locs.Nodup := by
  rw [List.Nodup, List.pairwise_filterMap] at hg hf
  rw [List.Nodup, List.pairwise_filter] at hs
  refine ((hg.and hf).and hs).imp_of_mem fun {a b} ha _ hab => ?_
  rintro rfl
  obtain ⟨⟨hg, hf⟩, hs⟩ := hab
  obtain ⟨hsret, hnone⟩ := hv a ha
  cases hk : a.kind with
  | gpr => exact hg _ (if_pos hk) _ (if_pos hk) rfl
  | fpr => exact hf _ (if_pos (.inl hk)) _ (if_pos (.inl hk)) rfl
  | vec => exact hf _ (if_pos (.inr hk)) _ (if_pos (.inr hk)) rfl
  | stack => exact hs (beq_iff_eq.mpr hk) (beq_iff_eq.mpr hk) rfl
  | sretPtr => exact hsret hk
  | none => exact hnone hk

theorem addRetLoc_eq_some {out : AbiLayout} (h : out.addRetLoc loc = some out') :
    out' = { out with ret := out.ret ++ [loc] } := by
  rw [AbiLayout.addRetLoc] at h
  split at h
  · cases h
  · exact (Option.some.inj h).symm

theorem addRets_eq_some {locs : List AbiLoc} {out : AbiLayout} (h : addRets locs out = some out') :
    out' = { out with ret := out.ret ++ locs } := by
  induction locs generalizing out with
  | nil =>
    cases Option.some.inj h
    rw [List.append_nil]
  | cons loc locs ih =>
    obtain ⟨q, hq, hrest⟩ := Option.bind_eq_some_iff.mp h
    rw [ih hrest, addRetLoc_eq_some hq]
    simp

structure InRegisters (locs : List AbiLoc) : Prop where
  value : ∀ l ∈ locs, l.IsValue
  nodup : locs.Nodup

theorem inRegisters_nil : InRegisters [] := ⟨by simp, List.nodup_nil⟩

theorem inRegisters_reg (hk : kind ≠ .sretPtr ∧ kind ≠ .none) (reg : Nat) (size : BitVec 16) :
    InRegisters [locReg kind reg size] :=
  ⟨by simpa [IsValue, locReg] using hk, List.nodup_singleton _⟩

theorem inRegisters_retRegs (hk : kind ≠ .sretPtr ∧ kind ≠ .none) (sizes : List (BitVec 16)) :
    InRegisters (retRegs kind sizes) := by
  constructor
  · intro l hl
    obtain ⟨q, -, rfl⟩ := List.mem_map.mp hl
    exact hk
  · have hregs : (retRegs kind sizes).map AbiLoc.reg = List.range sizes.length := by
      rw [retRegs, List.map_map]
      exact List.zipIdx_map_snd 0 sizes |>.trans (List.range_eq_range' ..).symm
    exact List.Nodup.of_map _ (hregs ▸ List.nodup_range)

theorem x86FieldRegs_regs (fields : List AbiField) (gpr fpr : Nat) :
    (∃ k, (x86FieldRegs fields gpr fpr).filterMap gprReg = List.range' gpr k) ∧
      (∃ k, (x86FieldRegs fields gpr fpr).filterMap fprReg = List.range' fpr k) ∧
      ∀ l ∈ x86FieldRegs fields gpr fpr, l.kind = .gpr ∨ l.kind = .fpr := by
  induction fields generalizing gpr fpr with
  | nil => exact ⟨⟨0, rfl⟩, ⟨0, rfl⟩, by simp [x86FieldRegs]⟩
  | cons f fields ih =>
    rw [x86FieldRegs]
    split
    · obtain ⟨⟨g, hg⟩, ⟨k, hk⟩, hkind⟩ := ih gpr (fpr + 1)
      refine ⟨⟨g, ?_⟩, ⟨k + 1, ?_⟩, ?_⟩
      · rw [List.filterMap_cons_none (by rfl), hg]
      · rw [List.filterMap_cons_some (by rfl), hk, List.range'_succ]
        rfl
      · exact List.forall_mem_cons.mpr ⟨.inr rfl, hkind⟩
    · obtain ⟨⟨g, hg⟩, ⟨k, hk⟩, hkind⟩ := ih (gpr + 1) fpr
      refine ⟨⟨g + 1, ?_⟩, ⟨k, ?_⟩, ?_⟩
      · rw [List.filterMap_cons_some (by rfl), hg, List.range'_succ]
        rfl
      · rw [List.filterMap_cons_none (by rfl), hk]
      · exact List.forall_mem_cons.mpr ⟨.inl rfl, hkind⟩

theorem inRegisters_fields (fields : List AbiField) : InRegisters (x86FieldRegs fields 0 0) := by
  obtain ⟨⟨g, hg⟩, ⟨k, hk⟩, hkind⟩ := x86FieldRegs_regs fields 0 0
  have hvalue : ∀ l ∈ x86FieldRegs fields 0 0, l.IsValue := fun l hl => by
    rcases hkind l hl with h | h <;> rw [IsValue, h] <;> decide
  have hslots : (x86FieldRegs fields 0 0).filter (·.kind == .stack) = [] := by
    rw [List.filter_eq_nil_iff]
    intro l hl
    rcases hkind l hl with h | h <;> rw [h] <;> decide
  refine ⟨hvalue, nodup_of_regs ?_ ?_ ?_ hvalue⟩
  · rw [hg]
    exact List.nodup_range' ..
  · rw [hk]
    exact List.nodup_range' ..
  · rw [hslots]
    exact List.nodup_nil

variable {arch : Arch} {type : AbiType} {out : AbiLayout} {sig : FunctionSig}

/-- The registers of a result that does not go to memory. -/
def Arch.retLocs (arch : Arch) (type : AbiType) : List AbiLoc :=
  match type.kind with
  | .void => []
  | .i32 | .i64 | .ptr => [locReg .gpr 0 type.size]
  | .f32 | .f64 => [locReg .fpr 0 type.size]
  | .vec128 => [locReg (if arch = .riscv then .gpr else .vec) 0 type.size]
  | .aggregate =>
    if arch = .x86 then x86FieldRegs type.fields 0 0 else retRegs .gpr (partSizes type.size)
  | .hfa =>
    retRegs .fpr (if arch = .x86 then partSizes type.size
      else List.replicate type.count.toNat (hfaElemSize type))

theorem inRegisters_retLocs (arch : Arch) (type : AbiType) : InRegisters (arch.retLocs type) := by
  unfold Arch.retLocs
  split
  · exact inRegisters_nil
  · exact inRegisters_reg (by decide) ..
  · exact inRegisters_reg (by decide) ..
  · exact inRegisters_reg (by decide) ..
  · exact inRegisters_reg (by decide) ..
  · exact inRegisters_reg (by decide) ..
  · exact inRegisters_reg (by cases arch <;> decide) ..
  · split
    · exact inRegisters_fields _
    · exact inRegisters_retRegs (by decide) _
  · exact inRegisters_retRegs (by decide) _

def Arch.retOk (arch : Arch) (type : AbiType) : Bool :=
  type.kind != .hfa || arch == .x86 || hfaOk type

theorem addRets_singleton (loc : AbiLoc) (out : AbiLayout) :
    addRets [loc] out = out.addRetLoc loc :=
  Option.bind_fun_some _

theorem classifyRet_eq (arch : Arch) (type : AbiType) (out : AbiLayout) :
    arch.abi.classifyRet type out =
      if !arch.retOk type then none
      else if retInMemory arch type then retSret out arch.abi.sretReg type.size
      else addRets (arch.retLocs type) out := by
  by_cases hs : type.size ≤ 16#16 <;> cases arch <;> cases hk : type.kind <;>
    simp [Arch.abi, x86Sysv, aarch64Aapcs, riscvLp64d, x86ClassifyRet, aarch64ClassifyRet,
      riscvClassifyRet, retHfa, Arch.retOk, retInMemory, Arch.retLocs, addRets_singleton, addRets,
      isIntegerKind, isFloatKind, -BitVec.not_le, hs, hk]

theorem length_addRetLoc (h : out.addRetLoc loc = some out') : out'.ret.length ≤ layoutMaxRet := by
  unfold AbiLayout.addRetLoc at h
  split at h
  · cases h
  · rw [← Option.some.inj h]
    simp
    omega

theorem length_addRets {locs : List AbiLoc} (hout : out.ret.length ≤ layoutMaxRet)
    (h : addRets locs out = some out') : out'.ret.length ≤ layoutMaxRet := by
  induction locs generalizing out with
  | nil =>
    cases h
    exact hout
  | cons loc locs ih =>
    obtain ⟨next, hnext, hrest⟩ := Option.bind_eq_some_iff.mp h
    exact ih (length_addRetLoc hnext) hrest

/-- What the classifiers of results leave, with the cursor for the arguments. -/
structure ResultPlaced (arch : Arch) (sig : FunctionSig) (p : AbiLayout × Cursor) : Prop where
  init : ∃ ret sret, p.1 = { layoutInit arch with ret := ret, usesSret := sret }
  start : p.2 = if sig.retBySret then arch.abi.sretCursor else {}
  usesSret : p.1.usesSret = (sig.retBySret || retInMemory arch sig.ret)
  memory : p.1.usesSret → p.1.ret = [locSretPtr arch.abi.sretReg sig.ret.size]
  registers : p.1.usesSret = false → p.1.ret = arch.retLocs sig.ret ∧ arch.retOk sig.ret
  length : p.1.ret.length ≤ layoutMaxRet

theorem ResultPlaced.sret (hs : (sig.retBySret || retInMemory arch sig.ret) = true)
    (h : retSret (layoutInit arch) arch.abi.sretReg sig.ret.size = some out) :
    ResultPlaced arch sig (out, if sig.retBySret then arch.abi.sretCursor else {}) := by
  have hlen := length_addRetLoc h
  have hout := addRetLoc_eq_some h
  subst hout
  exact ⟨⟨_, _, rfl⟩, rfl, hs.symm, fun _ => rfl, (fun hno => by cases hno), hlen⟩

theorem classifyResult_placed {p : AbiLayout × Cursor}
    (h : arch.abi.classifyResult sig = some p) : ResultPlaced arch sig p := by
  rw [CallAbi.classifyResult, abi_arch, classifyRet_eq] at h
  cases hflag : sig.retBySret with
  | true =>
    rw [if_pos hflag] at h
    obtain ⟨out, hret, rfl⟩ := Option.map_eq_some_iff.mp h
    have hplaced := ResultPlaced.sret (by rw [hflag, Bool.true_or]) hret
    rwa [if_pos hflag] at hplaced
  | false =>
    rw [hflag, if_neg Bool.false_ne_true] at h
    obtain ⟨out, hret, rfl⟩ := Option.map_eq_some_iff.mp h
    split at hret
    · cases hret
    · next hok =>
      split at hret
      · next hmem =>
        have hplaced := ResultPlaced.sret (by rw [hmem, Bool.or_true]) hret
        rwa [hflag, if_neg Bool.false_ne_true] at hplaced
      · next hmem =>
        have hlen := length_addRets (Nat.zero_le _) hret
        have hout := addRets_eq_some hret
        subst hout
        have hno : retInMemory arch sig.ret = false := by simpa using hmem
        exact ⟨⟨_, _, rfl⟩, by rw [hflag]; rfl, by rw [hflag, hno]; rfl, (fun hs => by cases hs),
          fun _ => ⟨rfl, by simpa using hok⟩, hlen⟩

end Poly.Abi
