import Armd64.Lib.Layout
import Armd64.Proofs.AbiAggregates

/-!
# Sound argument layouts

A location names one register, however large the part is, so a layout says where a value is only if
the part is not wider than the register. The stack slots of the arguments are handed out by a cursor
that only grows.
-/

namespace Poly.Abi

open Hw
open Request
open Arch

/-! ## Parts and registers -/

def LocKind.width : LocKind → Nat
  | .vec => 16
  | _ => 8

def AbiLoc.InRegister (l : AbiLoc) : Prop := l.kind ∈ [LocKind.gpr, .fpr, .vec]
  deriving Decidable

def AbiLoc.Narrow (l : AbiLoc) : Prop := l.InRegister → l.size.toNat ≤ l.kind.width
  deriving Decidable

/-- The registers that a part takes, from the one that its location names on. -/
def AbiLoc.span (l : AbiLoc) : Nat := max 1 ((l.size.toNat + (l.kind.width - 1)) / l.kind.width)

def AbiLoc.Shares (l l' : AbiLoc) : Prop :=
  l.InRegister ∧ l'.InRegister ∧ (l.kind = .gpr ↔ l'.kind = .gpr) ∧
    l.reg < l'.reg + l'.span ∧ l'.reg < l.reg + l.span
  deriving Decidable

/-- The register parts fit their registers, and no two arguments share a register. -/
structure RegistersHold (layout : AbiLayout) : Prop where
  narrow : ∀ l ∈ layout.argLocs ++ layout.ret, l.Narrow
  apart : ∀ i j, i ≠ j → ∀ l ∈ layout.args.getD i [], ∀ l' ∈ layout.args.getD j [], ¬l.Shares l'

/-- Each part that is wider than its register comes when the registers of its kind are used up: `gpr`
and `fpr` of them by the arguments before, and the others by the parts before it. -/
def RegFile.Fit (r : RegFile) (gpr fpr : Nat) (ps : List (LocKind × BitVec 16)) : Prop :=
  ∀ i p, ps[i]? = some p → p.1.width < p.2.toNat →
    if p.1 = .gpr then r.gprs ≤ gpr + gprParts (ps.take i) else 8 ≤ fpr + fprParts r (ps.take i)

/-- The parts of a request are not wider than their registers. -/
def Request.narrow : Request → Bool
  | .parts ps => ps.all fun p => decide (p.2.toNat ≤ p.1.width)
  | _ => true

/-- No part of a signature that is wider than its register gets one. -/
structure Arch.PartsFit (arch : Arch) (sig : FunctionSig) : Prop where
  args : ∀ k type ps, sig.args[k]? = some type → arch.request type = .parts ps →
    arch.profile.regs.Fit (arch.gprsBefore sig k) (arch.fprsBefore sig k) ps
  ret : sig.retBySret = false → retInMemory arch sig.ret = false →
    (arch.request sig.ret).narrow = true

variable {arch : Arch} {type : AbiType}

variable {l : AbiLoc} {size v stack align : BitVec 16} {kind : LocKind} {types : List AbiType}
  {sig : FunctionSig}

theorem span_of_narrow (hr : l.InRegister) (h : l.Narrow) : l.span = 1 := by
  have hle := h hr
  unfold AbiLoc.span
  cases hk : l.kind <;> simp only [hk, LocKind.width] at hle ⊢ <;> omega

theorem not_shares {l' : AbiLoc} (h : l.Narrow) (h' : l'.Narrow)
    (hgpr : ∀ n, l.gprReg = some n → l'.gprReg ≠ some n)
    (hfpr : ∀ n, l.fprReg = some n → l'.fprReg ≠ some n) : ¬l.Shares l' := by
  rintro ⟨hr, hr', hfile, hlt, hlt'⟩
  rw [span_of_narrow hr h] at hlt'
  rw [span_of_narrow hr' h'] at hlt
  have hreg : l.reg = l'.reg := by omega
  unfold AbiLoc.gprReg at hgpr
  unfold AbiLoc.fprReg at hfpr
  simp only [AbiLoc.InRegister, List.mem_cons, List.not_mem_nil, or_false] at hr hr'
  by_cases hk : l.kind = .gpr
  · exact hgpr l.reg (if_pos hk) (by rw [if_pos (hfile.mp hk), hreg])
  · have hk' : l'.kind ≠ .gpr := fun hk' => hk (hfile.mpr hk')
    exact hfpr l.reg (if_pos (hr.resolve_left hk)) (by rw [if_pos (hr'.resolve_left hk'), hreg])

theorem partSizes_le {s : BitVec 16} (h : s ∈ partSizes size) : s ≤ 8#16 := by
  simp only [partSizes, List.mem_map, List.mem_range] at h
  obtain ⟨n, hn, rfl⟩ := h
  split
  · bv_omega
  · decide

theorem hfaElemSize_le (h : hfaOk type) : hfaElemSize type ≤ 8#16 := by
  unfold hfaOk isFloatKind at h
  unfold hfaElemSize
  cases hk : type.elemKind <;> simp [hk] at h ⊢ <;> decide

theorem inRegister_of_served {r : RegFile} (h : kind = .gpr ∨ r.inFpr kind) :
    kind ∈ [LocKind.gpr, .fpr, .vec] := by
  unfold RegFile.inFpr at h
  cases kind <;> simp_all

theorem narrow_stackLoc (c : Cursor) (size align : BitVec 16) : (stackLoc c size align).1.Narrow := by
  intro hr
  simp [AbiLoc.InRegister, stackLoc, locStack] at hr

section

variable {r : RegFile} {c : Cursor} {ps : List (LocKind × BitVec 16)}

theorem narrow_take_iff (hk : kind = .gpr ∨ r.inFpr kind) :
    (r.take kind size c).1.Narrow ↔
      (kind.width < size.toNat → if kind = .gpr then r.gprs ≤ c.gpr else 8 ≤ c.fpr) := by
  have hin := inRegister_of_served hk
  rcases take_cases (r := r) kind size c with ⟨rfl, hlt, heq⟩ | ⟨hf, hlt, heq⟩ | ⟨hg, hf, heq⟩
  · rw [heq, if_pos rfl, imp_iff_not (Nat.not_le.mpr hlt), Nat.not_lt]
    exact ⟨fun h => h hin, fun h _ => h⟩
  · rw [heq, if_neg (inFpr_ne_gpr hf), imp_iff_not (Nat.not_le.mpr hlt), Nat.not_lt]
    exact ⟨fun h => h hin, fun h _ => h⟩
  · rw [heq]
    refine iff_of_true (narrow_stackLoc c size _) fun _ => ?_
    split
    · exact hg ‹_›
    · exact hf (hk.resolve_left ‹_›)

theorem narrow_takeAll_iff (h : c.Within r) (hs : Served r ps) :
    (∀ l ∈ (r.takeAll ps c).1, l.Narrow) ↔ r.Fit c.gpr c.fpr ps := by
  induction ps generalizing c with
  | nil => exact iff_of_true (by simp [RegFile.takeAll]) fun i p hp => by simp at hp
  | cons p ps ih =>
    obtain ⟨hp, hs⟩ := List.forall_mem_cons.mp hs
    obtain ⟨hg, hf⟩ := cursor_take p.1 p.2 h
    rw [RegFile.takeAll, List.forall_mem_cons, narrow_take_iff hp, ih (within_take p.1 p.2 h) hs]
    -- The first part is at the cursor; those after it are behind what it has taken.
    have hrest : r.Fit (r.take p.1 p.2 c).2.gpr (r.take p.1 p.2 c).2.fpr ps ↔
        ∀ i q, ps[i]? = some q → q.1.width < q.2.toNat →
          if q.1 = .gpr then r.gprs ≤ c.gpr + gprParts ((p :: ps).take (i + 1))
          else 8 ≤ c.fpr + fprParts r ((p :: ps).take (i + 1)) := by
      rw [RegFile.Fit, hg, hf]
      refine forall₄_congr fun i q _ _ => ?_
      rw [List.take_succ_cons, gprParts_cons, fprParts_cons]
      split <;> omega
    rw [hrest]
    constructor
    · rintro ⟨hfirst, hnext⟩ (_ | i) q hq
      · cases hq
        simpa [gprParts, fprParts] using hfirst
      · exact hnext i q hq
    · intro hfit
      exact ⟨by simpa [gprParts, fprParts] using hfit 0 p rfl, fun i q hq => hfit (i + 1) q hq⟩

end

theorem narrow_placeArg_iff {c : Cursor} (hc : c.Within arch.profile.regs) :
    (∀ l ∈ (arch.placeArg type c).1, l.Narrow) ↔
      ∀ ps, arch.request type = .parts ps → arch.profile.regs.Fit c.gpr c.fpr ps := by
  rw [placeArg]
  cases hreq : arch.request type with
  | refused => exact iff_of_true (fun l hl => by cases hl) fun ps h => by cases h
  | parts ps =>
    rw [place, narrow_takeAll_iff hc (served_request hreq)]
    exact ⟨fun h qs hqs => Request.parts.inj hqs ▸ h, fun h => h ps rfl⟩
  | together k elem size align =>
    obtain ⟨hhfa, -, rfl⟩ := request_together hreq
    refine iff_of_true (fun l hl => ?_) fun ps h => by cases h
    rw [place] at hl
    split at hl
    · obtain ⟨n, -, rfl⟩ := List.mem_map.mp hl
      exact fun _ => hfaElemSize_le hhfa
    · exact List.mem_singleton.mp hl ▸ narrow_stackLoc c size align
  | memory size align =>
    refine iff_of_true (fun l hl => ?_) fun ps h => by cases h
    exact List.mem_singleton.mp hl ▸ narrow_stackLoc c size align

/-! ### Results -/

theorem narrow_of_le (h : l.size ≤ 8#16) : l.Narrow := by
  intro _
  have hwidth : 8 ≤ l.kind.width := by cases l.kind <;> decide
  exact Nat.le_trans h hwidth

theorem mem_retRegs {sizes : List (BitVec 16)} (h : l ∈ retRegs kind sizes) : l.size ∈ sizes := by
  obtain ⟨⟨size, n⟩, hp, rfl⟩ := List.mem_map.mp h
  exact (List.mem_zipIdx' hp).2 ▸ List.getElem_mem _

theorem parts_x86FieldRegs (fields : List AbiField) (gpr fpr : Nat) :
    (x86FieldRegs fields gpr fpr).map (fun l => (l.kind, l.size)) =
      fields.map fun f => (if isFloatKind f.kind then .fpr else .gpr, f.size) := by
  induction fields generalizing gpr fpr with
  | nil => rfl
  | cons f fields ih =>
    rw [x86FieldRegs, List.map_cons]
    split <;> rw [List.map_cons, ih] <;> rfl

section

theorem request_scalar (arch : Arch) (type : AbiType)
    (hk : type.kind ∈ [.i32, .i64, .ptr, .f32, .f64, .vec128]) :
    ∃ kind, arch.request type = .parts [(kind, type.size)] ∧
      arch.retLocs type = [locReg kind 0 type.size] := by
  simp only [List.mem_cons, List.not_mem_nil, or_false] at hk
  rcases hk with hk | hk | hk | hk | hk | hk <;> cases arch <;>
    simp [request, x86Request, aarch64Request, riscvRequest, retLocs, isIntegerKind,
      isFloatKind, locReg, hk]

/-- Locations in registers fit them if their kinds and sizes do. -/
theorem narrow_iff_of_parts {locs : List AbiLoc} {ps : List (LocKind × BitVec 16)}
    (hparts : locs.map (fun l => (l.kind, l.size)) = ps) (hreq : arch.request type = .parts ps) :
    (∀ l ∈ locs, l.Narrow) ↔ (arch.request type).narrow = true := by
  have hserved := served_request hreq
  rw [hreq, ← hparts, Request.narrow, List.all_map, List.all_eq_true]
  refine forall₂_congr fun l hl => ?_
  have hin := hserved (l.kind, l.size) (hparts ▸ List.mem_map.mpr ⟨l, hl, rfl⟩)
  simp only [Function.comp_apply, decide_eq_true_eq]
  exact ⟨fun h => h (inRegister_of_served hin), fun h _ => h⟩

theorem narrow_of_sizes {ps : List (LocKind × BitVec 16)} (h : ∀ p ∈ ps, p.2 ≤ 8#16) :
    (Request.parts ps).narrow = true := by
  refine List.all_eq_true.mpr fun p hp => decide_eq_true ?_
  have hwidth : 8 ≤ p.1.width := by cases p.1 <;> decide
  exact Nat.le_trans (h p hp) hwidth

theorem narrow_partSizes (kind : LocKind) (size : BitVec 16) :
    (Request.parts ((partSizes size).map (kind, ·))).narrow = true := by
  refine narrow_of_sizes fun p hp => ?_
  obtain ⟨s, hs, rfl⟩ := List.mem_map.mp hp
  exact partSizes_le hs

theorem narrow_of_aggregate (hk : type.kind = .aggregate) (hx : arch ≠ .x86) :
    (arch.request type).narrow = true := by
  cases arch with
  | x86 => exact absurd rfl hx
  | aarch64 | riscv =>
    have hint : isIntegerKind .aggregate = false := rfl
    have hfloat : isFloatKind .aggregate = false := rfl
    simp only [request, aarch64Request, riscvRequest, hk, hint, hfloat, Bool.false_eq_true,
      reduceCtorEq, or_self, true_and, if_false]
    split
    · exact narrow_partSizes ..
    · rfl

theorem narrow_of_hfa (hk : type.kind = .hfa) : (arch.request type).narrow = true := by
  have helems (hok : hfaOk type) :
      (Request.parts (List.replicate type.count.toNat (.fpr, hfaElemSize type))).narrow = true :=
    narrow_of_sizes fun p hp => List.eq_of_mem_replicate hp ▸ hfaElemSize_le hok
  have hint : isIntegerKind .hfa = false := rfl
  have hfloat : isFloatKind .hfa = false := rfl
  cases arch <;>
    simp only [request, x86Request, aarch64Request, riscvRequest, hk, hint, hfloat,
      Bool.false_eq_true, reduceCtorEq, or_self, true_and, false_and, if_false, if_true,
      Bool.not_eq_true']
  all_goals split
  · exact narrow_partSizes ..
  · rfl
  · rfl
  · rfl
  · rfl
  · exact helems (by simp_all)

theorem narrow_retLocs_iff (hmem : retInMemory arch type = false) (hok : arch.retOk type) :
    (∀ l ∈ arch.retLocs type, l.Narrow) ↔ (arch.request type).narrow = true := by
  cases hk : type.kind with
  | void =>
    refine iff_of_true (by simp [retLocs, hk]) ?_
    cases arch <;>
      simp [request, x86Request, aarch64Request, riscvRequest, isIntegerKind, isFloatKind, hk,
        Request.narrow]
  | i32 | i64 | ptr | f32 | f64 | vec128 =>
    obtain ⟨kind, hreq, hlocs⟩ := request_scalar arch type (by simp [hk])
    exact narrow_iff_of_parts (by rw [hlocs]; rfl) hreq
  | aggregate =>
    by_cases hx : arch = .x86
    · subst hx
      simp only [retInMemory, hk] at hmem
      simp only [retLocs, hk, if_true]
      exact narrow_iff_of_parts (parts_x86FieldRegs type.fields 0 0)
        (x86Request_fields hk (by simp_all) (by simp_all))
    · refine iff_of_true (fun l hl => ?_) (narrow_of_aggregate hk hx)
      simp only [retLocs, hk, if_neg hx] at hl
      exact narrow_of_le (partSizes_le (mem_retRegs hl))
  | hfa =>
    refine iff_of_true (fun l hl => narrow_of_le ?_) (narrow_of_hfa hk)
    simp only [retLocs, hk] at hl
    have hsize := mem_retRegs hl
    split at hsize
    · exact partSizes_le hsize
    · next hx =>
      rw [List.eq_of_mem_replicate hsize]
      exact hfaElemSize_le (by simpa [retOk, hk, hx] using hok)

theorem narrow_ret_iff {sig : FunctionSig} {layout : AbiLayout}
    (h : classifyCallAbi arch sig = some layout) :
    (∀ l ∈ layout.ret, l.Narrow) ↔ (sig.retBySret = false → retInMemory arch sig.ret = false →
      (arch.request sig.ret).narrow = true) := by
  obtain ⟨p, hp, hret, -⟩ := (classify_laid h).result
  have hplaced := classifyResult_placed hp
  rw [hret]
  cases hs : p.1.usesSret with
  | true =>
    refine iff_of_true (fun l hl hr => ?_) fun hflag hmem => ?_
    · rw [hplaced.memory hs] at hl
      cases List.mem_singleton.mp hl
      simp [AbiLoc.InRegister, locSretPtr] at hr
    · have hsret := hplaced.usesSret.symm.trans hs
      rw [hflag, hmem] at hsret
      cases hsret
  | false =>
    obtain ⟨hlocs, hok⟩ := hplaced.registers hs
    obtain ⟨hflag, hmem⟩ := Bool.or_eq_false_iff.mp (hplaced.usesSret.symm.trans hs)
    rw [hlocs, narrow_retLocs_iff hmem hok]
    exact ⟨fun h _ _ => h, fun h => h hflag hmem⟩

end

/-! ### Whole layouts -/

variable {c : Cursor}

theorem mem_placeArgs (h : l ∈ (arch.placeArgs types c).flatten) :
    ∃ k type, types[k]? = some type ∧
      l ∈ (arch.placeArg type (arch.cursorAfter (types.take k) c)).1 := by
  induction types generalizing c with
  | nil => cases h
  | cons type types ih =>
    rcases List.mem_append.mp h with h | h
    · exact ⟨0, type, rfl, h⟩
    · obtain ⟨k, t, ht, hl⟩ := ih h
      exact ⟨k + 1, t, ht, hl⟩

theorem narrow_args_iff {layout : AbiLayout} (h : classifyCallAbi arch sig = some layout) :
    (∀ l ∈ layout.argLocs, l.Narrow) ↔
      ∀ k type ps, sig.args[k]? = some type → arch.request type = .parts ps →
        arch.profile.regs.Fit (arch.gprsBefore sig k) (arch.fprsBefore sig k) ps := by
  have hlaid := classify_laid h
  have hone (k : Nat) (type : AbiType) : (∀ l ∈ (arch.placeArg type (arch.cursorAt sig k)).1,
      l.Narrow) ↔ ∀ ps, arch.request type = .parts ps →
        arch.profile.regs.Fit (arch.gprsBefore sig k) (arch.fprsBefore sig k) ps := by
    rw [← gpr_cursorAt, ← fpr_cursorAt]
    exact narrow_placeArg_iff (within_cursorAt arch sig k)
  constructor
  · intro hall k type ps hk
    refine (hone k type).mp (fun l hl => hall l ?_) ps
    rw [← hlaid.arg hk] at hl
    exact mem_flatten_of_mem_getD hl
  · intro hfit l hl
    rw [hlaid.argLocs] at hl
    obtain ⟨k, type, hk, hl⟩ := mem_placeArgs hl
    exact (hone k type).mpr (fun ps => hfit k type ps hk) l hl

theorem apart_of_narrow {layout : AbiLayout} (h : classifyCallAbi arch sig = some layout)
    (harg : ∀ l ∈ layout.argLocs, l.Narrow) {i j : Nat} (hij : i ≠ j) :
    ∀ l ∈ layout.args.getD i [], ∀ l' ∈ layout.args.getD j [], ¬l.Shares l' := by
  obtain ⟨c, c', hclass⟩ := classify_classified h
  have hg := hclass.gprs_nodup
  have hf := hclass.fprs_nodup
  rw [List.Nodup, List.pairwise_filterMap] at hg hf
  intro l hl l' hl'
  have hl₀ := harg l (mem_flatten_of_mem_getD hl)
  have hl₀' := harg l' (mem_flatten_of_mem_getD hl')
  rcases Nat.lt_or_gt_of_ne hij with hlt | hlt
  · exact not_shares hl₀ hl₀'
      (fun n hn hn' => pairwise_flatten_getD hg hlt hl hl' n hn n hn' rfl)
      (fun n hn hn' => pairwise_flatten_getD hf hlt hl hl' n hn n hn' rfl)
  · exact not_shares hl₀ hl₀'
      (fun n hn hn' => pairwise_flatten_getD hg hlt hl' hl n hn' n hn rfl)
      (fun n hn hn' => pairwise_flatten_getD hf hlt hl' hl n hn' n hn rfl)

/-- When the registers of a layout hold its parts: no part that is too wide for a register gets
one. -/
theorem narrow_iff {arch : Arch} {sig : FunctionSig} {layout : AbiLayout}
    (h : classifyCallAbi arch sig = some layout) : RegistersHold layout ↔ arch.PartsFit sig := by
  constructor
  · rintro ⟨hnarrow, -⟩
    obtain ⟨hargs, hret⟩ := List.forall_mem_append.mp hnarrow
    exact ⟨(narrow_args_iff h).mp hargs, (narrow_ret_iff h).mp hret⟩
  · rintro ⟨hargs, hret⟩
    have hnarrow := (narrow_args_iff h).mpr hargs
    exact ⟨List.forall_mem_append.mpr ⟨hnarrow, (narrow_ret_iff h).mpr hret⟩,
      fun i j => apart_of_narrow h hnarrow⟩

def vectorLastSig : FunctionSig :=
  ⟨List.replicate 4 (aggregate2 .i64 .i64) ++ [abiScalarType .vec128], abiScalarType .i64, 0⟩

/-- Four pairs on RISC-V take all registers, so the vector after them is on the stack. -/
theorem narrow_iff_vector_last :
    ∃ layout, classifyCallAbi .riscv vectorLastSig = some layout ∧ RegistersHold layout ∧
      layout.args.getD 4 [] = [locStack 0 16] := by
  have hslot : (classifyCallAbi .riscv vectorLastSig).map (·.args.getD 4 []) =
      some [locStack 0 16] := by decide
  obtain ⟨layout, h, hlast⟩ := Option.map_eq_some_iff.mp hslot
  refine ⟨layout, h, (narrow_iff h).mpr ⟨fun k type ps hk hps => ?_, by decide⟩, hlast⟩
  match k, hk with
  | 0, rfl | 1, rfl | 2, rfl | 3, rfl =>
    cases hps
    intro i p hp
    match i, hp with
    | 0, rfl | 1, rfl => decide
  | 4, rfl =>
    cases hps
    intro i p hp
    match i, hp with
    | 0, rfl => decide

/-- A vector and an integer on RISC-V: the vector has the first integer register, which is that of
the integer. -/
theorem vector_shares_register :
    ∃ layout, classifyCallAbi .riscv
        ⟨[abiScalarType .vec128, abiScalarType .i64], abiScalarType .void, 0⟩ = some layout ∧
      layout.args.getD 0 [] = [locReg .gpr 0 16] ∧ layout.args.getD 1 [] = [locReg .gpr 1 8] ∧
      ¬(locReg .gpr 0 16).Narrow ∧ (locReg .gpr 0 16).Shares (locReg .gpr 1 8) :=
  ⟨_, rfl, by decide, by decide, by decide, by decide⟩

/-! ## Stack slots -/

/-- The bytes of the stack that a location names: their offset and their number. -/
def AbiLoc.slot (l : AbiLoc) : Option (Nat × Nat) :=
  if l.kind = .stack then some (l.stackOffset.toNat, l.size.toNat) else none

theorem toNat_alignTo {a : BitVec 16} {k : Nat} (hm : a - 1 = (BitVec.allOnes k).setWidth 16)
    (ha : a.toNat = 2 ^ k) (hv : v.toNat + 2 ^ k ≤ 2 ^ 16) :
    (alignTo v a).toNat = alignUp (2 ^ k) v.toNat := by
  have hsum : (v + a - 1).toNat = v.toNat + (2 ^ k - 1) := by bv_omega
  rw [alignTo, toNat_and_not_mask hm, hsum, alignUp]

theorem toNat_alignTo_eight (hv : v.toNat + 8 ≤ 2 ^ 16) :
    (alignTo v 8).toNat = alignUp 8 v.toNat :=
  toNat_alignTo (k := 3) (by decide) rfl hv

theorem toNat_alignTo_sixteen (hv : v.toNat + 16 ≤ 2 ^ 16) :
    (alignTo v 16).toNat = alignUp 16 v.toNat :=
  toNat_alignTo (k := 4) (by decide) rfl hv

theorem offset_bounds {off : BitVec 16} {a : Nat} (h0 : 0 < a) (ha : a ≤ 16)
    (hoff : off.toNat = alignUp a stack.toNat) (hroom : stack.toNat + size.toNat + 24 ≤ 2 ^ 16) :
    stack.toNat ≤ off.toNat ∧ off.toNat + size.toNat ≤ (off + alignTo size 8).toNat ∧
      (off + alignTo size 8).toNat ≤ stack.toNat + size.toNat + 24 := by
  have hsize := toNat_alignTo_eight (v := size) (by omega)
  have hsize_le := le_alignUp (a := 8) (by decide) size.toNat
  have hsize_lt := alignUp_lt (a := 8) (by decide) size.toNat
  have hle := le_alignUp h0 stack.toNat
  have hlt := alignUp_lt h0 stack.toNat
  rw [BitVec.toNat_add, hsize]
  omega

theorem stackLoc_bounds (ha : align ≤ 8#16 ∨ align = 16#16)
    (hroom : c.stack.toNat + size.toNat + 24 ≤ 2 ^ 16) :
    c.stack.toNat ≤ (stackLoc c size align).1.stackOffset.toNat ∧
      (stackLoc c size align).1.stackOffset.toNat + size.toNat ≤
        (stackLoc c size align).2.stack.toNat ∧
      (stackLoc c size align).2.stack.toNat ≤ c.stack.toNat + size.toNat + 24 := by
  rcases ha with ha | rfl
  · rw [stackLoc_align ha]
    exact offset_bounds (by decide) (by decide) (toNat_alignTo_eight (by omega)) hroom
  · exact offset_bounds (by decide) (by decide) (toNat_alignTo_sixteen (by omega)) hroom

theorem stackLoc_sixteen (size : BitVec 16) (hroom : c.stack.toNat + 16 ≤ 2 ^ 16) :
    16 ∣ (stackLoc c size 16).1.stackOffset.toNat := by
  have hoff : (stackLoc c size 16).1.stackOffset.toNat = alignUp 16 c.stack.toNat :=
    toNat_alignTo_sixteen hroom
  rw [hoff]
  exact dvd_alignUp 16 _

theorem stackLoc_aligned (ha : align ≤ 8#16 ∨ align = 16#16) (size : BitVec 16)
    (hroom : c.stack.toNat + 16 ≤ 2 ^ 16) : 8 ∣ (stackLoc c size align).1.stackOffset.toNat := by
  rcases ha with ha | rfl
  · have hoff : (stackLoc c size 8).1.stackOffset.toNat = alignUp 8 c.stack.toNat :=
      toNat_alignTo_eight (by omega)
    rw [stackLoc_align ha, hoff]
    exact dvd_alignUp 8 _
  · exact Nat.dvd_trans (by decide) (stackLoc_sixteen size hroom)

/-- Locations whose stack slots stand one after another between two cursors that are not further
apart than `room` bytes. -/
structure Grows (c : Cursor) (locs : List AbiLoc) (c' : Cursor) (room : Nat) : Prop where
  packed : Packed (locs.filterMap AbiLoc.slot) c.stack.toNat c'.stack.toNat
  aligned : ∀ l ∈ locs, l.kind = .stack → 8 ∣ l.stackOffset.toNat
  le : c'.stack.toNat ≤ c.stack.toNat + room

section

variable {c c' c'' : Cursor} {locs locs' : List AbiLoc} {m n : Nat}

theorem Grows.append (h : Grows c locs c' m) (h' : Grows c' locs' c'' n) :
    Grows c (locs ++ locs') c'' (m + n) where
  packed := by
    rw [List.filterMap_append]
    exact h.packed.append h'.packed
  aligned := List.forall_mem_append.mpr ⟨h.aligned, h'.aligned⟩
  le := by
    have hle := h.le
    have hle' := h'.le
    omega

theorem Grows.mono (h : Grows c locs c' m) (hmn : m ≤ n) : Grows c locs c' n :=
  ⟨h.packed, h.aligned, Nat.le_trans h.le (Nat.add_le_add_left hmn _)⟩

theorem grows_registers (hs : c'.stack = c.stack) (h : ∀ l ∈ locs, l.kind ≠ .stack) :
    Grows c locs c' n where
  packed := by
    have hnone : locs.filterMap AbiLoc.slot = [] :=
      List.filterMap_eq_nil_iff.mpr fun l hl => if_neg (h l hl)
    rw [hnone, hs]
    exact Nat.le_refl _
  aligned l hl hk := absurd hk (h l hl)
  le := by
    rw [hs]
    exact Nat.le_add_right _ _

theorem grows_stackLoc {size align : BitVec 16} (ha : align ≤ 8#16 ∨ align = 16#16)
    (hroom : c.stack.toNat + (size.toNat + 24) ≤ 2 ^ 16) :
    Grows c [(stackLoc c size align).1] (stackLoc c size align).2 (size.toNat + 24) := by
  obtain ⟨hoff, hend, hle⟩ := stackLoc_bounds ha (by omega)
  refine ⟨⟨hoff, hend⟩, ?_, by omega⟩
  intro l hl _
  cases List.mem_singleton.mp hl
  exact stackLoc_aligned ha size (by omega)

theorem grows_take {r : RegFile} (kind : LocKind) (size : BitVec 16)
    (hroom : c.stack.toNat + (size.toNat + 24) ≤ 2 ^ 16) :
    Grows c [(r.take kind size c).1] (r.take kind size c).2 (size.toNat + 24) := by
  unfold RegFile.take
  split
  · next h =>
    refine grows_registers rfl ?_
    simp [locReg, h.1]
  · split
    · next h =>
      refine grows_registers rfl ?_
      rcases h.1 with hk | hk <;> simp [locReg, hk]
    · exact grows_stackLoc (by split <;> simp) hroom

end

namespace Request

def room : Request → Nat
  | .refused => 0
  | .parts ps => (ps.map fun p => p.2.toNat + 24).sum
  | .together _ _ size _ => size.toNat + 24
  | .memory size _ => size.toNat + 24

def aligned : Request → Bool
  | .together _ _ _ align => decide (align ≤ 8#16 ∨ align = 16#16)
  | .memory _ align => decide (align ≤ 8#16 ∨ align = 16#16)
  | _ => true

def exact (size : BitVec 16) : Request → Bool
  | .refused => false
  | .parts ps => decide ((ps.map (·.2.toNat)).sum = size.toNat)
  | .together count elem whole _ => decide (count * elem.toNat = size.toNat ∧ whole = size)
  | .memory whole _ => decide (whole = size)

end Request

section

variable {r : RegFile} {c : Cursor} {req : Request}

theorem grows_takeAll {ps : List (LocKind × BitVec 16)}
    (hroom : c.stack.toNat + (ps.map fun p => p.2.toNat + 24).sum ≤ 2 ^ 16) :
    Grows c (r.takeAll ps c).1 (r.takeAll ps c).2 (ps.map fun p => p.2.toNat + 24).sum := by
  induction ps generalizing c with
  | nil => exact grows_registers rfl (by simp [RegFile.takeAll])
  | cons p ps ih =>
    rw [List.map_cons, List.sum_cons] at hroom ⊢
    have hfirst := grows_take (r := r) (c := c) p.1 p.2 (by omega)
    have hle := hfirst.le
    exact hfirst.append (ih (by omega))

theorem grows_place (ha : req.aligned) (hroom : c.stack.toNat + req.room ≤ 2 ^ 16) :
    Grows c (req.place r c).1 (req.place r c).2 req.room := by
  cases req with
  | refused => exact grows_registers rfl (by simp [place])
  | parts ps => exact grows_takeAll hroom
  | together count elem size align =>
    rw [place]
    split
    · refine grows_registers rfl fun l hl => ?_
      obtain ⟨n, -, rfl⟩ := List.mem_map.mp hl
      simp [locReg]
    · exact grows_stackLoc (of_decide_eq_true ha) hroom
  | memory size align => exact grows_stackLoc (of_decide_eq_true ha) hroom

theorem sizes_place {size : BitVec 16} (h : req.exact size) :
    ((req.place r c).1.map (·.size.toNat)).sum = size.toNat := by
  cases req with
  | refused => cases h
  | parts ps =>
    have hsizes := congrArg (List.map BitVec.toNat) (sizes_takeAll r ps c)
    rw [List.map_map, List.map_map] at hsizes
    exact (congrArg List.sum hsizes).trans (of_decide_eq_true h)
  | together count elem whole align =>
    obtain ⟨hcount, rfl⟩ := of_decide_eq_true h
    rw [place]
    split
    · simp only [List.map_map, Function.comp_def, locReg, List.map_const', List.length_range']
      rw [List.sum_replicate_nat]
      exact hcount
    · simp [stackLoc, locStack]
  | memory whole align =>
    cases of_decide_eq_true h
    simp [place, stackLoc, locStack]

end

theorem grows_placeArgs {c : Cursor} {room : Nat}
    (hroom : ∀ type ∈ types, (arch.request type).room ≤ room)
    (ha : ∀ type ∈ types, (arch.request type).aligned)
    (hc : c.stack.toNat + types.length * room ≤ 2 ^ 16) :
    Grows c (arch.placeArgs types c).flatten (arch.cursorAfter types c) (types.length * room) := by
  induction types generalizing c with
  | nil => exact grows_registers rfl (by simp [placeArgs])
  | cons type types ih =>
    obtain ⟨hr, hroom⟩ := List.forall_mem_cons.mp hroom
    obtain ⟨ha, has⟩ := List.forall_mem_cons.mp ha
    rw [List.length_cons, Nat.succ_mul, Nat.add_comm] at hc ⊢
    have hfirst : Grows c (arch.placeArg type c).1 (arch.placeArg type c).2 room :=
      (grows_place ha (by omega)).mono hr
    have hle := hfirst.le
    exact hfirst.append (ih hroom has (by omega))

/-! ## Constructed types -/

def TypeKind.isScalar (kind : TypeKind) : Bool :=
  isIntegerKind kind || isFloatKind kind || kind == .vec128

/-- The types that the constructors build from scalars that are not void. -/
inductive Constructed : AbiType → Prop
  | scalar {kind : TypeKind} (h : kind.isScalar = true) : Constructed (abiScalarType kind)
  | hfa {kind : TypeKind} {count : BitVec 8} (h : isFloatKind kind = true) (pos : 0 < count.toNat)
      (le : count.toNat ≤ 4) : Constructed (abiHfaType kind count)
  | pair {first second : TypeKind} (h : first.isScalar = true) (h' : second.isScalar = true) :
      Constructed (aggregate2 first second)
  | four {kind : TypeKind} (h : kind.isScalar = true) : Constructed (aggregate4 kind)

theorem hfa_count_cases {count : BitVec 8} (pos : 0 < count.toNat) (le : count.toNat ≤ 4) :
    count = 1 ∨ count = 2 ∨ count = 3 ∨ count = 4 := by bv_omega

theorem Constructed.request (h : Constructed type) (arch : Arch) :
    (arch.request type).ok ∧ (arch.request type).room ≤ 160 ∧
      (arch.request type).aligned ∧ (arch.request type).exact type.size := by
  cases h with
  | @scalar kind h =>
    revert h
    cases kind <;> cases arch <;> decide
  | @hfa kind count h pos le =>
    revert h
    rcases hfa_count_cases pos le with rfl | rfl | rfl | rfl <;> cases kind <;> cases arch <;>
      decide
  | @pair first second h h' =>
    revert h h'
    cases first <;> cases second <;> cases arch <;> decide
  | @four kind h =>
    revert h
    cases kind <;> cases arch <;> decide

/-- Of the constructed types, only the vector on RISC-V has a part that is too wide. -/
theorem Constructed.narrow_eq_false_iff (h : Constructed type) (arch : Arch) :
    (arch.request type).narrow = false ↔ arch = .riscv ∧ type = abiScalarType .vec128 := by
  cases h with
  | @scalar kind h =>
    revert h
    cases kind <;> cases arch <;> decide
  | @hfa kind count h pos le =>
    revert h
    rcases hfa_count_cases pos le with rfl | rfl | rfl | rfl <;> cases kind <;> cases arch <;>
      decide
  | @pair first second h h' =>
    revert h h'
    cases first <;> cases second <;> cases arch <;> decide
  | @four kind h =>
    revert h
    cases kind <;> cases arch <;> decide

/-- The arguments of a layout have places of their own, which add up to their sizes. -/
structure ArgumentsSound (sig : FunctionSig) (layout : AbiLayout) : Prop where
  gprs : (layout.argLocs.filterMap AbiLoc.gprReg).Nodup
  fprs : (layout.argLocs.filterMap AbiLoc.fprReg).Nodup
  disjoint : (layout.argLocs.filterMap AbiLoc.slot).Pairwise fun s t => s.1 + s.2 ≤ t.1
  inside : ∀ s ∈ layout.argLocs.filterMap AbiLoc.slot, s.1 + s.2 ≤ layout.stackArgSize.toNat
  aligned : ∀ l ∈ layout.argLocs, l.kind = .stack → 8 ∣ l.stackOffset.toNat
  vectors : ∀ k type, sig.args[k]? = some type → type.kind = .vec128 →
    ∀ l ∈ layout.args.getD k [], l.kind = .stack → 16 ∣ l.stackOffset.toNat
  sizes : ∀ k type, sig.args[k]? = some type →
    ((layout.args.getD k []).map (·.size.toNat)).sum = type.size.toNat

theorem le_stackArea (h : stack.toNat + 16 ≤ 2 ^ 16) :
    stack.toNat ≤ (arch.abi.stackArea stack).toNat := by
  cases arch with
  | x86 => exact Nat.le_refl _
  | aarch64 | riscv =>
    exact (le_alignUp (by decide) _).trans_eq (toNat_alignTo_sixteen h).symm

theorem constructed_vec128 (h : Constructed type) (hk : type.kind = .vec128)
    (arch : Arch) : ∃ kind, arch.request type = .parts [(kind, 16#16)] := by
  cases h with
  | @scalar kind h =>
    have hkind : kind = .vec128 := by
      revert hk
      cases kind <;> decide
    subst hkind
    cases arch
    exacts [⟨.vec, rfl⟩, ⟨.vec, rfl⟩, ⟨.gpr, rfl⟩]
  | hfa | pair | four => cases hk

theorem vector_aligned {r : RegFile} {c : Cursor} (hroom : c.stack.toNat + 16 ≤ 2 ^ 16)
    (hl : l ∈ (r.takeAll [(kind, 16#16)] c).1) (hs : l.kind = .stack) :
    16 ∣ l.stackOffset.toNat := by
  cases List.mem_singleton.mp hl
  rcases take_cases (r := r) kind 16#16 c with ⟨-, -, heq⟩ | ⟨hk, -, heq⟩ | ⟨-, -, heq⟩
  · simp [heq, locReg] at hs
  · have hkind : kind = .stack := by simpa [heq, locReg] using hs
    simp [hkind] at hk
  · simp only [heq, if_pos (BitVec.le_refl 16#16)]
    exact stackLoc_sixteen _ hroom

theorem retInMemory_of_scalar
    (h : type.kind ≠ .aggregate ∧ type.kind ≠ .hfa) : retInMemory arch type = false := by
  cases arch <;> simp [retInMemory, h]

theorem isSome_classifyResult_of_flag (h : sig.retBySret) :
    (arch.abi.classifyResult sig).isSome := by
  rw [CallAbi.classifyResult, if_pos h]
  cases arch <;> rfl

theorem isSome_classifyResult_of_scalar
    (h : sig.ret.kind ≠ .aggregate ∧ sig.ret.kind ≠ .hfa) :
    (arch.abi.classifyResult sig).isSome := by
  cases hflag : sig.retBySret with
  | true => exact isSome_classifyResult_of_flag hflag
  | false =>
    rw [CallAbi.classifyResult, hflag, if_neg Bool.false_ne_true, Option.isSome_map, abi_arch]
    cases hk : sig.ret.kind with
    | aggregate => exact absurd hk h.1
    | hfa => exact absurd hk h.2
    | _ =>
      simp [classifyRet_eq, retOk, retInMemory_of_scalar h, retLocs, addRets,
        AbiLayout.addRetLoc, layoutInit, layoutMaxRet, hk]

theorem stack_startCursor (arch : Arch) (sig : FunctionSig) :
    (arch.startCursor sig).stack = 0 := by
  unfold startCursor
  split <;> cases arch <;> rfl

theorem grows_constructed (arch : Arch) (sig : FunctionSig)
    (hlen : types.length ≤ functionSigMaxArgs) (hargs : ∀ type ∈ types, Constructed type) :
    Grows (arch.startCursor sig) (arch.placeArgs types (arch.startCursor sig)).flatten
      (arch.cursorAfter types (arch.startCursor sig)) (types.length * 160) := by
  refine grows_placeArgs (fun type ht => ((hargs type ht).request arch).2.1)
    (fun type ht => ((hargs type ht).request arch).2.2.1) ?_
  rw [functionSigMaxArgs] at hlen
  rw [stack_startCursor]
  simp only [BitVec.ofNat_eq_ofNat, BitVec.toNat_ofNat]
  omega

theorem stack_cursorAt_le (arch : Arch) (hlen : sig.args.length ≤ functionSigMaxArgs)
    (hargs : ∀ type ∈ sig.args, Constructed type) (k : Nat) :
    (arch.cursorAt sig k).stack.toNat ≤ 16 * 160 := by
  have hk : (sig.args.take k).length ≤ functionSigMaxArgs :=
    Nat.le_trans (List.length_take_le' _ _) hlen
  have hle := (grows_constructed arch sig hk fun type ht => hargs type (List.mem_of_mem_take ht)).le
  rw [stack_startCursor] at hle
  rw [functionSigMaxArgs] at hk
  exact Nat.le_trans hle (by simp only [BitVec.ofNat_eq_ofNat, BitVec.toNat_ofNat]; omega)

/-- For constructed types, a scalar result gives a layout, and every layout is sound. -/
theorem arguments_sound (arch : Arch) (sig : FunctionSig)
    (hlen : sig.args.length ≤ functionSigMaxArgs) (hargs : ∀ type ∈ sig.args, Constructed type) :
    (sig.ret.kind ≠ .aggregate ∧ sig.ret.kind ≠ .hfa →
      ∃ layout, classifyCallAbi arch sig = some layout) ∧
    ∀ layout, classifyCallAbi arch sig = some layout → ArgumentsSound sig layout := by
  have hrequest := fun type ht => (hargs type ht).request arch
  constructor
  · intro hret
    exact Option.isSome_iff_exists.mp ((classify_isSome_iff arch sig).mpr
      ⟨hlen, isSome_classifyResult_of_scalar hret, fun type ht => (hrequest type ht).1⟩)
  · intro layout h
    have hlaid := classify_laid h
    obtain ⟨c, c', hclass⟩ := classify_classified h
    have hgrows := grows_constructed arch sig hlen hargs
    rw [← hlaid.argLocs] at hgrows
    have harea : (arch.cursorAfter sig.args (arch.startCursor sig)).stack.toNat ≤
        layout.stackArgSize.toNat := by
      have hlast := stack_cursorAt_le arch hlen hargs sig.args.length
      rw [hlaid.stackArgSize]
      rw [cursorAt, List.take_length] at hlast ⊢
      exact le_stackArea (by omega)
    refine ⟨hclass.gprs_nodup, hclass.fprs_nodup, hgrows.packed.pairwise, fun s hs => ?_,
      hgrows.aligned, fun k type hk hvec l hl hstack => ?_, fun k type hk => ?_⟩
    · exact Nat.le_trans (hgrows.packed.inside s hs).2 harea
    · obtain ⟨kind, hreq⟩ := constructed_vec128 (hargs type (List.mem_of_getElem? hk)) hvec arch
      have hroom := stack_cursorAt_le arch hlen hargs k
      rw [hlaid.arg hk, placeArg, hreq] at hl
      exact vector_aligned (by omega) hl hstack
    · rw [hlaid.arg hk]
      exact sizes_place (hrequest type (List.mem_of_getElem? hk)).2.2.2

/-- Nine integers, of which AArch64 puts the last on the stack. -/
theorem arguments_sound_u64Stack9 :
    ∃ layout, classifyCallAbi .aarch64 (descriptorDecodeKind .u64Stack9) = some layout ∧
      ArgumentsSound (descriptorDecodeKind .u64Stack9) layout := by
  have hargs : ∀ type ∈ (descriptorDecodeKind .u64Stack9).args, Constructed type := by
    intro type ht
    rw [List.eq_of_mem_replicate ht]
    exact .scalar rfl
  obtain ⟨hsome, hsound⟩ :=
    arguments_sound .aarch64 (descriptorDecodeKind .u64Stack9) (by decide) hargs
  obtain ⟨layout, h⟩ := hsome (by decide)
  exact ⟨layout, h, hsound layout h⟩

end Poly.Abi
