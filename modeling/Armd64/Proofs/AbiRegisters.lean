import Armd64.Proofs.AbiPlacement

/-!
# The registers of a call layout

The cursor of a classifier hands out the registers of each file one after another, so the registers
of the argument parts are an interval. The register of the result pointer is the first of them on
x86 and RISC-V, and the classifier skips it only when the flag asks for a result in memory: a result
that goes to memory because of its type shares its pointer register with the first integer part.
-/

namespace Poly.Abi

open AbiLoc

/-- The integer registers of argument parts and of the result pointer. -/
def AbiLayout.intRegs (layout : AbiLayout) : List Nat :=
  layout.argLocs.filterMap gprReg ++
    if layout.usesSret then layout.ret.filterMap sretReg else []

def AbiLayout.fpRegs (layout : AbiLayout) : List Nat := layout.argLocs.filterMap fprReg

/-! ## What a cursor hands out -/

/-- The numbers from `n` up to `n'`. -/
def Interval (n n' : Nat) (xs : List Nat) : Prop := xs = List.range' n xs.length ∧ n' = n + xs.length

theorem Interval.append {n n' n'' : Nat} {xs ys : List Nat} (h : Interval n n' xs)
    (h' : Interval n' n'' ys) : Interval n n'' (xs ++ ys) := by
  constructor
  · rw [List.length_append, ← List.range'_append_1, ← h.1, ← h.2, ← h'.1]
  · rw [h'.2, h.2, List.length_append, Nat.add_assoc]

/-- What a classifier does when parts of the kinds `kinds` take it from `c` to `c'`: it hands out
the next registers of each file. -/
structure Assigns (r : RegFile) (kinds : List LocKind) (c c' : Cursor) (locs : List AbiLoc) :
    Prop where
  gprs : Interval c.gpr c'.gpr (locs.filterMap gprReg)
  gprMax : c.gpr ≤ r.gprs → c'.gpr ≤ r.gprs
  fprs : Interval c.fpr c'.fpr (locs.filterMap fprReg)
  value : ∀ l ∈ locs, l.IsValue
  noGpr : LocKind.gpr ∉ kinds → c'.gpr = c.gpr
  someGpr : LocKind.gpr ∈ kinds → c.gpr < r.gprs → c.gpr < c'.gpr

namespace Assigns

variable {r : RegFile} {ks ks' : List LocKind} {c c' c'' : Cursor} {locs locs' : List AbiLoc}

theorem refl : Assigns r [] c c [] where
  gprs := ⟨rfl, rfl⟩
  gprMax h := h
  fprs := ⟨rfl, rfl⟩
  value := by simp
  noGpr _ := rfl
  someGpr h := by simp at h

theorem trans (h : Assigns r ks c c' locs) (h' : Assigns r ks' c' c'' locs') :
    Assigns r (ks ++ ks') c c'' (locs ++ locs') where
  gprs := List.filterMap_append ▸ h.gprs.append h'.gprs
  gprMax hc := h'.gprMax (h.gprMax hc)
  fprs := List.filterMap_append ▸ h.fprs.append h'.fprs
  value l hl := (List.mem_append.mp hl).elim (h.value l) (h'.value l)
  noGpr hk := by
    rw [List.mem_append, not_or] at hk
    rw [h'.noGpr hk.2, h.noGpr hk.1]
  someGpr hk hc := by
    have hle := h.gprs.2
    have hle' := h'.gprs.2
    rcases List.mem_append.mp hk with hk | hk
    · have := h.someGpr hk hc
      omega
    · by_cases hmoved : c.gpr < c'.gpr
      · omega
      · -- The first parts took no integer register, so one is left for the others.
        have := h'.someGpr hk (by omega)
        omega

variable {size : BitVec 16} {kind : LocKind}

theorem gpr (hc : c.gpr < r.gprs) :
    Assigns r [.gpr] c { c with gpr := c.gpr + 1 } [locReg .gpr c.gpr size] where
  gprs := by simp [Interval, gprReg, locReg]
  gprMax _ := hc
  fprs := by simp [Interval, fprReg, locReg]
  value := by simp [IsValue, locReg]
  noGpr h := by simp at h
  someGpr _ _ := Nat.lt_succ_self _

theorem fpr (hk : kind = .fpr ∨ kind = .vec) :
    Assigns r [kind] c { c with fpr := c.fpr + 1 } [locReg kind c.fpr size] := by
  have hg : kind ≠ .gpr := by rcases hk with rfl | rfl <;> decide
  exact
    { gprs := by simp [Interval, gprReg, locReg, hg]
      gprMax := fun h => h
      fprs := by simp [Interval, fprReg, locReg, hk]
      value := by rcases hk with rfl | rfl <;> simp [IsValue, locReg]
      noGpr := fun _ => rfl
      someGpr := fun h => by simp [Ne.symm hg] at h }

theorem stack (size align : BitVec 16) (hk : kind = .gpr → r.gprs ≤ c.gpr) :
    Assigns r [kind] c (stackLoc c size align).2 [(stackLoc c size align).1] where
  gprs := by simp [Interval, gprReg, stackLoc, locStack]
  gprMax h := h
  fprs := by simp [Interval, fprReg, stackLoc, locStack]
  value := by simp [IsValue, stackLoc, locStack]
  noGpr _ := rfl
  someGpr h hc := by
    have := hk (List.mem_singleton.mp h).symm
    omega

end Assigns

theorem Assigns.congr {r : RegFile} {ks ks' : List LocKind} {c c' : Cursor} {locs : List AbiLoc}
    (h : Assigns r ks c c' locs) (hk : LocKind.gpr ∈ ks ↔ LocKind.gpr ∈ ks') :
    Assigns r ks' c c' locs :=
  { h with
    noGpr := fun hn => h.noGpr fun hm => hn (hk.mp hm)
    someGpr := fun hm => h.someGpr (hk.mpr hm) }

variable {r : RegFile} {arch : Arch} {sig : FunctionSig} {layout : AbiLayout}

theorem take_assigns (kind : LocKind) (size : BitVec 16) (c : Cursor) :
    Assigns r [kind] c (r.take kind size c).2 [(r.take kind size c).1] := by
  unfold RegFile.take
  split
  · rename_i hk
    obtain ⟨rfl, hc⟩ := hk
    exact .gpr hc
  · rename_i hg
    split
    · rename_i hk
      exact .fpr (hk.1.imp id fun hv => hv.2)
    · refine .stack size _ fun hk => ?_
      rw [not_and] at hg
      exact Nat.le_of_not_lt (hg hk)

theorem takeAll_assigns (ps : List (LocKind × BitVec 16)) (c : Cursor) :
    Assigns r (ps.map Prod.fst) c (r.takeAll ps c).2 (r.takeAll ps c).1 := by
  induction ps generalizing c with
  | nil => exact .refl
  | cons p ps ih => exact (take_assigns p.1 p.2 c).trans (ih _)

theorem elems_assigns (size : BitVec 16) (k : Nat) (c : Cursor) :
    Assigns r (List.replicate k .fpr) c { c with fpr := c.fpr + k }
      ((List.range' c.fpr k).map (locReg .fpr · size)) := by
  induction k generalizing c with
  | zero => exact .refl
  | succ k ih =>
    have hone : Assigns r [.fpr] c { c with fpr := c.fpr + 1 } [locReg .fpr c.fpr size] :=
      .fpr (.inl rfl)
    have h := hone.trans (ih { c with fpr := c.fpr + 1 })
    rwa [Nat.add_assoc, Nat.add_comm 1] at h

/-- The kinds of the parts of a request, before the registers run out. -/
def Request.kinds : Request → List LocKind
  | .refused => []
  | .parts ps => ps.map Prod.fst
  | .together _ _ _ _ => [.fpr]
  | .memory _ _ => [.stack]

theorem place_assigns (req : Request) (c : Cursor) :
    Assigns r req.kinds c (req.place r c).2 (req.place r c).1 := by
  cases req with
  | refused => exact .refl
  | parts ps => exact takeAll_assigns ps c
  | together count elem size align =>
    simp only [Request.place]
    split
    · exact (elems_assigns elem count c).congr (by simp [Request.kinds, List.mem_replicate])
    · exact .stack size align fun hk => by cases hk
  | memory size align => exact .stack size align fun hk => by cases hk

theorem gpr_mem_kinds (type : AbiType) :
    LocKind.gpr ∈ (arch.request type).kinds ↔ LocKind.gpr ∈ arch.profile.kinds type := by
  cases arch with
  | x86 =>
    show LocKind.gpr ∈ (x86Request type).kinds ↔ LocKind.gpr ∈ x86Kinds type
    unfold x86Request x86Kinds
    repeat' split
    all_goals simp [Request.kinds]
  | aarch64 =>
    show LocKind.gpr ∈ (aarch64Request type).kinds ↔ LocKind.gpr ∈ aarch64Kinds type
    unfold aarch64Request aarch64Kinds
    repeat' split
    all_goals simp [Request.kinds, List.eq_nil_iff_forall_not_mem]
  | riscv =>
    show LocKind.gpr ∈ (riscvRequest type).kinds ↔ LocKind.gpr ∈ riscvKinds type
    unfold riscvRequest riscvKinds
    repeat' split
    all_goals simp [Request.kinds, List.mem_replicate, List.eq_nil_iff_forall_not_mem]

theorem placeArgs_assigns (types : List AbiType) (c : Cursor) :
    Assigns arch.profile.regs (types.flatMap arch.profile.kinds) c (arch.cursorAfter types c)
      (arch.placeArgs types c).flatten := by
  induction types generalizing c with
  | nil => exact .refl
  | cons type types ih =>
    exact ((place_assigns (arch.request type) c).congr (gpr_mem_kinds type)).trans (ih _)

/-! ## Whole layouts -/

structure Classified (arch : Arch) (sig : FunctionSig) (layout : AbiLayout) (c c' : Cursor) :
    Prop where
  uncounted : ∀ k, layout.argCount ≤ k → layout.args.getD k [] = []
  assigns : Assigns arch.profile.regs (sig.args.flatMap arch.profile.kinds) c c' layout.argLocs
  start : c = if sig.retBySret then arch.abi.sretCursor else {}
  usesSret : layout.usesSret = (sig.retBySret || retInMemory arch sig.ret)
  memory : layout.usesSret = true → layout.ret = [locSretPtr arch.abi.sretReg sig.ret.size]
  registers : layout.usesSret = false → InRegisters layout.ret

theorem classify_classified (h : classifyCallAbi arch sig = some layout) :
    ∃ c c', Classified arch sig layout c c' := by
  have hlaid := classify_laid h
  obtain ⟨p, hp, hret, hsret⟩ := hlaid.result
  have hplaced := classifyResult_placed hp
  refine ⟨_, _, hlaid.uncounted, hlaid.argLocs ▸ placeArgs_assigns sig.args (arch.startCursor sig),
    rfl, hsret.trans hplaced.usesSret, fun hs => hret.trans (hplaced.memory (hsret ▸ hs)),
    fun hs => ?_⟩
  rw [hret, (hplaced.registers (hsret ▸ hs)).1]
  exact inRegisters_retLocs arch sig.ret

/-! ## Distinct registers -/

/-- The result goes to memory because of its type, and its pointer has the register that the
arguments start with. -/
def hiddenSret (arch : Arch) (sig : FunctionSig) : Bool :=
  arch != .aarch64 && !sig.retBySret && retInMemory arch sig.ret

def takesGpr (arch : Arch) (sig : FunctionSig) : Bool :=
  sig.args.any fun type => decide (.gpr ∈ arch.profile.kinds type)

theorem takesGpr_iff : takesGpr arch sig ↔ LocKind.gpr ∈ sig.args.flatMap arch.profile.kinds := by
  simp [takesGpr, List.any_eq_true]

section

variable {arch : Arch} {sig : FunctionSig} {layout : AbiLayout} {c c' : Cursor}

section

variable (h : Classified arch sig layout c c')

include h

theorem Classified.gprs_nodup : (layout.argLocs.filterMap gprReg).Nodup := by
  rw [h.assigns.gprs.1]
  exact List.nodup_range' ..

theorem Classified.fprs_nodup : (layout.argLocs.filterMap fprReg).Nodup := by
  rw [h.assigns.fprs.1]
  exact List.nodup_range' ..

theorem Classified.mem_gprs (n : Nat) :
    n ∈ layout.argLocs.filterMap gprReg ↔ c.gpr ≤ n ∧ n < c'.gpr := by
  rw [h.assigns.gprs.1, List.mem_range'_1, h.assigns.gprs.2]

theorem Classified.intRegs_nodup : layout.intRegs.Nodup ↔
      ¬(layout.usesSret ∧ c.gpr ≤ arch.abi.sretReg ∧ arch.abi.sretReg < c'.gpr) := by
  rw [AbiLayout.intRegs]
  cases hs : layout.usesSret with
  | false =>
    rw [if_neg Bool.false_ne_true, List.append_nil]
    exact ⟨fun _ hbad => Bool.false_ne_true hbad.1, fun _ => h.gprs_nodup⟩
  | true =>
    have hret : layout.ret.filterMap sretReg = [arch.abi.sretReg] := by
      rw [h.memory hs]
      rfl
    rw [if_pos rfl, hret, List.nodup_append_comm, List.singleton_append, List.nodup_cons,
      h.mem_gprs]
    exact ⟨fun hn hbad => hn.1 hbad.2, fun hn => ⟨fun hm => hn ⟨rfl, hm⟩, h.gprs_nodup⟩⟩

theorem Classified.gpr_pos_iff (hc : c.gpr = 0) : 0 < c'.gpr ↔ takesGpr arch sig := by
  rw [takesGpr_iff]
  constructor
  · intro hpos
    by_contra hno
    have := h.assigns.noGpr hno
    omega
  · intro hk
    have hroom : 0 < arch.profile.regs.gprs := by cases arch <;> decide
    have := h.assigns.someGpr hk (by omega)
    omega

end

end

/-- The registers of a layout are distinct unless, on x86 or RISC-V, the type of the result sends it
to memory and an argument takes an integer register: the first one then holds both. -/
theorem registers_distinct_iff {arch : Arch} {sig : FunctionSig} {layout : AbiLayout}
    (h : classifyCallAbi arch sig = some layout) :
    (layout.intRegs.Nodup ∧ layout.fpRegs.Nodup) ↔
      ¬(hiddenSret arch sig = true ∧ takesGpr arch sig = true) := by
  obtain ⟨c, c', hc⟩ := classify_classified h
  rw [and_iff_left (show layout.fpRegs.Nodup from hc.fprs_nodup), hc.intRegs_nodup]
  refine not_congr ?_
  have hstart := hc.start
  cases hflag : sig.retBySret with
  | true =>
    -- The flag makes the classifier skip the register, or the pointer has one of its own.
    rw [if_pos hflag] at hstart
    have hhidden : hiddenSret arch sig = false := by simp [hiddenSret, hflag]
    rw [hhidden]
    refine ⟨fun ⟨_, hle, hlt⟩ => ?_, fun hbad => absurd hbad.1 Bool.false_ne_true⟩
    have hmax := hc.assigns.gprMax
    rw [hstart] at hle hmax
    cases arch with
    | x86 | riscv => exact absurd hle (by decide)
    | aarch64 =>
      have hle8 : c'.gpr ≤ 8 := hmax (by decide)
      have hlt8 : 8 < c'.gpr := hlt
      omega
  | false =>
    rw [hflag, if_neg Bool.false_ne_true] at hstart
    have hgpr : c.gpr = 0 := by rw [hstart]
    rw [hc.usesSret, hflag, Bool.false_or, hgpr, ← hc.gpr_pos_iff hgpr, hiddenSret, hflag]
    have hmax : c'.gpr ≤ arch.profile.regs.gprs := hc.assigns.gprMax (by omega)
    cases arch with
    | x86 | riscv => exact and_congr Iff.rfl ⟨fun hr => hr.2, fun hr => ⟨Nat.le_refl 0, hr⟩⟩
    | aarch64 =>
      have hle8 : c'.gpr ≤ 8 := hmax
      refine ⟨fun ⟨_, _, hlt⟩ => ?_, fun hbad => absurd hbad.1 Bool.false_ne_true⟩
      have hlt8 : 8 < c'.gpr := hlt
      omega

def i64Type : AbiType := abiScalarType .i64

def quadType : AbiType :=
  { kind := .aggregate
    fields := [⟨.i64, 0, 8⟩, ⟨.i64, 8, 8⟩, ⟨.i64, 16, 8⟩, ⟨.i64, 24, 8⟩]
    size := 32
    align := 8 }

/-- With the flag, the pointer to the result of `quad f(long, double)` is in a register of its
own. -/
theorem registers_distinct_iff_flagged :
    ∃ layout,
      classifyCallAbi .x86 ⟨[i64Type, abiScalarType .f64], quadType, functionSigFlagRetBySret⟩ =
          some layout ∧
        layout.usesSret = true ∧ layout.intRegs.Nodup ∧ layout.fpRegs.Nodup := by
  refine ⟨_, rfl, by decide, ?_⟩
  exact (@registers_distinct_iff .x86
    ⟨[i64Type, abiScalarType .f64], quadType, functionSigFlagRetBySret⟩ _ rfl).mpr (by decide)

/-- `quad f(long)` without the flag: the pointer to the result and the argument share a register. -/
theorem sret_shares_first_register :
    ∃ layout, classifyCallAbi .x86 ⟨[i64Type], quadType, 0⟩ = some layout ∧
      layout.usesSret = true ∧ layout.ret = [locSretPtr 0 32] ∧
      layout.argLocs = [locReg .gpr 0 8] ∧ layout.intRegs = [0, 0] ∧ ¬layout.intRegs.Nodup :=
  ⟨_, rfl, by decide⟩

end Poly.Abi
