import Armd64.Lib.Lists
import Armd64.Proofs.AbiResults

/-!
# Where the arguments of a call go

A classifier walks through a layout that it fills in, but where an argument goes depends only on
its type and on the cursor. This module says so: a type is a request for registers and stack
(`Request`), and a request and a cursor give locations and the next cursor (`Request.place`).
-/

namespace Poly.Abi

open AbiLayout

/-! ## Requests -/

inductive Request
  | refused
  /-- Parts that go one by one in the next register of their kind, or on the stack. -/
  | parts (parts : List (LocKind × BitVec 16))
  /-- Elements that go in floating-point registers if there are enough of them, and else on the
  stack as one value. -/
  | together (count : Nat) (elem size align : BitVec 16)
  | memory (size align : BitVec 16)
  deriving DecidableEq, Repr

def x86Request (type : AbiType) : Request :=
  if isIntegerKind type.kind then .parts [(.gpr, type.size)]
  else if isFloatKind type.kind then .parts [(.fpr, type.size)]
  else if type.kind = .vec128 then .parts [(.vec, type.size)]
  else if type.kind = .aggregate ∧ type.size ≤ 16#16 ∧ type.fields ≠ [] then
    .parts (type.fields.map fun f => (if isFloatKind f.kind then .fpr else .gpr, f.size))
  else if type.kind = .hfa ∧ type.size ≤ 16#16 then .parts ((partSizes type.size).map (.fpr, ·))
  else .memory type.size type.align

def aarch64Request (type : AbiType) : Request :=
  if isIntegerKind type.kind then .parts [(.gpr, type.size)]
  else if isFloatKind type.kind then .parts [(.fpr, type.size)]
  else if type.kind = .vec128 then .parts [(.vec, type.size)]
  else if type.kind = .hfa then
    if !hfaOk type then .refused
    else .together type.count.toNat (hfaElemSize type) type.size type.align
  else if type.kind = .aggregate ∧ type.size ≤ 16#16 then
    .parts ((partSizes type.size).map (.gpr, ·))
  else .memory type.size type.align

def riscvRequest (type : AbiType) : Request :=
  if isIntegerKind type.kind ∨ type.kind = .vec128 then .parts [(.gpr, type.size)]
  else if isFloatKind type.kind then .parts [(.fpr, type.size)]
  else if type.kind = .hfa then
    if !hfaOk type then .refused
    else .parts (List.replicate type.count.toNat (.fpr, hfaElemSize type))
  else if type.kind = .aggregate ∧ type.size ≤ 16#16 then
    .parts ((partSizes type.size).map (.gpr, ·))
  else .memory type.size type.align

def Arch.request : Arch → AbiType → Request
  | .x86 => x86Request
  | .aarch64 => aarch64Request
  | .riscv => riscvRequest

/-! ## Placing a request -/

def RegFile.take (r : RegFile) (kind : LocKind) (size : BitVec 16) (c : Cursor) : AbiLoc × Cursor :=
  if kind = .gpr ∧ c.gpr < r.gprs then
    (locReg kind c.gpr size, { c with gpr := c.gpr + 1 })
  else if (kind = .fpr ∨ (r.vecs ∧ kind = .vec)) ∧ c.fpr < 8 then
    (locReg kind c.fpr size, { c with fpr := c.fpr + 1 })
  else stackLoc c size (if 16#16 ≤ size then 16 else 8)

def RegFile.takeAll (r : RegFile) : List (LocKind × BitVec 16) → Cursor → List AbiLoc × Cursor
  | [], c => ([], c)
  | p :: parts, c =>
    let first := r.take p.1 p.2 c
    let rest := takeAll r parts first.2
    (first.1 :: rest.1, rest.2)

namespace Request

def ok : Request → Bool
  | .refused => false
  | .parts ps => decide (ps.length ≤ locMaxParts)
  | .together count _ _ _ => decide (count ≤ locMaxParts)
  | .memory _ _ => true

def place (r : RegFile) (c : Cursor) : Request → List AbiLoc × Cursor
  | .refused => ([], c)
  | .parts ps => r.takeAll ps c
  | .together count elem size align =>
    if c.fpr + count ≤ 8 then
      ((List.range' c.fpr count).map (locReg .fpr · elem), { c with fpr := c.fpr + count })
    else ([(stackLoc c size align).1], (stackLoc c size align).2)
  | .memory size align => ([(stackLoc c size align).1], (stackLoc c size align).2)

end Request

/-! ## One argument -/

def AbiLayout.place (out : AbiLayout) (n : Nat) (locs : List AbiLoc) : AbiLayout :=
  if locs = [] then out
  else
    { out with
      args := out.args.modify n (· ++ locs)
      argCount := max out.argCount (n + 1) }

theorem place_nil (out : AbiLayout) (n : Nat) : out.place n [] = out := if_pos rfl

theorem place_place (out : AbiLayout) (n : Nat) (a b : List AbiLoc) :
    (out.place n a).place n b = out.place n (a ++ b) := by
  by_cases ha : a = []
  · rw [ha, place_nil, List.nil_append]
  · by_cases hb : b = []
    · rw [hb, place_nil, List.append_nil]
    · have hab : a ++ b ≠ [] := by simp [ha]
      rw [AbiLayout.place, if_neg hb, AbiLayout.place, if_neg ha, AbiLayout.place, if_neg hab]
      simp only [List.modify_modify_eq, Function.comp_def, List.append_assoc, Nat.max_assoc,
        Nat.max_self]

/-- The layout has room for all arguments; those from `n` on, and those not counted, are empty. -/
structure Fresh (out : AbiLayout) (n : Nat) : Prop where
  size : out.args.length = layoutMaxArgs
  later : ∀ k, n ≤ k → out.args.getD k [] = []
  uncounted : ∀ k, out.argCount ≤ k → out.args.getD k [] = []

theorem fresh_init (arch : Arch) : Fresh (layoutInit arch) 0 := by
  have hempty : ∀ k, (layoutInit arch).args.getD k [] = [] := fun k => by
    rw [layoutInit, List.getD_eq_getElem?_getD, List.getElem?_replicate]
    split <;> rfl
  exact ⟨List.length_replicate, fun k _ => hempty k, fun k _ => hempty k⟩

variable {out : AbiLayout} {n : Nat} {locs : List AbiLoc}

theorem getD_place_of_ne {k : Nat} (locs : List AbiLoc) (hk : n ≠ k) :
    (out.place n locs).args.getD k [] = out.args.getD k [] := by
  by_cases hl : locs = []
  · rw [hl, place_nil]
  · simp [AbiLayout.place, hl, List.getD_eq_getElem?_getD, List.getElem?_modify_ne _ _ hk]

theorem Fresh.place (h : Fresh out n) (hn : locs ≠ [] → n < layoutMaxArgs) :
    Fresh (out.place n locs) (n + 1) ∧ (out.place n locs).argLocs = out.argLocs ++ locs := by
  by_cases hl : locs = []
  · subst hl
    rw [place_nil, List.append_nil]
    exact ⟨⟨h.size, fun k hk => h.later k (by omega), h.uncounted⟩, rfl⟩
  · have hother (k : Nat) (hk : n + 1 ≤ k) : (out.place n locs).args.getD k [] = [] := by
      rw [getD_place_of_ne locs (by omega), h.later k (by omega)]
    rw [AbiLayout.place, if_neg hl] at hother ⊢
    exact ⟨⟨by rw [List.length_modify, h.size], hother,
        fun k hk => hother k (Nat.le_trans (Nat.le_max_right _ _) hk)⟩,
      Hw.flatten_modify_append locs (by rw [h.size]; exact hn hl) fun k hk =>
        h.later k (Nat.le_of_lt hk)⟩

theorem place_rest (out : AbiLayout) (n : Nat) (locs : List AbiLoc) :
    (out.place n locs).ret = out.ret ∧
    (out.place n locs).usesSret = out.usesSret ∧ (out.place n locs).arch = out.arch := by
  rw [AbiLayout.place]
  split <;> exact ⟨rfl, rfl, rfl⟩

def AbiLayout.addArgLocs (n : Nat) : List AbiLoc → AbiLayout → Option AbiLayout
  | [], out => some out
  | loc :: locs, out => (out.addArgLoc n loc).bind (addArgLocs n locs)

theorem args_place_single (loc : AbiLoc) (hn : n < out.args.length) :
    (out.place n [loc]).args.length = out.args.length ∧
      (out.place n [loc]).args.getD n [] = out.args.getD n [] ++ [loc] := by
  simp [AbiLayout.place, List.getD_eq_getElem?_getD, hn]

theorem addArgLocs_eq (hn : n < layoutMaxArgs)
    (hsize : out.args.length = layoutMaxArgs) (hle : (out.args.getD n []).length ≤ locMaxParts) :
    out.addArgLocs n locs =
      if (out.args.getD n []).length + locs.length ≤ locMaxParts then some (out.place n locs)
      else none := by
  induction locs generalizing out with
  | nil => rw [addArgLocs, place_nil, List.length_nil, Nat.add_zero, if_pos hle]
  | cons loc locs ih =>
    rw [List.length_cons]
    rw [addArgLocs, addArgLoc, if_neg (by omega)]
    by_cases hfull : locMaxParts ≤ (out.args.getD n []).length
    · rw [if_pos hfull, if_neg (by omega)]
      rfl
    · obtain ⟨hlen, hget⟩ := args_place_single loc (show n < out.args.length by omega)
      have hplace : (if locMaxParts ≤ (out.args.getD n []).length then none else some
          { out with
            args := out.args.modify n (· ++ [loc])
            argCount := max out.argCount (n + 1) }) = some (out.place n [loc]) := by
        rw [if_neg hfull, AbiLayout.place, if_neg (by simp)]
      have hgetLen : ((out.place n [loc]).args.getD n []).length =
          (out.args.getD n []).length + 1 := by rw [hget, List.length_append, List.length_singleton]
      rw [hplace, Option.bind_some, ih (hlen.trans hsize) (by omega), place_place, hgetLen,
        Nat.add_assoc, Nat.add_comm 1, List.singleton_append]

section

variable {r : RegFile} {c : Cursor}

theorem addPart_eq (kind : LocKind) (size : BitVec 16) :
    addPart r out n c kind size =
      (out.addArgLoc n (r.take kind size c).1).map (·, (r.take kind size c).2) := by
  unfold addPart RegFile.take
  split
  · rfl
  · split <;> rfl

theorem addParts_eq (parts : List (LocKind × BitVec 16)) :
    addParts r n parts out c =
      (out.addArgLocs n (r.takeAll parts c).1).map (·, (r.takeAll parts c).2) := by
  induction parts generalizing out c with
  | nil => rfl
  | cons p parts ih =>
    simp only [addParts, RegFile.takeAll, addArgLocs, addPart_eq]
    cases out.addArgLoc n (r.take p.1 p.2 c).1 with
    | none => rfl
    | some out => simp [ih]

theorem addElems_eq (size : BitVec 16) (k : Nat) :
    addElems n size k out c =
      (out.addArgLocs n ((List.range' c.fpr k).map (locReg .fpr · size))).map
        (·, { c with fpr := c.fpr + k }) := by
  induction k generalizing out c with
  | zero => rfl
  | succ k ih =>
    simp only [addElems, List.range'_succ, List.map_cons, addArgLocs]
    cases out.addArgLoc n (locReg .fpr c.fpr size) with
    | none => rfl
    | some out => rw [Option.bind_some, Option.bind_some, ih, Nat.add_assoc, Nat.add_comm 1]

theorem addStackPart_eq (size align : BitVec 16) :
    addStackPart out n c size align =
      (out.addArgLocs n [(stackLoc c size align).1]).map (·, (stackLoc c size align).2) := by
  simp [addStackPart, addArgLocs]

def Request.add (r : RegFile) (n : Nat) (out : AbiLayout) (c : Cursor) (req : Request) :
    Option (AbiLayout × Cursor) :=
  if req = .refused then none
  else (out.addArgLocs n (req.place r c).1).map (·, (req.place r c).2)

theorem add_parts (ps : List (LocKind × BitVec 16)) :
    addParts r n ps out c = (Request.parts ps).add r n out c := addParts_eq ps

theorem add_part (kind : LocKind) (size : BitVec 16) :
    addPart r out n c kind size = (Request.parts [(kind, size)]).add r n out c := by
  rw [← add_parts, addParts]
  cases addPart r out n c kind size <;> rfl

theorem add_memory (size align : BitVec 16) :
    addStackPart out n c size align = (Request.memory size align).add r n out c :=
  addStackPart_eq size align

theorem add_together (k : Nat) (elem size align : BitVec 16) :
    (if c.fpr + k ≤ 8 then addElems n elem k out c else addStackPart out n c size align) =
      (Request.together k elem size align).add r n out c := by
  by_cases h : c.fpr + k ≤ 8 <;>
    simp [Request.add, Request.place, addElems_eq, addStackPart_eq, h]

theorem add_hfa (type : AbiType) :
    aarch64ClassifyHfaArg type out n c =
      (if !hfaOk type then Request.refused
        else .together type.count.toNat (hfaElemSize type) type.size type.align).add r n out c := by
  unfold aarch64ClassifyHfaArg
  rw [add_together (r := r), apply_ite (Request.add r n out c)]
  rfl

end

theorem x86ClassifyArg_eq (type : AbiType) (out : AbiLayout) (n : Nat) (c : Cursor) :
    x86ClassifyArg type out n c = (x86Request type).add x86Regs n out c := by
  unfold x86ClassifyArg x86Request
  simp only [add_part, add_parts, add_memory (r := x86Regs),
    apply_ite (Request.add x86Regs n out c)]

theorem aarch64ClassifyArg_eq (type : AbiType) (out : AbiLayout) (n : Nat) (c : Cursor) :
    aarch64ClassifyArg type out n c = (aarch64Request type).add aarch64Regs n out c := by
  unfold aarch64ClassifyArg aarch64Request
  simp only [add_part, add_parts, add_hfa (r := aarch64Regs), add_memory (r := aarch64Regs),
    apply_ite (Request.add aarch64Regs n out c)]

theorem riscvClassifyArg_eq (type : AbiType) (out : AbiLayout) (n : Nat) (c : Cursor) :
    riscvClassifyArg type out n c = (riscvRequest type).add riscvRegs n out c := by
  unfold riscvClassifyArg riscvRequest
  simp only [add_part, add_parts, add_memory (r := riscvRegs),
    apply_ite (Request.add riscvRegs n out c)]
  rfl

theorem classifyArg_eq_add (arch : Arch) (type : AbiType) (out : AbiLayout) (n : Nat) (c : Cursor) :
    arch.abi.classifyArg type out n c = (arch.request type).add arch.profile.regs n out c := by
  cases arch with
  | x86 => exact x86ClassifyArg_eq type out n c
  | aarch64 => exact aarch64ClassifyArg_eq type out n c
  | riscv => exact riscvClassifyArg_eq type out n c

theorem length_takeAll (r : RegFile) (ps : List (LocKind × BitVec 16)) (c : Cursor) :
    (r.takeAll ps c).1.length = ps.length := by
  induction ps generalizing c with
  | nil => rfl
  | cons p ps ih => simp [RegFile.takeAll, ih]

variable {type : AbiType} {k : Nat} {elem size align : BitVec 16} {arch : Arch}
  {types : List AbiType} {p : AbiLayout × Cursor} {sig : FunctionSig}

theorem request_together (h : arch.request type = .together k elem size align) :
    hfaOk type ∧ k = type.count.toNat ∧ elem = hfaElemSize type := by
  cases arch <;> simp only [Arch.request, x86Request, aarch64Request, riscvRequest] at h <;>
    (repeat' split at h) <;> cases h
  next hok => exact ⟨by simpa using hok, rfl, rfl⟩

theorem count_le_of_hfaOk (h : hfaOk type) : type.count.toNat ≤ locMaxParts := by
  rw [hfaOk, Bool.and_eq_true, decide_eq_true_iff] at h
  exact h.2

theorem length_place_le (arch : Arch) (type : AbiType) (r : RegFile) (c : Cursor)
    (h : arch.request type ≠ .refused) :
    ((arch.request type).place r c).1.length ≤ locMaxParts ↔ (arch.request type).ok := by
  cases hreq : arch.request type with
  | refused => exact absurd hreq h
  | parts ps => simp [Request.place, Request.ok, length_takeAll]
  | together k elem size align =>
    obtain ⟨hhfa, hcount, -⟩ := request_together hreq
    have hk : k ≤ 4 := hcount.symm ▸ count_le_of_hfaOk hhfa
    by_cases hfit : c.fpr + k ≤ 8 <;> simp [Request.place, Request.ok, hfit, hk, locMaxParts]
  | memory size align => simp [Request.place, Request.ok, locMaxParts]

/-- In a layout that has nothing for argument `n` yet, an argument is classified as its request is
placed. -/
theorem classifyArg_eq (hfresh : Fresh out n) (hn : n < layoutMaxArgs)
    (type : AbiType) (c : Cursor) :
    arch.abi.classifyArg type out n c =
      if (arch.request type).ok then
        some (out.place n ((arch.request type).place arch.profile.regs c).1,
          ((arch.request type).place arch.profile.regs c).2)
      else none := by
  have hempty : (out.args.getD n []).length = 0 := by rw [hfresh.later n (Nat.le_refl n)]; rfl
  rw [classifyArg_eq_add, Request.add]
  by_cases href : arch.request type = .refused
  · simp [href, Request.ok]
  · rw [if_neg href, addArgLocs_eq hn hfresh.size (by omega), hempty, Nat.zero_add]
    simp only [length_place_le arch type _ _ href]
    split <;> rfl

/-! ## All arguments -/

def Arch.placeArg (arch : Arch) (type : AbiType) (c : Cursor) : List AbiLoc × Cursor :=
  (arch.request type).place arch.profile.regs c

def Arch.cursorAfter (arch : Arch) (types : List AbiType) (c : Cursor) : Cursor :=
  types.foldl (fun c type => (arch.placeArg type c).2) c

def Arch.placeArgs (arch : Arch) : List AbiType → Cursor → List (List AbiLoc)
  | [], _ => []
  | type :: types, c => (arch.placeArg type c).1 :: placeArgs arch types (arch.placeArg type c).2

/-- What the argument loop leaves in the layout `out` from argument `n` on. -/
structure LaidOut (arch : Arch) (types : List AbiType) (n : Nat) (out : AbiLayout) (c : Cursor)
    (p : AbiLayout × Cursor) : Prop where
  cursor : p.2 = arch.cursorAfter types c
  arg : ∀ k type, types[k]? = some type →
    p.1.args.getD (n + k) [] = (arch.placeArg type (arch.cursorAfter (types.take k) c)).1
  before : ∀ k < n, p.1.args.getD k [] = out.args.getD k []
  argLocs : p.1.argLocs = out.argLocs ++ (arch.placeArgs types c).flatten
  ret : p.1.ret = out.ret
  usesSret : p.1.usesSret = out.usesSret
  fresh : Fresh p.1 (n + types.length)

theorem Fresh.next (h : Fresh out n) (hn : n < layoutMaxArgs)
    (locs : List AbiLoc) : Fresh (out.place n locs) (n + 1) := (h.place fun _ => hn).1

theorem getD_place_same (locs : List AbiLoc) (hfresh : Fresh out n)
    (hn : n < layoutMaxArgs) : (out.place n locs).args.getD n [] = locs := by
  by_cases hl : locs = []
  · rw [hl, place_nil, hfresh.later n (Nat.le_refl n)]
  · have hlt : n < out.args.length := by rw [hfresh.size]; exact hn
    have hnil := hfresh.later n (Nat.le_refl n)
    rw [List.getD_eq_getElem?_getD, List.getElem?_eq_getElem hlt, Option.getD_some] at hnil
    simp [AbiLayout.place, hl, List.getD_eq_getElem?_getD, hlt, hnil]

section

variable (hfresh : Fresh out n)

include hfresh

theorem classifyArgs_cons
    (hn : n < layoutMaxArgs) (type : AbiType) (types : List AbiType) (c : Cursor) :
    arch.abi.classifyArgs (type :: types) n out c =
      if (arch.request type).ok then
        arch.abi.classifyArgs types (n + 1) (out.place n (arch.placeArg type c).1)
          (arch.placeArg type c).2
      else none := by
  rw [CallAbi.classifyArgs, classifyArg_eq hfresh hn]
  split <;> rfl

theorem classifyArgs_laidOut {c : Cursor}
    (hlen : n + types.length ≤ layoutMaxArgs) (h : arch.abi.classifyArgs types n out c = some p) :
    LaidOut arch types n out c p := by
  induction types generalizing n out c with
  | nil =>
    cases Option.some.inj h
    exact ⟨rfl, by simp, fun _ _ => rfl, by simp [Arch.placeArgs], rfl, rfl, hfresh⟩
  | cons type types ih =>
    rw [List.length_cons] at hlen
    rw [classifyArgs_cons hfresh (by omega)] at h
    split at h
    · have hn : n < layoutMaxArgs := by omega
      have hih := ih (hfresh.next hn _) (by omega) h
      obtain ⟨hret, hsret, -⟩ := place_rest out n (arch.placeArg type c).1
      refine ⟨hih.cursor, fun k t hk => ?_, fun k hk => ?_, ?_, hih.ret.trans hret,
        hih.usesSret.trans hsret, ?_⟩
      · cases k with
        | zero =>
          cases Option.some.inj hk
          rw [Nat.add_zero, hih.before n (Nat.lt_succ_self n), getD_place_same _ hfresh hn]
          rfl
        | succ k =>
          rw [← Nat.add_assoc, Nat.add_right_comm, hih.arg k t hk]
          rfl
      · rw [hih.before k (by omega), getD_place_of_ne _ (by omega)]
      · rw [hih.argLocs, (hfresh.place fun _ => hn).2, Arch.placeArgs, List.flatten_cons,
          List.append_assoc]
      · rw [List.length_cons, Nat.add_comm types.length, ← Nat.add_assoc]
        exact hih.fresh
    · cases h

theorem classifyArgs_isSome_iff {c : Cursor} (hlen : n + types.length ≤ layoutMaxArgs) :
    (arch.abi.classifyArgs types n out c).isSome ↔
      ∀ type ∈ types, (arch.request type).ok := by
  induction types generalizing n out c with
  | nil => simp [CallAbi.classifyArgs]
  | cons type types ih =>
    rw [List.length_cons] at hlen
    rw [classifyArgs_cons hfresh (by omega), List.forall_mem_cons]
    by_cases hok : (arch.request type).ok = true
    · rw [if_pos hok, ih (hfresh.next (by omega) _) (by omega), and_iff_right hok]
    · simp [hok]

end

/-! ## Signatures -/

def Arch.startCursor (arch : Arch) (sig : FunctionSig) : Cursor :=
  if sig.retBySret then arch.abi.sretCursor else {}

def Arch.cursorAt (arch : Arch) (sig : FunctionSig) (k : Nat) : Cursor :=
  arch.cursorAfter (sig.args.take k) (arch.startCursor sig)

theorem cursorAt_succ (h : sig.args[k]? = some type) :
    arch.cursorAt sig (k + 1) = (arch.placeArg type (arch.cursorAt sig k)).2 := by
  rw [Arch.cursorAt, List.take_add_one, h, Arch.cursorAfter, List.foldl_append]
  rfl

structure Laid (arch : Arch) (sig : FunctionSig) (layout : AbiLayout) : Prop where
  length : sig.args.length ≤ layoutMaxArgs
  ok : ∀ type ∈ sig.args, (arch.request type).ok = true
  arg : ∀ {k type}, sig.args[k]? = some type →
    layout.args.getD k [] = (arch.placeArg type (arch.cursorAt sig k)).1
  argLocs : layout.argLocs = (arch.placeArgs sig.args (arch.startCursor sig)).flatten
  stackArgSize : layout.stackArgSize = arch.abi.stackArea (arch.cursorAt sig sig.args.length).stack
  result : ∃ p, arch.abi.classifyResult sig = some p ∧ layout.ret = p.1.ret ∧
    layout.usesSret = p.1.usesSret
  uncounted : ∀ k, layout.argCount ≤ k → layout.args.getD k [] = []

theorem fresh_classifyResult (h : arch.abi.classifyResult sig = some p) :
    Fresh p.1 0 ∧ p.1.argLocs = [] ∧ p.2 = arch.startCursor sig := by
  obtain ⟨⟨ret, sret, hinit⟩, hstart, -⟩ := classifyResult_placed h
  have hempty := fresh_init arch
  have hfresh : Fresh p.1 0 := by
    rw [hinit]
    exact ⟨hempty.size, hempty.later, hempty.uncounted⟩
  exact ⟨hfresh, Hw.flatten_eq_nil_of_getD fun k => hfresh.later k (Nat.zero_le k), hstart⟩

theorem classify_laid {layout : AbiLayout} (h : classifyCallAbi arch sig = some layout) :
    Laid arch sig layout := by
  rw [classifyCallAbi_eq, CallAbi.classify] at h
  split at h
  · cases h
  · next hlen =>
    obtain ⟨p, hp, hargs⟩ := Option.bind_eq_some_iff.mp h
    obtain ⟨q, hq, rfl⟩ := Option.map_eq_some_iff.mp hargs
    obtain ⟨hfresh, hnone, hstart⟩ := fresh_classifyResult hp
    have hlen' : 0 + sig.args.length ≤ layoutMaxArgs := by
      rw [Nat.zero_add]
      exact Nat.le_of_not_lt hlen
    have hok := (classifyArgs_isSome_iff hfresh hlen').mp (Option.isSome_of_eq_some hq)
    have hl := classifyArgs_laidOut hfresh hlen' hq
    refine ⟨Nat.le_of_not_lt hlen, hok, fun {k type} hk => ?_, ?_, ?_,
      ⟨p, hp, hl.ret, hl.usesSret⟩, hl.fresh.uncounted⟩
    · have harg := hl.arg k type hk
      rwa [Nat.zero_add, hstart] at harg
    · show q.1.argLocs = _
      rw [hl.argLocs, hnone, List.nil_append, hstart]
    · rw [hl.cursor, hstart, Arch.cursorAt, List.take_length]

theorem classify_isSome_iff (arch : Arch) (sig : FunctionSig) :
    (classifyCallAbi arch sig).isSome ↔
      sig.args.length ≤ layoutMaxArgs ∧ (arch.abi.classifyResult sig).isSome ∧
        ∀ type ∈ sig.args, (arch.request type).ok := by
  rw [classifyCallAbi_eq, CallAbi.classify]
  by_cases hlen : functionSigMaxArgs < sig.args.length
  · have hno : ¬sig.args.length ≤ layoutMaxArgs := Nat.not_le.mpr hlen
    simp [hlen, hno]
  · have hle : sig.args.length ≤ layoutMaxArgs := Nat.le_of_not_lt hlen
    rw [if_neg hlen, and_iff_right hle]
    cases hp : arch.abi.classifyResult sig with
    | none => simp
    | some p =>
      rw [Option.bind_some, Option.isSome_map,
        classifyArgs_isSome_iff (fresh_classifyResult hp).1 (by omega)]
      simp

end Poly.Abi
