import Armd64.Abi.Descriptor
import Armd64.Proofs.AbiRegisters
import Mathlib.Algebra.BigOperators.Group.List.Basic

/-!
# When the registers run out

The parts of an argument take registers one by one, and only the elements of a homogeneous
aggregate on AArch64 are kept together. So an aggregate whose parts do not fit is split between
registers and stack, which the ABIs of x86 and AArch64 forbid; and a homogeneous aggregate that does
not fit leaves its registers to the arguments after it.
-/

namespace Poly.Abi

open Request Arch RegFile

/-! ## Counting registers -/

def RegFile.inFpr (r : RegFile) (kind : LocKind) : Bool := kind == .fpr || (r.vecs && kind == .vec)

def gprParts (ps : List (LocKind × BitVec 16)) : Nat := ps.countP (·.1 == .gpr)

def fprParts (r : RegFile) (ps : List (LocKind × BitVec 16)) : Nat := ps.countP (r.inFpr ·.1)

structure Cursor.Within (c : Cursor) (r : RegFile) : Prop where
  gpr : c.gpr ≤ r.gprs
  fpr : c.fpr ≤ 8

section

variable {r : RegFile} {c : Cursor}

theorem take_cases (kind : LocKind) (size : BitVec 16) (c : Cursor) :
    (kind = .gpr ∧ c.gpr < r.gprs ∧
        r.take kind size c = (locReg .gpr c.gpr size, { c with gpr := c.gpr + 1 })) ∨
      (r.inFpr kind ∧ c.fpr < 8 ∧
        r.take kind size c = (locReg kind c.fpr size, { c with fpr := c.fpr + 1 })) ∨
      ((kind = .gpr → r.gprs ≤ c.gpr) ∧ (r.inFpr kind → 8 ≤ c.fpr) ∧
        r.take kind size c = stackLoc c size (if 16#16 ≤ size then 16 else 8)) := by
  unfold take inFpr
  by_cases hg : kind = .gpr ∧ c.gpr < r.gprs
  · exact .inl ⟨hg.1, hg.2, by simp [hg]⟩
  · by_cases hf : (kind = .fpr ∨ (r.vecs ∧ kind = .vec)) ∧ c.fpr < 8
    · refine .inr (.inl ⟨by simpa using hf.1, hf.2, ?_⟩)
      rw [if_neg hg, if_pos hf]
    · refine .inr (.inr ⟨fun hk => ?_, fun hk => ?_, ?_⟩)
      · exact Nat.le_of_not_lt fun hlt => hg ⟨hk, hlt⟩
      · exact Nat.le_of_not_lt fun hlt => hf ⟨by simpa using hk, hlt⟩
      · rw [if_neg hg, if_neg hf]

@[simp] theorem inFpr_gpr : r.inFpr .gpr = false := by simp [inFpr]

@[simp] theorem inFpr_stack : r.inFpr .stack = false := by simp [inFpr]

theorem inFpr_ne_gpr {kind : LocKind} (h : r.inFpr kind) : kind ≠ .gpr := by
  rintro rfl
  simp at h

def gprPart (kind : LocKind) : Nat := if kind = .gpr then 1 else 0
def fprPart (r : RegFile) (kind : LocKind) : Nat := if r.inFpr kind then 1 else 0

theorem cursor_take (kind : LocKind) (size : BitVec 16) (h : c.Within r) :
    (r.take kind size c).2.gpr = min r.gprs (c.gpr + gprPart kind) ∧
      (r.take kind size c).2.fpr = min 8 (c.fpr + fprPart r kind) := by
  obtain ⟨hg, hf⟩ := h
  unfold gprPart fprPart
  rcases take_cases (r := r) kind size c with ⟨hk, hlt, heq⟩ | ⟨hk, hlt, heq⟩ | ⟨hgk, hfk, heq⟩
  · subst hk
    rw [heq]
    simp
    omega
  · rw [heq]
    simp [hk, inFpr_ne_gpr hk]
    omega
  · rw [heq]
    by_cases hk : kind = .gpr
    · have hfull := hgk hk
      simp [stackLoc, hk]
      omega
    · by_cases hv : r.inFpr kind = true
      · have hfull := hfk hv
        simp [stackLoc, hk, hv]
        omega
      · simp [stackLoc, hk, hv]
        omega

theorem within_take (kind : LocKind) (size : BitVec 16) (h : c.Within r) :
    (r.take kind size c).2.Within r := by
  obtain ⟨hg, hf⟩ := cursor_take kind size h
  exact ⟨by omega, by omega⟩

variable {kind : LocKind} {l : AbiLoc}

theorem kind_take (size : BitVec 16) (hs : kind = .gpr ∨ r.inFpr kind) :
    (r.take kind size c).1.kind = .stack ↔
      kind = .gpr ∧ r.gprs ≤ c.gpr ∨ r.inFpr kind ∧ 8 ≤ c.fpr := by
  rcases take_cases (r := r) kind size c with ⟨hk, hlt, heq⟩ | ⟨hk, hlt, heq⟩ | ⟨hgk, hfk, heq⟩
  · subst hk
    rw [heq]
    simp [locReg, hlt]
  · have hstack : kind ≠ .stack := by
      rintro rfl
      simp at hk
    rw [heq]
    simp [locReg, hk, hstack, inFpr_ne_gpr hk, hlt]
  · rw [heq]
    simpa [stackLoc, locStack] using hs.imp (fun h => ⟨h, hgk h⟩) fun h => ⟨h, hfk h⟩

theorem stack_take_cases (size : BitVec 16) (hs : kind = .gpr ∨ r.inFpr kind) :
    (gprPart kind = 1 ∧ fprPart r kind = 0 ∧
        ((r.take kind size c).1.kind = .stack ↔ r.gprs ≤ c.gpr)) ∨
      (gprPart kind = 0 ∧ fprPart r kind = 1 ∧
        ((r.take kind size c).1.kind = .stack ↔ 8 ≤ c.fpr)) := by
  rw [kind_take size hs]
  rcases hs with rfl | hv
  · exact .inl (by simp [gprPart, fprPart])
  · exact .inr (by simp [gprPart, fprPart, hv, inFpr_ne_gpr hv])

theorem kind_take_eq (kind : LocKind) (size : BitVec 16) (c : Cursor) :
    (r.take kind size c).1.kind = .stack ∨ (r.take kind size c).1.kind = kind := by
  rcases take_cases (r := r) kind size c with ⟨hk, -, heq⟩ | ⟨-, -, heq⟩ | ⟨-, -, heq⟩
  · exact .inr (by rw [heq, hk]; rfl)
  · exact .inr (by rw [heq]; rfl)
  · exact .inl (by rw [heq]; rfl)

variable {ps : List (LocKind × BitVec 16)}

theorem size_take (kind : LocKind) (size : BitVec 16) (c : Cursor) :
    (r.take kind size c).1.size = size := by
  unfold take
  split
  · rfl
  · split <;> rfl

theorem mem_takeAll (h : l ∈ (r.takeAll ps c).1) :
    ∃ p ∈ ps, l.size = p.2 ∧ (l.kind = .stack ∨ l.kind = p.1) := by
  induction ps generalizing c with
  | nil => simp [takeAll] at h
  | cons p ps ih =>
    rcases List.mem_cons.mp h with rfl | h
    · exact ⟨p, List.mem_cons_self, size_take p.1 p.2 c, kind_take_eq p.1 p.2 c⟩
    · obtain ⟨q, hq, hl⟩ := ih h
      exact ⟨q, List.mem_cons_of_mem p hq, hl⟩

theorem takeAll_registers (h : ∀ l ∈ (r.takeAll ps c).1, l.kind ≠ .stack) :
    (r.takeAll ps c).1.map (fun l => (l.kind, l.size)) = ps := by
  induction ps generalizing c with
  | nil => rfl
  | cons p ps ih =>
    obtain ⟨hp, hps⟩ := List.forall_mem_cons.mp h
    rw [takeAll, List.map_cons, ih hps, (kind_take_eq p.1 p.2 c).resolve_left hp, size_take]

theorem sizes_takeAll (r : RegFile) (ps : List (LocKind × BitVec 16)) (c : Cursor) :
    (r.takeAll ps c).1.map AbiLoc.size = ps.map Prod.snd := by
  induction ps generalizing c with
  | nil => rfl
  | cons p ps ih => rw [takeAll, List.map_cons, List.map_cons, ih, size_take]

theorem gprParts_cons (p : LocKind × BitVec 16) :
    gprParts (p :: ps) = gprPart p.1 + gprParts ps := by
  simp [gprParts, gprPart, List.countP_cons, Nat.add_comm]

theorem fprParts_cons (p : LocKind × BitVec 16) :
    fprParts r (p :: ps) = fprPart r p.1 + fprParts r ps := by
  simp [fprParts, fprPart, List.countP_cons, Nat.add_comm]

theorem cursor_takeAll (ps : List (LocKind × BitVec 16)) (h : c.Within r) :
    (r.takeAll ps c).2.gpr = min r.gprs (c.gpr + gprParts ps) ∧
      (r.takeAll ps c).2.fpr = min 8 (c.fpr + fprParts r ps) := by
  induction ps generalizing c with
  | nil => simp [takeAll, gprParts, fprParts, h.gpr, h.fpr]
  | cons p ps ih =>
    obtain ⟨hg, hf⟩ := cursor_take p.1 p.2 h
    obtain ⟨ihg, ihf⟩ := ih (within_take p.1 p.2 h)
    simp only [takeAll, gprParts_cons, fprParts_cons]
    omega

theorem within_takeAll (ps : List (LocKind × BitVec 16)) (h : c.Within r) :
    (r.takeAll ps c).2.Within r := by
  obtain ⟨hg, hf⟩ := cursor_takeAll ps h
  exact ⟨by omega, by omega⟩

def Served (r : RegFile) (ps : List (LocKind × BitVec 16)) : Prop :=
  ∀ p ∈ ps, p.1 = .gpr ∨ r.inFpr p.1 = true

/-- When all parts are in registers, and when all are on the stack. -/
theorem takeAll_kinds (h : c.Within r) (hs : Served r ps) :
    ((∀ l ∈ (r.takeAll ps c).1, l.kind ≠ .stack) ↔
        c.gpr + gprParts ps ≤ r.gprs ∧ c.fpr + fprParts r ps ≤ 8) ∧
      ((∀ l ∈ (r.takeAll ps c).1, l.kind = .stack) ↔
        (gprParts ps = 0 ∨ r.gprs ≤ c.gpr) ∧ (fprParts r ps = 0 ∨ 8 ≤ c.fpr)) := by
  induction ps generalizing c with
  | nil => simp [takeAll, gprParts, fprParts, h.gpr, h.fpr]
  | cons p ps ih =>
    obtain ⟨hp, hs⟩ := List.forall_mem_cons.mp hs
    obtain ⟨hg, hf⟩ := cursor_take p.1 p.2 h
    obtain ⟨ihregs, ihstack⟩ := ih (within_take p.1 p.2 h) hs
    obtain ⟨hcg, hcf⟩ := h
    simp only [takeAll, List.forall_mem_cons, gprParts_cons, fprParts_cons]
    rw [ihregs, ihstack, ne_eq]
    rcases stack_take_cases (c := c) p.2 hp with ⟨hgp, hfp, hkind⟩ | ⟨hgp, hfp, hkind⟩
    · rw [hkind]
      omega
    · rw [hkind]
      omega

end

/-! ## What the arguments before one have taken -/

def Arch.gprNeed (arch : Arch) (type : AbiType) : Nat :=
  match arch.request type with
  | .parts ps => gprParts ps
  | _ => 0

/-- The floating-point registers that the parts of an argument ask for. -/
def Arch.fprNeed (arch : Arch) (type : AbiType) : Nat :=
  match arch.request type with
  | .parts ps => fprParts arch.profile.regs ps
  | _ => 0

/-- The floating-point registers taken after an argument, with `used` of them taken before it. -/
def Arch.fprAfter (arch : Arch) (used : Nat) (type : AbiType) : Nat :=
  match arch.request type with
  | .together count _ _ _ => if used + count ≤ 8 then used + count else used
  | _ => min 8 (used + arch.fprNeed type)

def Arch.gprsBefore (arch : Arch) (sig : FunctionSig) (k : Nat) : Nat :=
  min arch.profile.regs.gprs
    ((arch.startCursor sig).gpr + ((sig.args.take k).map arch.gprNeed).sum)

def Arch.fprsBefore (arch : Arch) (sig : FunctionSig) (k : Nat) : Nat :=
  (sig.args.take k).foldl arch.fprAfter 0

section

variable {arch : Arch} {c : Cursor}

theorem within_placeArg (type : AbiType) (h : c.Within arch.profile.regs) :
    (arch.placeArg type c).2.Within arch.profile.regs := by
  unfold placeArg
  cases arch.request type with
  | refused => exact h
  | parts ps => exact within_takeAll ps h
  | together k elem size align =>
    simp only [place]
    split
    · exact ⟨h.gpr, ‹_›⟩
    · exact ⟨h.gpr, h.fpr⟩
  | memory size align => exact ⟨h.gpr, h.fpr⟩

theorem cursor_placeArg (type : AbiType) (h : c.Within arch.profile.regs) :
    (arch.placeArg type c).2.gpr = min arch.profile.regs.gprs (c.gpr + arch.gprNeed type) ∧
      (arch.placeArg type c).2.fpr = arch.fprAfter c.fpr type := by
  obtain ⟨hg, hf⟩ := h
  unfold placeArg gprNeed fprAfter fprNeed
  cases arch.request type with
  | refused => simp [place, hg, hf]
  | parts ps => exact cursor_takeAll ps ⟨hg, hf⟩
  | together k elem size align =>
    simp only [place]
    split <;> simp [stackLoc, hg]
  | memory size align => simp [place, stackLoc, hg, hf]

theorem within_cursorAfter (types : List AbiType) (h : c.Within arch.profile.regs) :
    (arch.cursorAfter types c).Within arch.profile.regs := by
  induction types generalizing c with
  | nil => exact h
  | cons type types ih => exact ih (within_placeArg type h)

theorem gpr_cursorAfter (types : List AbiType) (h : c.Within arch.profile.regs) :
    (arch.cursorAfter types c).gpr =
      min arch.profile.regs.gprs (c.gpr + (types.map arch.gprNeed).sum) := by
  induction types generalizing c with
  | nil => simp [cursorAfter, h.gpr]
  | cons type types ih =>
    have hih := ih (within_placeArg type h)
    rw [(cursor_placeArg type h).1] at hih
    rw [List.map_cons, List.sum_cons]
    exact hih.trans (by omega)

theorem fpr_cursorAfter (types : List AbiType) (h : c.Within arch.profile.regs) :
    (arch.cursorAfter types c).fpr = types.foldl arch.fprAfter c.fpr := by
  induction types generalizing c with
  | nil => rfl
  | cons type types ih =>
    rw [List.foldl_cons, ← (cursor_placeArg type h).2]
    exact ih (within_placeArg type h)

variable {sig : FunctionSig}

theorem within_startCursor : (arch.startCursor sig).Within arch.profile.regs := by
  unfold startCursor
  split <;> cases arch <;> exact ⟨by decide, by decide⟩

theorem fpr_startCursor : (arch.startCursor sig).fpr = 0 := by
  unfold startCursor
  split <;> cases arch <;> rfl

theorem within_cursorAt (arch : Arch) (sig : FunctionSig) (k : Nat) :
    (arch.cursorAt sig k).Within arch.profile.regs :=
  within_cursorAfter _ within_startCursor

theorem gpr_cursorAt (k : Nat) : (arch.cursorAt sig k).gpr = arch.gprsBefore sig k :=
  gpr_cursorAfter _ within_startCursor

theorem fpr_cursorAt (k : Nat) : (arch.cursorAt sig k).fpr = arch.fprsBefore sig k := by
  rw [cursorAt, fpr_cursorAfter _ within_startCursor, fpr_startCursor]
  rfl

end

/-! ## Split arguments -/

def Unsplit (locs : List AbiLoc) : Prop :=
  (∀ l ∈ locs, l.kind ≠ .stack) ∨ ∀ l ∈ locs, l.kind = .stack
  deriving Decidable

/-- The parts of an argument fit in the registers that are left, or there is none left of any kind
that they ask for. -/
def Arch.Fits (arch : Arch) (sig : FunctionSig) (k : Nat) (type : AbiType) : Prop :=
  (arch.gprsBefore sig k + arch.gprNeed type ≤ arch.profile.regs.gprs ∧
      arch.fprsBefore sig k + arch.fprNeed type ≤ 8) ∨
    ((arch.gprNeed type = 0 ∨ arch.gprsBefore sig k = arch.profile.regs.gprs) ∧
      (arch.fprNeed type = 0 ∨ arch.fprsBefore sig k = 8))

variable {arch : Arch}

theorem served_request {type : AbiType} {ps : List (LocKind × BitVec 16)}
    (h : arch.request type = .parts ps) : Served arch.profile.regs ps := by
  intro p hp
  cases arch <;>
    simp only [Arch.request, x86Request, aarch64Request, riscvRequest] at h <;>
    simp only [profile, x86Profile, aarch64Profile, riscvProfile, x86Regs, aarch64Regs,
      riscvRegs, inFpr] <;>
    grind

theorem unsplit_takeAll {r : RegFile} {c : Cursor} {ps : List (LocKind × BitVec 16)}
    (h : c.Within r) (hs : Served r ps) :
    Unsplit (r.takeAll ps c).1 ↔
      (c.gpr + gprParts ps ≤ r.gprs ∧ c.fpr + fprParts r ps ≤ 8) ∨
        ((gprParts ps = 0 ∨ c.gpr = r.gprs) ∧ (fprParts r ps = 0 ∨ c.fpr = 8)) := by
  have hg := h.gpr
  have hf := h.fpr
  rw [Unsplit, (takeAll_kinds h hs).1, (takeAll_kinds h hs).2]
  omega

theorem unsplit_singleton (l : AbiLoc) : Unsplit [l] := by
  by_cases h : l.kind = .stack
  · exact .inr (by simpa using h)
  · exact .inl (by simpa using h)

theorem unsplit_place {r : RegFile} {c : Cursor} {req : Request} (h : ∀ ps, req ≠ .parts ps) :
    Unsplit (req.place r c).1 := by
  cases req with
  | refused => exact .inl (by simp [place])
  | parts ps => exact absurd rfl (h ps)
  | together k elem size align =>
    simp only [place]
    split
    · refine .inl fun l hl => ?_
      obtain ⟨x, -, rfl⟩ := List.mem_map.mp hl
      simp [locReg]
    · exact unsplit_singleton _
  | memory size align => exact unsplit_singleton _

/-- An argument is split exactly when its parts do not fit in the registers left, but one is left
for some part. -/
theorem unsplit_iff {arch : Arch} {sig : FunctionSig} {layout : AbiLayout} {k : Nat}
    {type : AbiType} (h : classifyCallAbi arch sig = some layout)
    (hk : sig.args[k]? = some type) :
    Unsplit (layout.args.getD k []) ↔ arch.Fits sig k type := by
  have hc := within_cursorAt arch sig k
  rw [(classify_laid h).arg hk, Arch.Fits, ← gpr_cursorAt, ← fpr_cursorAt, Arch.placeArg,
    Arch.gprNeed, Arch.fprNeed]
  cases hreq : arch.request type with
  | parts ps => exact unsplit_takeAll hc (served_request hreq)
  | refused => exact iff_of_true (unsplit_place (by simp)) (by simp)
  | together n elem size align => exact iff_of_true (unsplit_place (by simp)) (by simp)
  | memory size align => exact iff_of_true (unsplit_place (by simp)) (by simp)

def mixedSig : FunctionSig where
  args := [aggregate2 .i64 .f64]
  ret := abiScalarType .void

theorem unsplit_iff_mixedSig :
    ∃ layout, classifyCallAbi .x86 mixedSig = some layout ∧ Unsplit (layout.args.getD 0 []) := by
  have hfits : Arch.x86.Fits mixedSig 0 (aggregate2 .i64 .f64) := .inl (by decide)
  exact ⟨_, rfl, (unsplit_iff (k := 0) rfl rfl).mpr hfits⟩

/-- A pair of integers after one argument less than there are integer registers. -/
theorem pair_split :
    (∃ layout, classifyCallAbi .x86
        ⟨List.replicate 5 (abiScalarType .i64) ++ [aggregate2 .i64 .i64], abiScalarType .void, 0⟩ =
          some layout ∧
      layout.args.getD 5 [] = [locReg .gpr 5 8, locStack 0 8] ∧
      ¬Unsplit (layout.args.getD 5 [])) ∧
    ∃ layout, classifyCallAbi .aarch64
        ⟨List.replicate 7 (abiScalarType .i64) ++ [aggregate2 .i64 .i64], abiScalarType .void, 0⟩ =
          some layout ∧
      layout.args.getD 7 [] = [locReg .gpr 7 8, locStack 0 8] ∧
      ¬Unsplit (layout.args.getD 7 []) :=
  ⟨⟨_, rfl, by decide, by decide⟩, ⟨_, rfl, by decide, by decide⟩⟩

/-! ## Registers given to a later argument -/

def fprCandidate (type : AbiType) : Bool :=
  isFloatKind type.kind || type.kind == .vec128 || type.kind == .hfa

def gprCandidate (type : AbiType) : Bool :=
  isIntegerKind type.kind || (type.kind == .aggregate && decide (type.size ≤ 16#16))

/-- After a candidate for a kind of registers that is on the stack, no argument is given one. -/
def NoBackfill (sig : FunctionSig) (layout : AbiLayout) (candidate : AbiType → Bool)
    (kinds : List LocKind) : Prop :=
  ∀ i j first later, i < j → sig.args[i]? = some first → sig.args[j]? = some later →
    candidate first = true → (∃ l ∈ layout.args.getD i [], l.kind = .stack) →
      ∀ l ∈ layout.args.getD j [], l.kind ∉ kinds

/-- The floating-point registers that AArch64 needs for an argument. -/
def aarch64FprNeed (type : AbiType) : Nat :=
  if type.kind = .hfa then type.count.toNat
  else if isFloatKind type.kind ∨ type.kind = .vec128 then 1
  else 0

/-- What a type asks for on AArch64, by the registers that it is a candidate for. -/
inductive Aarch64Asks (type : AbiType) : Prop
  | vector (candidate : fprCandidate type = true) (need : aarch64FprNeed type = 1) (kind : LocKind)
      (file : kind = .fpr ∨ kind = .vec)
      (request : aarch64Request type = .parts [(kind, type.size)])
  | elems (candidate : fprCandidate type = true) (need : 0 < aarch64FprNeed type)
      (elem : BitVec 16)
      (request : aarch64Request type = .together (aarch64FprNeed type) elem type.size type.align)
  | general (other : fprCandidate type = false) (need : aarch64FprNeed type = 0)
      (sizes : List (BitVec 16)) (request : aarch64Request type = .parts (sizes.map (.gpr, ·)))
  | memory (other : fprCandidate type = false) (need : aarch64FprNeed type = 0)
      (others : gprCandidate type = false)
      (request : aarch64Request type = .memory type.size type.align)

theorem aarch64_asks {type : AbiType} (hok : (aarch64Request type).ok) :
    Aarch64Asks type := by
  have hpos (h : hfaOk type = true) : 0 < type.count.toNat := by
    simp only [hfaOk, Bool.and_eq_true, bne_iff_ne] at h
    exact Nat.pos_of_ne_zero fun h0 => h.1.2 (BitVec.eq_of_toNat_eq h0)
  unfold aarch64Request at hok
  cases hk : type.kind with
  | i32 | i64 | ptr =>
    refine .general ?_ ?_ [type.size] ?_ <;>
      simp [fprCandidate, aarch64FprNeed, aarch64Request, isIntegerKind, isFloatKind, hk]
  | f32 | f64 =>
    refine .vector ?_ ?_ .fpr (.inl rfl) ?_ <;>
      simp [fprCandidate, aarch64FprNeed, aarch64Request, isIntegerKind, isFloatKind, hk]
  | vec128 =>
    refine .vector ?_ ?_ .vec (.inr rfl) ?_ <;>
      simp [fprCandidate, aarch64FprNeed, aarch64Request, isIntegerKind, isFloatKind, hk]
  | hfa =>
    have hhfa : hfaOk type := by
      by_contra h
      rw [Bool.not_eq_true] at h
      simp [isIntegerKind, isFloatKind, hk, h, ok] at hok
    refine .elems ?_ ?_ (hfaElemSize type) ?_ <;>
      simp [fprCandidate, aarch64FprNeed, aarch64Request, isIntegerKind, isFloatKind, hk, hhfa,
        hpos hhfa]
  | aggregate =>
    by_cases hs : type.size ≤ 16#16
    · refine .general ?_ ?_ (partSizes type.size) ?_ <;>
        simp [fprCandidate, aarch64FprNeed, aarch64Request, isIntegerKind, isFloatKind, hk, hs]
    · refine .memory ?_ ?_ ?_ ?_ <;>
        simp [fprCandidate, aarch64FprNeed, gprCandidate, aarch64Request, isIntegerKind,
          isFloatKind, hk, hs, -BitVec.not_le]
  | void =>
    refine .memory ?_ ?_ ?_ ?_ <;>
      simp [fprCandidate, aarch64FprNeed, gprCandidate, aarch64Request, isIntegerKind, isFloatKind,
        hk]

section

variable {type : AbiType} {c : Cursor}

theorem inFpr_aarch64 {kind : LocKind} (h : kind = .fpr ∨ kind = .vec) :
    aarch64Regs.inFpr kind := by
  rcases h with rfl | rfl <;> rfl

theorem gprParts_map_gpr (sizes : List (BitVec 16)) :
    gprParts (sizes.map (.gpr, ·)) = sizes.length := by
  simp [gprParts, List.countP_map, Function.comp_def]

theorem fprParts_map_gpr (r : RegFile) (sizes : List (BitVec 16)) :
    fprParts r (sizes.map (.gpr, ·)) = 0 := by
  simp [fprParts, List.countP_map, Function.comp_def]

section

variable (hok : (aarch64Request type).ok)

include hok

/-- The floating-point registers after an argument on AArch64: what it needs is taken if it fits. -/
theorem fprAfter_aarch64 {used : Nat} (hused : used ≤ 8) : aarch64.fprAfter used type =
      if used + aarch64FprNeed type ≤ 8 then used + aarch64FprNeed type else used := by
  unfold fprAfter fprNeed
  cases aarch64_asks hok with
  | vector _ need kind file request =>
    have hone : fprParts aarch64Regs [(kind, type.size)] = 1 := by
      simp [fprParts, inFpr_aarch64 file]
    simp only [Arch.request, request, need, profile, aarch64Profile, hone]
    split <;> omega
  | elems _ _ elem request => simp only [Arch.request, request]
  | general _ need sizes request =>
    simp only [Arch.request, request, need, fprParts_map_gpr]
    simp [hused]
  | memory _ need _ request => simp [Arch.request, request, need, hused]

theorem mem_fpr_placeArg : (∃ l ∈ (aarch64.placeArg type c).1, l.kind ∈ [LocKind.fpr, .vec]) ↔
      0 < aarch64FprNeed type ∧ c.fpr + aarch64FprNeed type ≤ 8 := by
  rw [placeArg, Arch.request]
  cases aarch64_asks hok with
  | vector _ need kind file request =>
    have hstack := kind_take (r := aarch64Regs) (c := c) type.size (.inr (inFpr_aarch64 file))
    have hkind := kind_take_eq (r := aarch64Regs) kind type.size c
    rw [request, need]
    simp only [place, takeAll, profile, aarch64Profile]
    grind [inFpr_aarch64]
  | elems _ need elem request =>
    rw [request, place]
    split
    · rename_i hfit
      refine iff_of_true ⟨_, List.mem_map.mpr ⟨c.fpr, ?_, rfl⟩, by simp [locReg]⟩ ⟨need, hfit⟩
      exact List.mem_range'_1.mpr ⟨Nat.le_refl _, Nat.lt_add_of_pos_right need⟩
    · simp [stackLoc, locStack, *]
  | general _ need sizes request =>
    rw [request, need]
    simp only [place, Nat.lt_irrefl, false_and, iff_false]
    rintro ⟨l, hl, hk⟩
    obtain ⟨p, hp, -, h⟩ := mem_takeAll hl
    obtain ⟨x, -, rfl⟩ := List.mem_map.mp hp
    rcases h with h | h <;> simp [h] at hk
  | memory _ need _ request => simp [request, need, place, stackLoc, locStack]

theorem mem_stack_placeArg (hc : fprCandidate type) :
    (∃ l ∈ (aarch64.placeArg type c).1, l.kind = .stack) ↔
      8 < c.fpr + aarch64FprNeed type := by
  rw [placeArg, Arch.request]
  cases aarch64_asks hok with
  | vector _ need kind file request =>
    have hstack := kind_take (r := aarch64Regs) (c := c) type.size (.inr (inFpr_aarch64 file))
    rw [request, need]
    simp only [place, takeAll, profile, aarch64Profile]
    simp only [List.mem_singleton, exists_eq_left, hstack, inFpr_aarch64 file]
    grind
  | elems _ need elem request =>
    rw [request, place]
    split
    · simp [locReg]
      omega
    · simp [stackLoc, locStack]
      omega
  | general other => rw [hc] at other; cases other
  | memory other => rw [hc] at other; cases other

theorem gpr_placeArg_of_stack (hcand : gprCandidate type) (hc : c.Within aarch64Regs)
    (hs : ∃ l ∈ (aarch64.placeArg type c).1, l.kind = .stack) :
    (aarch64.placeArg type c).2.gpr = aarch64Regs.gprs := by
  have hno : fprCandidate type = false := by
    unfold gprCandidate fprCandidate isIntegerKind isFloatKind at *
    grind
  rw [placeArg, Arch.request] at *
  cases aarch64_asks hok with
  | vector candidate => rw [hno] at candidate; cases candidate
  | elems candidate => rw [hno] at candidate; cases candidate
  | memory _ _ others => rw [hcand] at others; cases others
  | general _ _ sizes request =>
    have hserved : Served aarch64Regs (sizes.map (.gpr, ·)) := by simp [Served]
    have hall := (takeAll_kinds hc hserved).1
    rw [request, place] at hs ⊢
    obtain ⟨l, hl, hk⟩ := hs
    have hfull : ¬(c.gpr + sizes.length ≤ aarch64Regs.gprs) := by
      intro hle
      rw [gprParts_map_gpr, fprParts_map_gpr] at hall
      exact hall.mpr ⟨hle, hc.fpr⟩ l hl hk
    have hcursor := (cursor_takeAll (sizes.map (LocKind.gpr, ·)) hc).1
    rw [gprParts_map_gpr] at hcursor
    exact hcursor.trans (by omega)

end

theorem gpr_lt_of_mem_placeArg {l : AbiLoc} (hc : c.Within arch.profile.regs)
    (h : l ∈ (arch.placeArg type c).1) (hk : l.kind = .gpr) : c.gpr < arch.profile.regs.gprs := by
  have hassigns := place_assigns (r := arch.profile.regs) (arch.request type) c
  have hmem : l.reg ∈ (arch.placeArg type c).1.filterMap AbiLoc.gprReg :=
    List.mem_filterMap.mpr ⟨l, h, by simp [AbiLoc.gprReg, hk]⟩
  have hpos := List.length_pos_of_mem hmem
  have hnext := hassigns.gprs.2
  have hmax := hassigns.gprMax hc.gpr
  unfold placeArg at hpos
  omega

end

section

variable {sig : FunctionSig}

theorem fprsBefore_le (arch : Arch) (sig : FunctionSig) (k : Nat) : arch.fprsBefore sig k ≤ 8 := by
  rw [← fpr_cursorAt]
  exact (within_cursorAt arch sig k).fpr

variable {k i j : Nat}

theorem fprsBefore_succ {type : AbiType} (hk : sig.args[k]? = some type) :
    arch.fprsBefore sig (k + 1) = arch.fprAfter (arch.fprsBefore sig k) type := by
  rw [fprsBefore, List.take_add_one, hk, List.foldl_append]
  rfl

theorem gprsBefore_succ {type : AbiType} (hk : sig.args[k]? = some type) :
    arch.gprsBefore sig (k + 1) =
      min arch.profile.regs.gprs (arch.gprsBefore sig k + arch.gprNeed type) := by
  rw [← gpr_cursorAt, cursorAt_succ hk, (cursor_placeArg type (within_cursorAt arch sig k)).1,
    gpr_cursorAt]

theorem gprsBefore_full (hij : i ≤ j) (hj : j ≤ sig.args.length)
    (h : arch.gprsBefore sig i = arch.profile.regs.gprs) :
    arch.gprsBefore sig j = arch.profile.regs.gprs := by
  induction j, hij using Nat.le_induction with
  | base => exact h
  | succ j hij ih =>
    have hget : sig.args[j]? = some sig.args[j] := List.getElem?_eq_getElem hj
    rw [gprsBefore_succ hget, ih (Nat.le_of_succ_le hj)]
    omega

theorem fprsBefore_const (hij : i ≤ j) (hj : j ≤ sig.args.length)
    (hok : ∀ type ∈ sig.args, (aarch64Request type).ok)
    (hfull : ∀ m type, i ≤ m → m < j → sig.args[m]? = some type →
      aarch64.fprsBefore sig m = aarch64.fprsBefore sig i →
        0 < aarch64FprNeed type → 8 < aarch64.fprsBefore sig m + aarch64FprNeed type) :
    aarch64.fprsBefore sig j = aarch64.fprsBefore sig i := by
  induction j, hij using Nat.le_induction with
  | base => rfl
  | succ j hij ih =>
    have hget : sig.args[j]? = some sig.args[j] := List.getElem?_eq_getElem hj
    have hsame := ih (Nat.le_of_succ_le hj) fun m type hm hlt => hfull m type hm (by omega)
    have hnot := hfull j _ hij (Nat.lt_succ_self j) hget hsame
    rw [fprsBefore_succ hget,
      fprAfter_aarch64 (hok _ (List.mem_of_getElem? hget)) (fprsBefore_le _ _ _)]
    split <;> omega

end

variable {layout : AbiLayout}

theorem no_gpr_backfill {sig : FunctionSig} (h : classifyCallAbi .aarch64 sig = some layout) :
    NoBackfill sig layout gprCandidate [.gpr] := by
  have hlaid := classify_laid h
  intro i j first later hij hi hj hcand hstack l hl hk
  have hlt : j < sig.args.length := (List.getElem?_eq_some_iff.mp hj).1
  rw [hlaid.arg hi] at hstack
  rw [hlaid.arg hj] at hl
  have hnone : aarch64.gprsBefore sig (i + 1) = aarch64Regs.gprs := by
    rw [← gpr_cursorAt, cursorAt_succ hi]
    exact gpr_placeArg_of_stack (hlaid.ok first (List.mem_of_getElem? hi)) hcand
      (within_cursorAt .aarch64 sig i) hstack
  have hleft := gpr_lt_of_mem_placeArg (within_cursorAt .aarch64 sig j) hl (by simpa using hk)
  rw [gpr_cursorAt, gprsBefore_full hij (Nat.le_of_lt hlt) hnone] at hleft
  exact Nat.lt_irrefl _ hleft

theorem fprCandidate_of_need {type : AbiType} (h : 0 < aarch64FprNeed type) :
    fprCandidate type := by
  unfold aarch64FprNeed at h
  unfold fprCandidate
  grind

theorem no_fpr_backfill_iff {sig : FunctionSig} (h : classifyCallAbi .aarch64 sig = some layout) :
    NoBackfill sig layout fprCandidate [.fpr, .vec] ↔
      ∀ i j first later, i < j → sig.args[i]? = some first → sig.args[j]? = some later →
        8 < aarch64.fprsBefore sig i + aarch64FprNeed first → 0 < aarch64FprNeed later →
          8 < aarch64.fprsBefore sig j + aarch64FprNeed later := by
  have hlaid := classify_laid h
  refine forall₄_congr fun i j first later => forall₃_congr fun hij hi hj => ?_
  have hfirst : (aarch64Request first).ok := hlaid.ok first (List.mem_of_getElem? hi)
  have hlater : (aarch64Request later).ok := hlaid.ok later (List.mem_of_getElem? hj)
  have hin := mem_fpr_placeArg (c := aarch64.cursorAt sig j) hlater
  rw [hlaid.arg hi, hlaid.arg hj]
  rw [fpr_cursorAt] at hin
  constructor
  · intro hno hspill hneed
    have hcand : fprCandidate first :=
      fprCandidate_of_need (by have := fprsBefore_le .aarch64 sig i; omega)
    have hstack := mem_stack_placeArg (c := aarch64.cursorAt sig i) hfirst hcand
    rw [fpr_cursorAt] at hstack
    by_contra hfit
    obtain ⟨l, hl, hk⟩ := hin.mpr ⟨hneed, by omega⟩
    exact hno hcand (hstack.mpr hspill) l hl hk
  · intro hno hcand hstack l hl hk
    rw [mem_stack_placeArg hfirst hcand, fpr_cursorAt] at hstack
    obtain ⟨hneed, hfit⟩ := hin.mp ⟨l, hl, hk⟩
    omega

/-- Floating-point registers go to an argument after one that did not find enough of them exactly
when a later one needs no more than were left. -/
theorem no_backfill_iff {sig : FunctionSig} {layout : AbiLayout}
    (h : classifyCallAbi .aarch64 sig = some layout) :
    NoBackfill sig layout fprCandidate [.fpr, .vec] ∧ NoBackfill sig layout gprCandidate [.gpr] ↔
      ∀ i j first later, i < j → sig.args[i]? = some first → sig.args[j]? = some later →
        8 < Arch.aarch64.fprsBefore sig i + aarch64FprNeed first → 0 < aarch64FprNeed later →
          8 < Arch.aarch64.fprsBefore sig i + aarch64FprNeed later := by
  have hok : ∀ type ∈ sig.args, (aarch64Request type).ok = true := (classify_laid h).ok
  rw [and_iff_left (no_gpr_backfill h), no_fpr_backfill_iff h]
  -- either way the count of registers stays at `fprsBefore sig i` up to argument `j`
  have hconst {i j first} (hij : i < j) (hj : j ≤ sig.args.length)
      (hi : sig.args[i]? = some first)
      (hspill : 8 < Arch.aarch64.fprsBefore sig i + aarch64FprNeed first)
      (hrest : ∀ m type, i < m → sig.args[m]? = some type →
        Arch.aarch64.fprsBefore sig m = Arch.aarch64.fprsBefore sig i → 0 < aarch64FprNeed type →
          8 < Arch.aarch64.fprsBefore sig m + aarch64FprNeed type) :
      Arch.aarch64.fprsBefore sig j = Arch.aarch64.fprsBefore sig i := by
    refine fprsBefore_const hij.le hj hok fun m type him _ hm heq hneed => ?_
    rcases Nat.eq_or_lt_of_le him with rfl | hlt
    · cases hi.symm.trans hm
      exact hspill
    · exact hrest m type hlt hm heq hneed
  constructor
  · intro hno i j first later hij hi hj hspill hneed
    have hlen := (List.getElem?_eq_some_iff.mp hj).1.le
    rw [← hconst hij hlen hi hspill fun m type hlt hm _ => hno i m first type hlt hi hm hspill]
    exact hno i j first later hij hi hj hspill hneed
  · intro hno i j first later hij hi hj hspill hneed
    have hlen := (List.getElem?_eq_some_iff.mp hj).1.le
    rw [hconst hij hlen hi hspill fun m type hlt hm heq hneed => by
      rw [heq]
      exact hno i m first type hlt hi hm hspill hneed]
    exact hno i j first later hij hi hj hspill hneed

/-- Seven doubles, a pair of doubles that finds one register left, and a double. -/
def doublesSig : FunctionSig where
  args := List.replicate 7 (abiScalarType .f64) ++ [abiHfaType .f64 2, abiScalarType .f64]
  ret := abiScalarType .void

theorem no_backfill_iff_doublesSig :
    ∃ layout, classifyCallAbi .aarch64 doublesSig = some layout ∧
      ¬(NoBackfill doublesSig layout fprCandidate [.fpr, .vec] ∧
        NoBackfill doublesSig layout gprCandidate [.gpr]) := by
  refine ⟨_, rfl, fun h => ?_⟩
  have hfull := (no_backfill_iff rfl).mp h 7 8 (abiHfaType .f64 2) (abiScalarType .f64)
    (by decide) rfl rfl (by decide) (by decide)
  exact absurd hfull (by decide)

/-- The double is given the register that the pair has left. -/
theorem scalar_backfilled :
    ∃ layout, classifyCallAbi .aarch64 doublesSig = some layout ∧
      layout.args.getD 7 [] = [locStack 0 16] ∧ layout.args.getD 8 [] = [locReg .fpr 7 8] ∧
      ¬NoBackfill doublesSig layout fprCandidate [.fpr, .vec] := by
  refine ⟨_, rfl, by decide, by decide, fun h => ?_⟩
  exact h 7 8 (abiHfaType .f64 2) (abiScalarType .f64) (by decide) rfl rfl (by decide)
    ⟨locStack 0 16, by decide, rfl⟩ (locReg .fpr 7 8) (by decide) (by decide)

end Poly.Abi
