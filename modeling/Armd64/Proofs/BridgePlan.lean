import Armd64.Abi.Bridge
import Armd64.Proofs.AbiRegisters
import Mathlib.Data.List.Forall2

/-!
# What a bridge plan moves

A plan is made of its setup, one move for each part of an argument, the call, and one move for each
location of the result. The pointer to a result in memory is a location of the result, so it is
moved after the call, from the callee to the caller: a callee that wants one does not get it.
-/

namespace Poly.Abi

open BridgePlan

/-! ## Carrying a value -/

namespace BridgeOp

def isMove (op : BridgeOp) : Bool :=
  op.kind == .regToReg || op.kind == .regToStack || op.kind == .stackToReg ||
    op.kind == .stackToStack

end BridgeOp

namespace BridgePlan

def before (plan : BridgePlan) : List BridgeOp := plan.ops.takeWhile (·.kind != .pcall)

def after (plan : BridgePlan) : List BridgeOp := (plan.ops.dropWhile (·.kind != .pcall)).tail

end BridgePlan

/-- Exactly one of the operations moves a value to `dst`, and it takes it from `src`. -/
def OnlyMove (ops : List BridgeOp) (src dst : AbiLoc) : Prop :=
  ∃ op, ops.filter (fun op => op.isMove && op.dst == dst) = [op] ∧ op.src = src

def AbiLayout.argLoc (layout : AbiLayout) (arg part : Nat) : Option AbiLoc :=
  (layout.args.getD arg [])[part]?

def AbiLayout.stackLocs (layout : AbiLayout) : List AbiLoc :=
  layout.argLocs.filter (·.kind == .stack)

/-- The plan carries the parts of the arguments and the result pointer of the callee before the
call, and the parts of the result after it. -/
structure Carries (caller callee : AbiLayout) (plan : BridgePlan) : Prop where
  args : ∀ arg part dst, callee.argLoc arg part = some dst →
    ∃ src, caller.argLoc arg part = some src ∧ OnlyMove plan.before src dst
  sret : callee.usesSret = true → ∀ dst ∈ callee.ret, dst.kind = .sretPtr →
    ∃ src ∈ caller.ret, src.kind = .sretPtr ∧ OnlyMove plan.before src dst
  ret : ∀ dst ∈ caller.ret, dst.kind ≠ .sretPtr → ∃ src, OnlyMove plan.after src dst

/-! ## What each loop adds -/

def moveOp (src dst : AbiLoc) : BridgeOp where
  kind :=
    if src.kind = .stack then if dst.kind = .stack then .stackToStack else .stackToReg
    else if dst.kind = .stack then .regToStack else .regToReg
  src := src
  dst := dst
  imm := 0

def Partners (src dst : AbiLoc) : Prop :=
  src.size = dst.size ∧ src.kind ≠ .none ∧ dst.kind ≠ .none

theorem Partners.symm {src dst : AbiLoc} (h : Partners src dst) : Partners dst src :=
  ⟨h.1.symm, h.2.2, h.2.1⟩

def BridgePlan.add (plan : BridgePlan) (ops : List BridgeOp) : BridgePlan :=
  { plan with ops := plan.ops ++ ops }

variable {plan plan' : BridgePlan} {src dst : AbiLoc} {srcs dsts : List AbiLoc}
  {cl ce : AbiLayout}

theorem add_add (ops ops' : List BridgeOp) :
    (plan.add ops).add ops' = plan.add (ops ++ ops') := by
  simp [add]

theorem length_add (plan : BridgePlan) (ops : List BridgeOp) :
    (plan.add ops).ops.length = plan.ops.length + ops.length := by
  simp [add]

variable {kind : MoveKind} {imm : BitVec 64} {slot : BitVec 32} {key : Bool} {out out' : AbiLayout}
  {arch : Arch}

theorem planAddOp_iff :
    planAddOp plan kind src dst imm = some plan' ↔
      plan.ops.length < planMaxOps ∧ plan' = plan.add [⟨kind, src, dst, imm⟩] := by
  unfold planAddOp
  by_cases hfull : planMaxOps ≤ plan.ops.length
  · simp [hfull, Nat.not_lt.mpr hfull]
  · rw [if_neg hfull, Option.some.injEq, eq_comm, and_iff_right (by omega)]
    rfl

theorem addMoveForLocs_iff :
    addMoveForLocs plan src dst = some plan' ↔
      plan.ops.length < planMaxOps ∧ Partners src dst ∧ plan' = plan.add [moveOp src dst] := by
  obtain ⟨skind, sreg, soffset, ssize⟩ := src
  obtain ⟨dkind, dreg, doffset, dsize⟩ := dst
  unfold addMoveForLocs Partners
  by_cases hsize : ssize = dsize
  · cases skind <;> cases dkind <;>
      simp [locIsRegisterLike, planAddOp_iff, moveOp, hsize]
  · simp [hsize]

theorem addMoves_iff (h : plan.ops.length ≤ planMaxOps) :
    addMoves srcs dsts plan = some plan' ↔
      plan.ops.length + srcs.length ≤ planMaxOps ∧ List.Forall₂ Partners srcs dsts ∧
        plan' = plan.add (List.zipWith moveOp srcs dsts) := by
  induction srcs generalizing dsts plan with
  | nil =>
    cases dsts with
    | nil => simp [addMoves, h, add, eq_comm]
    | cons dst dsts => simp [addMoves]
  | cons src srcs ih =>
    cases dsts with
    | nil => simp [addMoves]
    | cons dst dsts =>
      rw [addMoves, Option.bind_eq_some_iff, List.forall₂_cons, List.zipWith_cons_cons]
      constructor
      · rintro ⟨next, hnext, hrest⟩
        obtain ⟨hroom, hpair, rfl⟩ := addMoveForLocs_iff.mp hnext
        obtain ⟨hfit, hpairs, rfl⟩ := (ih (by rw [length_add]; exact hroom)).mp hrest
        rw [length_add, List.length_singleton] at hfit
        exact ⟨by rw [List.length_cons]; omega, ⟨hpair, hpairs⟩, add_add _ _⟩
      · rintro ⟨hfit, ⟨hpair, hpairs⟩, rfl⟩
        rw [List.length_cons] at hfit
        refine ⟨_, addMoveForLocs_iff.mpr ⟨by omega, hpair, rfl⟩, (ih ?_).mpr
          ⟨?_, hpairs, (add_add [moveOp src dst] _).symm⟩⟩
        · rw [length_add, List.length_singleton]
          omega
        · rw [length_add, List.length_singleton]
          omega

def argMoves (cl ce : AbiLayout) (arg : Nat) : List BridgeOp :=
  List.zipWith moveOp (cl.args.getD arg []) (ce.args.getD arg [])

theorem addMovesOfArgs_iff {args : List Nat} (h : plan.ops.length ≤ planMaxOps) :
    addMovesOfArgs cl ce args plan = some plan' ↔
      plan.ops.length + (args.flatMap fun arg => cl.args.getD arg []).length ≤ planMaxOps ∧
        (∀ arg ∈ args, List.Forall₂ Partners (cl.args.getD arg []) (ce.args.getD arg [])) ∧
        plan' = plan.add (args.flatMap (argMoves cl ce)) := by
  induction args generalizing plan with
  | nil => simp [addMovesOfArgs, h, add, eq_comm]
  | cons arg args ih =>
    rw [addMovesOfArgs, Option.bind_eq_some_iff, List.flatMap_cons, List.flatMap_cons,
      List.length_append, List.forall_mem_cons]
    have hmoves (hpairs : List.Forall₂ Partners (cl.args.getD arg []) (ce.args.getD arg [])) :
        (argMoves cl ce arg).length = (cl.args.getD arg []).length := by
      rw [argMoves, List.length_zipWith, hpairs.length_eq, Nat.min_self]
    constructor
    · rintro ⟨next, hnext, hrest⟩
      obtain ⟨hroom, hpairs, rfl⟩ := (addMoves_iff h).mp hnext
      have hlength := length_add plan (argMoves cl ce arg)
      rw [hmoves hpairs] at hlength
      obtain ⟨hfit, hall, rfl⟩ := (ih (Nat.le_trans (Nat.le_of_eq hlength) hroom)).mp hrest
      exact ⟨by omega, ⟨hpairs, hall⟩, add_add _ _⟩
    · rintro ⟨hfit, ⟨hpairs, hall⟩, rfl⟩
      refine ⟨_, (addMoves_iff h).mpr ⟨by omega, hpairs, rfl⟩, (ih ?_).mpr
        ⟨?_, hall, (add_add _ _).symm⟩⟩
      · rw [length_add, ← argMoves, hmoves hpairs]
        omega
      · rw [length_add, ← argMoves, hmoves hpairs]
        omega

theorem addSetup_eq {wanted : Bool} (h : plan.ops.length < planMaxOps) :
    addSetup wanted plan kind imm =
      some (plan.add (if wanted then [⟨kind, locNone, locNone, imm⟩] else [])) := by
  unfold addSetup
  by_cases hw : wanted = true
  · rw [if_pos hw, if_pos hw]
    exact planAddOp_iff.mpr ⟨h, rfl⟩
  · rw [if_neg hw, if_neg hw, add, List.append_nil]

/-! ## The plan of two layouts -/

def opValid (op : BridgeOp) : Bool := validLoc op.src && validLoc op.dst && validOpLocs op

def Movable (src dst : AbiLoc) : Prop := src.size ≠ 0 ∧ Partners src dst

theorem Movable.symm (h : Movable src dst) : Movable dst src :=
  ⟨h.2.1 ▸ h.1, h.2.symm⟩

theorem moveOp_valid (h : Partners src dst) : opValid (moveOp src dst) ↔ src.size ≠ 0 := by
  obtain ⟨skind, sreg, soffset, ssize⟩ := src
  obtain ⟨dkind, dreg, doffset, dsize⟩ := dst
  obtain ⟨rfl, hs, hd⟩ := h
  cases skind <;> cases dkind <;> simp [opValid, moveOp, validLoc, validOpLocs] at hs hd ⊢

theorem forall₂_movable :
    List.Forall₂ Movable srcs dsts ↔
      List.Forall₂ Partners srcs dsts ∧ (List.zipWith moveOp srcs dsts).all opValid := by
  induction srcs generalizing dsts with
  | nil => cases dsts <;> simp
  | cons src srcs ih =>
    cases dsts with
    | nil => simp
    | cons dst dsts =>
      rw [List.forall₂_cons, List.forall₂_cons, List.zipWith_cons_cons, List.all_cons, ih,
        Bool.and_eq_true, Movable]
      constructor
      · rintro ⟨⟨hsize, hpair⟩, hpairs, hvalid⟩
        exact ⟨⟨hpair, hpairs⟩, (moveOp_valid hpair).mpr hsize, hvalid⟩
      · rintro ⟨⟨hpair, hpairs⟩, hsize, hvalid⟩
        exact ⟨⟨(moveOp_valid hpair).mp hsize, hpair⟩, hpairs, hvalid⟩

structure Matched (l l' : AbiLayout) : Prop where
  argCount : l.argCount = l'.argCount
  args : ∀ arg < l.argCount, List.Forall₂ Movable (l.args.getD arg []) (l'.args.getD arg [])
  ret : List.Forall₂ Movable l.ret l'.ret

theorem Matched.symm (h : Matched cl ce) : Matched ce cl where
  argCount := h.argCount.symm
  args arg harg := ((h.args arg (h.argCount ▸ harg)).imp fun _ _ hm => Movable.symm hm).flip
  ret := (h.ret.imp fun _ _ hm => Movable.symm hm).flip

def AbiLayout.parts (l : AbiLayout) : List AbiLoc :=
  (List.range l.argCount).flatMap fun arg => l.args.getD arg []

def setupOps (slot : BitVec 32) (key : Bool) : List BridgeOp :=
  (if key then [⟨.setStateKey, locNone, locNone, 0⟩] else []) ++
    if slot != noSignatureSlot then
      [⟨.setSignatureSlot, locNone, locNone, slot.setWidth 64⟩] else []

def planOps (cl ce : AbiLayout) (slot : BitVec 32) (key : Bool) : List BridgeOp :=
  setupOps slot key ++ (List.range cl.argCount).flatMap (argMoves cl ce) ++
    ⟨.pcall, locNone, locNone, 0⟩ :: List.zipWith moveOp ce.ret cl.ret

def opsNeeded (cl : AbiLayout) (slot : BitVec 32) (key : Bool) : Nat :=
  (setupOps slot key).length + cl.parts.length + (1 + cl.ret.length)

theorem setupOps_length (slot : BitVec 32) (key : Bool) : (setupOps slot key).length ≤ 2 := by
  unfold setupOps
  split <;> split <;> simp

theorem setupOps_valid (slot : BitVec 32) (key : Bool) : (setupOps slot key).all opValid := by
  unfold setupOps
  split <;> split <;> rfl

theorem addArgMoves_iff (h : plan.ops.length ≤ planMaxOps) :
    addArgMoves plan cl ce = some plan' ↔
      plan.ops.length + cl.parts.length ≤ planMaxOps ∧ cl.argCount = ce.argCount ∧
        (∀ arg < cl.argCount,
          List.Forall₂ Partners (cl.args.getD arg []) (ce.args.getD arg [])) ∧
        plan' = plan.add ((List.range cl.argCount).flatMap (argMoves cl ce)) := by
  unfold addArgMoves
  by_cases hcount : cl.argCount = ce.argCount
  · rw [if_neg (not_not.mpr hcount), addMovesOfArgs_iff h, and_iff_right hcount]
    simp only [List.mem_range]
    rfl
  · simp [hcount]

theorem planOps_valid :
    (planOps cl ce slot key).all opValid ↔
      (∀ arg < cl.argCount, (argMoves cl ce arg).all opValid) ∧
        (List.zipWith moveOp ce.ret cl.ret).all opValid := by
  have hcall : opValid ⟨.pcall, locNone, locNone, 0⟩ := rfl
  rw [planOps, List.all_append, List.all_append, setupOps_valid, List.all_cons, hcall,
    Bool.true_and, Bool.true_and, Bool.and_eq_true]
  simp [List.all_flatMap]

theorem length_argMoves
    (hargs : ∀ arg < cl.argCount,
      List.Forall₂ Partners (cl.args.getD arg []) (ce.args.getD arg [])) :
    ((List.range cl.argCount).flatMap (argMoves cl ce)).length = cl.parts.length := by
  rw [AbiLayout.parts, List.length_flatMap, List.length_flatMap]
  refine congrArg List.sum (List.map_congr_left fun arg harg => ?_)
  rw [argMoves, List.length_zipWith, (hargs arg (List.mem_range.mp harg)).length_eq, Nat.min_self]

theorem length_planOps
    (hargs : ∀ arg < cl.argCount,
      List.Forall₂ Partners (cl.args.getD arg []) (ce.args.getD arg []))
    (hret : ce.ret.length = cl.ret.length) :
    (planOps cl ce slot key).length = opsNeeded cl slot key := by
  rw [planOps, List.length_append, List.length_append, length_argMoves hargs, List.length_cons,
    List.length_zipWith, hret, Nat.min_self, opsNeeded, Nat.add_comm 1]

theorem planFromLayouts_iff :
    planFromLayouts cl ce slot key = some plan ↔
      opsNeeded cl slot key ≤ planMaxOps ∧ Matched cl ce ∧
        plan = ⟨cl.arch, ce.arch, planOps cl ce slot key, slot, key⟩ := by
  have hsetup := setupOps_length slot key
  have hmax : planMaxOps = 128 := rfl
  let base : BridgePlan := ⟨cl.arch, ce.arch, setupOps slot key, slot, key⟩
  have hbase : base.ops.length ≤ planMaxOps := by
    show (setupOps slot key).length ≤ planMaxOps
    omega
  have hfirst : planFromLayouts cl ce slot key =
      (addArgMoves base cl ce).bind fun p => (planAddOp p .pcall locNone locNone 0).bind fun p =>
        (addRetMoves p cl ce).bind fun p => if planValidate p then some p else none := by
    simp only [planFromLayouts, Option.bind_eq_bind]
    rw [addSetup_eq (by simp [planInit, planMaxOps]), Option.bind_some, addSetup_eq,
      Option.bind_some, add_add]
    · rfl
    · rw [length_add]
      split <;> simp [planInit, planMaxOps]
  have hlast : ((base.add ((List.range cl.argCount).flatMap (argMoves cl ce))).add
      [⟨.pcall, locNone, locNone, 0⟩]).add (List.zipWith moveOp ce.ret cl.ret) =
      ⟨cl.arch, ce.arch, planOps cl ce slot key, slot, key⟩ := by
    simp [add, planOps, base]
  rw [hfirst]
  constructor
  · intro h
    obtain ⟨p, hargs, h⟩ := Option.bind_eq_some_iff.mp h
    obtain ⟨-, hcount, hpairs, rfl⟩ := (addArgMoves_iff hbase).mp hargs
    obtain ⟨p, hcall, h⟩ := Option.bind_eq_some_iff.mp h
    obtain ⟨hfree, rfl⟩ := planAddOp_iff.mp hcall
    obtain ⟨p, hret, h⟩ := Option.bind_eq_some_iff.mp h
    obtain ⟨-, hrets, rfl⟩ := (addMoves_iff (by rw [length_add]; exact hfree)).mp hret
    rw [hlast] at h
    split at h
    · rename_i hvalid
      cases h
      rw [planValidate, Bool.and_eq_true, decide_eq_true_iff] at hvalid
      obtain ⟨hfit, hvalid⟩ := hvalid
      obtain ⟨hargsValid, hretValid⟩ := planOps_valid.mp hvalid
      rw [length_planOps hpairs hrets.length_eq] at hfit
      refine ⟨hfit, ⟨hcount, fun arg harg => ?_, ?_⟩, rfl⟩
      · exact forall₂_movable.mpr ⟨hpairs arg harg, hargsValid arg harg⟩
      · exact ((forall₂_movable.mpr ⟨hrets, hretValid⟩).imp fun _ _ hm => Movable.symm hm).flip
    · cases h
  · rintro ⟨hfit, hmatched, rfl⟩
    have hargs := fun arg harg => forall₂_movable.mp (hmatched.args arg harg)
    have hret := forall₂_movable.mp hmatched.symm.ret
    have hvalid : planValidate ⟨cl.arch, ce.arch, planOps cl ce slot key, slot, key⟩ := by
      rw [planValidate, Bool.and_eq_true, decide_eq_true_iff]
      refine ⟨?_, planOps_valid.mpr ⟨fun arg harg => (hargs arg harg).2, hret.2⟩⟩
      exact (length_planOps (fun arg harg => (hargs arg harg).1) hret.1.length_eq).symm ▸ hfit
    have hlength := length_add base ((List.range cl.argCount).flatMap (argMoves cl ce))
    have hsame := hret.1.length_eq
    rw [length_argMoves fun arg harg => (hargs arg harg).1,
      show base.ops.length = (setupOps slot key).length from rfl] at hlength
    rw [opsNeeded] at hfit
    refine Option.bind_eq_some_iff.mpr ⟨_, (addArgMoves_iff hbase).mpr
      ⟨?_, hmatched.argCount, fun arg harg => (hargs arg harg).1, rfl⟩, ?_⟩
    · show (setupOps slot key).length + cl.parts.length ≤ planMaxOps
      omega
    refine Option.bind_eq_some_iff.mpr ⟨_, planAddOp_iff.mpr ⟨by omega, rfl⟩, ?_⟩
    refine Option.bind_eq_some_iff.mpr ⟨_, (addMoves_iff ?_).mpr ⟨?_, hret.1, rfl⟩, ?_⟩
    · rw [length_add, List.length_singleton]
      omega
    · rw [length_add, List.length_singleton]
      omega
    · rw [hlast, if_pos hvalid]

/-! ## The moves of a plan -/

def movePairs (ops : List BridgeOp) : List (AbiLoc × AbiLoc) :=
  (ops.filter (·.isMove)).map fun op => (op.src, op.dst)

variable {ops : List BridgeOp} {op : BridgeOp}

theorem mem_movePairs :
    (src, dst) ∈ movePairs ops ↔ ∃ op ∈ ops, op.isMove ∧ op.src = src ∧ op.dst = dst := by
  simp [movePairs, List.mem_map, List.mem_filter, and_assoc]

theorem length_movesTo (ops : List BridgeOp) (dst : AbiLoc) :
    (ops.filter fun op => op.isMove && op.dst == dst).length =
      ((movePairs ops).map Prod.snd).count dst := by
  rw [movePairs, List.map_map, List.count_eq_countP, List.countP_map, List.countP_filter,
    List.countP_eq_length_filter]
  exact congrArg _ (List.filter_congr fun op _ => Bool.and_comm ..)

theorem OnlyMove.count (h : OnlyMove ops src dst) :
    ((movePairs ops).map Prod.snd).count dst = 1 := by
  obtain ⟨op, hop, -⟩ := h
  rw [← length_movesTo, hop]
  rfl

theorem onlyMove_of_mem (h : (src, dst) ∈ movePairs ops) (hn : ((movePairs ops).map Prod.snd).Nodup)
    :
    OnlyMove ops src dst := by
  obtain ⟨op, hop, hmove, rfl, rfl⟩ := mem_movePairs.mp h
  have hcount : ((movePairs ops).map Prod.snd).count op.dst = 1 :=
    List.count_eq_one_of_mem hn (List.mem_map_of_mem h)
  rw [← length_movesTo, List.length_eq_one_iff] at hcount
  obtain ⟨op', hop'⟩ := hcount
  have hmem : op ∈ ops.filter fun o => o.isMove && o.dst == op.dst := by
    simp [List.mem_filter, hop, hmove]
  rw [hop', List.mem_singleton] at hmem
  exact ⟨op, by rw [hop', hmem], rfl⟩

theorem isMove_of_mem_moves (h : op ∈ List.zipWith moveOp srcs dsts) : op.isMove := by
  obtain ⟨n, hn, rfl⟩ := List.mem_iff_getElem.mp h
  rw [List.getElem_zipWith, moveOp]
  split <;> split <;> rfl

theorem movePairs_moves (srcs dsts : List AbiLoc) :
    movePairs (List.zipWith moveOp srcs dsts) = srcs.zip dsts := by
  rw [movePairs, List.filter_eq_self.mpr fun op => isMove_of_mem_moves, List.map_zipWith]
  rfl

theorem kind_of_isMove (h : op.isMove) : (op.kind != .pcall) := by
  rw [bne_iff_ne]
  intro hk
  rw [BridgeOp.isMove, hk] at h
  cases h

/-! ## The shape of a plan -/

def argPairs (cl ce : AbiLayout) (arg : Nat) : List (AbiLoc × AbiLoc) :=
  (cl.args.getD arg []).zip (ce.args.getD arg [])

/-- The moves of a plan: one for each pair of argument parts before the call, one for each pair of
result locations after it. -/
structure Shape (cl ce : AbiLayout) (plan : BridgePlan) : Prop where
  before : movePairs plan.before = (List.range ce.argCount).flatMap (argPairs cl ce)
  after : movePairs plan.after = ce.ret.zip cl.ret
  argCount : cl.argCount = ce.argCount
  argLength : ∀ arg < ce.argCount,
    (cl.args.getD arg []).length = (ce.args.getD arg []).length
  retLength : ce.ret.length = cl.ret.length

theorem setupOps_spec (slot : BitVec 32) (key : Bool) :
    ∀ op ∈ setupOps slot key, op.isMove = false ∧ (op.kind != .pcall) = true := by
  unfold setupOps
  split <;> split <;> simp [BridgeOp.isMove]

theorem planOps_noCall (cl ce : AbiLayout) (slot : BitVec 32) (key : Bool) :
    ∀ op ∈ setupOps slot key ++ (List.range cl.argCount).flatMap (argMoves cl ce),
      (op.kind != .pcall) = true := by
  refine List.forall_mem_append.mpr ⟨fun op hop => (setupOps_spec slot key op hop).2, fun op hop => ?_⟩
  obtain ⟨arg, -, hop⟩ := List.mem_flatMap.mp hop
  exact kind_of_isMove (isMove_of_mem_moves hop)

theorem planFromLayouts_shape (h : planFromLayouts cl ce slot key = some plan) :
    Shape cl ce plan := by
  obtain ⟨-, hmatched, rfl⟩ := planFromLayouts_iff.mp h
  have hcall := planOps_noCall cl ce slot key
  have hnomove : (setupOps slot key).filter (·.isMove) = [] :=
    List.filter_eq_nil_iff.mpr fun op hop => by simp [(setupOps_spec slot key op hop).1]
  refine ⟨?_, ?_, hmatched.argCount, fun arg harg => ?_, hmatched.ret.length_eq.symm⟩
  · rw [before, planOps, List.takeWhile_append_of_pos hcall,
      List.takeWhile_cons_of_neg (by decide), List.append_nil, movePairs, List.filter_append, hnomove,
      List.nil_append, List.filter_flatMap, List.map_flatMap, ← hmatched.argCount]
    exact List.flatMap_congr fun arg _ => movePairs_moves _ _
  · rw [after, planOps, List.dropWhile_append_of_pos hcall,
      List.dropWhile_cons_of_neg (by decide), List.tail_cons, movePairs_moves]
  · exact (hmatched.args arg (hmatched.argCount ▸ harg)).length_eq

/-! ## What a plan carries -/

section

variable {caller callee : Arch} {sig : FunctionSig} {cl ce : AbiLayout} {plan : BridgePlan}
  {c c' d d' : Cursor}

theorem Shape.before_dst (h : Shape cl ce plan) (hce : Classified callee sig ce d d') :
    (movePairs plan.before).map Prod.snd = ce.argLocs := by
  rw [h.before, List.map_flatMap, AbiLayout.argLocs, ← Hw.flatMap_range_getD hce.uncounted]
  refine List.flatMap_congr fun arg harg => ?_
  rw [argPairs, List.map_snd_zip]
  exact Nat.le_of_eq (h.argLength arg (List.mem_range.mp harg)).symm

theorem Shape.after_dst (h : Shape cl ce plan) : (movePairs plan.after).map Prod.snd = cl.ret := by
  rw [h.after, List.map_snd_zip]
  exact Nat.le_of_eq h.retLength.symm

variable {dst : AbiLoc}

theorem Shape.argLoc_pair (h : Shape cl ce plan) (hce : Classified callee sig ce d d')
    {arg part : Nat} (hdst : ce.argLoc arg part = some dst) :
    ∃ src, cl.argLoc arg part = some src ∧ (src, dst) ∈ movePairs plan.before := by
  have harg : arg < ce.argCount := by
    by_contra hge
    rw [AbiLayout.argLoc, hce.uncounted arg (Nat.le_of_not_lt hge)] at hdst
    cases hdst
  obtain ⟨hpart, rfl⟩ := List.getElem?_eq_some_iff.mp hdst
  have hpart' : part < (cl.args.getD arg []).length := by
    rw [h.argLength arg harg]
    exact hpart
  refine ⟨_, List.getElem?_eq_getElem hpart', ?_⟩
  rw [h.before, List.mem_flatMap]
  refine ⟨arg, List.mem_range.mpr harg, ?_⟩
  have hzip : part < (argPairs cl ce arg).length := by
    rw [argPairs, List.length_zip]
    omega
  have hget : (argPairs cl ce arg)[part] = ((cl.args.getD arg [])[part],
      (ce.args.getD arg [])[part]) := List.getElem_zip
  rw [← hget]
  exact List.getElem_mem hzip

theorem mem_argLocs {layout : AbiLayout} (h : dst ∈ layout.argLocs) :
    ∃ arg part, layout.argLoc arg part = some dst := by
  obtain ⟨locs, hlocs, hdst⟩ := List.mem_flatten.mp h
  obtain ⟨arg, harg, rfl⟩ := List.mem_iff_getElem.mp hlocs
  obtain ⟨part, hpart⟩ := List.mem_iff_getElem?.mp hdst
  refine ⟨arg, part, ?_⟩
  rw [AbiLayout.argLoc, List.getD_eq_getElem?_getD, List.getElem?_eq_getElem harg]
  exact hpart

theorem Classified.argLocs_nodup (h : Classified callee sig ce d d') :
    ce.argLocs.Nodup ↔ ce.stackLocs.Nodup :=
  ⟨fun hn => hn.filter _, fun hs => nodup_of_regs h.gprs_nodup h.fprs_nodup hs h.assigns.value⟩

theorem Shape.ret_carried (h : Shape cl ce plan) (hcl : Classified caller sig cl c c')
    (hdst : dst ∈ cl.ret) (hk : dst.kind ≠ .sretPtr) : ∃ src, OnlyMove plan.after src dst := by
  cases hs : cl.usesSret with
  | true =>
    rw [hcl.memory hs, List.mem_singleton] at hdst
    exact absurd (congrArg AbiLoc.kind hdst) hk
  | false =>
    rw [← h.after_dst] at hdst
    obtain ⟨⟨src, dst⟩, hpair, rfl⟩ := List.mem_map.mp hdst
    refine ⟨src, onlyMove_of_mem hpair ?_⟩
    rw [h.after_dst]
    exact (hcl.registers hs).nodup

/-- A plan carries every value of the call exactly if the callee takes no result pointer, and its
stack slots are distinct. -/
theorem carries_iff {slot : BitVec 32} {key : Bool} (hcl : classifyCallAbi caller sig = some cl)
    (hce : classifyCallAbi callee sig = some ce)
    (hplan : planFromLayouts cl ce slot key = some plan) :
    Carries cl ce plan ↔
      (sig.retBySret || retInMemory callee sig.ret) = false ∧ ce.stackLocs.Nodup := by
  obtain ⟨c, c', hcl⟩ := classify_classified hcl
  obtain ⟨d, d', hce⟩ := classify_classified hce
  have hshape := planFromLayouts_shape hplan
  rw [← hce.usesSret, ← hce.argLocs_nodup]
  constructor
  · intro hcarries
    constructor
    · -- The result pointer would have to be among the parts of the arguments.
      rw [Bool.eq_false_iff]
      intro hs
      have hmem : locSretPtr callee.abi.sretReg sig.ret.size ∈ ce.ret := by
        rw [hce.memory hs]
        exact List.mem_singleton_self _
      obtain ⟨src, -, -, honly⟩ := hcarries.sret hs _ hmem rfl
      have hcount := honly.count
      rw [hshape.before_dst hce] at hcount
      have harg := List.count_pos_iff.mp (Nat.lt_of_lt_of_eq Nat.zero_lt_one hcount.symm)
      exact (hce.assigns.value _ harg).1 rfl
    · rw [List.nodup_iff_count_eq_one]
      intro dst hdst
      obtain ⟨arg, part, hpart⟩ := mem_argLocs hdst
      obtain ⟨src, -, honly⟩ := hcarries.args arg part dst hpart
      rw [← hshape.before_dst hce]
      exact honly.count
  · rintro ⟨hs, hnodup⟩
    rw [← hshape.before_dst hce] at hnodup
    refine ⟨fun arg part dst hdst => ?_, fun hs' => ?_, fun dst hdst hk =>
      hshape.ret_carried hcl hdst hk⟩
    · obtain ⟨src, hsrc, hpair⟩ := hshape.argLoc_pair hce hdst
      exact ⟨src, hsrc, onlyMove_of_mem hpair hnodup⟩
    · exact absurd (hs.symm.trans hs') Bool.false_ne_true

end

/-- `double f(long, double)` from x86 to AArch64. -/
theorem carries_iff_scalars :
    ∃ cl ce plan, classifyCallAbi .x86 ⟨[i64Type, abiScalarType .f64], abiScalarType .f64, 0⟩ =
        some cl ∧
      classifyCallAbi .aarch64 ⟨[i64Type, abiScalarType .f64], abiScalarType .f64, 0⟩ = some ce ∧
      planFromLayouts cl ce noSignatureSlot false = some plan ∧ plan.before.length = 2 ∧
      plan.after.length = 1 ∧ Carries cl ce plan := by
  refine ⟨_, _, _, rfl, rfl, rfl, by decide, by decide, ?_⟩
  exact (@carries_iff .x86 .aarch64 ⟨[i64Type, abiScalarType .f64], abiScalarType .f64, 0⟩ _ _ _
    noSignatureSlot false rfl rfl rfl).mpr (by decide)

/-- `quad f(long)` with a result pointer, from x86 to AArch64: nothing is moved to X8 before the
call, and X8 is copied to the register of the caller's pointer after it. -/
theorem sret_pointer_not_carried :
    ∃ cl ce plan,
      classifyCallAbi .x86 ⟨[i64Type], quadType, functionSigFlagRetBySret⟩ = some cl ∧
      classifyCallAbi .aarch64 ⟨[i64Type], quadType, functionSigFlagRetBySret⟩ = some ce ∧
      planFromLayouts cl ce noSignatureSlot false = some plan ∧
      cl.ret = [locSretPtr 0 32] ∧ ce.usesSret = true ∧ ce.ret = [locSretPtr 8 32] ∧
      plan.before = [⟨.regToReg, locReg .gpr 1 8, locReg .gpr 0 8, 0⟩] ∧
      plan.after = [⟨.regToReg, locSretPtr 8 32, locSretPtr 0 32, 0⟩] ∧ ¬Carries cl ce plan := by
  refine ⟨_, _, _, rfl, rfl, rfl, by decide, by decide, by decide, by decide, by decide, ?_⟩
  intro hcarries
  obtain ⟨src, -, -, honly⟩ := hcarries.sret (by decide) (locSretPtr 8 32) (by decide) rfl
  exact absurd honly.count (by decide)

def halfStackType : AbiType :=
  { kind := .aggregate, size := 0x8000, align := 8 }

-- Stack offsets have 16 bits, so the third of three such arguments is put over the first.
example : (classifyCallAbi .aarch64 ⟨[halfStackType, halfStackType, halfStackType], i64Type, 0⟩).map
    (·.stackLocs) = some [locStack 0 0x8000, locStack 0x8000 0x8000, locStack 0 0x8000] := by
  decide

end Poly.Abi
