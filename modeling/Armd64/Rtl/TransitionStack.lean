import Mathlib.Data.Nat.Log
import Armd64.Lib.Slots
import Armd64.Rtl.Basic

/-!
# The transition stack (`poly_transition_stack`)

A fixed-depth stack of caller frames in an array with a four-bit depth counter. The array is not
reset. A push on a full stack, a pop on an empty one and a push together with a pop change nothing
but raise their flag for one cycle.
-/

namespace Poly

@[ext] structure Frame where
  frontend : BitVec 2
  pc : BitVec 64
  sp : BitVec 64
  flags : BitVec 32
  deriving DecidableEq, Repr

def Frame.loc (f : Frame) : Loc := ⟨f.frontend, f.pc⟩

instance : Inhabited Frame := ⟨⟨0, 0, 0, 0⟩⟩

/-- The registers of `poly_transition_stack` with parameter `DEPTH = n`. -/
structure TransitionStack (n : Nat) where
  /-- `frontend_q`, `pc_q`, `sp_q` and `flags_q`: one frame a slot. -/
  slots : Vector Frame n
  depth : BitVec 4
  popValid : Bool
  popFrame : Frame
  overflow : Bool
  underflow : Bool
  conflict : Bool

structure TransitionStackReq where
  push : Bool
  /-- `push_frontend_i`, `push_pc_i`, `push_sp_i` and `push_flags_i`. -/
  pushFrame : Frame
  pop : Bool

namespace TransitionStack

variable {n : Nat} (t : TransitionStack n)

def indexBits (n : Nat) : Nat := if n ≤ 2 then 1 else Nat.clog 2 n

def depthValue (n : Nat) : BitVec 4 := BitVec.ofNat 4 n

def empty : Bool := t.depth == 0#4

def full : Bool := t.depth == depthValue n

def topIndex : BitVec (indexBits n) := t.depth.extractLsb' 0 (indexBits n) - 1#(indexBits n)

def pushIndex : BitVec (indexBits n) := t.depth.extractLsb' 0 (indexBits n)

/-- An array read; an index outside the array reads the frame of zeros. -/
def read (i : BitVec (indexBits n)) : Frame := t.slots[i.toNat]?.getD default

def peekValid : Bool := !t.empty

/-- `peek_frontend_o`, `peek_pc_o`, `peek_sp_o` and `peek_flags_o`. -/
def peekFrame : Frame := if t.empty then default else t.read t.topIndex

def IsReset : Prop :=
  t.depth = 0 ∧ t.popValid = false ∧ t.popFrame = default ∧ t.overflow = false ∧
    t.underflow = false ∧ t.conflict = false

def step (r : TransitionStackReq) : TransitionStack n :=
  let idle := { t with popValid := false, overflow := false, underflow := false, conflict := false }
  if r.push && r.pop then { idle with conflict := true }
  else if r.push then
    if t.full then { idle with overflow := true }
    else { idle with
      slots := t.slots.setIfInBounds t.pushIndex.toNat r.pushFrame, depth := t.depth + 1 }
  else if r.pop then
    if t.empty then { idle with underflow := true }
    else { idle with
      popValid := true, popFrame := t.read t.topIndex, depth := t.depth - 1 }
  else idle

def contents : List Frame := Hw.live t.slots t.depth.toNat

/-- The parameters for which the counter and the index are wide enough. -/
def Sized (n : Nat) : Prop := 2 ≤ n ∧ n ≤ 15

def Wf : Prop := t.depth.toNat ≤ n

/-! ## Indices -/

theorem le_two_pow_indexBits (n : Nat) : n ≤ 2 ^ indexBits n := by
  unfold indexBits
  split
  · omega
  · exact Nat.le_pow_clog (by omega) n

theorem depthValue_toNat (hn : Sized n) : (depthValue n).toNat = n := by
  obtain ⟨-, h15⟩ := hn
  rw [depthValue, BitVec.toNat_ofNat]
  omega

variable {t}

theorem full_iff (hn : Sized n) : t.full ↔ t.depth.toNat = n := by
  rw [full, beq_iff_eq, ← BitVec.toNat_inj, depthValue_toNat hn]

theorem empty_iff : t.empty ↔ t.depth.toNat = 0 := by
  rw [empty, beq_iff_eq, ← BitVec.toNat_inj]
  rfl

theorem pushIndex_toNat (h : t.depth.toNat < n) : t.pushIndex.toNat = t.depth.toNat := by
  have hle := le_two_pow_indexBits n
  rw [pushIndex, BitVec.extractLsb'_toNat, Nat.shiftRight_zero, Nat.mod_eq_of_lt (by omega)]

theorem topIndex_toNat (h0 : t.depth.toNat ≠ 0) (h : t.Wf) :
    t.topIndex.toNat = t.depth.toNat - 1 := by
  have hle := le_two_pow_indexBits n
  have hd : t.depth.toNat ≤ n := h
  have hone : 1 % 2 ^ indexBits n = 1 := Nat.mod_eq_of_lt (by
    unfold indexBits
    split
    · decide
    · exact Nat.one_lt_two_pow (Nat.clog_pos (by decide) (by omega)).ne')
  rw [topIndex, BitVec.toNat_sub, BitVec.extractLsb'_toNat, BitVec.toNat_ofNat, hone,
    Nat.shiftRight_zero]
  rcases Nat.lt_or_ge t.depth.toNat (2 ^ indexBits n) with hlt | hge
  · rw [Nat.mod_eq_of_lt hlt,
      show 2 ^ indexBits n - 1 + t.depth.toNat = 2 ^ indexBits n + (t.depth.toNat - 1) by omega,
      Nat.add_mod_left, Nat.mod_eq_of_lt (by omega)]
  · rw [show t.depth.toNat = 2 ^ indexBits n by omega, Nat.mod_self, Nat.add_zero,
      Nat.mod_eq_of_lt (by omega)]

/-! ## One clock edge on the list of frames -/

theorem contents_eq_cons (h : t.Wf) (he : t.empty = false) :
    t.contents = t.peekFrame :: Hw.live t.slots (t.depth.toNat - 1) := by
  have h0 : t.depth.toNat ≠ 0 := fun h0 => by rw [empty_iff.mpr h0] at he; cases he
  have hd : t.depth.toNat ≤ n := h
  have hpeek : t.peekFrame = t.slots[t.depth.toNat - 1] := by
    rw [peekFrame, he, if_neg (by decide), read, topIndex_toNat h0 h,
      Vector.getElem?_eq_getElem (by omega), Option.getD_some]
  rw [contents, Hw.live_eq_cons t.slots (by omega) hd, hpeek]

theorem contents_length (h : t.Wf) : t.contents.length = t.depth.toNat := Hw.live_length _ h

variable {r : TransitionStackReq}

theorem contents_step_push (hn : Sized n) (h : t.Wf) (hpush : r.push)
    (hpop : r.pop = false) (hf : t.full = false) :
    (t.step r).contents = r.pushFrame :: t.contents ∧ (t.step r).overflow = false ∧
      (t.step r).conflict = false := by
  have hlt : t.depth.toNat < n := by
    refine Nat.lt_of_le_of_ne h fun he => ?_
    rw [(full_iff hn).mpr he] at hf
    cases hf
  have hsucc : (t.depth + 1#4).toNat = t.depth.toNat + 1 := by
    have := hn.2
    exact Nat.mod_eq_of_lt (by simp; omega)
  have hset : t.slots.setIfInBounds t.pushIndex.toNat r.pushFrame =
      t.slots.set t.depth.toNat r.pushFrame := by
    rw [pushIndex_toNat hlt]
    ext i hi <;> simp [Vector.getElem_setIfInBounds, Vector.getElem_set]
  refine ⟨?_, ?_, ?_⟩
  · simp only [step, hpush, hpop, hf, Bool.and_false, Bool.false_eq_true, if_false, if_true,
      contents, hset]
    exact (congrArg _ hsucc).trans (Hw.live_set_succ _ _ hlt)
  · simp [step, hpush, hpop, hf]
  · simp [step, hpush, hpop, hf]

theorem contents_step_pop (h : t.Wf) (hpush : r.push = false) (hpop : r.pop)
    (he : t.empty = false) : (t.step r).contents = t.contents.tail := by
  have hpred : (t.depth - 1#4).toNat = t.depth.toNat - 1 := by
    have h0 : t.depth.toNat ≠ 0 := fun h0 => by rw [empty_iff.mpr h0] at he; cases he
    rw [BitVec.toNat_sub]
    simp only [BitVec.toNat_ofNat]
    omega
  rw [contents_eq_cons h he, List.tail_cons]
  simp only [step, hpush, hpop, he, Bool.false_and, Bool.false_eq_true, if_false, if_true, contents]
  exact congrArg _ hpred

theorem contents_step_idle (h : (r.push && !r.pop && !t.full) = false)
    (h' : (!r.push && r.pop && !t.empty) = false) : (t.step r).contents = t.contents := by
  cases hpush : r.push <;> cases hpop : r.pop <;> cases hf : t.full <;> cases he : t.empty <;>
    simp_all [step, contents]

theorem contents_step_cases (hn : Sized n) (h : t.Wf) :
    (t.step r).contents = t.contents ∨
      (r.push ∧ (t.step r).contents = r.pushFrame :: t.contents) ∨
      (r.pop ∧ (t.step r).contents = t.contents.tail) := by
  cases hpush : r.push <;> cases hpop : r.pop
  · exact .inl (contents_step_idle (by simp [hpush]) (by simp [hpop]))
  · cases he : t.empty
    · exact .inr (.inr ⟨rfl, contents_step_pop h hpush hpop he⟩)
    · exact .inl (contents_step_idle (by simp [hpush]) (by simp [he]))
  · cases hf : t.full
    · exact .inr (.inl ⟨rfl, (contents_step_push hn h hpush hpop hf).1⟩)
    · exact .inl (contents_step_idle (by simp [hf]) (by simp [hpush]))
  · exact .inl (contents_step_idle (by simp [hpop]) (by simp [hpush]))

theorem Wf.step (hn : Sized n) (h : t.Wf) : (t.step r).Wf := by
  have hd : t.depth.toNat ≤ n := h
  have hf := full_iff (t := t) hn
  have he := empty_iff (t := t)
  simp only [TransitionStack.step]
  split
  · exact hd
  · split
    · split
      · exact hd
      · rename_i hnf
        have hne : t.depth.toNat ≠ n := fun h => hnf (hf.mpr h)
        show (t.depth + 1).toNat ≤ n
        rw [BitVec.toNat_add]
        simp
        omega
    · split
      · split
        · exact hd
        · rename_i hne
          have h0 : t.depth.toNat ≠ 0 := fun h => hne (he.mpr h)
          have := t.depth.isLt
          show (t.depth - 1).toNat ≤ n
          rw [BitVec.toNat_sub]
          simp
          omega
      · exact hd

end TransitionStack

end Poly
