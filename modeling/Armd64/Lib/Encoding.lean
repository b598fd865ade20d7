import Mathlib.Tactic.Common

/-!
# Instruction encodings as masked patterns

An encoding fixes some bits of a word: `mask` says which, `value` says how. Whether one pattern
includes another, and whether two can fit one word, is decided on masks and values, so that facts
about all words of an encoding are closed computations. `Pattern.bits` and `Pattern.free` are
fields, put side by side with `++` as encoding tables are written; `any_fits_of_settles` is what a
decoder that tests a list of patterns answers on a whole encoding.
-/

namespace Hw

structure Pattern (w : Nat) where
  mask : BitVec w
  value : BitVec w
  deriving DecidableEq, Repr

namespace Pattern

variable {w : Nat} {p q : Pattern w} {x : BitVec w}

def fits (p : Pattern w) (x : BitVec w) : Bool := x &&& p.mask == p.value

/-- The bits of `q` are fixed by `p` as well, to the same values. -/
def subsumes (q p : Pattern w) : Bool :=
  p.mask &&& q.mask == q.mask && p.value &&& q.mask == q.value

/-- Some bit is fixed to different values. -/
def clashes (p q : Pattern w) : Bool := p.value &&& q.mask != q.value &&& p.mask

theorem fits_iff : p.fits x ↔ x &&& p.mask = p.value := beq_iff_eq

theorem fits_of_subsumes (h : q.subsumes p) (hx : p.fits x) :
    q.fits x := by
  rw [subsumes, Bool.and_eq_true, beq_iff_eq, beq_iff_eq] at h
  rw [fits_iff] at hx ⊢
  calc x &&& q.mask = x &&& (p.mask &&& q.mask) := by rw [h.1]
    _ = x &&& p.mask &&& q.mask := (BitVec.and_assoc ..).symm
    _ = q.value := by rw [hx, h.2]

theorem fits_of_clashes (h : q.clashes p) (hx : p.fits x) :
    q.fits x = false := by
  rw [← Bool.not_eq_true]
  intro hq
  rw [fits_iff] at hx hq
  rw [clashes, bne_iff_ne] at h
  apply h
  -- Both sides are the word on the common bits.
  rw [← hx, ← hq, BitVec.and_assoc, BitVec.and_assoc, BitVec.and_comm q.mask]

theorem extract_of_fits {k len : Nat} (hm : p.mask.extractLsb' k len = BitVec.allOnes len)
    (hx : p.fits x) : x.extractLsb' k len = p.value.extractLsb' k len := by
  rw [← fits_iff.mp hx, BitVec.extractLsb'_and, hm, BitVec.and_allOnes]

theorem getLsbD_of_fits {k : Nat} (hm : p.mask.getLsbD k) (hx : p.fits x) :
    x.getLsbD k = p.value.getLsbD k := by
  rw [← fits_iff.mp hx, BitVec.getLsbD_and, hm, Bool.and_true]

/-- A field with fixed bits. -/
def bits {n : Nat} (x : BitVec n) : Pattern n := ⟨BitVec.allOnes n, x⟩

/-- A field of one bit. -/
def bit (b : Bool) : Pattern 1 := bits (BitVec.ofBool b)

/-- An open field of `n` bits. -/
def free (n : Nat) : Pattern n := ⟨0#n, 0#n⟩

/-- Fields side by side, the highest first. -/
instance {m n : Nat} : HAppend (Pattern m) (Pattern n) (Pattern (m + n)) :=
  ⟨fun p q => ⟨p.mask ++ q.mask, p.value ++ q.value⟩⟩

/-- The pattern with bit `k` fixed too. -/
def withBit (p : Pattern w) (k : Nat) (b : Bool) : Pattern w :=
  ⟨p.mask ||| BitVec.twoPow w k, if b then p.value ||| BitVec.twoPow w k else p.value⟩

theorem fits_withBit (k : Nat) (hx : p.fits x) :
    (p.withBit k (x.getLsbD k)).fits x := by
  rw [fits_iff] at hx ⊢
  rw [withBit, BitVec.and_or_distrib_left, hx, BitVec.and_twoPow]
  cases x.getLsbD k
  · exact BitVec.or_zero
  · rfl

end Pattern

variable {w : Nat} {ps : List (Pattern w)} {p : Pattern w} {x : BitVec w}

/-- A decoder that tests `ps` answers `b` on every word of `p`: some test includes `p`, or every
test clashes with it. -/
def settles (ps : List (Pattern w)) (p : Pattern w) (b : Bool) : Bool :=
  if b then ps.any (·.subsumes p) else ps.all (·.clashes p)

theorem any_fits_of_settles {b : Bool} (h : settles ps p b) (hx : p.fits x) :
    ps.any (·.fits x) = b := by
  cases b with
  | true =>
    obtain ⟨q, hq, hs⟩ := List.any_eq_true.mp h
    exact List.any_eq_true.mpr ⟨q, hq, Pattern.fits_of_subsumes hs hx⟩
  | false =>
    rw [List.any_eq_false]
    intro q hq
    rw [Pattern.fits_of_clashes (List.all_eq_true.mp h q hq) hx]
    exact Bool.false_ne_true

end Hw
