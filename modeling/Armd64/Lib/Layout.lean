import Armd64.Lib.Words

/-!
# Layout of C structures

A structure is the list of its members in the order of the declaration. Each member is one element
or an array of elements, and stands at the first offset after the members before it that its
element size divides (`Layout.offset`). `Packed` slots do not overlap.
-/

namespace Hw

/-- The first multiple of `a` that is not below `n`. -/
def alignUp (a n : Nat) : Nat := (n + (a - 1)) / a * a

theorem dvd_alignUp (a n : Nat) : a ∣ alignUp a n := Nat.dvd_mul_left a _

theorem le_alignUp {a : Nat} (ha : 0 < a) (n : Nat) : n ≤ alignUp a n := by
  have hlt := Nat.lt_div_mul_add (a := n + (a - 1)) ha
  rw [alignUp]
  omega

theorem alignUp_lt {a : Nat} (ha : 0 < a) (n : Nat) : alignUp a n < n + a := by
  have hle := Nat.div_mul_le_self (n + (a - 1)) a
  rw [alignUp]
  omega

/-! ## Slots one after another -/

/-- Slots, each an offset and a size, that stand one after another between `a` and `b`. -/
def Packed : List (Nat × Nat) → Nat → Nat → Prop
  | [], a, b => a ≤ b
  | s :: slots, a, b => a ≤ s.1 ∧ Packed slots (s.1 + s.2) b

namespace Packed

variable {slots slots' : List (Nat × Nat)} {a b c : Nat}

section

variable (h : Packed slots a b)

include h

theorem le : a ≤ b := by
  induction slots generalizing a with
  | nil => exact h
  | cons s slots ih =>
    have hle := ih h.2
    have hs := h.1
    omega

theorem append (h' : Packed slots' b c) : Packed (slots ++ slots') a c := by
  induction slots generalizing a with
  | nil =>
    cases slots' with
    | nil => exact Nat.le_trans h h'
    | cons s slots' => exact ⟨Nat.le_trans h h'.1, h'.2⟩
  | cons s slots ih => exact ⟨h.1, ih h.2⟩

theorem inside : ∀ s ∈ slots, a ≤ s.1 ∧ s.1 + s.2 ≤ b := by
  induction slots generalizing a with
  | nil => simp
  | cons s slots ih =>
    have hle := h.2.le
    have hs := h.1
    refine List.forall_mem_cons.mpr ⟨⟨hs, hle⟩, fun t ht => ?_⟩
    have hin := ih h.2 t ht
    omega

theorem pairwise : slots.Pairwise fun s t => s.1 + s.2 ≤ t.1 := by
  induction slots generalizing a with
  | nil => exact .nil
  | cons s slots ih => exact .cons (fun t ht => (h.2.inside t ht).1) (ih h.2)

end

end Packed

/-- A structure with members `ι`: element sizes and element counts. -/
structure Layout (ι : Type) where
  members : List ι
  size : ι → Nat
  count : ι → Nat

namespace Layout

variable {ι : Type} (L : Layout ι)

/-- The offset of member `m` when it is placed after `n` bytes. -/
def start (m : ι) (n : Nat) : Nat := alignUp (L.size m) n

/-- The first byte after member `m` when it is placed after `n` bytes. -/
def finish (m : ι) (n : Nat) : Nat := L.start m n + L.size m * L.count m

/-- The first byte after the members `ms` when they are placed after `n` bytes. -/
def finishAll (ms : List ι) (n : Nat) : Nat := ms.foldl (fun n m => L.finish m n) n

def offset [DecidableEq ι] (m : ι) : Nat :=
  L.start m (L.finishAll (L.members.takeWhile (· ≠ m)) 0)

end Layout

/-- The field of `len` bits at byte `off`. -/
def load {n : Nat} (m : BitVec n) (off len : Nat) : BitVec len := m.extractLsb' (8 * off) len

/-- A field that lies inside word `i`, `k` bits above its start. -/
theorem load_ofWords {w n : Nat} (q : Nat → BitVec w) (i k : Nat) {off len : Nat}
    (hoff : 8 * off = w * i + k) (hi : i < n) (hk : k + len ≤ w) :
    load (ofWords n q) off len = (q i).extractLsb' k len := by
  rw [load, hoff, extract_ofWords_sub q hi hk]

end Hw
