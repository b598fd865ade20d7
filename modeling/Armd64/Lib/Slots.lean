import Mathlib.Data.Vector.Basic
import Mathlib.Tactic.Common

/-!
# A stack in an array with a depth counter

The first `d` slots of an array, newest first, are the stack that a depth counter `d` stands for.
A write to slot `d` with `d` incremented is a push; `d` decremented is a pop.
-/

namespace Hw

variable {α : Type} {n : Nat}

/-- The live slots of the array `v` at depth `d`, newest first. -/
def live (v : Vector α n) (d : Nat) : List α := (v.toList.take d).reverse

@[simp] theorem live_zero (v : Vector α n) : live v 0 = [] := by
  simp [live]

variable {d : Nat}

theorem live_length (v : Vector α n) (h : d ≤ n) : (live v d).length = d := by
  simp [live, h]

theorem live_set_of_le (v : Vector α n) {d i : Nat} (x : α) (hi : i < n) (h : d ≤ i) :
    live (v.set i x) d = live v d := by
  rw [live, live, Vector.toList_set, List.take_set_of_le h]

theorem live_succ (v : Vector α n) (h : d < n) : live v (d + 1) = v[d] :: live v d := by
  have hd : d < v.toList.length := by simpa using h
  simp [live, List.take_succ_eq_append_getElem hd]

/-- The top of a nonempty stack, and the stack with one slot less. -/
theorem live_eq_cons (v : Vector α n) (h0 : 0 < d) (h : d ≤ n) :
    live v d = v[d - 1] :: live v (d - 1) := by
  obtain ⟨k, rfl⟩ : ∃ k, d = k + 1 := ⟨d - 1, by omega⟩
  exact live_succ v (by omega)

/-- A write to the slot at the depth, with the depth incremented, is a push. -/
theorem live_set_succ (v : Vector α n) (x : α) (h : d < n) :
    live (v.set d x) (d + 1) = x :: live v d := by
  rw [live_succ _ h, Vector.getElem_set_self, live_set_of_le v x h le_rfl]

end Hw
