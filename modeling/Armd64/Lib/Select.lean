import Mathlib.Data.List.Perm.Basic

/-!
# Loops that keep the value of the highest rank

A loop over a list keeps a value until an element gives one of a strictly higher rank. So the rank
it ends with is the highest of all, whatever the order of the list; of several values of that rank
it keeps the first.
-/

namespace Hw

variable {α β : Type}

/-- The loop from a value on: the first value of the highest rank. -/
def pick (rank : β → Nat) (f : α → β) (init : β) (l : List α) : β :=
  l.foldl (fun b a => if rank b < rank (f a) then f a else b) init

section

variable {rank : β → Nat} {f : α → β} {init : β} {l l' : List α}

theorem pick_cons (a : α) :
    pick rank f init (a :: l) = pick rank f (if rank init < rank (f a) then f a else init) l := rfl

theorem pick_append : pick rank f init (l ++ l') = pick rank f (pick rank f init l) l' :=
  List.foldl_append

theorem rank_pick_le_iff {n : Nat} :
    rank (pick rank f init l) ≤ n ↔ rank init ≤ n ∧ ∀ a ∈ l, rank (f a) ≤ n := by
  induction l generalizing init with
  | nil => simp [pick]
  | cons a l ih =>
    rw [pick_cons, ih, List.forall_mem_cons]
    split <;> grind

theorem rank_init_le : rank init ≤ rank (pick rank f init l) :=
  (rank_pick_le_iff.mp (Nat.le_refl _)).1

theorem rank_le_rank_pick {a : α} (ha : a ∈ l) : rank (f a) ≤ rank (pick rank f init l) :=
  (rank_pick_le_iff.mp (Nat.le_refl _)).2 a ha

theorem rank_pick_perm (h : l.Perm l') :
    rank (pick rank f init l) = rank (pick rank f init l') := by
  apply Nat.le_antisymm
  · exact rank_pick_le_iff.mpr ⟨rank_init_le, fun a ha => rank_le_rank_pick (h.mem_iff.mp ha)⟩
  · exact rank_pick_le_iff.mpr ⟨rank_init_le, fun a ha => rank_le_rank_pick (h.mem_iff.mpr ha)⟩

/-- Without a higher rank the loop keeps the value that it starts with. -/
theorem pick_eq_init (h : rank (pick rank f init l) = rank init) : pick rank f init l = init := by
  induction l generalizing init with
  | nil => rfl
  | cons a l ih =>
    have hle : rank (f a) ≤ rank init := h ▸ rank_le_rank_pick List.mem_cons_self
    rw [pick_cons, if_neg (Nat.not_lt.mpr hle)] at h ⊢
    exact ih h

/-- With a higher rank it ends with the value of the first element of that rank. -/
theorem map_head_pick (h : rank init < rank (pick rank f init l)) :
    (l.filter fun a => rank (f a) = rank (pick rank f init l)).head?.map f =
      some (pick rank f init l) := by
  induction l generalizing init with
  | nil => exact absurd h (Nat.lt_irrefl _)
  | cons a l ih =>
    have hmax : rank (f a) ≤ rank (pick rank f init (a :: l)) :=
      rank_le_rank_pick List.mem_cons_self
    by_cases ha : rank (f a) = rank (pick rank f init (a :: l))
    · -- the loop takes `f a`, and nothing after it has a higher rank
      have hlt : rank init < rank (f a) := ha ▸ h
      rw [pick_cons, if_pos hlt] at ha ⊢
      rw [pick_eq_init ha.symm]
      simp
    · rw [List.filter_cons_of_neg (by simpa using ha), pick_cons]
      refine ih ?_
      rw [← pick_cons]
      split <;> omega

end

end Hw
