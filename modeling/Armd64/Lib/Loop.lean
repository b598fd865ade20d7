import Mathlib.Tactic.Common

/-!
# Loops that leave with a result

The body of a loop leaves with a result or goes on with a new state. A measure that every iteration
makes smaller bounds the number of iterations. `Loop.run` has the states the loop is in, and the
result it leaves with; `Loop.induction` is induction along the iterations.
-/

namespace Hw

/-- A loop with states `σ` that leaves with an `ε`. -/
structure Loop (σ ε : Type) where
  body : σ → Except ε σ
  measure : σ → Nat
  decreases : ∀ {s s'}, body s = .ok s' → measure s' < measure s

namespace Loop

variable {σ ε : Type} (l : Loop σ ε)

/-- The states from `s` on, and the result. -/
def run (s : σ) : List σ × ε :=
  match _h : l.body s with
  | .error e => ([s], e)
  | .ok s' => (s :: (run s').1, (run s').2)
termination_by l.measure s
decreasing_by all_goals exact l.decreases ‹_›

/-- The states from `s` on. -/
def visits (s : σ) : List σ := (l.run s).1

/-- The result from `s` on. -/
def exit (s : σ) : ε := (l.run s).2

variable {l}

variable {s s' t : σ} {e : ε} {P : σ → Prop}

theorem run_error (h : l.body s = .error e) : l.run s = ([s], e) := by
  rw [run]
  split
  · rename_i e' he
    rw [h] at he
    cases he
    rfl
  · rename_i s' hs
    rw [h] at hs
    cases hs

theorem run_ok (h : l.body s = .ok s') : l.run s = (s :: l.visits s', l.exit s') := by
  rw [run]
  split
  · rename_i e he
    rw [h] at he
    cases he
  · rename_i t ht
    rw [h] at ht
    cases ht
    rfl

theorem exit_error (h : l.body s = .error e) : l.exit s = e := by
  rw [exit, run_error h]

theorem exit_ok (h : l.body s = .ok s') : l.exit s = l.exit s' := by
  rw [exit, run_ok h]

theorem visits_error (h : l.body s = .error e) : l.visits s = [s] := by
  rw [visits, run_error h]

theorem visits_ok (h : l.body s = .ok s') : l.visits s = s :: l.visits s' := by
  rw [visits, run_ok h]

theorem induction (exit : ∀ s e, l.body s = .error e → P s)
    (next : ∀ s s', l.body s = .ok s' → P s' → P s) (s : σ) : P s := by
  induction hm : l.measure s using Nat.strongRecOn generalizing s with
  | _ n ih =>
    cases h : l.body s with
    | error e => exact exit s e h
    | ok s' => exact next s s' h (ih _ (hm ▸ l.decreases h) s' rfl)

theorem exit_step (s : σ) : ∃ t ∈ l.visits s, l.body t = .error (l.exit s) := by
  induction s using l.induction with
  | exit s e h => exact ⟨s, by simp [visits_error h], by rw [exit_error h, h]⟩
  | next s s' h ih =>
    obtain ⟨t, ht, he⟩ := ih
    exact ⟨t, by simp [visits_ok h, ht], by rw [exit_ok h, he]⟩

theorem visits_inv (hP : ∀ s s', P s → l.body s = .ok s' → P s') (hs : P s) :
    ∀ t ∈ l.visits s, P t := by
  induction s using l.induction with
  | exit s e h =>
    rw [visits_error h]
    simpa using hs
  | next s s' h ih =>
    rw [visits_ok h]
    exact List.forall_mem_cons.mpr ⟨hs, ih (hP s s' hs h)⟩

/-- What relates each state to the next one relates it to all later ones. -/
theorem visits_pairwise (R : σ → σ → Prop) (trans : ∀ {a b c}, R a b → R b c → R a c)
    (hR : ∀ s s', l.body s = .ok s' → R s s') (s : σ) : (l.visits s).Pairwise R := by
  induction s using l.induction with
  | exit s e h =>
    rw [visits_error h]
    exact List.pairwise_singleton R s
  | next s s' h ih =>
    rw [visits_ok h, List.pairwise_cons]
    exact ⟨visits_inv (fun t t' hst ht => trans hst (hR t t' ht)) (hR s s' h), ih⟩

end Loop

end Hw
