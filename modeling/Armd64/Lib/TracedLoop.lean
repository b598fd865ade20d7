import Armd64.Lib.Loop
import Armd64.Lib.Traced

/-!
# Loops that log

The body of a loop logs events; it fails, leaves with a result or goes on with a new state. A
measure that every iteration makes smaller bounds the number of iterations, and so the length of the
log (`TracedLoop.within`). `TracedLoop.ensures` is the rule for an invariant.
-/

namespace Hw

open Traced

/-- A loop with states `σ` that logs `ε`, and leaves with a `ρ` unless it fails. -/
structure TracedLoop (ε σ ρ : Type) where
  body : σ → Traced ε (ρ ⊕ σ)
  measure : σ → Nat
  decreases : ∀ {s s'}, (body s).value = some (.inr s') → measure s' < measure s

namespace TracedLoop

variable {ε σ ρ : Type} (l : TracedLoop ε σ ρ)

/-- The loop from the state `s` on. -/
def run (s : σ) : Traced ε ρ :=
  match _h : (l.body s).value with
  | none => ⟨(l.body s).log, none⟩
  | some (.inl r) => ⟨(l.body s).log, some r⟩
  | some (.inr s') => ⟨(l.body s).log ++ (run s').log, (run s').value⟩
termination_by l.measure s
decreasing_by all_goals exact l.decreases ‹_›

theorem run_eq (s : σ) : l.run s = l.body s >>= Sum.elim pure l.run := by
  rw [run]
  split
  · rename_i h
    rw [bind_none h]
  · rename_i r h
    rw [bind_some h]
    show _ = (⟨(l.body s).log ++ [], some r⟩ : Traced ε ρ)
    rw [List.append_nil]
  · rename_i s' h
    rw [bind_some h]
    rfl

variable {l}

theorem induction {P : σ → Prop}
    (step : ∀ s, (∀ s', (l.body s).value = some (.inr s') → P s') → P s)
    (s : σ) : P s := by
  induction hm : l.measure s using Nat.strongRecOn generalizing s with
  | _ n ih => exact step s fun s' h => ih _ (hm ▸ l.decreases h) s' rfl

theorem ensures {P : ε → Prop} {I : σ → Prop} {Q : ρ → Prop}
    (hbody : ∀ s, I s → Ensures P (Sum.elim Q I) (l.body s)) {s : σ} (hs : I s) :
    Ensures P Q (l.run s) := by
  induction s using l.induction with
  | step s ih =>
    rw [run_eq]
    have h := hbody s hs
    refine ⟨all_bind.mpr ⟨h.all, fun next hnext => ?_⟩, fun {r} hr => ?_⟩
    · cases next with
      | inl r => exact all_pure
      | inr s' => exact (ih s' hnext (h.value hnext)).all
    · obtain ⟨next, hnext, hr⟩ := value_bind.mp hr
      cases next with
      | inl r' =>
        cases hr
        exact h.value hnext
      | inr s' => exact (ih s' hnext (h.value hnext)).value hr

/-- What the body of a loop without events does, as the value of a body with events. -/
def next : Except (Option ρ) σ → Option (ρ ⊕ σ)
  | .error r => r.map .inl
  | .ok s => some (.inr s)

theorem eq_ok_of_next {t : Except (Option ρ) σ} {s : σ} (h : next t = some (.inr s)) :
    t = .ok s := by
  cases t with
  | error r => cases r <;> cases h
  | ok t =>
    cases h
    rfl

theorem value_run {m : Loop σ (Option ρ)} (hbody : ∀ s, (l.body s).value = next (m.body s))
    (s : σ) :
    (l.run s).value = m.exit s := by
  induction s using m.induction with
  | exit s r h =>
    rw [run_eq, Loop.exit_error h]
    have hnext := hbody s
    rw [h] at hnext
    cases r with
    | none => rw [bind_none hnext]
    | some r =>
      rw [bind_some hnext]
      rfl
  | next s s' h ih =>
    have hnext := hbody s
    rw [h] at hnext
    rw [run_eq, Loop.exit_ok h, bind_some hnext]
    exact ih

theorem within {P : ε → Prop} {k : Nat} (hbody : ∀ s, Within P k (l.body s)) (s : σ) :
    Within P (k * (l.measure s + 1)) (l.run s) := by
  induction s using l.induction with
  | step s ih =>
    rw [run_eq, Nat.mul_succ, Nat.add_comm]
    refine (hbody s).bind fun next hnext => ?_
    cases next with
    | inl r => exact .pure
    | inr s' => exact (ih s' hnext).mono (Nat.mul_le_mul_left k (l.decreases hnext))

end TracedLoop

end Hw
