import Mathlib.Tactic.Common

/-!
# Computations that may fail and keep their state

The state of such a computation is there after a failure too, with all changes up to it.
`Attempt.Ensures P m E Q`: from a state with `P`, the computation fails in a state with `E` or
succeeds in one with `Q`.
-/

namespace Hw

/-- A computation with a state that survives a failure. -/
def Attempt (σ α : Type) : Type := σ → Option α × σ

namespace Attempt

variable {σ α β : Type}

def fail : Attempt σ α := fun s => (none, s)

def get : Attempt σ σ := fun s => (some s, s)

def modify (f : σ → σ) : Attempt σ Unit := fun s => (some (), f s)

instance : Monad (Attempt σ) where
  pure a := fun s => (some a, s)
  bind m k := fun s => match m s with
    | (none, s') => (none, s')
    | (some a, s') => k a s'

/-- What holds after a computation: `E` if it fails, and `Q` if it succeeds. -/
def Ensures (P : σ → Prop) (m : Attempt σ α) (E : σ → Prop) (Q : α → σ → Prop) : Prop :=
  ∀ s, P s → match m s with
    | (none, s') => E s'
    | (some a, s') => Q a s'

namespace Ensures

variable {P P' E : σ → Prop} {Q : α → σ → Prop} {R : β → σ → Prop} {m : Attempt σ α}
  {k : α → Attempt σ β}

theorem pure {a : α} (h : ∀ s, P s → Q a s) : Ensures P (pure a) E Q := h

theorem fail (h : ∀ s, P s → E s) : Ensures P fail E Q := h

theorem modify {f : σ → σ} {Q : Unit → σ → Prop} (h : ∀ s, P s → Q () (f s)) :
    Ensures P (modify f) E Q := h

theorem bind (hm : Ensures P m E Q) (hk : ∀ a, Ensures (Q a) (k a) E R) :
    Ensures P (m >>= k) E R := by
  intro s hs
  have h := hm s hs
  show match (match m s with
    | (none, s') => (none, s')
    | (some a, s') => k a s') with
    | (none, s') => E s'
    | (some b, s') => R b s'
  cases hout : m s with
  | mk value s' =>
    rw [hout] at h
    cases value with
    | none => exact h
    | some a => exact hk a s' h

theorem get_bind {k : σ → Attempt σ β} (hk : ∀ s, P s → Ensures (s = ·) (k s) E R) :
    Ensures P (get >>= k) E R :=
  fun s hs => hk s hs s rfl

theorem ite {c : Prop} [Decidable c] {m' : Attempt σ α} (hpos : c → Ensures P m E Q)
    (hneg : ¬c → Ensures P m' E Q) : Ensures P (if c then m else m') E Q := by
  by_cases h : c
  · rw [if_pos h]
    exact hpos h
  · rw [if_neg h]
    exact hneg h

theorem strengthen (h : Ensures P m E Q) (hP : ∀ s, P' s → P s) : Ensures P' m E Q :=
  fun s hs => h s (hP s hs)

theorem weaken {Q' : α → σ → Prop} (h : Ensures P m E Q) (hQ : ∀ a s, Q a s → Q' a s) :
    Ensures P m E Q' := by
  intro s hs
  have hm := h s hs
  cases hout : m s with
  | mk value s' =>
    rw [hout] at hm
    cases value with
    | none => exact hm
    | some a => exact hQ a s' hm

end Ensures

end Attempt

end Hw
