import Armd64.Lib.Loop

/-!
# Walks along links

A loop that follows links, at most a number of times, and looks at each record for a result. It
leaves with the first result of the records of `walk`.
-/

namespace Hw

variable {α ρ : Type}

/-- The records from `a` on, at most `n` of them. -/
def walk (next : α → Option α) : Nat → α → List α
  | 0, _ => []
  | n + 1, a => a :: ((next a).elim [] (walk next n))

/-- A loop with the number of records so far and the next record. It leaves with the result of the
first record that has one. -/
theorem Loop.exit_eq_findSome? {l : Loop (Nat × α) ρ} {next : α → Option α} {visit : α → Option ρ}
    {count : Nat} {last : ρ}
    (hbody : ∀ i a, l.body (i, a) =
      if count ≤ i then .error last
      else (visit a).elim ((next a).elim (.error last) fun b => .ok (i + 1, b)) .error)
    (i : Nat) (a : α) :
    l.exit (i, a) = ((walk next (count - i) a).findSome? visit).getD last := by
  -- the induction is on the number of records that are left
  induction hn : count - i generalizing i a with
  | zero =>
    have h := hbody i a
    rw [if_pos (by omega)] at h
    rw [exit_error h]
    rfl
  | succ n ih =>
    have h := hbody i a
    rw [if_neg (by omega)] at h
    rw [walk, List.findSome?_cons]
    cases hv : visit a with
    | some r =>
      rw [hv, Option.elim_some] at h
      exact exit_error h
    | none =>
      rw [hv, Option.elim_none] at h
      cases hnext : next a with
      | none =>
        rw [hnext, Option.elim_none] at h
        exact exit_error h
      | some b =>
        rw [hnext, Option.elim_some] at h
        rw [exit_ok h, ih (i + 1) b (by omega)]
        rfl

theorem findSome?_flatMap {β : Type} (xs : List α) (f : α → List β) (p : β → Option ρ) :
    (xs.flatMap f).findSome? p = xs.findSome? fun a => (f a).findSome? p := by
  induction xs with
  | nil => rfl
  | cons a xs ih =>
    rw [List.flatMap_cons, List.findSome?_append, ih, List.findSome?_cons]
    cases (f a).findSome? p <;> rfl

/-! ## The first record -/

section

variable (p : α → Bool) (answer : α → Option ρ)

def firstAnswer (records : List (Option α)) : Option ρ :=
  (records.find? (Option.all p)).join.bind answer

/-- What a loop for `firstAnswer` leaves with at a record, if it leaves there. -/
def verdict (r : Option α) : Option (Option ρ) :=
  if r.all p then some (r.bind answer) else none

theorem firstAnswer_eq (records : List (Option α)) :
    firstAnswer p answer records = (records.findSome? (verdict p answer)).getD none := by
  unfold firstAnswer
  induction records with
  | nil => rfl
  | cons r records ih =>
    rw [List.find?_cons, List.findSome?_cons, verdict]
    cases r.all p with
    | true => cases r <;> rfl
    | false => exact ih

theorem verdict_some (a : α) :
    verdict p answer (some a) = if p a then some (answer a) else none := rfl

end

end Hw
