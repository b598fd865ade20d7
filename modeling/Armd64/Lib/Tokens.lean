import Mathlib.Data.List.Infix

/-!
# Texts with tokens

A text is scanned from left to right. At each place there is a token of a table, or one item that
stands for itself. If no token is the start of another one, there is one way to scan a text.
-/

namespace Hw.Tokens

inductive Piece (α κ : Type)
  | token (k : κ)
  | item (a : α)
  deriving DecidableEq, Repr

variable {α κ : Type}

/-- The text is the pieces. An item is not the start of a token. -/
inductive Scans (table : List (List α × κ)) : List α → List (Piece α κ) → Prop
  | nil : Scans table [] []
  | token {t rest : List α} {k : κ} {ps : List (Piece α κ)} :
      (t, k) ∈ table → Scans table rest ps → Scans table (t ++ rest) (.token k :: ps)
  | item {a : α} {rest : List α} {ps : List (Piece α κ)} :
      (∀ t k, (t, k) ∈ table → ¬ t <+: a :: rest) → Scans table rest ps →
      Scans table (a :: rest) (.item a :: ps)

/-- No token is empty, and none is the start of another one. -/
structure PrefixFree (table : List (List α × κ)) : Prop where
  ne_nil : ∀ p ∈ table, p.1 ≠ []
  eq_of_start : ∀ p ∈ table, ∀ q ∈ table, p.1 <+: q.1 → p = q

variable {table : List (List α × κ)}

variable {p : List α × κ} {xs t rest : List α} {ps : List (Piece α κ)} {k : κ} {a : α}

theorem PrefixFree.eq_of_starts (h : PrefixFree table) {q : List α × κ} (hp : p ∈ table)
    (hq : q ∈ table) (hpx : p.1 <+: xs) (hqx : q.1 <+: xs) : p = q := by
  rcases List.prefix_or_prefix_of_prefix hpx hqx with hpq | hqp
  · exact h.eq_of_start p hp q hq hpq
  · exact (h.eq_of_start q hq p hp hqp).symm

theorem Scans.eq_nil (hfree : PrefixFree table) (h : Scans table [] ps) : ps = [] := by
  generalize hxs : ([] : List α) = xs at h
  cases h with
  | nil => rfl
  | token hmem _ => exact absurd (List.append_eq_nil_iff.mp hxs.symm).1 (hfree.ne_nil _ hmem)
  | item => cases hxs

variable [DecidableEq α]

/-- The token at the start of a text. -/
def atStart (table : List (List α × κ)) (xs : List α) : Option (List α × κ) :=
  table.find? fun p => p.1 <+: xs

theorem atStart_eq_some (h : atStart table xs = some p) : p ∈ table ∧ p.1 <+: xs :=
  ⟨List.mem_of_find?_eq_some h, by simpa using List.find?_some h⟩

theorem atStart_eq_none (h : atStart table xs = none) (hp : (t, k) ∈ table) : ¬ t <+: xs := by
  simpa using List.find?_eq_none.mp h (t, k) hp

theorem atStart_of_forall (h : ∀ t k, (t, k) ∈ table → ¬ t <+: xs) : atStart table xs = none := by
  cases hstart : atStart table xs with
  | none => rfl
  | some p =>
    obtain ⟨hp, hpx⟩ := atStart_eq_some hstart
    exact absurd hpx (h p.1 p.2 hp)

section

variable (hfree : PrefixFree table)

include hfree

theorem atStart_of_mem (hp : p ∈ table) (hpx : p.1 <+: xs) : atStart table xs = some p := by
  cases h : atStart table xs with
  | none => exact absurd hpx (atStart_eq_none h hp)
  | some q =>
    obtain ⟨hq, hqx⟩ := atStart_eq_some h
    rw [hfree.eq_of_starts hp hq hpx hqx]

theorem Scans.cons (h : Scans table (a :: rest) ps) :
    (∃ t k qs, atStart table (a :: rest) = some (t, k) ∧ ps = .token k :: qs ∧
      Scans table ((a :: rest).drop t.length) qs) ∨
    ∃ qs, atStart table (a :: rest) = none ∧ ps = .item a :: qs ∧ Scans table rest qs := by
  generalize hxs : a :: rest = xs at h
  cases h with
  | nil => cases hxs
  | @token t rest' k qs hmem hrest =>
    refine .inl ⟨t, k, qs, atStart_of_mem hfree hmem (List.prefix_append t rest'), rfl, ?_⟩
    rwa [List.drop_left]
  | @item b rest' qs hno hrest =>
    cases hxs
    exact .inr ⟨qs, atStart_of_forall hno, rfl, hrest⟩

theorem PrefixFree.drop_length_lt (h : atStart table (a :: rest) = some (t, k)) :
    ((a :: rest).drop t.length).length < (a :: rest).length := by
  obtain ⟨hmem, -⟩ := atStart_eq_some h
  have hpos : 0 < t.length := List.length_pos_iff.mpr (hfree.ne_nil _ hmem)
  rw [List.length_drop, List.length_cons]
  omega

theorem exists_scans (xs : List α) : ∃ ps, Scans table xs ps := by
  induction hn : xs.length using Nat.strongRecOn generalizing xs with
  | _ n ih =>
    subst hn
    cases xs with
    | nil => exact ⟨[], .nil⟩
    | cons a rest =>
      cases h : atStart table (a :: rest) with
      | none =>
        obtain ⟨ps, hps⟩ := ih rest.length (Nat.lt_succ_self _) rest rfl
        exact ⟨.item a :: ps, .item (fun t k hmem => atStart_eq_none h hmem) hps⟩
      | some p =>
        obtain ⟨t, k⟩ := p
        obtain ⟨ps, hps⟩ := ih _ (hfree.drop_length_lt h) _ rfl
        obtain ⟨hmem, rest', hrest'⟩ := atStart_eq_some h
        rw [← hrest', List.drop_left] at hps
        exact ⟨.token k :: ps, hrest' ▸ .token hmem hps⟩

theorem Scans.unique {qs : List (Piece α κ)} (hps : Scans table xs ps)
    (hqs : Scans table xs qs) : ps = qs := by
  induction hn : xs.length using Nat.strongRecOn generalizing xs ps qs with
  | _ n ih =>
    subst hn
    cases xs with
    | nil => rw [hps.eq_nil hfree, hqs.eq_nil hfree]
    | cons a rest =>
      rcases hps.cons hfree with ⟨t, k, ps', ht, rfl, hps'⟩ | ⟨ps', hnone, rfl, hps'⟩
      · rcases hqs.cons hfree with ⟨t', k', qs', ht', rfl, hqs'⟩ | ⟨qs', hnone, rfl, hqs'⟩
        · cases ht.symm.trans ht'
          rw [ih _ (hfree.drop_length_lt ht) hps' hqs' rfl]
        · cases ht.symm.trans hnone
      · rcases hqs.cons hfree with ⟨t', k', qs', ht', rfl, hqs'⟩ | ⟨qs', hnone', rfl, hqs'⟩
        · cases hnone.symm.trans ht'
        · rw [ih _ (Nat.lt_succ_self _) hps' hqs' rfl]

end

end Hw.Tokens
