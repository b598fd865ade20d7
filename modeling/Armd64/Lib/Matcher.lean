import Mathlib.Data.List.Basic
import Mathlib.Data.List.Infix
import Mathlib.Tactic.Common

/-!
# A matcher that starts again

A matcher goes through a text once and counts how many elements of a needle it has matched. After a
mismatch it starts again at that element of the text; it does not go back. What it finds is in the
text, and it finds a needle that does not overlap itself (`Overlap`).
-/

namespace Hw

variable {α : Type} {needle text pre post : List α} {m b k : Nat} {c : α}

/-! ## Overlaps -/

theorem suffix_append_right {xs ys : List α} (zs : List α) (h : xs <:+ ys) :
    xs ++ zs <:+ ys ++ zs := by
  obtain ⟨pre, rfl⟩ := h
  exact ⟨pre, (List.append_assoc pre xs zs).symm⟩

/-- The first `k` elements of the needle end with its first `b` elements, and the needle goes on in
two ways. -/
structure Overlap (needle : List α) (k b : Nat) : Prop where
  pos : 0 < b
  lt : b < k
  lt_length : k < needle.length
  suffix : needle.take b <:+ needle.take k
  ne : needle[b]? ≠ needle[k]?

/-- The text in which an overlap makes the matcher miss the needle. -/
def overlapText (needle : List α) (k b : Nat) : List α := needle.take k ++ needle.drop b

theorem infix_overlapText (h : Overlap needle k b) : needle <:+: overlapText needle k b := by
  obtain ⟨pre, hpre⟩ := h.suffix
  refine ⟨pre, [], ?_⟩
  rw [List.append_nil, overlapText, ← hpre, List.append_assoc, List.take_append_drop]

theorem length_overlapText (h : Overlap needle k b) :
    (overlapText needle k b).length = needle.length + k - b := by
  have hk := h.lt_length
  have hb := h.lt
  rw [overlapText, List.length_append, List.length_take, List.length_drop]
  omega

/-! ## The matcher -/

variable [DecidableEq α]

/-- The number of matched elements after `c`. -/
def matchStep (needle : List α) (matched : Nat) (c : α) : Nat :=
  let matched := if matched ≠ 0 ∧ needle[matched]? ≠ some c then 0 else matched
  if needle[matched]? = some c then matched + 1 else matched

/-- The matcher, from a state in which it has matched some elements. -/
def finds (needle : List α) : List α → Nat → Bool
  | [], _ => false
  | c :: text, matched =>
    let matched := matchStep needle matched c
    if matched = needle.length then true else finds needle text matched

/-! ## Steps -/

theorem matchStep_of_eq (h : needle[m]? = some c) : matchStep needle m c = m + 1 := by
  simp [matchStep, h]

theorem matchStep_of_ne (h : needle[m]? ≠ some c) :
    matchStep needle m c = matchStep needle 0 c := by
  by_cases hm : m = 0
  · rw [hm]
  · simp [matchStep, h, hm]

theorem matchStep_zero_le (needle : List α) (c : α) : matchStep needle 0 c ≤ 1 := by
  by_cases h : needle[0]? = some c
  · rw [matchStep_of_eq h]
  · simp [matchStep, h]

theorem matchStep_le (needle : List α) (m : Nat) (c : α) : matchStep needle m c ≤ m + 1 := by
  by_cases h : needle[m]? = some c
  · rw [matchStep_of_eq h]
  · rw [matchStep_of_ne h]
    exact (matchStep_zero_le needle c).trans (Nat.le_add_left 1 m)

theorem take_matchStep_suffix (h : needle.take m <:+ pre) :
    needle.take (matchStep needle m c) <:+ pre ++ [c] := by
  have hnext : ∀ {n}, needle.take n <:+ pre → needle[n]? = some c →
      needle.take (n + 1) <:+ pre ++ [c] := by
    intro n hn hc
    rw [List.take_add_one, hc]
    exact suffix_append_right [c] hn
  by_cases hc : needle[m]? = some c
  · rw [matchStep_of_eq hc]
    exact hnext h hc
  · rw [matchStep_of_ne hc]
    by_cases h0 : needle[0]? = some c
    · rw [matchStep_of_eq h0]
      exact hnext List.nil_suffix h0
    · simp [matchStep, h0]

/-! ## What is found is there -/

theorem finds_sound (h : needle.take m <:+ pre) (hfinds : finds needle text m) :
    needle <:+: pre ++ text := by
  induction text generalizing m pre with
  | nil => cases hfinds
  | cons c text ih =>
    have hstep := take_matchStep_suffix (c := c) h
    rw [List.append_cons]
    rw [finds] at hfinds
    split at hfinds
    · rename_i hlen
      rw [hlen, List.take_length] at hstep
      exact hstep.isInfix.trans (List.prefix_append _ _).isInfix
    · exact ih hstep hfinds

theorem length_le_of_finds (h : finds needle text m) : needle.length ≤ m + text.length := by
  induction text generalizing m with
  | nil => cases h
  | cons c text ih =>
    have hstep := matchStep_le needle m c
    rw [List.length_cons]
    rw [finds] at h
    split at h
    · omega
    · have := ih h
      omega

/-! ## What is missed -/

theorem finds_append :
    finds needle (pre ++ text) m =
      (finds needle pre m || finds needle text (pre.foldl (matchStep needle) m)) := by
  induction pre generalizing m with
  | nil => rfl
  | cons c pre ih =>
    rw [List.cons_append, finds, finds, List.foldl_cons]
    split
    · rfl
    · exact ih

theorem foldl_take (h : k ≤ needle.length) : (needle.take k).foldl (matchStep needle) 0 = k := by
  induction k with
  | zero => rfl
  | succ k ih =>
    have hc : needle[k]? = some needle[k] := List.getElem?_eq_getElem h
    rw [List.take_add_one, hc, List.foldl_append, ih (Nat.le_of_succ_le h)]
    exact matchStep_of_eq hc

theorem not_finds_of_overlap (h : Overlap needle k b) :
    finds needle (overlapText needle k b) 0 = false := by
  have hpos := h.pos
  have hb := h.lt
  have hk := h.lt_length
  have hhead : finds needle (needle.take k) 0 = false := by
    refine Bool.eq_false_iff.mpr fun hfinds => ?_
    have hle := length_le_of_finds hfinds
    rw [List.length_take] at hle
    omega
  have hget : needle[b]? = some needle[b] := List.getElem?_eq_getElem (by omega)
  have hmismatch : needle[k]? ≠ some needle[b] := fun hc => h.ne (hget.trans hc.symm)
  have hone := matchStep_zero_le needle needle[b]
  rw [overlapText, finds_append, hhead, Bool.false_or, foldl_take (by omega),
    List.drop_eq_getElem_cons (by omega), finds, matchStep_of_ne hmismatch]
  rw [if_neg (by omega)]
  refine Bool.eq_false_iff.mpr fun hfinds => ?_
  have hle := length_le_of_finds hfinds
  rw [List.length_drop] at hle
  omega

/-! ## What is found -/

theorem finds_drop {j : Nat} (hj : j < needle.length) :
    finds needle (needle.drop j ++ post) j := by
  induction hn : needle.length - j generalizing j with
  | zero => omega
  | succ n ih =>
    have hget : needle[j]? = some needle[j] := List.getElem?_eq_getElem hj
    rw [List.drop_eq_getElem_cons hj, List.cons_append, finds, matchStep_of_eq hget]
    split
    · rfl
    · exact ih (by omega) (by omega)

/-- From a state that is `m` elements ahead of where the needle is. -/
theorem finds_ahead {j : Nat} (hm : 0 < m) (hlt : m + j < needle.length)
    (hsuffix : needle.take j <:+ needle.take (m + j))
    (hno : ∀ k b, Overlap needle k b → k - b ≠ m) :
    finds needle (needle.drop j ++ post) (m + j) := by
  induction hn : needle.length - j generalizing j with
  | zero => omega
  | succ n ih =>
    have hj : j < needle.length := by omega
    have hget : needle[j]? = some needle[j] := List.getElem?_eq_getElem hj
    rw [List.drop_eq_getElem_cons hj, List.cons_append, finds]
    by_cases hc : needle[m + j]? = some needle[j]
    · rw [matchStep_of_eq hc]
      split
      · rfl
      · refine ih (j := j + 1) (by omega) ?_ (by omega)
        rw [← Nat.add_assoc, List.take_add_one, List.take_add_one (l := needle) (i := m + j), hc,
          hget]
        exact suffix_append_right _ hsuffix
    · -- a mismatch after the first element would be an overlap
      have hzero : j = 0 := by
        by_contra hne
        refine hno (m + j) j ⟨Nat.pos_of_ne_zero hne, by omega, hlt, hsuffix, ?_⟩ (by omega)
        rw [hget]
        exact Ne.symm hc
      subst hzero
      rw [matchStep_of_ne hc, matchStep_of_eq hget]
      split
      · rfl
      · exact finds_drop (by omega)

theorem foldl_of_not_finds (hlt : m < needle.length) (hsuffix : needle.take m <:+ pre)
    (h : finds needle text m = false) :
    text.foldl (matchStep needle) m < needle.length ∧
      needle.take (text.foldl (matchStep needle) m) <:+ pre ++ text := by
  induction text generalizing m pre with
  | nil => exact ⟨hlt, by rwa [List.append_nil]⟩
  | cons c text ih =>
    have hstep := take_matchStep_suffix (c := c) hsuffix
    have hle := matchStep_le needle m c
    rw [finds] at h
    split at h
    · cases h
    · rw [List.append_cons, List.foldl_cons]
      exact ih (by omega) hstep h

theorem finds_of_infix (hne : needle ≠ []) (h : needle <:+: text)
    (hno : ∀ k b, Overlap needle k b → text.length < needle.length + k - b) :
    finds needle text 0 := by
  obtain ⟨pre, post, rfl⟩ := h
  have hpos : 0 < needle.length := List.length_pos_iff.mpr hne
  rw [List.append_assoc, finds_append]
  cases hpre : finds needle pre 0 with
  | true => rfl
  | false =>
    obtain ⟨hlt, hsuffix⟩ := foldl_of_not_finds hpos (List.suffix_refl []) hpre
    rw [List.nil_append] at hsuffix
    generalize hm : pre.foldl (matchStep needle) 0 = m at hlt hsuffix
    have hle := hsuffix.length_le
    rw [List.length_take] at hle
    rcases Nat.eq_zero_or_pos m with rfl | hmpos
    · exact finds_drop hpos
    · refine finds_ahead (j := 0) hmpos hlt List.nil_suffix fun k b hover heq => ?_
      have hfar := hno k b hover
      rw [List.length_append, List.length_append] at hfar
      omega

end Hw
