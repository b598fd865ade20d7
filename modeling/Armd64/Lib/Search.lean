import Mathlib.Logic.Relation
import Mathlib.Tactic.Common

/-!
# Depth-first search without a visited set

A search goes through the edges of a node in order. It stops at an edge that is a hit, and otherwise
searches the node the edge leads to before it takes the next edge. It does not mark nodes, so on a
cycle without a hit it goes on forever: the search takes a budget for its depth, and gives no answer
when the budget runs out. A node with no infinite path from it has a budget that is enough
(`exists_search_of_acc`), and a search that finds nothing shows that there is none
(`acc_of_search`).
-/

namespace Hw

section

variable {ν : Type} {E E' : ν → ν → Prop}

/-- A new edge `p → t` makes no path infinite if `t` does not lead to `p`. -/
theorem acc_insert_edge {p t : ν} (hE : ∀ v w, E' v w → E v w ∨ v = p ∧ w = t)
    (hno : ¬ Relation.ReflTransGen E t p) (hacc : ∀ v, Acc (flip E) v) (v : ν) :
    Acc (flip E') v := by
  -- The nodes that do not lead to `p` keep their paths; `t` is one of them.
  have hfar : ∀ v, ¬ Relation.ReflTransGen E v p → Acc (flip E') v := by
    intro v
    induction hacc v with
    | intro v _ ih =>
      intro hv
      refine ⟨v, fun w hw => ?_⟩
      rcases hE v w hw with hw | ⟨rfl, -⟩
      · exact ih w hw fun hwp => hv (.head hw hwp)
      · exact absurd .refl hv
  induction hacc v with
  | intro v _ ih =>
    refine ⟨v, fun w hw => ?_⟩
    rcases hE v w hw with hw | ⟨-, rfl⟩
    · exact ih w hw
    · exact hfar w hno

variable {v w : ν}

/-- The nodes that a node with finite paths leads to have finite paths. -/
theorem acc_of_reflTransGen (h : Relation.ReflTransGen E v w) (hv : Acc (flip E) v) :
    Acc (flip E) w := by
  induction h with
  | refl => exact hv
  | tail _ he ih => exact ih.inv he

theorem not_acc_of_cycle (hvw : E v w) (hwv : Relation.ReflTransGen E w v) : ¬ Acc (flip E) v := by
  intro hv
  induction hv generalizing w with
  | intro v _ ih =>
    rcases Relation.ReflTransGen.cases_head hwv with rfl | ⟨u, hwu, huv⟩
    · exact ih w hvw hvw .refl
    · exact ih w hvw hwu (huv.tail hvw)

end

section

variable {ν ε : Type} (next : ν → List ε) (dst : ε → ν) (hit : ε → Bool)

/-- The search along the edges `es`, with `rec` for the nodes they lead to: no answer, nothing
found, or the first hit. -/
def scan (rec : ν → Option (Option ε)) : List ε → Option (Option ε)
  | [] => some none
  | e :: es =>
    if hit e then some (some e)
    else
      match rec (dst e) with
      | none => none
      | some (some r) => some (some r)
      | some none => scan rec es

/-- The search from a node, with a budget for its depth. -/
def search : Nat → ν → Option (Option ε)
  | 0, _ => none
  | n + 1, v => scan dst hit (search n) (next v)

def Edge (v w : ν) : Prop := ∃ e ∈ next v, dst e = w

variable {next dst hit}

variable {rec : ν → Option (Option ε)} {es : List ε} {r : Option ε} {n : Nat} {v : ν} {e : ε}

theorem scan_mono {rec' : ν → Option (Option ε)} (hrec : ∀ v r, rec v = some r → rec' v = some r)
    (h : scan dst hit rec es = some r) : scan dst hit rec' es = some r := by
  induction es with
  | nil => exact h
  | cons e es ih =>
    rw [scan] at h ⊢
    split at h
    · rename_i he
      rw [if_pos he, h]
    · rename_i he
      rw [if_neg he]
      generalize hr : rec (dst e) = a at h
      rcases a with _ | _ | f
      · cases h
      · rw [hrec _ _ hr]
        exact ih h
      · rw [hrec _ _ hr]
        exact h

theorem search_mono {m : Nat} (hnm : n ≤ m) (h : search next dst hit n v = some r) :
    search next dst hit m v = some r := by
  induction n generalizing m v r with
  | zero => cases h
  | succ n ih =>
    obtain ⟨m, rfl⟩ : ∃ k, m = k + 1 := ⟨m - 1, by omega⟩
    exact scan_mono (fun v r => ih (by omega)) h

/-- With an answer from every node the edges lead to, one budget is enough for all of them. -/
theorem exists_scan (h : ∀ e ∈ es, ∃ n r, search next dst hit n (dst e) = some r) :
    ∃ n r, scan dst hit (search next dst hit n) es = some r := by
  induction es with
  | nil => exact ⟨0, none, rfl⟩
  | cons e es ih =>
    obtain ⟨n, r, hr⟩ := h e List.mem_cons_self
    obtain ⟨m, s, hs⟩ := ih fun e he => h e (List.mem_cons_of_mem _ he)
    have hr' := search_mono (Nat.le_max_left n m) hr
    have hs' := scan_mono (fun v r => search_mono (Nat.le_max_right n m)) hs
    refine ⟨max n m, ?_⟩
    rw [scan]
    split
    · exact ⟨_, rfl⟩
    · rw [hr']
      cases r with
      | none => exact ⟨s, hs'⟩
      | some r => exact ⟨some r, rfl⟩

theorem exists_search_of_acc (h : Acc (flip (Edge next dst)) v) :
    ∃ n r, search next dst hit n v = some r := by
  induction h with
  | intro v _ ih =>
    obtain ⟨n, r, hr⟩ := exists_scan fun e (he : e ∈ next v) => ih (dst e) ⟨e, he, rfl⟩
    exact ⟨n + 1, r, hr⟩

/-- Nothing found along the edges: nothing found from the nodes they lead to. -/
theorem rec_of_scan (h : scan dst hit rec es = some none) : ∀ e ∈ es, rec (dst e) = some none := by
  induction es with
  | nil => simp
  | cons e es ih =>
    rw [scan] at h
    split at h
    · cases h
    · generalize hr : rec (dst e) = a at h
      rcases a with _ | _ | f
      · cases h
      · exact List.forall_mem_cons.mpr ⟨hr, ih h⟩
      · cases h

theorem acc_of_search (h : search next dst hit n v = some none) : Acc (flip (Edge next dst)) v := by
  induction n generalizing v with
  | zero => cases h
  | succ n ih =>
    refine ⟨v, fun w hw => ?_⟩
    obtain ⟨e, he, rfl⟩ := hw
    exact ih (rec_of_scan h e he)

theorem not_hit_of_scan (h : scan dst hit rec es = some none) : ∀ e ∈ es, hit e = false := by
  induction es with
  | nil => simp
  | cons e es ih =>
    have hrec := rec_of_scan h e List.mem_cons_self
    rw [scan, hrec] at h
    split at h
    · cases h
    · rename_i he
      exact List.forall_mem_cons.mpr ⟨Bool.eq_false_iff.mpr he, ih h⟩

/-- A search that finds nothing has met no hit at any node it leads to. -/
theorem not_hit_of_search {w : ν} (h : search next dst hit n v = some none)
    (hvw : Relation.ReflTransGen (Edge next dst) v w) : ∀ e ∈ next w, hit e = false := by
  induction hvw using Relation.ReflTransGen.head_induction_on generalizing n with
  | refl =>
    cases n with
    | zero => cases h
    | succ n => exact not_hit_of_scan h
  | head hedge _ ih =>
    obtain ⟨e, he, rfl⟩ := hedge
    cases n with
    | zero => cases h
    | succ n => exact ih (rec_of_scan h e he)

theorem mem_of_scan {P : ε → Prop} (hrec : ∀ v e, rec v = some (some e) → P e)
    (hes : ∀ e ∈ es, hit e → P e) (h : scan dst hit rec es = some (some e)) : P e := by
  induction es with
  | nil => cases h
  | cons e' es ih =>
    rw [scan] at h
    split at h
    · rename_i he
      cases h
      exact hes e List.mem_cons_self he
    · generalize hr : rec (dst e') = a at h
      rcases a with _ | _ | f
      · cases h
      · exact ih (fun e he => hes e (List.mem_cons_of_mem _ he)) h
      · cases h
        exact hrec _ _ hr

theorem search_found (h : search next dst hit n v = some (some e)) :
    (∃ w, e ∈ next w) ∧ hit e := by
  induction n generalizing v e with
  | zero => cases h
  | succ n ih =>
    exact mem_of_scan (P := fun e => (∃ w, e ∈ next w) ∧ hit e = true) (fun _ _ => ih)
      (fun e he hh => ⟨⟨v, he⟩, hh⟩) h

end

end Hw
