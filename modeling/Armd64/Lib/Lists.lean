import Mathlib.Data.List.Basic

/-!
# Lists of parts and loops over lists

What holds of the whole of a list of parts and of its parts, loops that fail, and the fields between
separators (`fieldsOf`).
-/

namespace Hw

variable {α : Type}

variable {l : List (List α)} {n k : Nat} {x : α}

theorem flatten_eq_nil_of_getD (h : ∀ k, l.getD k [] = []) : l.flatten = [] := by
  rw [List.flatten_eq_nil_iff]
  intro x hx
  obtain ⟨k, hk, rfl⟩ := List.mem_iff_getElem.mp hx
  have hget := h k
  rwa [List.getD_eq_getElem?_getD, List.getElem?_eq_getElem hk] at hget

theorem flatten_modify_append (xs : List α) (hn : n < l.length)
    (hrest : ∀ k, n < k → l.getD k [] = []) : (l.modify n (· ++ xs)).flatten = l.flatten ++ xs := by
  induction l generalizing n with
  | nil => simp at hn
  | cons x l ih =>
    cases n with
    | zero =>
      have hl : l.flatten = [] := flatten_eq_nil_of_getD fun k => hrest (k + 1) (Nat.succ_pos k)
      rw [List.modify_zero_cons, List.flatten_cons, List.flatten_cons, hl, List.append_nil,
        List.append_nil]
    | succ n =>
      rw [List.modify_succ_cons, List.flatten_cons, List.flatten_cons, List.append_assoc,
        ih (Nat.lt_of_succ_lt_succ hn) fun k hk => hrest (k + 1) (Nat.succ_lt_succ hk)]

theorem flatMap_range_getD (hrest : ∀ k, n ≤ k → l.getD k [] = []) :
    (List.range n).flatMap (fun k => l.getD k []) = l.flatten := by
  induction l generalizing n with
  | nil => simp
  | cons x l ih =>
    cases n with
    | zero =>
      rw [flatten_eq_nil_of_getD fun k => hrest k (Nat.zero_le k)]
      rfl
    | succ n =>
      rw [List.range_succ_eq_map, List.flatMap_cons, List.flatMap_map, List.flatten_cons]
      exact congrArg (x ++ ·) (ih fun k hk => hrest (k + 1) (Nat.succ_le_succ hk))

theorem exists_getElem_of_mem_getD (h : x ∈ l.getD k []) : ∃ hk : k < l.length, x ∈ l[k] := by
  rw [List.getD_eq_getElem?_getD] at h
  by_cases hk : k < l.length
  · exact ⟨hk, by rwa [List.getElem?_eq_getElem hk] at h⟩
  · rw [List.getElem?_eq_none (Nat.le_of_not_lt hk)] at h
    cases h

theorem mem_flatten_of_mem_getD (h : x ∈ l.getD k []) : x ∈ l.flatten := by
  obtain ⟨hk, hx⟩ := exists_getElem_of_mem_getD h
  exact List.mem_flatten_of_mem (List.getElem_mem hk) hx

/-- A relation between the elements of a list of parts holds between those of two parts. -/
theorem pairwise_flatten_getD {R : α → α → Prop} (h : l.flatten.Pairwise R) {i j : Nat}
    (hij : i < j) {a b : α} (ha : a ∈ l.getD i []) (hb : b ∈ l.getD j []) : R a b := by
  obtain ⟨hi, ha⟩ := exists_getElem_of_mem_getD ha
  obtain ⟨hj, hb⟩ := exists_getElem_of_mem_getD hb
  exact List.pairwise_iff_getElem.mp (List.pairwise_flatten.mp h).2 i j hi hj hij a ha b hb

section

variable {β ε : Type}

variable {b : β}

theorem except_bind_eq_ok {x : Except ε α} {f : α → Except ε β} :
    (x >>= f) = .ok b ↔ ∃ a, x = .ok a ∧ f a = .ok b := by
  cases x with
  | error e =>
    constructor
    · intro h
      cases h
    · rintro ⟨a, ha, -⟩
      cases ha
  | ok a =>
    constructor
    · intro h
      exact ⟨a, rfl, h⟩
    · rintro ⟨a', ha, h⟩
      cases ha
      exact h

theorem exists_of_except_map {x : Except ε α} {f : α → β} (h : x.map f = .ok b) :
    ∃ a, x = .ok a ∧ f a = b := by
  cases x with
  | error e => cases h
  | ok a => exact ⟨a, rfl, Except.ok.inj h⟩

theorem foldl_eq_find_reverse (p : α → Bool) (v : α → β) (xs : List α) (b : β) :
    xs.foldl (fun b x => if p x then v x else b) b = ((xs.reverse.find? p).map v).getD b := by
  induction xs generalizing b with
  | nil => rfl
  | cons x xs ih =>
    rw [List.foldl_cons, ih, List.reverse_cons, List.find?_append]
    cases xs.reverse.find? p with
    | some y => rfl
    | none => cases hx : p x <;> simp [hx]

theorem foldlM_eq_ok_of_step {f : β → α → Except ε β} {γ : Type} (view : β → γ) (g : γ → α → γ)
    {xs : List α} (hstep : ∀ b, ∀ x ∈ xs, ∀ b', f b x = .ok b' → view b' = g (view b) x) {b' : β}
    (h : xs.foldlM f b = .ok b') : view b' = xs.foldl g (view b) := by
  induction xs generalizing b with
  | nil =>
    cases h
    rfl
  | cons x xs ih =>
    rw [List.foldlM_cons, except_bind_eq_ok] at h
    obtain ⟨b₁, hx, h⟩ := h
    rw [List.foldl_cons, ← hstep b x List.mem_cons_self b₁ hx]
    exact ih (fun b y hy => hstep b y (List.mem_cons_of_mem x hy)) h

end

section

variable {m : Type → Type} [Monad m] {β : Type} {f g : β → α → m β} {xs : List α}

theorem foldlM_congr (h : ∀ b, ∀ x ∈ xs, f b x = g b x) (b : β) :
    xs.foldlM f b = xs.foldlM g b := by
  induction xs generalizing b with
  | nil => rfl
  | cons x xs ih =>
    rw [List.foldlM_cons, List.foldlM_cons, h b x List.mem_cons_self]
    congr 1
    funext b
    exact ih (fun b y hy => h b y (List.mem_cons_of_mem _ hy)) b

variable [LawfulMonad m]

variable {b : β}

theorem foldlM_singleton {a : α} : [a].foldlM f b = f b a := by
  exact bind_pure _

theorem foldlM_filter_not {mark : α → Bool} :
    (xs.filter fun a => !mark a).foldlM f b =
      xs.foldlM (fun b a => if mark a then pure b else f b a) b := by
  rw [List.foldlM_filter]
  congr 1
  funext b a
  cases mark a <;> rfl

end

section

variable {p : α → Bool} (xs : List α)

theorem separator_of_dropWhile {a : α} {rest : List α} (h : xs.dropWhile (!p ·) = a :: rest) :
    p a := by
  simpa [h] using List.head_dropWhile_not (!p ·) (l := xs) (by simp [h])

/-- The part before the first separator, and the parts after it. -/
theorem splitOnP_eq : xs.splitOnP p = xs.takeWhile (!p ·) ::
    match xs.dropWhile (!p ·) with
    | [] => []
    | _ :: rest => rest.splitOnP p := by
  have hrun : ∀ x ∈ xs.takeWhile (!p ·), p x = false := fun x hx => by
    simpa using List.all_eq_true.mp List.all_takeWhile x hx
  conv_lhs => rw [← List.takeWhile_append_dropWhile (p := (!p ·)) (l := xs)]
  cases h : xs.dropWhile (!p ·) with
  | nil => rw [List.append_nil, List.splitOnP_eq_singleton hrun]
  | cons a rest =>
    exact List.splitOnP_append_cons_of_forall_mem hrun a (separator_of_dropWhile xs h) rest

/-- The parts between separators that are not empty. -/
def fieldsOf (p : α → Bool) (xs : List α) : List (List α) := (xs.splitOnP p).filter (!·.isEmpty)

theorem fieldsOf_cons_of_pos {a : α} (h : p a) : fieldsOf p (a :: xs) = fieldsOf p xs := by
  simp [fieldsOf, List.splitOnP_cons_eq_if_modifyHead, h]

theorem fieldsOf_dropWhile : fieldsOf p (xs.dropWhile p) = fieldsOf p xs := by
  induction xs with
  | nil => rfl
  | cons a xs ih =>
    cases h : p a with
    | false => rw [List.dropWhile_cons_of_neg (by simp [h])]
    | true => rw [List.dropWhile_cons_of_pos h, ih, fieldsOf_cons_of_pos xs h]

/-- The first field is the run after the separators at the start. -/
theorem fieldsOf_eq_cons (h : (xs.dropWhile p).takeWhile (!p ·) ≠ []) :
    fieldsOf p xs = (xs.dropWhile p).takeWhile (!p ·) ::
      fieldsOf p ((xs.dropWhile p).dropWhile (!p ·)) := by
  rw [← fieldsOf_dropWhile]
  generalize xs.dropWhile p = ys at h ⊢
  rw [fieldsOf, splitOnP_eq, List.filter_cons_of_pos (by simpa using h)]
  cases hrest : ys.dropWhile (!p ·) with
  | nil => rfl
  | cons a rest => rw [fieldsOf_cons_of_pos rest (separator_of_dropWhile ys hrest), fieldsOf]

theorem fieldsOf_eq_nil (h : (xs.dropWhile p).takeWhile (!p ·) = []) : fieldsOf p xs = [] := by
  rw [← fieldsOf_dropWhile]
  cases hys : xs.dropWhile p with
  | nil => rfl
  | cons a rest =>
    have ha : p a = false := by
      simpa [hys] using List.head_dropWhile_not p (l := xs) (by simp [hys])
    simp [hys, ha] at h

end

end Hw
