import Mathlib.Tactic.Common

/-!
# Computations that log and may fail

A traced computation has a log of events, and a value unless it failed. The log of a failed
computation ends where it failed.

* `Traced.All P t`: every event satisfies `P`. `Traced.Ensures P I t`: and the value satisfies `I`.
  `Traced.Within P n t`: and there are at most `n` events.
* `Traced.foldlM_lockstep`: two loops over one list, whose states stay related.
* `Traced.Acts step xs a l b`: the elements of `xs` lead from `a` to `b` with the log `l`. A loop
  that returns acts so (`Traced.acts_foldlM`).
* `Traced.Le t u`: `u` goes on where `t` failed. A computation with a budget grows with it
  (`Traced.Growing`), and `Traced.Returns P F` says that some budget is enough if all events satisfy
  `P`.
-/

namespace Hw

/-- A computation with events `ε` and a value `α`. -/
structure Traced (ε α : Type) where
  log : List ε
  value : Option α

namespace Traced

variable {ε α β : Type}

/-- The value, without events. -/
def ret (a : α) : Traced ε α := ⟨[], some a⟩

def fail : Traced ε α := ⟨[], none⟩

/-- One event. -/
def emit (e : ε) (a : α) : Traced ε α := ⟨[e], some a⟩

/-- A computation without events. -/
def ofOption (a : Option α) : Traced ε α := ⟨[], a⟩

/-- One computation after the other. -/
def bind (t : Traced ε α) (f : α → Traced ε β) : Traced ε β :=
  match t.value with
  | none => ⟨t.log, none⟩
  | some a => ⟨t.log ++ (f a).log, (f a).value⟩

instance : Monad (Traced ε) where
  pure := ret
  bind := bind

/-- Every event satisfies `P`. -/
def All (P : ε → Prop) (t : Traced ε α) : Prop := ∀ e ∈ t.log, P e

variable {P : ε → Prop}

variable {t u : Traced ε α} {f g : α → Traced ε β} {a : α} {γ : Type} {n k : Nat}
  {F : Nat → Traced ε α}

theorem all_bind : (t >>= f).All P ↔ t.All P ∧ ∀ a, t.value = some a → (f a).All P := by
  show (t.bind f).All P ↔ _
  rw [bind, All, All]
  split
  · rename_i hnone
    simp [hnone]
  · rename_i a ha
    rw [List.forall_mem_append]
    simp [ha, All]

@[simp] theorem all_ret : (ret a : Traced ε α).All P := by simp [All, ret]

@[simp] theorem all_pure {a : α} : (pure a : Traced ε α).All P := all_ret

@[simp] theorem all_fail : (fail : Traced ε α).All P := by simp [All, fail]

@[simp] theorem all_emit {e : ε} {a : α} : (emit e a).All P ↔ P e := by simp [All, emit]

@[simp] theorem all_ofOption {a : Option α} : (ofOption a : Traced ε α).All P := by
  simp [All, ofOption]

/-! ## Values and logs of a sequence -/

variable {t : Traced ε α}

theorem bind_none {f : α → Traced ε β} (h : t.value = none) : t >>= f = ⟨t.log, none⟩ := by
  show t.bind f = _
  rw [bind, h]

theorem bind_some (h : t.value = some a) : t >>= f = ⟨t.log ++ (f a).log, (f a).value⟩ := by
  show t.bind f = _
  rw [bind, h]

theorem value_bind {b : β} :
    (t >>= f).value = some b ↔ ∃ a, t.value = some a ∧ (f a).value = some b := by
  cases h : t.value with
  | none => simp [bind_none h]
  | some a => simp [bind_some h]

theorem value_bind_eq (t : Traced ε α) (f : α → Traced ε β) :
    (t >>= f).value = t.value.bind fun a => (f a).value := by
  cases h : t.value with
  | none => rw [bind_none h, Option.bind_none]
  | some a => rw [bind_some h, Option.bind_some]

theorem bind_assoc (t : Traced ε α) (f : α → Traced ε β) (g : β → Traced ε γ) :
    t >>= f >>= g = t >>= fun a => f a >>= g := by
  cases ht : t.value with
  | none => rw [bind_none (by rw [bind_none ht]), bind_none ht, bind_none ht]
  | some a =>
    rw [bind_some ht]
    cases hf : (f a).value with
    | none => rw [bind_none rfl, bind_some ht, bind_none hf]
    | some b => rw [bind_some rfl, bind_some ht, bind_some hf, List.append_assoc]

theorem bind_pure (t : Traced ε α) : t >>= pure = t := by
  cases ht : t.value with
  | none => rw [bind_none ht, ← ht]
  | some a =>
    rw [bind_some ht]
    show (⟨t.log ++ [], some a⟩ : Traced ε α) = t
    rw [List.append_nil, ← ht]

instance : LawfulMonad (Traced ε) := .mk' _ bind_pure (fun _ _ => bind_some rfl) bind_assoc

theorem bind_congr_of_value (h : ∀ a, t.value = some a → f a = g a) : t >>= f = t >>= g := by
  cases ht : t.value with
  | none => rw [bind_none ht, bind_none ht]
  | some a => rw [bind_some ht, bind_some ht, h a ht]

theorem ofOption_some (a : α) : (ofOption (some a) : Traced ε α) = pure a := rfl

theorem ofOption_map_bind (a : Option α) (g : α → γ) (f : γ → Traced ε β) :
    ofOption (a.map g) >>= f = ofOption a >>= fun x => f (g x) := by
  cases a with
  | none => rfl
  | some a => rfl

theorem ofOption_comm (a : Option α) (b : Option β) (f : α → β → Traced ε γ) :
    (ofOption a >>= fun x => ofOption b >>= fun y => f x y) =
      ofOption b >>= fun y => ofOption a >>= fun x => f x y := by
  cases a with
  | none => cases b <;> rfl
  | some a => cases b <;> rfl

/-! ## Invariants

The rules for a computation whose state satisfies `I` between its steps. -/

/-- Every event satisfies `P`, and the value, if there is one, satisfies `I`. -/
structure Ensures (P : ε → Prop) (I : α → Prop) (t : Traced ε α) : Prop where
  all : t.All P
  value : ∀ {a}, t.value = some a → I a

section

variable {I : α → Prop} {J : β → Prop}

variable {a : α} {e : ε} {f : α → Traced ε β} {xs : List β}

theorem Ensures.pure (h : I a) : Ensures P I (pure a : Traced ε α) :=
  ⟨all_pure, fun ha => by cases ha; exact h⟩

theorem Ensures.fail : Ensures P I (fail : Traced ε α) := ⟨all_fail, fun ha => by cases ha⟩

theorem Ensures.ofOption {a : Option α} (h : ∀ b, a = some b → I b) :
    Ensures P I (ofOption a : Traced ε α) := ⟨all_ofOption, fun ha => h _ ha⟩

theorem Ensures.emit (he : P e) (ha : I a) : Ensures P I (emit e a) :=
  ⟨all_emit.mpr he, fun hb => by cases hb; exact ha⟩

theorem Ensures.bind (ht : Ensures P I t) (hf : ∀ a, I a → Ensures P J (f a)) :
    Ensures P J (t >>= f) := by
  refine ⟨all_bind.mpr ⟨ht.all, fun a ha => (hf a (ht.value ha)).all⟩, fun hb => ?_⟩
  obtain ⟨a, ha, hb⟩ := value_bind.mp hb
  exact (hf a (ht.value ha)).value hb

theorem Ensures.emit_bind (he : P e) (hf : Ensures P J (f a)) :
    Ensures P J (Traced.emit e a >>= f) :=
  (Ensures.emit (I := (a = ·)) he rfl).bind fun _ hb => hb ▸ hf

theorem Ensures.foldlM {f : α → β → Traced ε α} (hf : ∀ a, ∀ x ∈ xs, I a → Ensures P I (f a x))
    (ha : I a) : Ensures P I (xs.foldlM f a) := by
  induction xs generalizing a with
  | nil => exact .pure ha
  | cons x xs ih =>
    refine (hf a x List.mem_cons_self ha).bind fun b hb => ?_
    exact ih (fun a y hy => hf a y (List.mem_cons_of_mem _ hy)) hb

end

variable {xs : List β}

/-- Two loops in lockstep: the states are related by what is left of the list. -/
theorem foldlM_lockstep {f : α → β → Traced ε α} {g : γ → β → Traced ε γ}
    {R : List β → α → γ → Prop} {Q : α → γ → Prop}
    (step : ∀ x xs a c, R (x :: xs) a c → Option.Rel (R xs) (f a x).value (g c x).value)
    (last : ∀ a c, R [] a c → Q a c) {c : γ} (h : R xs a c) :
    Option.Rel Q (xs.foldlM f a).value (xs.foldlM g c).value := by
  induction xs generalizing a c with
  | nil => exact .some (last a c h)
  | cons x xs ih =>
    have hstep := step x xs a c h
    rw [List.foldlM_cons, List.foldlM_cons]
    cases ha : (f a x).value with
    | none =>
      rw [ha] at hstep
      cases hc : (g c x).value with
      | none =>
        rw [bind_none ha, bind_none hc]
        exact .none
      | some c' =>
        rw [hc] at hstep
        cases hstep
    | some a' =>
      rw [ha] at hstep
      cases hc : (g c x).value with
      | none =>
        rw [hc] at hstep
        cases hstep
      | some c' =>
        rw [hc] at hstep
        cases hstep with
        | some h =>
          rw [bind_some ha, bind_some hc]
          exact ih h

/-! ## The log of a loop -/

/-- The elements of a list act on a state one after another, and each has its part of the log. -/
inductive Acts (step : β → α → List ε → α → Prop) : List β → α → List ε → α → Prop
  | nil {a : α} : Acts step [] a [] a
  | cons {x : β} {xs : List β} {a b c : α} {l m : List ε} (h : step x a l b)
    (rest : Acts step xs b m c) : Acts step (x :: xs) a (l ++ m) c

section

variable {step : β → α → List ε → α → Prop} {a b c : α} {l m : List ε}

theorem Acts.append {ys : List β} (h : Acts step xs a l b) (h' : Acts step ys b m c) :
    Acts step (xs ++ ys) a (l ++ m) c := by
  induction h with
  | nil => exact h'
  | cons hx _ ih =>
    rw [List.append_assoc]
    exact .cons hx (ih h')

theorem Acts.single {x : β} (h : step x a l b) : Acts step [x] a l b :=
  List.append_nil l ▸ .cons h .nil

theorem Acts.map {g : γ → β} {ys : List γ} (h : Acts (fun y => step (g y)) ys a l b) :
    Acts step (ys.map g) a l b := by
  induction h with
  | nil => exact .nil
  | cons hx _ ih => exact .cons hx ih

theorem log_bind_pure (t : Traced ε α) (f : α → β) : (t >>= fun a => pure (f a)).log = t.log := by
  cases h : t.value with
  | none => rw [bind_none h]
  | some a => exact (congrArg log (bind_some h)).trans (List.append_nil _)

theorem value_log_bind {f : α → Traced ε β} {b : β} (h : (t >>= f).value = some b) :
    ∃ a, t.value = some a ∧ (f a).value = some b ∧ (t >>= f).log = t.log ++ (f a).log := by
  obtain ⟨a, ha, hb⟩ := value_bind.mp h
  exact ⟨a, ha, hb, by rw [bind_some ha]⟩

variable {f : α → β → Traced ε α}
  (hf : ∀ {x a b}, (f a x).value = some b → step x a (f a x).log b)

include hf

theorem acts_foldlM (h : (xs.foldlM f a).value = some b) :
    Acts step xs a (xs.foldlM f a).log b := by
  induction xs generalizing a with
  | nil =>
    cases h
    exact .nil
  | cons x xs ih =>
    obtain ⟨a', ha', hb, hlog⟩ := value_log_bind h
    rw [List.foldlM_cons, hlog]
    exact .cons (hf ha') (ih hb)

/-- An event of a loop, also of one that fails, comes after the whole logs of the elements before
its own. -/
theorem mem_log_foldlM {e : ε} (he : e ∈ (xs.foldlM f a).log) :
    ∃ before x after b l m, xs = before ++ x :: after ∧ (xs.foldlM f a).log = l ++ m ∧
      Acts step before a l b ∧ e ∈ m ∧ e ∈ (f b x).log := by
  induction xs generalizing a with
  | nil => cases he
  | cons x xs ih =>
    by_cases hx : e ∈ (f a x).log
    · exact ⟨[], x, xs, a, [], _, rfl, rfl, .nil, he, hx⟩
    rw [List.foldlM_cons] at he ⊢
    cases hv : (f a x).value with
    | none =>
      rw [bind_none hv] at he
      exact absurd he hx
    | some a' =>
      rw [bind_some hv] at he ⊢
      obtain ⟨before, y, after, b, l, m, rfl, hlog, hacts, hm, hy⟩ :=
        ih ((List.mem_append.mp he).resolve_left hx)
      refine ⟨x :: before, y, after, b, (f a x).log ++ l, m, rfl, ?_, .cons (hf hv) hacts, hm, hy⟩
      show _ ++ _ = _
      rw [hlog, List.append_assoc]

end

/-! ## Bounded logs -/

/-- There are at most `n` events, and every one satisfies `P`. -/
structure Within (P : ε → Prop) (n : Nat) (t : Traced ε α) : Prop where
  all : t.All P
  length_le : t.log.length ≤ n

theorem Within.pure : Within P n (pure a : Traced ε α) := ⟨all_pure, Nat.zero_le n⟩

theorem Within.fail : Within P n (fail : Traced ε α) := ⟨all_fail, Nat.zero_le n⟩

theorem Within.mono (ht : Within P n t) (h : n ≤ k) : Within P k t :=
  ⟨ht.all, Nat.le_trans ht.length_le h⟩

theorem Within.bind (ht : Within P n t) (hf : ∀ a, t.value = some a → Within P k (f a)) :
    Within P (n + k) (t >>= f) := by
  refine ⟨all_bind.mpr ⟨ht.all, fun a ha => (hf a ha).all⟩, ?_⟩
  cases h : t.value with
  | none =>
    rw [bind_none h]
    exact Nat.le_add_right_of_le ht.length_le
  | some a =>
    rw [bind_some h, List.length_append]
    exact Nat.add_le_add ht.length_le (hf a h).length_le

theorem Within.emit_bind {e : ε} (he : P e) (hf : Within P n (f a)) :
    Within P (n + 1) (Traced.emit e a >>= f) :=
  ⟨(Ensures.emit_bind (J := fun _ => True) he ⟨hf.all, fun _ => trivial⟩).all,
    Nat.succ_le_succ hf.length_le⟩

theorem Within.ofOption_bind {a : Option α} (hf : ∀ x, a = some x → Within P n (f x)) :
    Within P n (ofOption a >>= f) := by
  cases a with
  | none => exact .fail
  | some x => exact hf x rfl

theorem Within.foldlM {f : α → β → Traced ε α} (hf : ∀ a, ∀ x ∈ xs, Within P k (f a x)) (a : α) :
    Within P (xs.length * k) (xs.foldlM f a) := by
  induction xs generalizing a with
  | nil => exact .pure
  | cons x xs ih =>
    rw [List.foldlM_cons, List.length_cons, Nat.succ_mul, Nat.add_comm]
    refine (hf a x List.mem_cons_self).bind fun b _ => ?_
    exact ih (fun a y hy => hf a y (List.mem_cons_of_mem _ hy)) b

/-! ## Budgets -/

/-- `u` is `t`, or goes on where `t` failed. -/
structure Le (t u : Traced ε α) : Prop where
  log : t.log ⊆ u.log
  value : ∀ {a}, t.value = some a → u = t

theorem Le.refl (t : Traced ε α) : Le t t := ⟨List.Subset.refl _, fun _ => rfl⟩

theorem Le.ofOption {a b : Option α} (h : ∀ r, a = some r → b = some r) :
    Le (ofOption a : Traced ε α) (ofOption b) :=
  ⟨List.Subset.refl _, fun {r} hr => by
    have hr : a = some r := hr
    rw [hr, h r hr]⟩

theorem Le.bind (htu : Le t u) (hfg : ∀ a, t.value = some a → Le (f a) (g a)) :
    Le (t >>= f) (u >>= g) := by
  cases ht : t.value with
  | none =>
    rw [bind_none ht]
    refine ⟨?_, fun h => by cases h⟩
    cases hu : u.value with
    | none => exact bind_none hu ▸ htu.log
    | some a =>
      rw [bind_some hu]
      exact List.subset_append_of_subset_left _ htu.log
  | some a =>
    rw [htu.value ht, bind_some ht, bind_some ht]
    refine ⟨?_, fun {b} hb => ?_⟩
    · exact List.append_subset.mpr ⟨List.subset_append_left _ _,
        List.subset_append_of_subset_right _ (hfg a ht).log⟩
    · rw [(hfg a ht).value hb]

theorem Le.all (htu : Le t u) (hu : u.All P) : t.All P :=
  fun e he => hu e (htu.log he)

theorem Le.value_eq (htu : Le t u) (ht : t.value = some a) : u.value = some a := by
  rw [htu.value ht, ht]

/-- A computation that goes on with a larger budget. -/
def Growing (F : Nat → Traced ε α) : Prop := ∀ {n m}, n ≤ m → Le (F n) (F m)

/-- Some budget is enough, if all events satisfy `P`. -/
def Returns (P : ε → Prop) (F : Nat → Traced ε α) : Prop :=
  (∀ n, (F n).All P) → ∃ n a, (F n).value = some a

theorem Returns.of_value (h : (F n).value = some a) : Returns P F := fun _ => ⟨n, a, h⟩

theorem Returns.bind {G : Nat → α → Traced ε β} (hF : Growing F) (hFr : Returns P F)
    (hG : ∀ n a, (F n).value = some a → Growing (G · a))
    (hGr : ∀ n a, (F n).value = some a → (F n).All P → Returns P (G · a)) :
    Returns P fun n => F n >>= G n := by
  intro hall
  obtain ⟨n, a, ha⟩ := hFr fun n => (all_bind.mp (hall n)).1
  have hgrow : Growing (G · a) := hG n a ha
  -- The second part runs with every budget from `n` on, so it has all its events.
  have hGall : ∀ m, (G m a).All P := by
    intro m
    have hmax := (all_bind.mp (hall (max n m))).2 a
      ((hF (Nat.le_max_left n m)).value_eq ha)
    exact (hgrow (Nat.le_max_right n m)).all hmax
  obtain ⟨m, b, hb⟩ := hGr n a ha (all_bind.mp (hall n)).1 hGall
  refine ⟨max n m, b, value_bind.mpr ⟨a, ?_, ?_⟩⟩
  · exact (hF (Nat.le_max_left n m)).value_eq ha
  · exact (hgrow (Nat.le_max_right n m)).value_eq hb

end Traced

end Hw
