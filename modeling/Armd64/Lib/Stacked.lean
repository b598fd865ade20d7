import Armd64.Lib.Codec

/-!
# Blocks in a memory of numbered cells

* `Reads read size a xs`: the values `xs` are read from address `a` on, one every `size` cells.
* `readUntil`: the values up to a terminator.
* `Stacked mem top blocks lo`: blocks that were pushed one below the other, from `top` down to `lo`.
-/

namespace Hw

/-! ## Reading -/

section

variable {α β : Type}

/-- The values from address `a` on, one every `size` cells. -/
def Reads (read : Nat → α) (size a : Nat) (xs : List α) : Prop :=
  ∀ i x, xs[i]? = some x → read (a + size * i) = x

variable {read read' : Nat → α} {size a : Nat} {xs ys : List α}

theorem Reads.nil : Reads read size a [] := by
  intro i x h
  cases h

theorem reads_append :
    Reads read size a (xs ++ ys) ↔
      Reads read size a xs ∧ Reads read size (a + size * xs.length) ys := by
  constructor
  · intro h
    refine ⟨fun i x hx => ?_, fun i y hy => ?_⟩
    · exact h i x (List.getElem?_append_left (List.getElem?_eq_some_iff.mp hx).1 ▸ hx)
    · rw [Nat.add_assoc, ← Nat.mul_add]
      apply h
      rw [List.getElem?_append_right (Nat.le_add_right _ _), Nat.add_sub_cancel_left, hy]
  · rintro ⟨hx, hy⟩ i z hz
    rcases Nat.lt_or_ge i xs.length with hi | hi
    · exact hx i z (List.getElem?_append_left hi ▸ hz)
    · rw [List.getElem?_append_right hi] at hz
      have := hy _ z hz
      rwa [Nat.add_assoc, ← Nat.mul_add, Nat.add_sub_cancel' hi] at this

theorem reads_singleton {x : α} : Reads read size a [x] ↔ read a = x := by
  constructor
  · intro h
    exact h 0 x rfl
  · intro hx i y hy
    cases i with
    | zero =>
      cases hy
      exact hx
    | succ i => cases hy

theorem reads_cons {x : α} :
    Reads read size a (x :: xs) ↔ read a = x ∧ Reads read size (a + size) xs := by
  rw [← List.singleton_append, reads_append, reads_singleton, List.length_singleton, Nat.mul_one]

theorem Reads.congr (h : Reads read 1 a xs)
    (heq : ∀ i, a ≤ i → i < a + xs.length → read' i = read i) : Reads read' 1 a xs := by
  intro i x hx
  have hi := (List.getElem?_eq_some_iff.mp hx).1
  rw [heq _ (Nat.le_add_right _ _) (by omega)]
  exact h i x hx

/-- Values that are each stored as `n` others, which `dec` reads. -/
theorem Reads.flatMap {enc : β → List α} {dec : Nat → β} {n : Nat} {zs : List β}
    (hlen : ∀ z, (enc z).length = n) (hdec : ∀ a z, Reads read size a (enc z) → dec a = z)
    (h : Reads read size a (zs.flatMap enc)) : Reads dec (size * n) a zs := by
  induction zs generalizing a with
  | nil => exact Reads.nil
  | cons z zs ih =>
    rw [List.flatMap_cons, reads_append, hlen] at h
    exact reads_cons.mpr ⟨hdec a z h.1, ih h.2⟩

/-- The values up to the first at which `stop` holds, and the address after that one. -/
def readUntil (read : Nat → α) (stop : α → Bool) (size : Nat) : Nat → Nat → Option (List α × Nat)
  | 0, _ => none
  | fuel + 1, a =>
    if stop (read a) then some ([], a + size)
    else (readUntil read stop size fuel (a + size)).map fun r => (read a :: r.1, r.2)

theorem readUntil_eq (stop : α → Bool) {x : α} {fuel : Nat} (h : Reads read size a (xs ++ [x]))
    (hxs : ∀ y ∈ xs, stop y = false) (hx : stop x) (hfuel : xs.length < fuel) :
    readUntil read stop size fuel a = some (xs, a + size * (xs ++ [x]).length) := by
  induction xs generalizing a fuel with
  | nil =>
    obtain ⟨fuel, rfl⟩ := Nat.exists_eq_add_of_lt hfuel
    rw [List.nil_append, reads_singleton] at h
    simp [readUntil, h, hx]
  | cons y ys ih =>
    cases fuel with
    | zero => cases hfuel
    | succ fuel =>
      rw [List.cons_append, reads_cons] at h
      have hy : stop y = false := hxs y List.mem_cons_self
      have hrest := ih h.2 (fun z hz => hxs z (List.mem_cons_of_mem y hz))
        (Nat.lt_of_succ_lt_succ hfuel)
      rw [readUntil, h.1, hy, if_neg Bool.false_ne_true, hrest, Option.map_some, List.cons_append,
        List.length_cons, Nat.mul_succ, Nat.add_comm (size * _), Nat.add_assoc]

end

/-! ## Words -/

section

variable {mem : Nat → BitVec 8} {a : Nat}

/-- The little-endian word at address `a`. -/
def wordAt (mem : Nat → BitVec 8) (a : Nat) : BitVec 64 := ofWords 8 fun i => mem (a + i)

/-- Two words, one after the other. -/
def pairAt (mem : Nat → BitVec 8) (a : Nat) : BitVec 64 × BitVec 64 :=
  (wordAt mem a, wordAt mem (a + 8))

theorem wordAt_eq {w : BitVec 64} (h : Reads mem 1 a (toBytes 8 w)) : wordAt mem a = w := by
  refine ofWords_eq (by decide) fun i hi => ?_
  have := h i _ (getElem?_toBytes w hi)
  rwa [Nat.one_mul] at this

theorem reads_words {ws : List (BitVec 64)} (h : Reads mem 1 a (wordBytes ws)) :
    Reads (wordAt mem) 8 a ws :=
  h.flatMap (length_toBytes 8) fun _ _ => wordAt_eq

theorem reads_pairs {ps : List (BitVec 64 × BitVec 64)}
    (h : Reads (wordAt mem) 8 a (ps.flatMap fun p => [p.1, p.2])) :
    Reads (pairAt mem) 16 a ps := by
  refine Reads.flatMap (n := 2) (fun _ => rfl) (fun a p hp => ?_) h
  rw [reads_cons, reads_singleton] at hp
  exact Prod.ext hp.1 hp.2

end

/-! ## Blocks -/

section

variable {β : Type}

structure Block (β : Type) where
  addr : Nat
  data : List β

def Block.limit (b : Block β) : Nat := b.addr + b.data.length

/-- Blocks that were pushed one below the other from `top` on. The last one starts at `lo`. -/
inductive Stacked (mem : Nat → β) (top : Nat) : List (Block β) → Nat → Prop
  | nil : Stacked mem top [] top
  | push {blocks : List (Block β)} {b : Block β} :
    Stacked mem top blocks b.limit → Reads mem 1 b.addr b.data →
      Stacked mem top (blocks ++ [b]) b.addr

namespace Stacked

variable {mem mem' : Nat → β} {top lo : Nat} {blocks : List (Block β)}

section

variable (h : Stacked mem top blocks lo)

include h

theorem inside : lo ≤ top ∧ ∀ b ∈ blocks, lo ≤ b.addr ∧ b.limit ≤ top := by
  induction h with
  | nil => exact ⟨Nat.le_refl top, fun b hb => by cases hb⟩
  | @push blocks c _ _ ih =>
    have hc : c.addr ≤ c.limit := Nat.le_add_right _ _
    refine ⟨Nat.le_trans hc ih.1, fun b hb => ?_⟩
    rcases List.mem_append.mp hb with hb | hb
    · exact ⟨Nat.le_trans hc (ih.2 b hb).1, (ih.2 b hb).2⟩
    · obtain rfl := List.mem_singleton.mp hb
      exact ⟨Nat.le_refl _, ih.1⟩

theorem holds : ∀ b ∈ blocks, Reads mem 1 b.addr b.data := by
  induction h with
  | nil =>
    intro b hb
    cases hb
  | push _ hc ih =>
    intro b hb
    rcases List.mem_append.mp hb with hb | hb
    · exact ih b hb
    · obtain rfl := List.mem_singleton.mp hb
      exact hc

theorem apart : blocks.Pairwise fun b c => c.limit ≤ b.addr := by
  induction h with
  | nil => exact .nil
  | push hstack _ ih =>
    refine List.pairwise_append.mpr ⟨ih, List.pairwise_singleton _ _, fun b hb c hc => ?_⟩
    obtain rfl := List.mem_singleton.mp hc
    exact (hstack.inside.2 b hb).1

theorem congr (heq : ∀ i, lo ≤ i → i < top → mem' i = mem i) : Stacked mem' top blocks lo := by
  induction h with
  | nil => exact .nil
  | @push blocks b hstack hb ih =>
    have hle : b.addr ≤ b.limit := Nat.le_add_right _ _
    have htop := hstack.inside.1
    refine .push (ih fun i hi => heq i (Nat.le_trans hle hi)) (hb.congr fun i hi hlt => ?_)
    exact heq i hi (Nat.lt_of_lt_of_le hlt htop)

end

end Stacked

end

end Hw
