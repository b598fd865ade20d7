import Armd64.Lib.Words

/-!
# Code in memory

Little-endian words and lists of bytes in a memory of 64-bit addresses. `Holds mem a bytes`: the
bytes are at address `a`. `ToJump step s s'`: the machine runs straight on from `s` and its first
jump gives `s'`.
-/

namespace Hw

/-! ## Memory -/

abbrev Memory := BitVec 64 → BitVec 8

/-- The `n` bytes of a word, the lowest first. -/
def toBytes (n : Nat) (v : BitVec (8 * n)) : List (BitVec 8) :=
  (List.range n).map fun i => v.extractLsb' (8 * i) 8

/-- The word of `n` bytes at address `a`. -/
def fetch (n : Nat) (mem : Memory) (a : BitVec 64) : BitVec (8 * n) :=
  ofWords n fun i => mem (a + BitVec.ofNat 64 i)

/-- The memory after `bytes` are written from address `a` on. -/
def store (mem : Memory) (a : BitVec 64) (bytes : List (BitVec 8)) : Memory :=
  fun b => bytes.getD (b - a).toNat (mem b)

/-- The bytes from address `a` on are `bytes`. -/
def Holds (mem : Memory) (a : BitVec 64) (bytes : List (BitVec 8)) : Prop :=
  ∀ i b, bytes[i]? = some b → mem (a + BitVec.ofNat 64 i) = b

variable {mem : Memory} {a : BitVec 64} {xs ys : List (BitVec 8)}

theorem holds_store (h : xs.length ≤ 2 ^ 64) : Holds (store mem a xs) a xs := by
  intro i b hb
  have hi := (List.getElem?_eq_some_iff.mp hb).1
  have hsub : (a + BitVec.ofNat 64 i - a).toNat = i := by
    rw [BitVec.add_comm, BitVec.add_sub_cancel, toNat_ofNat_of_lt (by omega)]
  rw [store, hsub, List.getD_eq_getElem?_getD, hb, Option.getD_some]

theorem store_outside {b c : BitVec 64} (h : xs.length ≤ (c - b).toNat) :
    store mem b xs c = mem c := by
  rw [store, List.getD_eq_getElem?_getD, List.getElem?_eq_none h, Option.getD_none]

theorem Holds.store {b : BitVec 64} (h : Holds mem a xs)
    (hd : ∀ i < xs.length, ys.length ≤ (a + BitVec.ofNat 64 i - b).toNat) :
    Holds (store mem b ys) a xs := by
  intro i c hc
  have hi := (List.getElem?_eq_some_iff.mp hc).1
  rw [store_outside (hd i hi)]
  exact h i c hc

theorem holds_append :
    Holds mem a (xs ++ ys) ↔ Holds mem a xs ∧ Holds mem (a + BitVec.ofNat 64 xs.length) ys := by
  constructor
  · refine fun h => ⟨fun i b hb => ?_, fun i b hb => ?_⟩
    · exact h i b (List.getElem?_append_left (List.getElem?_eq_some_iff.mp hb).1 ▸ hb)
    · rw [BitVec.add_assoc, BitVec.ofNat_add_ofNat]
      refine h _ b ?_
      rw [List.getElem?_append_right (Nat.le_add_right _ _), Nat.add_sub_cancel_left, hb]
  · rintro ⟨hx, hy⟩ i b hb
    rcases Nat.lt_or_ge i xs.length with hi | hi
    · exact hx i b (List.getElem?_append_left hi ▸ hb)
    · rw [List.getElem?_append_right hi] at hb
      have := hy _ b hb
      rwa [BitVec.add_assoc, BitVec.ofNat_add_ofNat, Nat.add_sub_cancel' hi] at this

theorem Holds.head {b : BitVec 8} (h : Holds mem a (b :: xs)) : mem a = b := by
  simpa using h 0 b rfl

theorem holds_cons {b : BitVec 8} :
    Holds mem a (b :: xs) ↔ mem a = b ∧ Holds mem (a + 1#64) xs := by
  rw [← List.singleton_append, holds_append]
  refine and_congr ⟨Holds.head, fun hb i c hc => ?_⟩ Iff.rfl
  cases i with
  | zero =>
    cases hc
    simpa using hb
  | succ i => cases hc

theorem getElem?_toBytes {n i : Nat} (v : BitVec (8 * n)) (hi : i < n) :
    (toBytes n v)[i]? = some (v.extractLsb' (8 * i) 8) := by
  simp [toBytes, hi]

theorem fetch_of_holds {n : Nat} {v : BitVec (8 * n)} (h : Holds mem a (toBytes n v)) :
    fetch n mem a = v :=
  ofWords_eq (by decide) fun i hi => h i _ (getElem?_toBytes v hi)

/-! ## Straight-line execution -/

section

variable {σ : Type} (step : σ → Option (σ × Bool))

/-- The first jump of the machine from `s` leads to `s'`. A step gives the next state and whether it
jumped, or nothing for an unknown instruction. -/
inductive ToJump : σ → σ → Prop
  | jump {s s' : σ} : step s = some (s', true) → ToJump s s'
  | next {s t s' : σ} : step s = some (t, false) → ToJump t s' → ToJump s s'

variable {step}

theorem ToJump.unique {s s₁ s₂ : σ} (h₁ : ToJump step s s₁) (h₂ : ToJump step s s₂) : s₁ = s₂ := by
  induction h₁ with
  | jump h =>
    cases h₂ with
    | jump h' => simpa [h] using h'
    | next h' _ => simp [h] at h'
  | next h _ ih =>
    cases h₂ with
    | jump h' => simp [h] at h'
    | next h' hrest =>
      have heq : _ = _ := Option.some.inj (h.symm.trans h')
      cases heq
      exact ih hrest

end

end Hw
