import Armd64.Lib.Code

/-!
# Structures as 64-bit words

A codec says how the values of a type are laid out in a fixed number of words. The parts of a
structure stand one after the other, so a codec for it is a product of codecs for its members.
`Codec.read_of_holds` reads back what is in memory.
-/

namespace Hw

/-- A layout of the values of `α` in `size` words. -/
structure Codec (α : Type) where
  size : Nat
  enc : α → List (BitVec 64)
  dec : List (BitVec 64) → α
  length_enc : ∀ a, (enc a).length = size
  dec_enc : ∀ a rest, dec (enc a ++ rest) = a

namespace Codec

variable {α β : Type}

def word : Codec (BitVec 64) where
  size := 1
  enc a := [a]
  dec ws := ws.headD 0
  length_enc _ := rfl
  dec_enc _ _ := rfl

/-- Two 32-bit members, the first in the lower half. -/
def halves : Codec (BitVec 32 × BitVec 32) where
  size := 1
  enc a := [a.2 ++ a.1]
  dec ws := ((ws.headD 0).extractLsb' 0 32, (ws.headD 0).extractLsb' 32 32)
  length_enc _ := rfl
  dec_enc a _ := by
    show ((a.2 ++ a.1).extractLsb' 0 32, (a.2 ++ a.1).extractLsb' 32 32) = a
    rw [BitVec.extractLsb'_append_eq_right, BitVec.extractLsb'_append_eq_left]

/-- A 128-bit member, the lower word first. -/
def double : Codec (BitVec 128) where
  size := 2
  enc a := [a.extractLsb' 0 64, a.extractLsb' 64 64]
  dec ws := ws.getD 1 0 ++ ws.headD 0
  length_enc _ := rfl
  dec_enc a _ := by
    show a.extractLsb' 64 64 ++ a.extractLsb' 0 64 = a
    rw [BitVec.extractLsb'_append_extractLsb'_eq_extractLsb' (show 64 = 0 + 64 from rfl),
      BitVec.extractLsb'_eq_self]

def prod (c : Codec α) (d : Codec β) : Codec (α × β) where
  size := c.size + d.size
  enc a := c.enc a.1 ++ d.enc a.2
  dec ws := (c.dec ws, d.dec (ws.drop c.size))
  length_enc a := by rw [List.length_append, c.length_enc, d.length_enc]
  dec_enc a rest := by
    rw [List.append_assoc, c.dec_enc, List.drop_left' (c.length_enc a.1), d.dec_enc]

/-- The values of `β` as those of `α`. -/
def map (c : Codec α) (f : α → β) (g : β → α) (h : ∀ b, f (g b) = b) : Codec β where
  size := c.size
  enc b := c.enc (g b)
  dec ws := f (c.dec ws)
  length_enc b := c.length_enc (g b)
  dec_enc b rest := by rw [c.dec_enc, h]

theorem drop_flatMap_enc (c : Codec α) {xs : List α} {i : Nat} {a : α} (h : xs[i]? = some a)
    (rest : List (BitVec 64)) :
    ∃ rest', (xs.flatMap c.enc ++ rest).drop (i * c.size) = c.enc a ++ rest' := by
  induction xs generalizing i with
  | nil => cases h
  | cons x xs ih =>
    cases i with
    | zero =>
      cases h
      exact ⟨xs.flatMap c.enc ++ rest, by simp⟩
    | succ i =>
      obtain ⟨rest', hrest⟩ := ih h
      refine ⟨rest', ?_⟩
      rw [List.flatMap_cons, List.append_assoc, Nat.succ_mul, Nat.add_comm, ← List.drop_drop,
        List.drop_left' (c.length_enc x), hrest]

def vector (c : Codec α) (n : Nat) : Codec (Vector α n) where
  size := n * c.size
  enc v := v.toList.flatMap c.enc
  dec ws := Vector.ofFn fun i => c.dec (ws.drop (i * c.size))
  length_enc v := by
    rw [List.length_flatMap, List.map_congr_left fun a _ => c.length_enc a, List.map_const',
      List.sum_replicate_nat, Vector.length_toList]
  dec_enc v rest := by
    apply Vector.ext
    intro i hi
    have hget : v.toList[i]? = some v[i] := by simp [hi]
    obtain ⟨rest', hrest⟩ := c.drop_flatMap_enc hget rest
    rw [Vector.getElem_ofFn, hrest, c.dec_enc]

end Codec

/-! ## Memory -/

def wordBytes (ws : List (BitVec 64)) : List (BitVec 8) := ws.flatMap (toBytes 8)

/-- The `n` words from address `a` on. -/
def fetchWords (mem : Memory) (a : BitVec 64) (n : Nat) : List (BitVec 64) :=
  (List.range n).map fun i => fetch 8 mem (a + BitVec.ofNat 64 (8 * i))

theorem length_toBytes (n : Nat) (v : BitVec (8 * n)) : (toBytes n v).length = n := by
  rw [toBytes, List.length_map, List.length_range]

theorem length_flatMap_of_length {α β : Type} {f : α → List β} {n : Nat}
    (h : ∀ x, (f x).length = n) (xs : List α) : (xs.flatMap f).length = xs.length * n := by
  rw [List.length_flatMap, List.map_congr_left fun x _ => h x, List.map_const',
    List.sum_replicate_nat]

theorem length_wordBytes (ws : List (BitVec 64)) : (wordBytes ws).length = 8 * ws.length := by
  rw [wordBytes, length_flatMap_of_length (length_toBytes 8), Nat.mul_comm]

theorem fetchWords_of_holds {mem : Memory} {a : BitVec 64} {ws : List (BitVec 64)}
    (h : Holds mem a (wordBytes ws)) : fetchWords mem a ws.length = ws := by
  induction ws generalizing a with
  | nil => rfl
  | cons w ws ih =>
    rw [wordBytes, List.flatMap_cons, holds_append, length_toBytes] at h
    have hstep : ∀ i, a + BitVec.ofNat 64 (8 * (i + 1)) =
        a + BitVec.ofNat 64 8 + BitVec.ofNat 64 (8 * i) := fun i => by
      rw [BitVec.add_assoc, BitVec.ofNat_add_ofNat]
      congr 2
      omega
    rw [fetchWords, List.length_cons, List.range_succ_eq_map, List.map_cons, List.map_map]
    congr 1
    · rw [Nat.mul_zero, BitVec.add_zero]
      exact fetch_of_holds h.1
    · refine Eq.trans ?_ (ih h.2)
      exact List.map_congr_left fun i _ => by rw [Function.comp_apply, Nat.succ_eq_add_one, hstep]

theorem fetchWords_second (mem : Memory) (a : BitVec 64) (n : Nat) :
    ((fetchWords mem a (1 + (1 + n))).drop 1).headD 0 = fetch 8 mem (a + 8) := by
  rw [fetchWords, Nat.add_comm, Nat.add_comm 1 n, List.range_succ_eq_map, List.range_succ_eq_map]
  rfl

namespace Codec

variable {α : Type} (c : Codec α)

/-- The value is written from address `a` on. -/
def write (mem : Memory) (a : BitVec 64) (x : α) : Memory := store mem a (wordBytes (c.enc x))

/-- The value at address `a`. -/
def read (mem : Memory) (a : BitVec 64) : α := c.dec (fetchWords mem a c.size)

theorem read_of_holds {mem : Memory} {a : BitVec 64} {x : α}
    (h : Holds mem a (wordBytes (c.enc x))) : c.read mem a = x := by
  have hdec := c.dec_enc x []
  rwa [List.append_nil, ← fetchWords_of_holds h, c.length_enc] at hdec

end Codec

end Hw
