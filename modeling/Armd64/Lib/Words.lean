import Mathlib.Algebra.Ring.Int.Defs
import Mathlib.Algebra.Ring.Nat
import Mathlib.Tactic.Common

/-!
# Vectors built from words

The fields of a vector of words (`ofWords`) and of a word that is built from fields under their
masks, and the signed numbers that a narrower field can hold.
-/

namespace Hw

variable {w : Nat}

variable {n i k len : Nat} {q : Nat → BitVec w}

theorem toNat_ofNat_of_lt (h : n < 2 ^ w) : (BitVec.ofNat w n).toNat = n := by
  rw [BitVec.toNat_ofNat, Nat.mod_eq_of_lt h]

def ofWords : (n : Nat) → (Nat → BitVec w) → BitVec (w * n)
  | 0, _ => 0#(w * 0)
  | n + 1, q => (q n ++ ofWords n q).cast (by rw [Nat.mul_succ, Nat.add_comm])

theorem mul_add_lt_mul (hi : i < n) (hk : k < w) : w * i + k < w * n :=
  calc w * i + k < w * i + w := by omega
    _ = w * (i + 1) := (Nat.mul_succ w i).symm
    _ ≤ w * n := Nat.mul_le_mul_left w hi

theorem getLsbD_ofWords (q : Nat → BitVec w) (hi : i < n) (hk : k < w) :
    (ofWords n q).getLsbD (w * i + k) = (q i).getLsbD k := by
  induction n with
  | zero => omega
  | succ n ih =>
    rw [ofWords, BitVec.getLsbD_cast, BitVec.getLsbD_append]
    rcases Nat.lt_succ_iff_lt_or_eq.mp hi with hlt | rfl
    · rw [if_pos (mul_add_lt_mul hlt hk), ih hlt]
    · rw [if_neg (by omega), Nat.add_sub_cancel_left]

theorem ofWords_eq {v : BitVec (w * n)} (hw : 0 < w) (h : ∀ i < n, q i = v.extractLsb' (w * i) w) :
    ofWords n q = v := by
  apply BitVec.eq_of_getLsbD_eq
  intro k hk
  have hlt : k / w < n := Nat.div_lt_of_lt_mul hk
  have hmod : k % w < w := Nat.mod_lt _ hw
  have hsplit : k = w * (k / w) + k % w := (Nat.div_add_mod k w).symm
  rw [hsplit, getLsbD_ofWords _ hlt hmod, h _ hlt, BitVec.getLsbD_extractLsb']
  simp [hmod]

theorem ofWords_congr {q' : Nat → BitVec w} (h : ∀ i < n, q i = q' i) :
    ofWords n q = ofWords n q' := by
  induction n with
  | zero => rfl
  | succ n ih =>
    rw [ofWords, ofWords, h n (Nat.lt_succ_self n), ih fun i hi => h i (Nat.lt_succ_of_lt hi)]

theorem extract_ofWords_sub (q : Nat → BitVec w) (hi : i < n) (hk : k + len ≤ w) :
    (ofWords n q).extractLsb' (w * i + k) len = (q i).extractLsb' k len := by
  apply BitVec.eq_of_getLsbD_eq
  intro j hj
  rw [BitVec.getLsbD_extractLsb', BitVec.getLsbD_extractLsb', Nat.add_assoc,
    getLsbD_ofWords q hi (by omega)]

theorem extract_extract {x : BitVec w} (hk : k + len ≤ n) :
    (x.extractLsb' i n).extractLsb' k len = x.extractLsb' (i + k) len := by
  apply BitVec.eq_of_getLsbD_eq
  intro j hj
  simp [hj, show k + j < n by omega, Nat.add_assoc]

theorem getLsbD_mask {m : BitVec w} (hm : m = (BitVec.allOnes k).setWidth w) (hi : i < w) :
    m.getLsbD i = decide (i < k) := by
  rw [hm, BitVec.getLsbD_setWidth, BitVec.getLsbD_allOnes, decide_eq_true hi, Bool.true_and]

section

variable {m : BitVec w} {s : Nat}

theorem extract_field {k : Nat} (h : (m <<< s).extractLsb' s k = BitVec.allOnes k)
    (x : BitVec w) : ((x &&& m) <<< s).extractLsb' s k = x.setWidth k := by
  rw [BitVec.shiftLeft_and_distrib, BitVec.extractLsb'_and, h, BitVec.and_allOnes]
  apply BitVec.eq_of_getLsbD_eq
  intro i hi
  -- the mask has all bits of the field, so they are bits of the word
  have hbit := congrArg (·.getLsbD i) h
  have hlt : s + i < w := by
    by_contra hge
    simp [hi, hge] at hbit
  rw [BitVec.getLsbD_extractLsb', BitVec.getLsbD_shiftLeft, BitVec.getLsbD_setWidth,
    Nat.add_sub_cancel_left]
  simp [hi, hlt]

theorem extract_other_field {i n : Nat} (h : (m <<< s).extractLsb' i n = 0#n) (x : BitVec w) :
    ((x &&& m) <<< s).extractLsb' i n = 0#n := by
  rw [BitVec.shiftLeft_and_distrib, BitVec.extractLsb'_and, h, BitVec.and_zero]

theorem field_and_eq_zero {mask : BitVec w} (h : (m <<< s) &&& mask = 0#w) (x : BitVec w) :
    ((x &&& m) <<< s) &&& mask = 0#w := by
  rw [BitVec.shiftLeft_and_distrib, BitVec.and_assoc, h, BitVec.and_zero]

end

/-- Clearing the low `k` bits rounds down to a multiple of `2 ^ k`. -/
theorem toNat_and_not_mask {m : BitVec w} (hm : m = (BitVec.allOnes k).setWidth w) (x : BitVec w) :
    (x &&& ~~~m).toNat = x.toNat / 2 ^ k * 2 ^ k := by
  have hshift : x &&& ~~~m = (x >>> k) <<< k := by
    refine BitVec.eq_of_getLsbD_eq fun i hi => ?_
    rw [BitVec.getLsbD_and, BitVec.getLsbD_not, getLsbD_mask hm hi, BitVec.getLsbD_shiftLeft,
      BitVec.getLsbD_ushiftRight]
    by_cases hk : i < k
    · simp [hi, hk]
    · simp [hi, hk, Nat.add_sub_cancel' (Nat.le_of_not_lt hk)]
  have hlt : x.toNat / 2 ^ k * 2 ^ k < 2 ^ w :=
    Nat.lt_of_le_of_lt (Nat.div_mul_le_self _ _) x.isLt
  rw [hshift, BitVec.toNat_shiftLeft, BitVec.toNat_ushiftRight, Nat.shiftRight_eq_div_pow,
    Nat.shiftLeft_eq, Nat.mod_eq_of_lt hlt]

/-- Truncation to `k + 1` bits keeps a signed number that fits in them, and no other. -/
theorem signExtend_setWidth_eq_iff (hk : k + 1 ≤ n) {x : BitVec n} :
    (x.setWidth (k + 1)).signExtend n = x ↔ -2 ^ k ≤ x.toInt ∧ x.toInt < 2 ^ k := by
  have hpow : (2 : Nat) ^ (k + 1) ∣ 2 ^ n := Nat.pow_dvd_pow 2 hk
  have htrunc : (x.toNat : Int).bmod (2 ^ (k + 1)) = x.toInt.bmod (2 ^ (k + 1)) := by
    rw [x.toInt_eq_toNat_bmod, Int.bmod_bmod_of_dvd hpow]
  rw [← BitVec.toInt_inj, BitVec.toInt_signExtend_of_le hk, BitVec.toInt_setWidth, htrunc,
    Int.bmod_eq_iff (Nat.two_pow_pos _), Int.sub_self, Nat.pow_succ]
  simp only [Int.dvd_zero, and_true]
  push_cast
  omega

/-- The bits of a signed number above those that hold it repeat its sign. -/
theorem fill_sign_eq_extract {w : Nat} {x : BitVec w} (hw : k + 1 + n = w)
    (hx : -2 ^ k ≤ x.toInt ∧ x.toInt < 2 ^ k) :
    BitVec.fill n (x.getLsbD k) = x.extractLsb' (k + 1) n := by
  have hsign := (signExtend_setWidth_eq_iff (by omega)).mpr hx
  apply BitVec.eq_of_getLsbD_eq
  intro i hi
  have hbit := congrArg (·.getLsbD (k + 1 + i)) hsign
  simp only [BitVec.getLsbD_signExtend, show k + 1 + i < w by omega,
    show ¬ k + 1 + i < k + 1 by omega, BitVec.msb_setWidth] at hbit
  simp [hi, ← hbit]

theorem extract_ofInt_eq_zero {w : Nat} (hn : n ≤ w) {z : Int} (hz : (2 ^ n : Int) ∣ z) :
    (BitVec.ofInt w z).extractLsb' 0 n = 0#n := by
  have hpow : ((2 ^ n : Nat) : Int) ∣ (2 ^ w : Nat) := by exact_mod_cast Nat.pow_dvd_pow 2 hn
  apply BitVec.eq_of_toNat_eq
  have hmod : z % (2 ^ w : Nat) % (2 ^ n : Nat) = 0 := by
    rw [Int.emod_emod_of_dvd z hpow]
    exact Int.emod_eq_zero_of_dvd (by exact_mod_cast hz)
  have hpos : 0 ≤ z % (2 ^ w : Nat) := Int.emod_nonneg z (by have := Nat.two_pow_pos w; omega)
  have hnat := Int.toNat_emod hpos (Int.natCast_nonneg (2 ^ n))
  rw [hmod, Int.toNat_natCast] at hnat
  exact hnat.symm

end Hw
