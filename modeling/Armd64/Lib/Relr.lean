import Armd64.Lib.Lists

/-!
# Relative relocations in the `RELR` format

A list of addresses as 64-bit words. An even word is an address. An odd word is a bitmap for the 63
words after those that the word before it was for. `Encodes base words addresses` says that the
words are an encoding, and `decode` finds the addresses of each (`decode_of_encodes`).
-/

namespace Hw.Relr

/-- The words that a bitmap has: bit `k + 1` is for word `k`. -/
def bits (entry : BitVec 64) : List Nat := (List.range 63).filter fun k => entry.getLsbD (k + 1)

inductive Encodes : Option Nat → List (BitVec 64) → List Nat → Prop
  | nil {base : Option Nat} : Encodes base [] []
  | address {base : Option Nat} {entry : BitVec 64} {words : List (BitVec 64)}
      {addresses : List Nat} (even : entry.getLsbD 0 = false)
      (rest : Encodes (some (entry.toNat + 8)) words addresses) :
      Encodes base (entry :: words) (entry.toNat :: addresses)
  | bitmap {base : Nat} {entry : BitVec 64} {words : List (BitVec 64)} {addresses : List Nat}
      (odd : entry.getLsbD 0 = true) (rest : Encodes (some (base + 63 * 8)) words addresses) :
      Encodes (some base) (entry :: words) ((bits entry).map (fun k => base + k * 8) ++ addresses)

/-! ## The running pointer -/

/-- The addresses of a word. -/
def targets (ptr entry : BitVec 64) : List (BitVec 64) :=
  if entry &&& 1 = 0 then [entry] else (bits entry).map fun k => ptr + BitVec.ofNat 64 (k * 8)

/-- The pointer after a word. -/
def next (ptr entry : BitVec 64) : BitVec 64 :=
  if entry &&& 1 = 0 then entry + 8 else ptr + 63 * 8

/-- The addresses of a list of words. -/
def decode (ptr : BitVec 64) : List (BitVec 64) → List (BitVec 64)
  | [] => []
  | entry :: words => targets ptr entry ++ decode (next ptr entry) words

theorem and_one_eq_zero_iff (entry : BitVec 64) : entry &&& 1 = 0 ↔ entry.getLsbD 0 = false := by
  change entry &&& 1#64 = 0#64 ↔ _
  rw [BitVec.and_one_eq_setWidth_ofBool_getLsbD]
  cases entry.getLsbD 0 <;> decide

theorem decode_of_encodes {base : Option Nat} {words : List (BitVec 64)} {addresses : List Nat}
    (h : Encodes base words addresses) {ptr : BitVec 64}
    (hptr : ∀ b, base = some b → ptr = BitVec.ofNat 64 b) :
    decode ptr words = addresses.map (BitVec.ofNat 64) := by
  induction h generalizing ptr with
  | nil => rfl
  | @address base entry words addresses even rest ih =>
    have hword := (and_one_eq_zero_iff entry).mpr even
    have hself : BitVec.ofNat 64 entry.toNat = entry := by simp
    rw [decode, targets, next, if_pos hword, if_pos hword, List.map_cons, hself,
      List.singleton_append]
    congr 1
    refine ih fun b hb => ?_
    cases hb
    rfl
  | @bitmap base entry words addresses odd rest ih =>
    have hword : ¬ entry &&& 1 = 0 := fun hz => by
      rw [(and_one_eq_zero_iff entry).mp hz] at odd
      cases odd
    have hbase := hptr base rfl
    rw [decode, targets, next, if_neg hword, if_neg hword, List.map_append, List.map_map, hbase]
    congr 1
    · refine List.map_congr_left fun k _ => ?_
      rw [Function.comp_apply, BitVec.ofNat_add]
    · refine ih fun b hb => ?_
      cases hb
      rw [BitVec.ofNat_add]
      rfl

/-! ## Loops -/

section

variable {m : Type → Type} [Monad m] [LawfulMonad m] {β : Type}

theorem foldlM_bits (ptr entry : BitVec 64) (f : β → BitVec 64 → m β) (b : β) :
    (List.range 63).foldlM
        (fun b k => if entry.getLsbD (k + 1) then f b (ptr + BitVec.ofNat 64 (k * 8))
          else pure b) b =
      ((bits entry).map fun k => ptr + BitVec.ofNat 64 (k * 8)).foldlM f b := by
  rw [List.foldlM_map, bits, List.foldlM_filter]

/-- One word of a table, for a loop that does `f` at each address. -/
def step (f : β → BitVec 64 → m β) (s : β × BitVec 64) (entry : BitVec 64) : m (β × BitVec 64) := do
  let b ← (targets s.2 entry).foldlM f s.1
  pure (b, next s.2 entry)

theorem foldlM_step (f : β → BitVec 64 → m β) (words : List (BitVec 64)) (b : β) (ptr : BitVec 64) :
    (words.foldlM (step f) (b, ptr) >>= fun s => pure s.1) = (decode ptr words).foldlM f b := by
  induction words generalizing b ptr with
  | nil => simp [decode]
  | cons entry words ih =>
    rw [decode, List.foldlM_append, List.foldlM_cons, step, bind_assoc, bind_assoc]
    congr 1
    funext b
    rw [pure_bind]
    exact ih b (next ptr entry)

end

end Hw.Relr
