import Armd64.Lib.Matcher
import Armd64.Polyexec.CStrings
import Armd64.Polyexec.ElfFile

/-!
# Search in a string of the guest

`poly_guest_cstring_contains` goes through the string once and starts again after a mismatch.
-/

namespace Poly.Polyexec

open Hw

variable {probe : BitVec 64 → Nat → Bool → Bool} {mem : Memory} {address : BitVec 64}
  {needle text : List (BitVec 8)}

/-- A string of the guest: the terminator is one of the first 1024 bytes, and the guest has all of
them up to it. -/
structure GuestString (probe : BitVec 64 → Nat → Bool → Bool) (mem : Memory)
    (address : BitVec 64) (text : List (BitVec 8)) : Prop where
  noTerminator : 0 ∉ text
  length_lt : text.length < 1024
  holds : Holds mem address (text ++ [0])
  mapped : ∀ i ≤ text.length,
    polyGuestRangeIsMapped probe (address + BitVec.ofNat 64 i) 1 false = true

theorem GuestString.tail {c : BitVec 8} (h : GuestString probe mem address (c :: text)) :
    GuestString probe mem (address + 1) text := by
  refine ⟨fun hc => h.noTerminator (List.mem_cons_of_mem c hc), Nat.lt_of_succ_lt h.length_lt,
    (holds_cons.mp h.holds).2, fun i hi => ?_⟩
  have hmapped := h.mapped (i + 1) (Nat.succ_le_succ hi)
  rwa [Nat.add_comm, BitVec.ofNat_add, ← BitVec.add_assoc] at hmapped

section

variable (h : GuestString probe mem address text)

include h

theorem GuestString.mapped_head : polyGuestRangeIsMapped probe address 1 false := by
  simpa using h.mapped 0 (Nat.zero_le _)

theorem containsLoop_eq_finds {count matched : Nat} (hcount : text.length < count) :
    cstringContainsLoop probe mem needle address count matched = finds needle text matched := by
  induction text generalizing address count matched with
  | nil =>
    obtain ⟨count, rfl⟩ := Nat.exists_eq_succ_of_ne_zero (Nat.ne_of_gt hcount)
    have hend : mem address = 0 := h.holds.head
    simp [cstringContainsLoop, h.mapped_head, hend, finds]
  | cons c text ih =>
    obtain ⟨count, rfl⟩ := Nat.exists_eq_succ_of_ne_zero (Nat.ne_of_gt (Nat.zero_lt_of_lt hcount))
    have hhead : mem address = c := h.holds.head
    have hne : c ≠ 0 := fun hc => h.noTerminator (hc ▸ List.mem_cons_self)
    have hnext : cstringContainsLoop probe mem needle (address + 1) count
        (matchStep needle matched c) = finds needle text (matchStep needle matched c) :=
      ih h.tail (Nat.lt_of_succ_lt_succ hcount)
    rw [cstringContainsLoop, h.mapped_head, hhead, if_neg (by decide), if_neg hne, finds,
      ← hnext]
    rfl

theorem GuestString.address_ne_zero : address ≠ 0 := by
  rintro rfl
  have hmapped := h.mapped_head
  simp [polyGuestRangeIsMapped] at hmapped

end

theorem contains_eq_finds (hne : needle ≠ []) (h : GuestString probe mem address text) :
    polyGuestCstringContains probe mem needle address = finds needle text 0 := by
  rw [polyGuestCstringContains, if_neg (not_or.mpr ⟨h.address_ne_zero, hne⟩)]
  exact containsLoop_eq_finds h h.length_lt

/-! ## Every string is in some memory -/

def stringMemory (text : List (BitVec 8)) : Memory := store (fun _ => 0) 4096 text

theorem guestString_stringMemory (text : List (BitVec 8)) (hterm : 0 ∉ text)
    (hlen : text.length < 1024) :
    GuestString (fun _ _ _ => true) (stringMemory text) 4096 text := by
  refine ⟨hterm, hlen, holds_append.mpr ⟨holds_store (by omega), ?_⟩, fun i hi => ?_⟩
  · refine holds_cons.mpr ⟨?_, fun _ _ hb => by cases hb⟩
    rw [stringMemory, store_outside]
    rw [BitVec.add_comm, BitVec.add_sub_cancel, toNat_ofNat_of_lt (by omega)]
  · have haddr : (4096 + BitVec.ofNat 64 i : BitVec 64).toNat = 4096 + i := by
      rw [BitVec.toNat_add, toNat_ofNat_of_lt (by omega)]
      show (4096 + i) % 2 ^ 64 = 4096 + i
      omega
    have hne : (4096 + BitVec.ofNat 64 i : BitVec 64) ≠ 0 := by
      intro hzero
      rw [hzero] at haddr
      exact absurd haddr (Nat.ne_of_lt (by omega : 0 < 4096 + i))
    rw [polyGuestRangeIsMapped, if_neg (by decide), haddr, if_neg]
    rintro (h | h)
    · exact hne h
    · omega

/-- The search finds a needle in exactly the strings that have it, if and only if no overlap of the
needle with itself fits in a string. -/
theorem cstring_contains_iff (needle : List (BitVec 8)) (hne : needle ≠ []) (hterm : 0 ∉ needle) :
    (∀ probe mem address text, GuestString probe mem address text →
        (polyGuestCstringContains probe mem needle address = true ↔ needle <:+: text)) ↔
      ∀ k b, Overlap needle k b → 1024 ≤ needle.length + k - b := by
  constructor
  · intro hall k b hover
    by_contra hlt
    have hterm' : 0 ∉ overlapText needle k b := by
      rw [overlapText, List.mem_append]
      rintro (h | h)
      · exact hterm (List.mem_of_mem_take h)
      · exact hterm (List.mem_of_mem_drop h)
    have hstring := guestString_stringMemory _ hterm' (by rw [length_overlapText hover]; omega)
    have hfound := (hall _ _ _ _ hstring).mpr (infix_overlapText hover)
    rw [contains_eq_finds hne hstring, not_finds_of_overlap hover] at hfound
    cases hfound
  · intro hno probe mem address text hstring
    rw [contains_eq_finds hne hstring]
    constructor
    · intro hfinds
      have hnil : needle.take 0 <:+ [] := List.nil_suffix
      exact finds_sound hnil hfinds
    · intro hinfix
      refine finds_of_infix hne hinfix fun k b hover => ?_
      exact Nat.lt_of_lt_of_le hstring.length_lt (hno k b hover)

/-- A needle without a repeated byte has no overlap: the search for it is right. -/
theorem cstring_contains_iff_fd :
    ([0x66, 0x64] : List (BitVec 8)) ≠ [] ∧ 0 ∉ ([0x66, 0x64] : List (BitVec 8)) ∧
      ∀ probe mem address text, GuestString probe mem address text →
        (polyGuestCstringContains probe mem [0x66, 0x64] address = true ↔
          [0x66, 0x64] <:+: text) := by
  refine ⟨by decide, by decide, ?_⟩
  refine (cstring_contains_iff [0x66, 0x64] (by decide) (by decide)).mpr fun k b hover => ?_
  have hlt := hover.lt_length
  have hb := hover.lt
  have hpos := hover.pos
  simp at hlt
  omega

/-- The string has the needle from its fifth byte on, after a start of the needle whose last byte
is also the needle's first. -/
theorem cstring_contains_misses :
    let needle := textBytes "/run/containers/storage"
    let text := textBytes "/run/run/containers/storage"
    GuestString (fun _ _ _ => true) (stringMemory text) 4096 text ∧ needle <:+: text ∧
      polyGuestCstringContains (fun _ _ _ => true) (stringMemory text) needle 4096 = false :=
  ⟨guestString_stringMemory _ (by decide) (by decide), by decide +kernel, by decide +kernel⟩

end Poly.Polyexec
