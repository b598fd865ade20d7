import Armd64.Polyexec.Signals

/-!
# Functions on C strings (`polyexec.c`)

A string of the runtime is the list of its bytes before the terminator; the byte after the last one
reads as the terminator.
-/

namespace Poly.Polyexec

/-! ## Search in a string of the guest -/

section

variable (probe : BitVec 64 → Nat → Bool → Bool) (mem : Hw.Memory) (needle : List (BitVec 8))

/-- The new `matched`. The loop that sets it to 0 ends after one round. -/
def cstringMatched (matched : Nat) (ch : BitVec 8) : Nat :=
  let matched := if matched ≠ 0 ∧ needle[matched]? ≠ some ch then 0 else matched
  if needle[matched]? = some ch then matched + 1 else matched

/-- The loop of `poly_guest_cstring_contains` over the bytes that are left. -/
def cstringContainsLoop (address : BitVec 64) : Nat → Nat → Bool
  | 0, _ => false
  | count + 1, matched =>
    if polyGuestRangeIsMapped probe address 1 false = false then false
    else if mem address = 0 then false
    else
      let matched := cstringMatched needle matched (mem address)
      if matched = needle.length then true
      else cstringContainsLoop (address + 1) count matched

def polyGuestCstringContains (address : BitVec 64) : Bool :=
  if address = 0 ∨ needle = [] then false
  else cstringContainsLoop probe mem needle address 1024 0

end

/-! ## `strtoull` -/

def asciiIsspace (c : BitVec 8) : Bool := [0x20, 0x0c, 0x0a, 0x0d, 0x09, 0x0b].contains c

def digitValue (c : BitVec 8) : Option Nat :=
  if 0x30 ≤ c.toNat ∧ c.toNat ≤ 0x39 then some (c.toNat - 0x30)
  else if 0x41 ≤ c.toNat ∧ c.toNat ≤ 0x5a then some (c.toNat - 0x41 + 10)
  else if 0x61 ≤ c.toNat ∧ c.toNat ≤ 0x7a then some (c.toNat - 0x61 + 10)
  else none

def digitOf (base : Nat) (c : BitVec 8) : Option Nat := (digitValue c).filter (· < base)

def strtoullDigits (base : Nat) : List (BitVec 8) → BitVec 64 → BitVec 64 × Nat
  | [], value => (value, 0)
  | c :: rest, value =>
    match digitOf base c with
    | none => (value, 0)
    | some digit =>
      let next := strtoullDigits base rest (value * BitVec.ofNat 64 base + BitVec.ofNat 64 digit)
      (next.1, next.2 + 1)

/-- The base that the text has chosen, and the length of the prefix that chose it. -/
def strtoullPrefix (base : Int) (text : List (BitVec 8)) : Int × Nat :=
  if (base = 0 ∨ base = 16) ∧ text[0]? = some 0x30 ∧
      (text[1]? = some 0x78 ∨ text[1]? = some 0x58) then (16, 2)
  else if base = 0 ∧ text[0]? = some 0x30 then (8, 1)
  else if base = 0 then (10, 0)
  else (base, 0)

/-- The sign before a number: its length, and whether it is a minus. -/
def strtoullSign (text : List (BitVec 8)) : Nat × Bool :=
  if text[0]? = some 0x2b ∨ text[0]? = some 0x2d then (1, text[0]? == some 0x2d) else (0, false)

/-- `polyexec_strtoull_c`: the value, and the offset of the end pointer. -/
def polyexecStrtoullC (nptr : List (BitVec 8)) (base : Int) : BitVec 64 × Nat :=
  let spaces := (nptr.takeWhile asciiIsspace).length
  let sign := strtoullSign (nptr.drop spaces)
  let start := spaces + sign.1
  let chosen := strtoullPrefix base (nptr.drop start)
  if chosen.1 < 2 ∨ 36 < chosen.1 then (0, 0)
  else
    let firstDigit := start + chosen.2
    let digits := strtoullDigits chosen.1.toNat (nptr.drop firstDigit) 0
    if digits.2 = 0 then (0, 0)
    else (if sign.2 then -digits.1 else digits.1, firstDigit + digits.2)

end Poly.Polyexec
