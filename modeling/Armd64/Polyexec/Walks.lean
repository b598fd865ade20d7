import Armd64.Lib.TracedLoop
import Armd64.Polyexec.Relocations

/-!
# Walks through the hash and version tables (`polyexec.c`)

The loops of `dynamicSymbolCountFromHash` and of the lookups of versions follow indices and offsets
that come from the image. Here they log all words that they read (`ImageRead`), whether or not these
are in the image.
-/

namespace Poly.Polyexec

open Hw (Traced TracedLoop)
open Hw.Traced

structure ImageRead where
  offset : Nat
  size : Nat
  deriving DecidableEq, Repr

namespace Walk

def readU16 (img : Image) (offset : Nat) : Traced ImageRead (BitVec 16) :=
  .emit ⟨offset, 2⟩ (img.u16 offset)

def readU32 (img : Image) (offset : Nat) : Traced ImageRead (BitVec 32) :=
  .emit ⟨offset, 4⟩ (img.u32 offset)

/-! ## The number of symbols -/

/-- The body of the loop along one chain of a GNU hash table: the next index and the count so
far. -/
def gnuChainBody (img : Image) (chainsOffset symoffset maxSymbols : Nat) (s : Nat × Nat) :
    Traced ImageRead (Nat ⊕ Nat × Nat) :=
  let chainOffset := chainsOffset + (s.1 - symoffset) * 4
  if img.codeSize < chainOffset ∨ img.codeSize - chainOffset < 4 then .fail
  else do
    let chain ← readU32 img chainOffset
    let count := if s.2 < s.1 + 1 then s.1 + 1 else s.2
    if chain &&& 1#32 ≠ 0 then pure (.inl count)
    else if maxSymbols ≤ s.1 + 1 then .fail
    else pure (.inr (s.1 + 1, count))

theorem value_gnuChainBody (img : Image) (chainsOffset symoffset maxSymbols : Nat) (s : Nat × Nat) :
    (gnuChainBody img chainsOffset symoffset maxSymbols s).value =
      TracedLoop.next (Polyexec.gnuChainBody img chainsOffset symoffset maxSymbols s) := by
  unfold gnuChainBody Polyexec.gnuChainBody
  dsimp only
  split
  · rfl
  · show (ite _ _ _ : Traced _ _).value = _
    split
    · rfl
    · split <;> rfl

variable {img : Image} {s s' : Nat × Nat} {strsz verneedNum : BitVec 64} {versionIndex : BitVec 16}

theorem gnuChainBody_decreases {chainsOffset symoffset maxSymbols : Nat}
    (h : (gnuChainBody img chainsOffset symoffset maxSymbols s).value = some (.inr s')) :
    maxSymbols - s'.1 < maxSymbols - s.1 := by
  rw [value_gnuChainBody] at h
  obtain ⟨hindex, hlt, -⟩ := gnuChainBody_eq_ok (TracedLoop.eq_ok_of_next h)
  omega

def gnuChain (img : Image) (chainsOffset symoffset maxSymbols : Nat) :
    TracedLoop ImageRead (Nat × Nat) Nat where
  body := gnuChainBody img chainsOffset symoffset maxSymbols
  measure s := maxSymbols - s.1
  decreases := gnuChainBody_decreases

def gnuBucket (img : Image) (bucketsOffset chainsOffset symoffset maxSymbols count n : Nat) :
    Traced ImageRead Nat := do
  let index ← readU32 img (bucketsOffset + n * 4)
  if index.toNat = 0 then pure count
  else if index.toNat < symoffset ∨ maxSymbols ≤ index.toNat then .fail
  else (gnuChain img chainsOffset symoffset maxSymbols).run (index.toNat, count)

/-- The part of `dynamic_symbol_count_from_hash` for `DT_GNU_HASH`. -/
def gnuSymbolCount (img : Image) (info : SymbolInfo) : Traced ImageRead Nat := do
  let symtabOffset ← ofOption (img.elfVaddrToImageOffset info.symtabVaddr info.syment)
  let hashOffset ← ofOption (img.elfVaddrToImageOffset info.gnuHashVaddr 16)
  let nbuckets ← readU32 img hashOffset
  let symoffset ← readU32 img (hashOffset + 4)
  let bloomSize ← readU32 img (hashOffset + 8)
  if nbuckets.toNat = 0 ∨ bloomSize.toNat = 0 then .fail
  else
    let bucketsOffset := hashOffset + 16 + bloomSize.toNat * 8
    let bucketsSize := nbuckets.toNat * 4
    if img.codeSize < bucketsOffset ∨ img.codeSize - bucketsOffset < bucketsSize then .fail
    else
      let chainsOffset := bucketsOffset + bucketsSize
      let maxSymbols := (img.codeSize - symtabOffset) / info.syment.toNat
      if img.codeSize < chainsOffset ∨ img.codeSize < symtabOffset ∨
          maxSymbols < symoffset.toNat then
        .fail
      else
        (List.range nbuckets.toNat).foldlM
          (gnuBucket img bucketsOffset chainsOffset symoffset.toNat maxSymbols) symoffset.toNat

def checkedCount (count : Nat) : Traced ImageRead Nat :=
  if count ≠ 0 ∧ count ≤ 4096 then pure count else .fail

def dynamicSymbolCountFromHash (img : Image) (info : SymbolInfo) : Traced ImageRead Nat :=
  if info.hashVaddr ≠ 0 then do
    let hashOffset ← ofOption (img.elfVaddrToImageOffset info.hashVaddr 8)
    let count ← readU32 img (hashOffset + 4)
    checkedCount count.toNat
  else if info.gnuHashVaddr = 0 then .fail
  else gnuSymbolCount img info >>= checkedCount

/-! ## Versions that are needed -/

/-- The body of the inner loop of `version_string_from_verneed`: index and offset of an auxiliary
entry. `vn_cnt` is read each time. -/
def vernauxBody (img : Image) (strsz : BitVec 64) (versionIndex : BitVec 16) (needOffset : Nat)
    (s : Nat × Nat) : Traced ImageRead (Option Nat ⊕ Nat × Nat) := do
  let count ← readU16 img (needOffset + 2)
  if count.toNat ≤ s.1 then pure (.inl none)
  else if img.codeSize < s.2 ∨ img.codeSize - s.2 < 16 then .fail
  else
    let other ← readU16 img (s.2 + 6)
    if other &&& 0x7fff = versionIndex then
      let name ← readU32 img (s.2 + 8)
      if strsz.toNat ≤ name.toNat then .fail else pure (.inl (some name.toNat))
    else
      let next ← readU32 img (s.2 + 12)
      if next = 0 then pure (.inl none) else pure (.inr (s.1 + 1, s.2 + next.toNat))

theorem value_vernauxBody (img : Image) (strsz : BitVec 64) (versionIndex : BitVec 16)
    (needOffset : Nat) (s : Nat × Nat) :
    (vernauxBody img strsz versionIndex needOffset s).value =
      TracedLoop.next (Polyexec.vernauxBody img strsz versionIndex
        (img.u16 (needOffset + 2)) s) := by
  unfold vernauxBody Polyexec.vernauxBody
  show (ite _ _ _ : Traced _ _).value = _
  split
  · rfl
  split
  · rfl
  show (ite _ _ _ : Traced _ _).value = _
  split
  · show (ite _ _ _ : Traced _ _).value = _
    split <;> rfl
  · show (ite _ _ _ : Traced _ _).value = _
    split <;> rfl

theorem toNat_pos_of_ne_zero {w : Nat} {x : BitVec w} (h : ¬ x = 0) : 0 < x.toNat :=
  Nat.pos_of_ne_zero fun hz => h (BitVec.eq_of_toNat_eq hz)

theorem vernauxBody_lt {count : BitVec 16}
    (h : Polyexec.vernauxBody img strsz versionIndex count s = .ok s') :
    s.2 < s'.2 ∧ s.2 + 16 ≤ img.codeSize := by
  unfold Polyexec.vernauxBody at h
  split at h
  · cases h
  split at h
  · cases h
  split at h
  · split at h <;> cases h
  split at h
  · cases h
  rename_i hnext
  cases h
  have hpos := toNat_pos_of_ne_zero hnext
  omega

theorem vernauxBody_decreases {needOffset : Nat}
    (h : (vernauxBody img strsz versionIndex needOffset s).value = some (.inr s')) :
    img.codeSize - s'.2 < img.codeSize - s.2 := by
  rw [value_vernauxBody] at h
  obtain ⟨hlt, hle⟩ := vernauxBody_lt (TracedLoop.eq_ok_of_next h)
  omega

def vernauxLoop (img : Image) (strsz : BitVec 64) (versionIndex : BitVec 16) (needOffset : Nat) :
    TracedLoop ImageRead (Nat × Nat) (Option Nat) where
  body := vernauxBody img strsz versionIndex needOffset
  measure s := img.codeSize - s.2
  decreases := vernauxBody_decreases

/-- The body of the outer loop: the index and the offset of an entry. -/
def verneedBody (img : Image) (strsz verneedNum : BitVec 64) (versionIndex : BitVec 16)
    (s : Nat × Nat) : Traced ImageRead (Nat ⊕ Nat × Nat) :=
  if verneedNum.toNat ≤ s.1 then .fail
  else if img.codeSize < s.2 ∨ img.codeSize - s.2 < 16 then .fail
  else do
    let aux ← readU32 img (s.2 + 8)
    let found ← (vernauxLoop img strsz versionIndex s.2).run (0, s.2 + aux.toNat)
    match found with
    | some name => pure (.inl name)
    | none =>
      let next ← readU32 img (s.2 + 12)
      if next = 0 then .fail else pure (.inr (s.1 + 1, s.2 + next.toNat))

theorem value_vernauxLoop (img : Image) (strsz : BitVec 64) (versionIndex : BitVec 16)
    (needOffset : Nat) (s : Nat × Nat) :
    ((vernauxLoop img strsz versionIndex needOffset).run s).value =
      (Polyexec.vernauxLoop img strsz versionIndex (img.u16 (needOffset + 2))).exit s :=
  TracedLoop.value_run (value_vernauxBody img strsz versionIndex needOffset) s

theorem value_verneedBody (img : Image) (strsz verneedNum : BitVec 64) (versionIndex : BitVec 16)
    (s : Nat × Nat) :
    (verneedBody img strsz verneedNum versionIndex s).value =
      TracedLoop.next (Polyexec.verneedBody img strsz verneedNum versionIndex s) := by
  unfold verneedBody Polyexec.verneedBody
  split
  · rfl
  split
  · rfl
  have hinner := value_vernauxLoop img strsz versionIndex s.2 (0, s.2 + (img.u32 (s.2 + 8)).toNat)
  show ((vernauxLoop img strsz versionIndex s.2).run
    (0, s.2 + (img.u32 (s.2 + 8)).toNat) >>= _).value
    = _
  dsimp only
  rw [← hinner]
  cases hfound : ((vernauxLoop img strsz versionIndex s.2).run
      (0, s.2 + (img.u32 (s.2 + 8)).toNat)).value with
  | none => rw [bind_none hfound]; rfl
  | some found =>
    rw [bind_some hfound]
    cases found with
    | some name => rfl
    | none =>
      show (ite _ _ _ : Traced _ _).value = TracedLoop.next (ite _ _ _)
      split <;> rfl

theorem verneedBody_lt (h : Polyexec.verneedBody img strsz verneedNum versionIndex s = .ok s') :
    s.2 < s'.2 ∧ s.2 + 16 ≤ img.codeSize := by
  unfold Polyexec.verneedBody at h
  split at h
  · cases h
  split at h
  · cases h
  dsimp only at h
  split at h
  · cases h
  · cases h
  split at h
  · cases h
  rename_i hnext
  cases h
  have hpos := toNat_pos_of_ne_zero hnext
  omega

theorem verneedBody_decreases
    (h : (verneedBody img strsz verneedNum versionIndex s).value = some (.inr s')) :
    img.codeSize - s'.2 < img.codeSize - s.2 := by
  rw [value_verneedBody] at h
  obtain ⟨hlt, hle⟩ := verneedBody_lt (TracedLoop.eq_ok_of_next h)
  omega

def verneedLoop (img : Image) (strsz verneedNum : BitVec 64) (versionIndex : BitVec 16) :
    TracedLoop ImageRead (Nat × Nat) Nat where
  body := verneedBody img strsz verneedNum versionIndex
  measure s := img.codeSize - s.2
  decreases := verneedBody_decreases

def versionStringFromVerneed (img : Image) (strtabVaddr strsz verneedVaddr verneedNum : BitVec 64)
    (versionIndex : BitVec 16) : Traced ImageRead Nat :=
  if verneedVaddr = 0 ∨ verneedNum = 0 then .fail
  else do
    let strtabOffset ← ofOption (img.elfVaddrToImageOffset strtabVaddr strsz)
    let needOffset ← ofOption (img.elfVaddrToImageOffset verneedVaddr 16)
    let name ← (verneedLoop img strsz verneedNum versionIndex).run (0, needOffset)
    pure (strtabOffset + name)

/-! ## Versions that are defined -/

/-- The body of the loop of `version_string_from_verdef`: the index and the offset of a
definition. -/
def verdefBody (img : Image) (info : SymbolInfo) (versionIndex : BitVec 16) (s : Nat × Nat) :
    Traced ImageRead (Nat ⊕ Nat × Nat) :=
  if info.verdefNum.toNat ≤ s.1 then .fail
  else if img.codeSize < s.2 ∨ img.codeSize - s.2 < 20 then .fail
  else do
    let ndx ← readU16 img (s.2 + 4)
    if ndx &&& 0x7fff = versionIndex then
      let aux ← readU32 img (s.2 + 12)
      let auxOffset := s.2 + aux.toNat
      if img.codeSize < auxOffset ∨ img.codeSize - auxOffset < 8 then .fail
      else
        let name ← readU32 img auxOffset
        if info.strsz.toNat ≤ name.toNat then .fail else pure (.inl name.toNat)
    else
      let next ← readU32 img (s.2 + 16)
      if next = 0 then .fail else pure (.inr (s.1 + 1, s.2 + next.toNat))

theorem value_verdefBody (img : Image) (info : SymbolInfo) (versionIndex : BitVec 16)
    (s : Nat × Nat) :
    (verdefBody img info versionIndex s).value =
      TracedLoop.next (Polyexec.verdefBody img info versionIndex s) := by
  unfold verdefBody Polyexec.verdefBody
  split
  · rfl
  split
  · rfl
  show (ite _ _ _ : Traced _ _).value = _
  split
  · show (ite _ _ _ : Traced _ _).value = TracedLoop.next (ite _ _ _)
    split
    · rfl
    show (ite _ _ _ : Traced _ _).value = _
    split <;> rfl
  · show (ite _ _ _ : Traced _ _).value = _
    split <;> rfl

theorem verdefBody_decreases {info : SymbolInfo}
    (h : (verdefBody img info versionIndex s).value = some (.inr s')) :
    img.codeSize - s'.2 < img.codeSize - s.2 := by
  rw [value_verdefBody] at h
  obtain ⟨hlt, hle⟩ := verdefBody_eq_ok (TracedLoop.eq_ok_of_next h)
  omega

def verdefLoop (img : Image) (info : SymbolInfo) (versionIndex : BitVec 16) :
    TracedLoop ImageRead (Nat × Nat) Nat where
  body := verdefBody img info versionIndex
  measure s := img.codeSize - s.2
  decreases := verdefBody_decreases

def versionStringFromVerdef (img : Image) (info : SymbolInfo) (versionIndex : BitVec 16) :
    Traced ImageRead Nat :=
  if info.verdefVaddr = 0 ∨ info.verdefNum = 0 then .fail
  else do
    let strtabOffset ← ofOption (img.elfVaddrToImageOffset info.strtabVaddr info.strsz)
    let defOffset ← ofOption (img.elfVaddrToImageOffset info.verdefVaddr 20)
    let name ← (verdefLoop img info versionIndex).run (0, defOffset)
    pure (strtabOffset + name)

end Walk

end Poly.Polyexec
