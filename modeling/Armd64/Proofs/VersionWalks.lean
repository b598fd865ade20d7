import Armd64.Lib.Walk
import Armd64.Proofs.SymbolCount

/-!
# The walks through the version tables

The records of the version tables are linked by offsets that are not checked, and their counts have
up to 64 bits. The lookups read them only in the image, and the links only go forward, so the
lookups end. They find the first record of the walk with the index of the version.
-/

namespace Poly.Polyexec

open Hw
open Traced

/-! ## Records -/

section

variable (img : Image)

def inside (size offset : Nat) : Option Nat :=
  if offset + size ≤ img.codeSize then some offset else none

def nextRecord (size field offset : Nat) : Option Nat :=
  if offset + size ≤ img.codeSize ∧ img.u32 (offset + field) ≠ 0 then
    some (offset + (img.u32 (offset + field)).toNat)
  else none

/-- The auxiliary records of the record `Elf64_Verneed` at `offset`. -/
def vernauxWalk (offset : Nat) : List (Option Nat) :=
  (walk (nextRecord img 16 12) (img.u16 (offset + 2)).toNat
    (offset + (img.u32 (offset + 8)).toNat)).map (inside img 16)

/-- The auxiliary records of up to `count` records `Elf64_Verneed` from `offset` on. -/
def verneedWalk (count offset : Nat) : List (Option Nat) :=
  (walk (nextRecord img 16 12) count offset).flatMap fun o =>
    (inside img 16 o).elim [none] (vernauxWalk img)

def verdefWalk (count offset : Nat) : List (Option Nat) :=
  (walk (nextRecord img 20 16) count offset).map (inside img 20)

def vernauxMatches (versionIndex : BitVec 16) (offset : Nat) : Bool :=
  img.u16 (offset + 6) &&& 0x7fff = versionIndex

def verdefMatches (versionIndex : BitVec 16) (offset : Nat) : Bool :=
  img.u16 (offset + 4) &&& 0x7fff = versionIndex

def nameAt (strsz : BitVec 64) (offset : Nat) : Option Nat :=
  if (img.u32 offset).toNat < strsz.toNat then some (img.u32 offset).toNat else none

def vernauxName (strsz : BitVec 64) (offset : Nat) : Option Nat := nameAt img strsz (offset + 8)

/-- `vda_name` of the first auxiliary record of a definition, if the record is in the image. -/
def verdefName (strsz : BitVec 64) (offset : Nat) : Option Nat :=
  (inside img 8 (offset + (img.u32 (offset + 12)).toNat)).bind (nameAt img strsz)

end

/-! ## Loops -/

section

variable {img : Image} {strsz : BitVec 64} {versionIndex : BitVec 16}

theorem inside_of_le {size offset : Nat} (h : offset + size ≤ img.codeSize) :
    inside img size offset = some offset := if_pos h

theorem inside_of_lt {size offset : Nat} (h : img.codeSize < offset + size) :
    inside img size offset = none := if_neg (by omega)

theorem nameAt_eq (offset : Nat) :
    nameAt img strsz offset =
      if strsz.toNat ≤ (img.u32 offset).toNat then none else some (img.u32 offset).toNat := by
  unfold nameAt
  split
  · rw [if_neg (by omega)]
  · rw [if_pos (by omega)]

theorem nextRecord_of_le {size field offset : Nat} (h : offset + size ≤ img.codeSize) :
    nextRecord img size field offset =
      if img.u32 (offset + field) = 0 then none
      else some (offset + (img.u32 (offset + field)).toNat) := by
  unfold nextRecord
  split
  · rename_i hnext
    rw [if_neg hnext.2]
  · rename_i hnext
    rw [if_pos (by_contra fun hne => hnext ⟨h, hne⟩)]

theorem elim_nextRecord {ρ : Type} {size field i offset : Nat} {last : ρ}
    (h : offset + size ≤ img.codeSize) :
    ((nextRecord img size field offset).elim (.error last) fun b => .ok (i + 1, b) :
        Except ρ (Nat × Nat)) =
      if img.u32 (offset + field) = 0 then .error last
      else .ok (i + 1, offset + (img.u32 (offset + field)).toNat) := by
  rw [nextRecord_of_le h]
  split <;> rfl

def vernauxVerdict (img : Image) (strsz : BitVec 64) (versionIndex : BitVec 16) :
    Option Nat → Option (Option Nat) :=
  verdict (vernauxMatches img versionIndex) (vernauxName img strsz)

def verdefVerdict (img : Image) (strsz : BitVec 64) (versionIndex : BitVec 16) :
    Option Nat → Option (Option Nat) :=
  verdict (verdefMatches img versionIndex) (verdefName img strsz)

theorem vernauxVerdict_some (o : Nat) :
    vernauxVerdict img strsz versionIndex (some o) =
      if img.u16 (o + 6) &&& 0x7fff = versionIndex then some (nameAt img strsz (o + 8))
      else none := by
  rw [vernauxVerdict, verdict_some, vernauxMatches]
  simp only [decide_eq_true_eq]
  rfl

theorem verdefVerdict_some (o : Nat) :
    verdefVerdict img strsz versionIndex (some o) =
      if img.u16 (o + 4) &&& 0x7fff = versionIndex then some (verdefName img strsz o)
      else none := by
  rw [verdefVerdict, verdict_some, verdefMatches]
  simp only [decide_eq_true_eq]

theorem vernauxBody_eq (count : BitVec 16) (i o : Nat) :
    vernauxBody img strsz versionIndex count (i, o) =
      if count.toNat ≤ i then .error (some none)
      else
        ((vernauxVerdict img strsz versionIndex (inside img 16 o)).map (Option.map some)).elim
          ((nextRecord img 16 12 o).elim (.error (some none)) fun b => .ok (i + 1, b)) .error := by
  unfold vernauxBody
  split
  · rfl
  by_cases hin : o + 16 ≤ img.codeSize
  · rw [if_neg (by omega), inside_of_le hin, vernauxVerdict_some, elim_nextRecord hin, nameAt_eq]
    split
    · split <;> rfl
    · rfl
  · rw [if_pos (by omega), inside_of_lt (by omega)]
    rfl

theorem vernauxLoop_exit (needOffset : Nat) :
    (vernauxLoop img strsz versionIndex (img.u16 (needOffset + 2))).exit
        (0, needOffset + (img.u32 (needOffset + 8)).toNat) =
      (((vernauxWalk img needOffset).findSome? (vernauxVerdict img strsz versionIndex)).map
        (Option.map some)).getD (some none) := by
  rw [Loop.exit_eq_findSome? (vernauxBody_eq (img.u16 (needOffset + 2))), vernauxWalk,
    List.findSome?_map, List.map_findSome?]
  rfl

theorem verneedBody_eq (verneedNum : BitVec 64) (i o : Nat) :
    verneedBody img strsz verneedNum versionIndex (i, o) =
      if verneedNum.toNat ≤ i then .error none
      else
        (((inside img 16 o).elim [none] (vernauxWalk img)).findSome?
            (vernauxVerdict img strsz versionIndex)).elim
          ((nextRecord img 16 12 o).elim (.error none) fun b => .ok (i + 1, b)) .error := by
  unfold verneedBody
  split
  · rfl
  by_cases hin : o + 16 ≤ img.codeSize
  · rw [if_neg (by omega), inside_of_le hin, Option.elim_some, elim_nextRecord hin]
    dsimp only
    rw [vernauxLoop_exit]
    rcases (vernauxWalk img o).findSome? (vernauxVerdict img strsz versionIndex) with _ | _ | name
    · rfl
    · rfl
    · rfl
  · rw [if_pos (by omega), inside_of_lt (by omega)]
    rfl

theorem verneedLoop_exit (verneedNum : BitVec 64) (offset : Nat) :
    (verneedLoop img strsz verneedNum versionIndex).exit (0, offset) =
      firstAnswer (vernauxMatches img versionIndex) (vernauxName img strsz)
        (verneedWalk img verneedNum.toNat offset) := by
  rw [Loop.exit_eq_findSome? (verneedBody_eq verneedNum), firstAnswer_eq, verneedWalk,
    findSome?_flatMap]
  rfl

theorem verdefBody_eq (info : SymbolInfo) (i o : Nat) :
    verdefBody img info versionIndex (i, o) =
      if info.verdefNum.toNat ≤ i then .error none
      else
        (verdefVerdict img info.strsz versionIndex (inside img 20 o)).elim
          ((nextRecord img 20 16 o).elim (.error none) fun b => .ok (i + 1, b)) .error := by
  unfold verdefBody
  split
  · rfl
  by_cases hin : o + 20 ≤ img.codeSize
  · rw [if_neg (by omega), inside_of_le hin, verdefVerdict_some, elim_nextRecord hin, verdefName]
    generalize o + (img.u32 (o + 12)).toNat = aux
    split
    · by_cases haux : aux + 8 ≤ img.codeSize
      · rw [if_neg (by omega), inside_of_le haux, Option.bind_some, nameAt_eq]
        split <;> rfl
      · rw [if_pos (by omega), inside_of_lt (by omega)]
        rfl
    · rfl
  · rw [if_pos (by omega), inside_of_lt (by omega)]
    rfl

theorem verdefLoop_exit (info : SymbolInfo) (offset : Nat) :
    (verdefLoop img info versionIndex).exit (0, offset) =
      firstAnswer (verdefMatches img versionIndex) (verdefName img info.strsz)
        (verdefWalk img info.verdefNum.toNat offset) := by
  rw [Loop.exit_eq_findSome? (verdefBody_eq info), firstAnswer_eq, verdefWalk,
    List.findSome?_map]
  rfl

end

/-! ## Reads -/

namespace Walk

section

variable (img : Image) (strsz : BitVec 64) (versionIndex : BitVec 16)

theorem vernauxLoop_within {needOffset : Nat} (h : needOffset + 16 ≤ img.codeSize)
    (s : Nat × Nat) :
    Within (·.InImage img) (3 * (img.codeSize - s.2 + 1))
      ((vernauxLoop img strsz versionIndex needOffset).run s) := by
  refine (vernauxLoop img strsz versionIndex needOffset).within (fun s => ?_) s
  refine readU16_within (by omega) ?_
  split
  · exact .pure
  split
  · exact .fail
  refine readU16_within (by omega) ?_
  split
  · refine readU32_within (by omega) ?_
    split
    · exact .fail
    · exact .pure
  · refine readU32_within (by omega) ?_
    split
    · exact .pure
    · exact .pure

theorem verneedLoop_within (verneedNum : BitVec 64) (s : Nat × Nat) :
    Within (·.InImage img) ((3 * (img.codeSize + 1) + 2) * (img.codeSize - s.2 + 1))
      ((verneedLoop img strsz verneedNum versionIndex).run s) := by
  refine (verneedLoop img strsz verneedNum versionIndex).within (fun s => ?_) s
  show Within _ _ (verneedBody img strsz verneedNum versionIndex s)
  unfold verneedBody
  split
  · exact .fail
  split
  · exact .fail
  refine readU32_within (by omega) ?_
  refine ((vernauxLoop_within img strsz versionIndex (by omega) _).mono ?_).bind fun found _ => ?_
  · exact Nat.mul_le_mul_left 3 (Nat.add_le_add_right (Nat.sub_le _ _) 1)
  cases found with
  | some name => exact .pure
  | none =>
    refine readU32_within (by omega) ?_
    split
    · exact .fail
    · exact .pure

theorem verdefLoop_within (info : SymbolInfo) (s : Nat × Nat) :
    Within (·.InImage img) (3 * (img.codeSize - s.2 + 1))
      ((verdefLoop img info versionIndex).run s) := by
  refine (verdefLoop img info versionIndex).within (fun s => ?_) s
  show Within _ _ (verdefBody img info versionIndex s)
  unfold verdefBody
  split
  · exact .fail
  split
  · exact .fail
  refine readU16_within (by omega) ?_
  split
  · refine readU32_within (by omega) ?_
    dsimp only
    split
    · exact .fail
    refine readU32_within (by omega) ?_
    split
    · exact .fail
    · exact .pure
  · refine readU32_within (by omega) ?_
    split
    · exact .fail
    · exact .pure

end

end Walk

/-! ## Lookups -/

section

variable (img : Image) (strtabVaddr strsz vaddr num size : BitVec 64)

/-- The result of a lookup: the offset in the image of the name that `found` finds from the first
record on. -/
def lookupResult (found : Nat → Option Nat) : Option Nat :=
  if vaddr = 0 ∨ num = 0 then none
  else do
    let strtabOffset ← img.elfVaddrToImageOffset strtabVaddr strsz
    let offset ← img.elfVaddrToImageOffset vaddr size
    let name ← found offset
    some (strtabOffset + name)

def lookupName (found : Nat → Traced ImageRead Nat) : Traced ImageRead Nat :=
  if vaddr = 0 ∨ num = 0 then .fail
  else do
    let strtabOffset ← ofOption (img.elfVaddrToImageOffset strtabVaddr strsz)
    let offset ← ofOption (img.elfVaddrToImageOffset vaddr size)
    let name ← found offset
    pure (strtabOffset + name)

variable {img strtabVaddr strsz vaddr num size} {found : Nat → Traced ImageRead Nat}

theorem value_lookupName :
    (lookupName img strtabVaddr strsz vaddr num size found).value =
      lookupResult img strtabVaddr strsz vaddr num size fun offset => (found offset).value := by
  unfold lookupName lookupResult
  split
  · rfl
  rw [value_bind_eq]
  refine congrArg _ (funext fun strtabOffset => ?_)
  rw [value_bind_eq]
  refine congrArg _ (funext fun offset => ?_)
  rw [value_bind_eq]
  rfl

theorem lookupName_within {P : ImageRead → Prop} {k : Nat}
    (h : ∀ offset, Within P k (found offset)) :
    Within P k (lookupName img strtabVaddr strsz vaddr num size found) := by
  unfold lookupName
  split
  · exact .fail
  · refine .ofOption_bind fun strtabOffset _ => .ofOption_bind fun offset _ => ?_
    exact (h offset).bind (k := 0) fun name _ => .pure

end

section

variable (img : Image) (info : SymbolInfo) (verneedVaddr verneedNum : BitVec 64)
  (versionIndex : BitVec 16)

theorem value_versionStringFromVerneed :
    (Walk.versionStringFromVerneed img info.strtabVaddr info.strsz verneedVaddr verneedNum
        versionIndex).value =
      lookupResult img info.strtabVaddr info.strsz verneedVaddr verneedNum 16 fun offset =>
        (verneedLoop img info.strsz verneedNum versionIndex).exit (0, offset) := by
  refine value_lookupName.trans (congrArg _ (funext fun offset => ?_))
  exact TracedLoop.value_run (Walk.value_verneedBody img info.strsz verneedNum versionIndex) _

theorem value_versionStringFromVerdef :
    (Walk.versionStringFromVerdef img info versionIndex).value =
      lookupResult img info.strtabVaddr info.strsz info.verdefVaddr info.verdefNum 20 fun offset =>
        (verdefLoop img info versionIndex).exit (0, offset) := by
  refine value_lookupName.trans (congrArg _ (funext fun offset => ?_))
  exact TracedLoop.value_run (Walk.value_verdefBody img info versionIndex) _

end

/-- Both lookups read records only in the image, end after a number of reads that its size bounds,
and find the name of the first record of the walk that has the index. -/
theorem version_walks (img : Image) (info : SymbolInfo) (verneedVaddr verneedNum : BitVec 64)
    (versionIndex : BitVec 16) :
    (let t := Walk.versionStringFromVerneed img info.strtabVaddr info.strsz verneedVaddr verneedNum
        versionIndex
     t.All (·.InImage img) ∧
      t.log.length ≤ (3 * (img.codeSize + 1) + 2) * (img.codeSize + 1) ∧
      t.value =
        lookupResult img info.strtabVaddr info.strsz verneedVaddr verneedNum 16 fun offset =>
        firstAnswer (vernauxMatches img versionIndex) (vernauxName img info.strsz)
          (verneedWalk img verneedNum.toNat offset)) ∧
    (let t := Walk.versionStringFromVerdef img info versionIndex
     t.All (·.InImage img) ∧
      t.log.length ≤ 3 * (img.codeSize + 1) ∧
      t.value = lookupResult img info.strtabVaddr info.strsz info.verdefVaddr info.verdefNum 20
        fun offset => firstAnswer (verdefMatches img versionIndex) (verdefName img info.strsz)
          (verdefWalk img info.verdefNum.toNat offset)) := by
  have hle (offset : Nat) : img.codeSize - offset + 1 ≤ img.codeSize + 1 :=
    Nat.add_le_add_right (Nat.sub_le _ _) 1
  constructor
  · intro t
    have hreads : Within _ _ t := lookupName_within fun offset =>
      (Walk.verneedLoop_within img info.strsz versionIndex verneedNum (0, offset)).mono
        (Nat.mul_le_mul_left _ (hle offset))
    refine ⟨hreads.all, hreads.length_le, ?_⟩
    rw [value_versionStringFromVerneed]
    exact congrArg _ (funext (verneedLoop_exit verneedNum))
  · intro t
    have hreads : Within _ _ t := lookupName_within fun offset =>
      (Walk.verdefLoop_within img versionIndex info (0, offset)).mono
        (Nat.mul_le_mul_left _ (hle offset))
    refine ⟨hreads.all, hreads.length_le, ?_⟩
    rw [value_versionStringFromVerdef]
    exact congrArg _ (funext (verdefLoop_exit info))

end Poly.Polyexec
