import Armd64.Lib.Codec
import Armd64.Polyexec.Relocations

/-!
# What one relocation writes

An entry of a relocation table fails before its first write, or it is one patch of the image: the
bytes at its target.
-/

namespace Poly.Polyexec

open Hw
open Traced
open scoped RelocTypes

/-! ## Patches -/

section

variable {bytes bytes' : CodeBytes} {offset i : Nat} {data : List (BitVec 8)}

theorem patch_outside (h : i < offset ∨ offset + data.length ≤ i) :
    patch bytes offset data i = bytes i := by
  unfold patch
  split
  · rw [List.getD_eq_getElem?_getD, List.getElem?_eq_none (by omega), Option.getD_none]
  · rfl

theorem patch_inside {b : BitVec 8} (h : data[i]? = some b) :
    patch bytes offset data (offset + i) = b := by
  unfold patch
  rw [if_pos (Nat.le_add_right _ _), Nat.add_sub_cancel_left, List.getD_eq_getElem?_getD, h,
    Option.getD_some]

theorem patch_congr (h : (i < offset ∨ offset + data.length ≤ i) → bytes i = bytes' i) :
    patch bytes offset data i = patch bytes' offset data i := by
  by_cases hi : i < offset ∨ offset + data.length ≤ i
  · rw [patch_outside hi, patch_outside hi, h hi]
  · obtain ⟨k, rfl⟩ : ∃ k, i = offset + k := ⟨i - offset, by omega⟩
    have hk : k < data.length := by omega
    rw [patch_inside (List.getElem?_eq_getElem hk), patch_inside (List.getElem?_eq_getElem hk)]

theorem patch_append (data' : List (BitVec 8)) :
    patch (patch bytes offset data) (offset + data.length) data' =
      patch bytes offset (data ++ data') := by
  funext i
  by_cases hi : i < offset + data.length
  · rw [patch_outside (.inl hi)]
    by_cases hlow : i < offset
    · rw [patch_outside (.inl hlow), patch_outside (.inl hlow)]
    · obtain ⟨k, rfl⟩ : ∃ k, i = offset + k := ⟨i - offset, by omega⟩
      have hk : k < data.length := by omega
      rw [patch_inside (List.getElem?_eq_getElem hk),
        patch_inside (by rw [List.getElem?_append_left hk, List.getElem?_eq_getElem hk])]
  · obtain ⟨k, rfl⟩ : ∃ k, i = offset + data.length + k := ⟨i - (offset + data.length), by omega⟩
    cases hk : data'[k]? with
    | some b =>
      rw [patch_inside hk, Nat.add_assoc, patch_inside]
      rw [List.getElem?_append_right (Nat.le_add_right _ _), Nat.add_sub_cancel_left, hk]
    | none =>
      have hle := List.getElem?_eq_none_iff.mp hk
      rw [patch_outside (.inr (by omega)), patch_outside (.inr (by omega)),
        patch_outside (.inr (by rw [List.length_append]; omega))]

variable {p : RelocProgram}

theorem u64_congr (h : ∀ k < 8, bytes (offset + k) = bytes' (offset + k)) :
    (p.image bytes).u64 offset = (p.image bytes').u64 offset :=
  ofWords_congr h

theorem u64_patch (v : BitVec 64) :
    (p.image (patch bytes offset (toBytes 8 v))).u64 offset = v :=
  ofWords_eq (by decide) fun _ hi => patch_inside (getElem?_toBytes _ hi)

theorem u64_patch_outside {target : Nat}
    (h : target + 8 ≤ offset ∨ offset + data.length ≤ target) :
    (p.image (patch bytes offset data)).u64 target = (p.image bytes).u64 target :=
  u64_congr fun k hk => patch_outside (by omega)

end

/-! ## Targets -/

namespace RelocProgram

/-- The offset of a virtual address does not depend on the bytes of the image. -/
def offsetOf (p : RelocProgram) (vaddr size : BitVec 64) : Option Nat :=
  (p.image fun _ => 0).elfVaddrToImageOffset vaddr size

variable {p : RelocProgram}

theorem elfVaddrToImageOffset_eq (bytes : CodeBytes) (vaddr size : BitVec 64) :
    (p.image bytes).elfVaddrToImageOffset vaddr size = p.offsetOf vaddr size := rfl

theorem offsetOf_le {vaddr size : BitVec 64} {offset : Nat}
    (h : p.offsetOf vaddr size = some offset) :
    offset + size.toNat ≤ p.codeSize := (elfVaddrToImageOffset_eq_some h).2

theorem offsetOf_of_le {vaddr size : BitVec 64} (hbase : p.baseVaddr.toNat ≤ vaddr.toNat)
    (hend : vaddr.toNat + size.toNat ≤ p.baseVaddr.toNat + p.codeSize)
    (htop : vaddr.toNat + size.toNat < 2 ^ 64) :
    p.offsetOf vaddr size = some (vaddr.toNat - p.baseVaddr.toNat) :=
  elfVaddrToImageOffset_of_le hbase hend htop

end RelocProgram

section

variable (env : RelocEnv) (p : RelocProgram) (info : SymbolInfo)

/-- The bytes that an entry is for, if it is not a copy relocation: their offset and number. -/
def relocTarget (e : RelocEntry) : Option (Nat × Nat) :=
  if e.type = (relocTypes p.arch).none then none
  else if e.symbolIndex ≠ 0 ∧ e.type = (relocTypes p.arch).tlsdesc then
    (p.offsetOf e.offset 16).map fun target => (target, 16)
  else (p.offsetOf e.offset 8).map fun target => (target, 8)

def copySize (bytes : CodeBytes) (symbolIndex : BitVec 64) : Option (BitVec 64) := do
  let (request, sym) ← symbolRequest (p.image bytes) info symbolIndex
  let source ← env.scopeObjectSymbol bytes request
  some (if sym.stSize ≠ 0 then sym.stSize else source.size)

def RelocEntry.IsCopy (e : RelocEntry) : Prop :=
  e.type ≠ (relocTypes p.arch).none ∧ e.symbolIndex ≠ 0 ∧ e.type = (relocTypes p.arch).copy

instance (e : RelocEntry) : Decidable (e.IsCopy p) :=
  inferInstanceAs (Decidable (_ ∧ _ ∧ _))

def entryTarget (bytes : CodeBytes) (e : RelocEntry) : Option (Nat × Nat) :=
  if e.IsCopy p then
    (copySize env p info bytes e.symbolIndex).bind fun size =>
      (p.offsetOf e.offset size).map fun target => (target, size.toNat)
  else relocTarget p e

/-! ## The patch of an entry -/

def tlsdescPatch (bytes : CodeBytes) (e : RelocEntry) : Option (Nat × List (BitVec 8)) :=
  if env.tlsdescHelperPc = 0 then none
  else do
    let target ← p.offsetOf e.offset 16
    let value ← resolveProcessTlsRelocSymbol env p info bytes e.symbolIndex
    some (target, toBytes 8 env.tlsdescHelperPc ++
      toBytes 8 (value + e.addendAt p bytes (target + 8)))

def copyPatch (bytes : CodeBytes) (e : RelocEntry) : Option (Nat × List (BitVec 8)) := do
  let (request, sym) ← symbolRequest (p.image bytes) info e.symbolIndex
  let source ← env.scopeObjectSymbol bytes request
  let size := if sym.stSize ≠ 0 then sym.stSize else source.size
  if size = 0 ∨ (source.size ≠ 0 ∧ source.size.toNat < size.toNat) then none
  else
    let target ← p.offsetOf e.offset size
    let sourceOffset ← source.image.elfVaddrToImageOffset source.vaddr size
    some (target, (List.range size.toNat).map fun i => source.image.byte (sourceOffset + i))

/-- The patch of an entry of a main table: a failure, nothing, or bytes at an offset. -/
def entryPatch (bytes : CodeBytes) (e : RelocEntry) : Option (Option (Nat × List (BitVec 8))) :=
  if e.type = (relocTypes p.arch).none then some none
  else if e.symbolIndex ≠ 0 ∧ e.type = (relocTypes p.arch).copy then
    (copyPatch env p info bytes e).map some
  else do
    let target ← p.offsetOf e.offset 8
    if e.symbolIndex ≠ 0 ∧ e.type = (relocTypes p.arch).tlsdesc then
      (tlsdescPatch env p info bytes e).map some
    else
      let value ← relocValue env p info bytes e.symbolIndex e.type (e.addendAt p bytes target)
      some (some (target, toBytes 8 value))

def pltPatch (bytes : CodeBytes) (e : RelocEntry) : Option (Option (Nat × List (BitVec 8))) :=
  if e.type = (relocTypes p.arch).none then some none
  else if e.symbolIndex ≠ 0 ∧ e.type = (relocTypes p.arch).tlsdesc then
    (tlsdescPatch env p info bytes e).map some
  else if e.symbolIndex = 0 ∨ e.type ∉ (relocTypes p.arch).symbolic64 then none
  else do
    let address ← symbolicAddress env p info bytes e.symbolIndex
    let target ← p.offsetOf e.offset 8
    some (some (target, toBytes 8 (address + e.addendAt p bytes target)))

end

def applyPatch (bytes : CodeBytes) : Option (Nat × List (BitVec 8)) → CodeBytes
  | none => bytes
  | some (offset, data) => patch bytes offset data

def Patches (bytes : CodeBytes) (change : Option (Option (Nat × List (BitVec 8))))
    (t : Traced RelocWrite CodeBytes) : Prop :=
  t.value = change.map (applyPatch bytes)

namespace Patches

variable {bytes : CodeBytes} {offset : Nat} {data : List (BitVec 8)}

theorem fail : Patches bytes none (.fail : Traced RelocWrite CodeBytes) := rfl

theorem skip : Patches bytes (some none) (pure bytes) := rfl

theorem writeImage : Patches bytes (some (some (offset, data))) (writeImage bytes offset data) :=
  rfl

theorem writeWord (value : BitVec 64) :
    Patches bytes (some (some (offset, toBytes 8 value)))
      (Polyexec.writeWord bytes offset value) := writeImage

theorem ofOption_bind {α : Type} {a : Option α} {f : α → Traced RelocWrite CodeBytes}
    {g : α → Option (Option (Nat × List (BitVec 8)))}
    (h : ∀ x, a = some x → Patches bytes (g x) (f x)) :
    Patches bytes (a.bind g) (ofOption a >>= f) := by
  cases a with
  | none => exact fail
  | some x => exact h x rfl

end Patches

section

variable {env : RelocEnv} {p : RelocProgram} {info : SymbolInfo} {bytes : CodeBytes}
  {e : RelocEntry}

theorem relocTlsdesc_patches :
    Patches bytes ((tlsdescPatch env p info bytes e).map some)
      (relocTlsdesc env p info bytes e) := by
  unfold relocTlsdesc tlsdescPatch
  split
  · exact .fail
  rw [Option.bind_eq_bind, Option.map_bind]
  refine .ofOption_bind fun target _ => ?_
  rw [Function.comp_apply, Option.bind_eq_bind, Option.map_bind]
  refine .ofOption_bind fun value _ => ?_
  -- the first word does not change the second one, which may hold the addend
  have hlen : (toBytes 8 env.tlsdescHelperPc).length = 8 := length_toBytes 8 _
  have haddend : e.addendAt p (patch bytes target (toBytes 8 env.tlsdescHelperPc)) (target + 8) =
      e.addendAt p bytes (target + 8) := by
    unfold RelocEntry.addendAt
    rw [u64_patch_outside (.inr (by omega))]
  show some (patch (patch bytes target _) (target + 8) _) = some (patch bytes target _)
  rw [haddend, ← patch_append, hlen]

theorem applyProcessCopyRelocation_patches :
    Patches bytes ((copyPatch env p info bytes e).map some)
      (applyProcessCopyRelocation env p info bytes e.symbolIndex e.offset) := by
  unfold applyProcessCopyRelocation copyPatch
  rw [Option.bind_eq_bind, Option.map_bind]
  refine .ofOption_bind fun found _ => ?_
  rw [Function.comp_apply, Option.bind_eq_bind, Option.map_bind]
  refine .ofOption_bind fun source _ => ?_
  rw [Function.comp_apply]
  dsimp only
  generalize (if found.2.stSize ≠ 0 then found.2.stSize else source.size) = size
  split
  · exact .fail
  rw [Option.bind_eq_bind, Option.map_bind]
  refine .ofOption_bind fun target _ => ?_
  rw [Function.comp_apply, Option.map_bind]
  exact .ofOption_bind fun sourceOffset _ => .writeImage

theorem relocEntry_patches :
    Patches bytes (entryPatch env p info bytes e) (relocEntry env p info bytes e) := by
  unfold relocEntry entryPatch
  dsimp only
  split
  · exact .skip
  split
  · exact applyProcessCopyRelocation_patches
  refine .ofOption_bind fun target _ => ?_
  split
  · exact relocTlsdesc_patches
  · exact .ofOption_bind fun value _ => .writeWord _

theorem pltEntry_patches :
    Patches bytes (pltPatch env p info bytes e) (pltEntry env p info bytes e) := by
  unfold pltEntry pltPatch
  dsimp only
  split
  · exact .skip
  split
  · exact relocTlsdesc_patches
  split
  · exact .fail
  refine .ofOption_bind fun address _ => ?_
  exact .ofOption_bind fun target _ => .writeWord _

/-! ## The patch is the target -/

variable {target : Nat} {data : List (BitVec 8)}

theorem tlsdescPatch_target (h : tlsdescPatch env p info bytes e = some (target, data)) :
    p.offsetOf e.offset 16 = some target ∧ data.length = 16 := by
  unfold tlsdescPatch at h
  split at h
  · cases h
  obtain ⟨offset, hoffset, h⟩ := Option.bind_eq_some_iff.mp h
  obtain ⟨value, -, h⟩ := Option.bind_eq_some_iff.mp h
  cases h
  exact ⟨hoffset, by rw [List.length_append, length_toBytes, length_toBytes]⟩

theorem copyPatch_target (h : copyPatch env p info bytes e = some (target, data)) :
    ∃ size, copySize env p info bytes e.symbolIndex = some size ∧
      p.offsetOf e.offset size = some target ∧ data.length = size.toNat := by
  obtain ⟨found, hfound, h⟩ := Option.bind_eq_some_iff.mp h
  obtain ⟨source, hsource, h⟩ := Option.bind_eq_some_iff.mp h
  have hsize : copySize env p info bytes e.symbolIndex =
      some (if found.2.stSize ≠ 0 then found.2.stSize else source.size) := by
    unfold copySize
    rw [hfound, Option.bind_eq_bind, Option.bind_some]
    dsimp only
    rw [hsource]
    rfl
  dsimp only at h
  generalize (if found.2.stSize ≠ 0 then found.2.stSize else source.size) = size at h hsize
  split at h
  · cases h
  obtain ⟨offset, hoffset, h⟩ := Option.bind_eq_some_iff.mp h
  obtain ⟨sourceOffset, -, h⟩ := Option.bind_eq_some_iff.mp h
  cases h
  exact ⟨size, hsize, hoffset, by rw [List.length_map, List.length_range]⟩

theorem entryPatch_target (h : entryPatch env p info bytes e = some (some (target, data))) :
    entryTarget env p info bytes e = some (target, data.length) := by
  unfold entryPatch at h
  split at h
  · cases h
  rename_i hnone
  split at h
  · rename_i hcopy
    obtain ⟨change, hchange, heq⟩ := Option.map_eq_some_iff.mp h
    cases heq
    obtain ⟨size, hsize, hoffset, hlen⟩ := copyPatch_target hchange
    rw [entryTarget, if_pos ⟨hnone, hcopy⟩, hsize, Option.bind_some, hoffset, hlen]
    rfl
  rename_i hcopy
  rw [entryTarget, if_neg fun hc => hcopy hc.2, relocTarget, if_neg hnone]
  obtain ⟨offset, hoffset, h⟩ := Option.bind_eq_some_iff.mp h
  split at h
  · rename_i hdesc
    obtain ⟨change, hchange, heq⟩ := Option.map_eq_some_iff.mp h
    cases heq
    obtain ⟨hoffset, hlen⟩ := tlsdescPatch_target hchange
    rw [if_pos hdesc, hoffset, hlen]
    rfl
  · rename_i hdesc
    obtain ⟨value, -, h⟩ := Option.bind_eq_some_iff.mp h
    cases h
    rw [if_neg hdesc, hoffset, length_toBytes]
    rfl

theorem pltPatch_target (h : pltPatch env p info bytes e = some (some (target, data))) :
    relocTarget p e = some (target, data.length) := by
  unfold pltPatch at h
  split at h
  · cases h
  rename_i hnone
  rw [relocTarget, if_neg hnone]
  split at h
  · rename_i hdesc
    obtain ⟨change, hchange, heq⟩ := Option.map_eq_some_iff.mp h
    cases heq
    obtain ⟨hoffset, hlen⟩ := tlsdescPatch_target hchange
    rw [if_pos hdesc, hoffset, hlen]
    rfl
  rename_i hdesc
  split at h
  · cases h
  obtain ⟨address, -, h⟩ := Option.bind_eq_some_iff.mp h
  obtain ⟨offset, hoffset, h⟩ := Option.bind_eq_some_iff.mp h
  cases h
  rw [if_neg hdesc, hoffset, length_toBytes]
  rfl

end

/-! ## The tables of an image -/

structure DynTable where
  vaddr : BitVec 64
  size : BitVec 64
  entrySize : BitVec 64
  deriving DecidableEq, Repr

/-- A table in the image: its offset, and the size and the number of its entries. -/
structure TableAt (p : RelocProgram) (vaddr size : BitVec 64) (offset entrySize count : Nat) :
    Prop where
  vaddr_ne : vaddr ≠ 0
  offsetOf : p.offsetOf vaddr size = some offset
  size : size.toNat = count * entrySize

/-! ## Images for the witnesses -/

def wordImage (words : List (BitVec 64)) : CodeBytes := fun i =>
  (words.getD (i / 8) 0).extractLsb' (8 * (i % 8)) 8

/-- An x86 image at `0x400000`, linked for `0x1000`, with its dynamic table at its end. -/
def symbolProgram : RelocProgram where
  arch := .x86
  baseVaddr := 0x1000
  codeSize := 216
  codeSize_le := by decide
  dynamicOffset := 120
  dynamicSize := 96
  tlsOffset := 0
  loadedImage := 0x400000

end Poly.Polyexec
