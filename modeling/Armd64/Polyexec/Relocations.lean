import Armd64.Lib.Code
import Armd64.Polyexec.ElfLoad

/-!
# Relocations of an image (`polyexec.c`)

`apply_relative_relocations` goes through the relocation tables of a loaded image and changes the
words that they name. A symbol that the image does not define is looked up in the other programs of
the process: what these lookups give is a parameter here (`RelocEnv`).
-/

namespace Poly.Polyexec

open Hw (Traced)
open Hw.Traced

/-! ## Programs -/

/-- The fields of `struct poly_program` that relocation uses, and the address of the image. -/
structure RelocProgram where
  arch : Abi.Arch
  baseVaddr : BitVec 64
  codeSize : Nat
  codeSize_le : codeSize ≤ maxProgramBytes
  dynamicOffset : Nat
  dynamicSize : Nat
  tlsOffset : BitVec 64
  loadedImage : BitVec 64

namespace RelocProgram

variable (p : RelocProgram)

def image (bytes : CodeBytes) : Image where
  baseVaddr := p.baseVaddr
  codeSize := p.codeSize
  codeSize_le := p.codeSize_le
  loadedImage := p.loadedImage
  byte := bytes
  dynamic := dynamicEntries bytes p.dynamicOffset (p.dynamicSize / 16)

def loadBias : BitVec 64 := p.loadedImage - p.baseVaddr

end RelocProgram

def Image.cStringAt (img : Image) (offset : Nat) : List (BitVec 8) :=
  cString ((List.range (img.codeSize - offset)).map fun i => img.byte (offset + i))

def patch (bytes : CodeBytes) (offset : Nat) (data : List (BitVec 8)) : CodeBytes := fun i =>
  if offset ≤ i then data.getD (i - offset) (bytes i) else bytes i

/-! ## Relocation types -/

/-- The relocation types that the runtime knows for an architecture. -/
structure RelocTypes where
  none : BitVec 32
  relative : BitVec 32
  irelative : BitVec 32
  copy : BitVec 32
  tlsTprel : BitVec 32
  tlsDtpmod : BitVec 32
  tlsDtprel : BitVec 32
  tlsdesc : BitVec 32
  symbolic64 : List (BitVec 32)

/-- `*_reloc_type_for_arch`, and the types that `apply_relative_relocations` sets itself. -/
def relocTypes : Abi.Arch → RelocTypes
  | .aarch64 => ⟨0, 1027, 1032, 1024, 1030, 1028, 1029, 1031, [257, 1025, 1026]⟩
  | .riscv => ⟨0, 3, 58, 4, 11, 7, 9, 0xffffffff, [2, 5]⟩
  | .x86 => ⟨0, 8, 37, 5, 18, 16, 17, 0xffffffff, [1, 6, 7]⟩

/-! ## The version that a relocation asks for -/

def dtVerneed : BitVec 64 := 0x6ffffffe
def dtVerneednum : BitVec 64 := 0x6fffffff

/-- The body of the inner loop of `version_string_from_verneed`. It fails, or finds the offset of a
name, or none. -/
def vernauxBody (img : Image) (strsz : BitVec 64) (versionIndex count : BitVec 16) (s : Nat × Nat) :
    Except (Option (Option Nat)) (Nat × Nat) :=
  if count.toNat ≤ s.1 then .error (some none)
  else if img.codeSize < s.2 ∨ img.codeSize - s.2 < 16 then .error none
  else if img.u16 (s.2 + 6) &&& 0x7fff = versionIndex then
    if strsz.toNat ≤ (img.u32 (s.2 + 8)).toNat then .error none
    else .error (some (some (img.u32 (s.2 + 8)).toNat))
  else if img.u32 (s.2 + 12) = 0 then .error (some none)
  else .ok (s.1 + 1, s.2 + (img.u32 (s.2 + 12)).toNat)

variable {img : Image} {strsz : BitVec 64} {versionIndex : BitVec 16} {s s' : Nat × Nat}

theorem vernauxBody_eq_ok {count : BitVec 16}
    (h : vernauxBody img strsz versionIndex count s = .ok s') :
    s.1 < count.toNat ∧ s'.1 = s.1 + 1 := by
  rw [vernauxBody] at h
  split at h
  · cases h
  split at h
  · cases h
  split at h
  · split at h <;> cases h
  split at h
  · cases h
  cases h
  exact ⟨by omega, rfl⟩

def vernauxLoop (img : Image) (strsz : BitVec 64) (versionIndex count : BitVec 16) :
    Hw.Loop (Nat × Nat) (Option (Option Nat)) where
  body := vernauxBody img strsz versionIndex count
  measure s := count.toNat - s.1
  decreases := by
    intro s s' h
    obtain ⟨hlt, heq⟩ := vernauxBody_eq_ok h
    omega

/-- The body of the outer loop: the index and the offset of an entry. -/
def verneedBody (img : Image) (strsz verneedNum : BitVec 64) (versionIndex : BitVec 16)
    (s : Nat × Nat) : Except (Option Nat) (Nat × Nat) :=
  if verneedNum.toNat ≤ s.1 then .error none
  else if img.codeSize < s.2 ∨ img.codeSize - s.2 < 16 then .error none
  else
    let auxOffset := s.2 + (img.u32 (s.2 + 8)).toNat
    match (vernauxLoop img strsz versionIndex (img.u16 (s.2 + 2))).exit (0, auxOffset) with
    | none => .error none
    | some (some name) => .error (some name)
    | some none =>
      if img.u32 (s.2 + 12) = 0 then .error none
      else .ok (s.1 + 1, s.2 + (img.u32 (s.2 + 12)).toNat)

theorem verneedBody_eq_ok {verneedNum : BitVec 64}
    (h : verneedBody img strsz verneedNum versionIndex s = .ok s') :
    s.1 < verneedNum.toNat ∧ s'.1 = s.1 + 1 := by
  rw [verneedBody] at h
  split at h
  · cases h
  split at h
  · cases h
  dsimp only at h
  split at h
  · cases h
  · cases h
  split at h
  · cases h
  cases h
  exact ⟨by omega, rfl⟩

def verneedLoop (img : Image) (strsz verneedNum : BitVec 64) (versionIndex : BitVec 16) :
    Hw.Loop (Nat × Nat) (Option Nat) where
  body := verneedBody img strsz verneedNum versionIndex
  measure s := verneedNum.toNat - s.1
  decreases := by
    intro s s' h
    obtain ⟨hlt, heq⟩ := verneedBody_eq_ok h
    omega

def versionStringFromVerneed (img : Image) (info : SymbolInfo) (versionIndex : BitVec 16) :
    Option (List (BitVec 8)) :=
  let verneedVaddr := img.dyn dtVerneed 0
  let verneedNum := img.dyn dtVerneednum 0
  if verneedVaddr = 0 ∨ verneedNum = 0 then none
  else do
    let strtabOffset ← img.elfVaddrToImageOffset info.strtabVaddr info.strsz
    let needOffset ← img.elfVaddrToImageOffset verneedVaddr 16
    let name ← (verneedLoop img info.strsz verneedNum versionIndex).exit (0, needOffset)
    some (img.cStringAt (strtabOffset + name))

def relocationRequestedVersionName (img : Image) (info : SymbolInfo) (symbolIndex : BitVec 64) :
    Option (Option (List (BitVec 8))) :=
  if img.info.versymVaddr = 0 then some none
  else do
    let versionIndex ← readSymbolVersionIndex img img.info symbolIndex.toNat
    if versionIndex &&& 0x7fff ≤ 1 then some none
    else (versionStringFromVerneed img info (versionIndex &&& 0x7fff)).map some

/-! ## Symbols of other programs -/

structure SymbolRequest where
  name : List (BitVec 8)
  version : Option (List (BitVec 8))
  weak : Bool
  deriving DecidableEq, Repr

def symbolRequest (img : Image) (info : SymbolInfo) (symbolIndex : BitVec 64) :
    Option (SymbolRequest × ElfSym) := do
  let (sym, nameOffset) ← (dynamicSymbolByIndex img info symbolIndex).value
  let version ← relocationRequestedVersionName img info symbolIndex
  return (⟨img.cStringAt nameOffset, version, sym.bind == 2⟩, sym)

structure ObjectSource where
  image : Image
  vaddr : BitVec 64
  size : BitVec 64

/-- What the relocation of a program takes from the process. The lookups get the bytes of the image
so far, which they search too. -/
structure RelocEnv where
  /-- `run_irelative_resolver`. The resolvers do not write to the images. -/
  irelative : CodeBytes → BitVec 64 → Option (BitVec 64)
  /-- The lookups of `resolve_dependency_reloc_symbol` for a symbol that is not defined. -/
  scopeSymbol : CodeBytes → SymbolRequest → Option (BitVec 64)
  scopeTlsSymbol : CodeBytes → SymbolRequest → Option (BitVec 64)
  scopeObjectSymbol : CodeBytes → SymbolRequest → Option ObjectSource
  tlsdescHelperPc : BitVec 64
  tlsGetAddrHelperPc : BitVec 64

/-! ## Values -/

structure RelocWrite where
  offset : Nat
  data : List (BitVec 8)

def writeImage (bytes : CodeBytes) (offset : Nat) (data : List (BitVec 8)) :
    Traced RelocWrite CodeBytes :=
  .emit ⟨offset, data⟩ (patch bytes offset data)

def writeWord (bytes : CodeBytes) (offset : Nat) (value : BitVec 64) :
    Traced RelocWrite CodeBytes :=
  writeImage bytes offset (Hw.toBytes 8 value)

section

variable (env : RelocEnv) (p : RelocProgram) (info : SymbolInfo)

def resolveDependencyRelocSymbol (bytes : CodeBytes) (symbolIndex : BitVec 64) :
    Option (BitVec 64) := do
  let (request, _) ← symbolRequest (p.image bytes) info symbolIndex
  if env.tlsGetAddrHelperPc ≠ 0 ∧ request.name = textBytes "__tls_get_addr" then
    some env.tlsGetAddrHelperPc
  else
    (env.scopeSymbol bytes request).or (if request.weak then some 0 else none)

def resolveProcessTlsRelocSymbol (bytes : CodeBytes) (symbolIndex : BitVec 64) :
    Option (BitVec 64) := do
  let (request, sym) ← symbolRequest (p.image bytes) info symbolIndex
  if sym.stShndx = 0 then
    (env.scopeTlsSymbol bytes request).or (if request.weak then some 0 else none)
  -- `STT_TLS`
  else if sym.type ≠ 6 then none
  else some (p.tlsOffset + sym.stValue)

/-- The address of the symbol of a symbolic relocation. A symbol that the image defines is taken
from the image. -/
def symbolicAddress (bytes : CodeBytes) (symbolIndex : BitVec 64) : Option (BitVec 64) :=
  match (resolveSameImageRelocSymbol (p.image bytes) info symbolIndex).value with
  | some (value, type) =>
    -- `STT_GNU_IFUNC`
    if type = 10 then env.irelative bytes value else some (p.loadBias + value)
  | none => resolveDependencyRelocSymbol env p info bytes symbolIndex

def relocValue (bytes : CodeBytes) (symbolIndex : BitVec 64) (type : BitVec 32)
    (addend : BitVec 64) : Option (BitVec 64) :=
  let types := relocTypes p.arch
  if symbolIndex = 0 ∧ type = types.relative then some (p.loadBias + addend)
  else if symbolIndex = 0 ∧ type = types.irelative then env.irelative bytes addend
  else if symbolIndex ≠ 0 ∧ (type = types.tlsTprel ∨ type = types.tlsDtprel) then
    (resolveProcessTlsRelocSymbol env p info bytes symbolIndex).map (· + addend)
  else if type = types.tlsDtpmod then some (1 + addend)
  else if symbolIndex ≠ 0 ∧ type ∈ types.symbolic64 then
    (symbolicAddress env p info bytes symbolIndex).map (· + addend)
  else none

/-! ## Entries -/

/-- An entry of a relocation table. Without an addend of its own (`Elf64_Rel`) it takes the word
that is in the image. -/
structure RelocEntry where
  offset : BitVec 64
  info : BitVec 64
  addend : Option (BitVec 64)

def RelocEntry.symbolIndex (e : RelocEntry) : BitVec 64 := e.info >>> 32

def RelocEntry.type (e : RelocEntry) : BitVec 32 := e.info.setWidth 32

def RelocEntry.addendAt (e : RelocEntry) (bytes : CodeBytes) (target : Nat) : BitVec 64 :=
  e.addend.getD ((p.image bytes).u64 target)

def relocTlsdesc (bytes : CodeBytes) (e : RelocEntry) : Traced RelocWrite CodeBytes :=
  if env.tlsdescHelperPc = 0 then .fail
  else do
    let target ← ofOption ((p.image bytes).elfVaddrToImageOffset e.offset 16)
    let value ← ofOption (resolveProcessTlsRelocSymbol env p info bytes e.symbolIndex)
    let bytes ← writeWord bytes target env.tlsdescHelperPc
    writeWord bytes (target + 8) (value + e.addendAt p bytes (target + 8))

def applyProcessCopyRelocation (bytes : CodeBytes) (symbolIndex targetVaddr : BitVec 64) :
    Traced RelocWrite CodeBytes := do
  let (request, sym) ← ofOption (symbolRequest (p.image bytes) info symbolIndex)
  let source ← ofOption (env.scopeObjectSymbol bytes request)
  let copySize := if sym.stSize ≠ 0 then sym.stSize else source.size
  if copySize = 0 ∨ (source.size ≠ 0 ∧ source.size.toNat < copySize.toNat) then .fail
  else do
    let targetOffset ← ofOption ((p.image bytes).elfVaddrToImageOffset targetVaddr copySize)
    let sourceOffset ← ofOption (source.image.elfVaddrToImageOffset source.vaddr copySize)
    let data := (List.range copySize.toNat).map fun i => source.image.byte (sourceOffset + i)
    writeImage bytes targetOffset data

def relocEntry (bytes : CodeBytes) (e : RelocEntry) : Traced RelocWrite CodeBytes :=
  let types := relocTypes p.arch
  if e.type = types.none then pure bytes
  else if e.symbolIndex ≠ 0 ∧ e.type = types.copy then
    applyProcessCopyRelocation env p info bytes e.symbolIndex e.offset
  else do
    let target ← ofOption ((p.image bytes).elfVaddrToImageOffset e.offset 8)
    if e.symbolIndex ≠ 0 ∧ e.type = types.tlsdesc then relocTlsdesc env p info bytes e
    else
      let value ← ofOption
        (relocValue env p info bytes e.symbolIndex e.type (e.addendAt p bytes target))
      writeWord bytes target value

/-- An entry of `DT_JMPREL`: only symbolic relocations and `TLSDESC`. -/
def pltEntry (bytes : CodeBytes) (e : RelocEntry) : Traced RelocWrite CodeBytes :=
  let types := relocTypes p.arch
  if e.type = types.none then pure bytes
  else if e.symbolIndex ≠ 0 ∧ e.type = types.tlsdesc then relocTlsdesc env p info bytes e
  else if e.symbolIndex = 0 ∨ e.type ∉ types.symbolic64 then .fail
  else do
    let address ← ofOption (symbolicAddress env p info bytes e.symbolIndex)
    let target ← ofOption ((p.image bytes).elfVaddrToImageOffset e.offset 8)
    writeWord bytes target (address + e.addendAt p bytes target)

/-! ## Tables -/

/-- The entry at an offset of the image, which is read when its turn comes. -/
def readRelocEntry (bytes : CodeBytes) (withAddend : Bool) (offset : Nat) : RelocEntry :=
  let img := p.image bytes
  ⟨img.u64 offset, img.u64 (offset + 8), if withAddend then some (img.u64 (offset + 16)) else none⟩

def relocEntrySize (withAddend : Bool) : Nat := if withAddend then 24 else 16

/-- The loop over the entries of a table from an offset of the image on. -/
def relocEntries (entry : CodeBytes → RelocEntry → Traced RelocWrite CodeBytes) (withAddend : Bool)
    (offset entrySize count : Nat) (bytes : CodeBytes) : Traced RelocWrite CodeBytes :=
  (List.range count).foldlM
    (fun bytes n => entry bytes (readRelocEntry p bytes withAddend (offset + n * entrySize))) bytes

def relocTable (withAddend : Bool) (vaddr size entrySize : BitVec 64) (bytes : CodeBytes) :
    Traced RelocWrite CodeBytes :=
  if vaddr = 0 ∨ size = 0 then pure bytes
  else if entrySize.toNat < relocEntrySize withAddend ∨ size.toNat % entrySize.toNat ≠ 0 then .fail
  else do
    let offset ← ofOption ((p.image bytes).elfVaddrToImageOffset vaddr size)
    relocEntries p (relocEntry env p info) withAddend offset entrySize.toNat
      (size.toNat / entrySize.toNat) bytes

def relrWord (bytes : CodeBytes) (vaddr : BitVec 64) : Traced RelocWrite CodeBytes := do
  let target ← ofOption ((p.image bytes).elfVaddrToImageOffset vaddr 8)
  writeWord bytes target (p.loadBias + (p.image bytes).u64 target)

/-- An entry of `DT_RELR`, with the address that a bitmap starts at. -/
def relrEntry (s : CodeBytes × BitVec 64) (offset : Nat) :
    Traced RelocWrite (CodeBytes × BitVec 64) :=
  let entry := (p.image s.1).u64 offset
  if entry &&& 1 = 0 then do
    let bytes ← relrWord p s.1 entry
    return (bytes, entry + 8)
  else do
    let bytes ← ((List.range 63).map (· + 1)).foldlM
      (fun bytes bit =>
        if entry.getLsbD bit then relrWord p bytes (s.2 + BitVec.ofNat 64 ((bit - 1) * 8))
        else pure bytes)
      s.1
    return (bytes, s.2 + 63 * 8)

def relrTable (vaddr size entrySize : BitVec 64) (bytes : CodeBytes) :
    Traced RelocWrite CodeBytes :=
  if vaddr = 0 ∨ size = 0 then pure bytes
  else if entrySize ≠ 8 ∨ size.toNat % 8 ≠ 0 then .fail
  else do
    let offset ← ofOption ((p.image bytes).elfVaddrToImageOffset vaddr size)
    let s ← (List.range (size.toNat / 8)).foldlM (fun s n => relrEntry p s (offset + n * 8))
      (bytes, 0)
    return s.1

def dtRela : BitVec 64 := 7
def dtRelasz : BitVec 64 := 8
def dtRelaent : BitVec 64 := 9
def dtRel : BitVec 64 := 17
def dtRelsz : BitVec 64 := 18
def dtRelent : BitVec 64 := 19
def dtPltrelsz : BitVec 64 := 2
def dtPltrel : BitVec 64 := 20
def dtJmprel : BitVec 64 := 23
def dtRelrsz : BitVec 64 := 35
def dtRelr : BitVec 64 := 36
def dtRelrent : BitVec 64 := 37

/-- The table of `DT_JMPREL`, whose entries have the format of `pltrelType`. -/
def pltTable (vaddr size pltrelType : BitVec 64) (bytes : CodeBytes) :
    Traced RelocWrite CodeBytes :=
  if size = 0 then pure bytes
  else if vaddr = 0 ∨ (pltrelType ≠ dtRela ∧ pltrelType ≠ dtRel) then .fail
  else
    let withAddend := pltrelType = dtRela
    let entrySize := relocEntrySize withAddend
    if size.toNat % entrySize ≠ 0 then .fail
    else do
      let offset ← ofOption ((p.image bytes).elfVaddrToImageOffset vaddr size)
      relocEntries p (pltEntry env p info) withAddend offset entrySize (size.toNat / entrySize)
        bytes

end

/-- `apply_relative_relocations`. The dynamic table is read before the first relocation. -/
def applyRelativeRelocations (env : RelocEnv) (p : RelocProgram) (bytes : CodeBytes) :
    Traced RelocWrite CodeBytes :=
  if p.dynamicSize = 0 then pure bytes
  else do
    let img := p.image bytes
    let info := img.info
    let bytes ← relocTable env p info true (img.dyn dtRela 0) (img.dyn dtRelasz 0)
      (img.dyn dtRelaent 24) bytes
    let bytes ← relocTable env p info false (img.dyn dtRel 0) (img.dyn dtRelsz 0)
      (img.dyn dtRelent 16) bytes
    let bytes ← relrTable p (img.dyn dtRelr 0) (img.dyn dtRelrsz 0) (img.dyn dtRelrent 8) bytes
    pltTable env p info (img.dyn dtJmprel 0) (img.dyn dtPltrelsz 0) (img.dyn dtPltrel 0) bytes

namespace RelocTypes

/-- The test for a list of types, where this namespace is open. -/
scoped instance decidableMem (type : BitVec 32) (types : List (BitVec 32)) :
    Decidable (type ∈ types) :=
  decidable_of_iff (types.contains type = true) List.contains_iff_mem

end RelocTypes

end Poly.Polyexec
