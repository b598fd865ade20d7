import Armd64.Lib.Loop
import Armd64.Lib.Traced
import Armd64.Lib.Words

/-!
# Dynamic symbols of loaded images (`polyexec.c`)

The lookups of a symbol by its index or by its name, in an image whose dynamic table comes from the
file. Offsets are relative to the start of the image; a lookup logs the offset of each symbol record
and of each byte of a name that it reads (`SymRead`), whether or not it is in the image.
-/

namespace Poly.Polyexec

open Hw (Traced)

def maxProgramBytes : Nat := 128 * 1024 * 1024

/-- The parts of `struct poly_program` and of its loaded image that the lookups use. -/
structure Image where
  baseVaddr : BitVec 64
  codeSize : Nat
  codeSize_le : codeSize ≤ maxProgramBytes
  loadedImage : BitVec 64
  /-- The byte at an offset from the start of the image, in the image or not. -/
  byte : Nat → BitVec 8
  dynamic : List (BitVec 64 × BitVec 64)

namespace Image

variable (img : Image)

def u16 (offset : Nat) : BitVec 16 := Hw.ofWords 2 fun i => img.byte (offset + i)

def u32 (offset : Nat) : BitVec 32 := Hw.ofWords 4 fun i => img.byte (offset + i)

def u64 (offset : Nat) : BitVec 64 := Hw.ofWords 8 fun i => img.byte (offset + i)

def elfVaddrToImageOffset (vaddr size : BitVec 64) : Option Nat :=
  if vaddr.toNat < img.baseVaddr.toNat ∨ 2 ^ 64 - 1 - size.toNat < vaddr.toNat then none
  else
    let imageOffset := vaddr.toNat - img.baseVaddr.toNat
    if img.codeSize < imageOffset ∨ img.codeSize - imageOffset < size.toNat then none
    else some imageOffset

end Image

variable {vaddr size : BitVec 64} {s s' : Nat × Nat} {img : Image}

theorem elfVaddrToImageOffset_eq_some {offset : Nat}
    (h : img.elfVaddrToImageOffset vaddr size = some offset) :
    vaddr.toNat = img.baseVaddr.toNat + offset ∧ offset + size.toNat ≤ img.codeSize := by
  rw [Image.elfVaddrToImageOffset] at h
  split at h
  · cases h
  · dsimp only at h
    split at h
    · cases h
    · cases h
      omega

theorem elfVaddrToImageOffset_of_le (hbase : img.baseVaddr.toNat ≤ vaddr.toNat)
    (hend : vaddr.toNat + size.toNat ≤ img.baseVaddr.toNat + img.codeSize)
    (htop : vaddr.toNat + size.toNat < 2 ^ 64) :
    img.elfVaddrToImageOffset vaddr size = some (vaddr.toNat - img.baseVaddr.toNat) := by
  rw [Image.elfVaddrToImageOffset, if_neg (by omega)]
  rw [if_neg (by omega)]

/-! ## The dynamic table -/

def dtHash : BitVec 64 := 4
def dtStrtab : BitVec 64 := 5
def dtSymtab : BitVec 64 := 6
def dtStrsz : BitVec 64 := 10
def dtSyment : BitVec 64 := 11
def dtGnuHash : BitVec 64 := 0x6ffffef5
def dtVersym : BitVec 64 := 0x6ffffff0
def dtVerdef : BitVec 64 := 0x6ffffffc
def dtVerdefnum : BitVec 64 := 0x6ffffffd

def symSize : Nat := 24

def Image.dyn (img : Image) (tag : BitVec 64) (default : BitVec 64) : BitVec 64 :=
  img.dynamic.foldl (fun value entry => if entry.1 = tag then entry.2 else value) default

structure SymbolInfo where
  symtabVaddr : BitVec 64
  strtabVaddr : BitVec 64
  strsz : BitVec 64
  syment : BitVec 64
  hashVaddr : BitVec 64
  gnuHashVaddr : BitVec 64
  versymVaddr : BitVec 64
  verdefVaddr : BitVec 64
  verdefNum : BitVec 64
  deriving DecidableEq, Repr

/-- The loops of `dynamic_symbol_table_info` and `dynamic_version_table_info`. -/
def Image.info (img : Image) : SymbolInfo where
  symtabVaddr := img.dyn dtSymtab 0
  strtabVaddr := img.dyn dtStrtab 0
  strsz := img.dyn dtStrsz 0
  syment := img.dyn dtSyment (BitVec.ofNat 64 symSize)
  hashVaddr := img.dyn dtHash 0
  gnuHashVaddr := img.dyn dtGnuHash 0
  versymVaddr := img.dyn dtVersym 0
  verdefVaddr := img.dyn dtVerdef 0
  verdefNum := img.dyn dtVerdefnum 0

/-! ## The number of symbols -/

/-- The body of the loop along one chain of a GNU hash table: the next index and the count so far. -/
def gnuChainBody (img : Image) (chainsOffset symoffset maxSymbols : Nat) (s : Nat × Nat) :
    Except (Option Nat) (Nat × Nat) :=
  let chainOffset := chainsOffset + (s.1 - symoffset) * 4
  if img.codeSize < chainOffset ∨ img.codeSize - chainOffset < 4 then .error none
  else
    let count := if s.2 < s.1 + 1 then s.1 + 1 else s.2
    if img.u32 chainOffset &&& 1#32 ≠ 0 then .error (some count)
    else if maxSymbols ≤ s.1 + 1 then .error none
    else .ok (s.1 + 1, count)

theorem gnuChainBody_eq_ok {chainsOffset symoffset maxSymbols : Nat}
    (h : gnuChainBody img chainsOffset symoffset maxSymbols s = .ok s') :
    s'.1 = s.1 + 1 ∧ s.1 + 1 < maxSymbols ∧ s'.2 ≤ max s.2 (s.1 + 1) := by
  rw [gnuChainBody] at h
  dsimp only at h
  split at h
  · cases h
  · split at h
    · cases h
    · split at h
      · cases h
      · cases h
        refine ⟨rfl, by omega, ?_⟩
        split <;> omega

def gnuChain (img : Image) (chainsOffset symoffset maxSymbols : Nat) :
    Hw.Loop (Nat × Nat) (Option Nat) where
  body := gnuChainBody img chainsOffset symoffset maxSymbols
  measure s := maxSymbols - s.1
  decreases := by
    intro s s' h
    obtain ⟨hindex, hlt, -⟩ := gnuChainBody_eq_ok h
    omega

def gnuBuckets (img : Image) (bucketsOffset chainsOffset symoffset maxSymbols : Nat) :
    List Nat → Nat → Option Nat
  | [], count => some count
  | n :: ns, count =>
    let index := (img.u32 (bucketsOffset + n * 4)).toNat
    if index = 0 then gnuBuckets img bucketsOffset chainsOffset symoffset maxSymbols ns count
    else if index < symoffset ∨ maxSymbols ≤ index then none
    else
      ((gnuChain img chainsOffset symoffset maxSymbols).exit (index, count)).bind
        (gnuBuckets img bucketsOffset chainsOffset symoffset maxSymbols ns)

/-- The part of `dynamic_symbol_count_from_hash` for `DT_GNU_HASH`. -/
def gnuSymbolCount (img : Image) (info : SymbolInfo) : Option Nat := do
  let symtabOffset ← img.elfVaddrToImageOffset info.symtabVaddr info.syment
  let hashOffset ← img.elfVaddrToImageOffset info.gnuHashVaddr 16
  let nbuckets := (img.u32 hashOffset).toNat
  let symoffset := (img.u32 (hashOffset + 4)).toNat
  let bloomSize := (img.u32 (hashOffset + 8)).toNat
  if nbuckets = 0 ∨ bloomSize = 0 then none
  else
    let bucketsOffset := hashOffset + 16 + bloomSize * 8
    let bucketsSize := nbuckets * 4
    if img.codeSize < bucketsOffset ∨ img.codeSize - bucketsOffset < bucketsSize then none
    else
      let chainsOffset := bucketsOffset + bucketsSize
      let maxSymbols := (img.codeSize - symtabOffset) / info.syment.toNat
      if img.codeSize < chainsOffset ∨ img.codeSize < symtabOffset ∨ maxSymbols < symoffset then none
      else
        gnuBuckets img bucketsOffset chainsOffset symoffset maxSymbols (List.range nbuckets) symoffset

def dynamicSymbolCountFromHash (img : Image) (info : SymbolInfo) : Option Nat :=
  let checked (count : Nat) : Option Nat :=
    if count ≠ 0 ∧ count ≤ 4096 then some count else none
  if info.hashVaddr ≠ 0 then
    (img.elfVaddrToImageOffset info.hashVaddr 8).bind fun hashOffset =>
      checked (img.u32 (hashOffset + 4)).toNat
  else if info.gnuHashVaddr = 0 then none
  else (gnuSymbolCount img info).bind checked

/-! ## Records and names -/

structure ElfSym where
  stName : BitVec 32
  stInfo : BitVec 8
  stOther : BitVec 8
  stShndx : BitVec 16
  stValue : BitVec 64
  stSize : BitVec 64
  deriving DecidableEq, Repr

def ElfSym.bind (sym : ElfSym) : BitVec 8 := sym.stInfo >>> 4

def ElfSym.type (sym : ElfSym) : BitVec 8 := sym.stInfo &&& 0xf

def ElfSym.visibility (sym : ElfSym) : BitVec 8 := sym.stOther &&& 3

def Image.sym (img : Image) (offset : Nat) : ElfSym where
  stName := img.u32 offset
  stInfo := img.byte (offset + 4)
  stOther := img.byte (offset + 5)
  stShndx := img.u16 (offset + 6)
  stValue := img.u64 (offset + 8)
  stSize := img.u64 (offset + 16)

inductive SymRead
  | record (offset : Nat)
  | name (offset : Nat)
  deriving DecidableEq, Repr

def readSym (img : Image) (offset : Nat) : Traced SymRead ElfSym :=
  .emit (.record offset) (img.sym offset)

/-- `loaded_image + symtab_offset + index * syment`, less the address of the image. -/
def recordOffset (info : SymbolInfo) (symtabOffset index : Nat) : Nat :=
  (symtabOffset + index * info.syment.toNat) % 2 ^ 64

/-- `strcmp` of the name at an offset with a string, up to the first difference or the end. -/
def strcmpAt (img : Image) (offset : Nat) : List (BitVec 8) → Traced SymRead Bool
  | [] => .emit (.name offset) (img.byte offset == 0)
  | c :: cs => do
    let b ← Traced.emit (.name offset) (img.byte offset)
    if b = c ∧ c ≠ 0 then strcmpAt img (offset + 1) cs else pure (b == c)

def symbolIsDependencyExport (sym : ElfSym) : Bool :=
  sym.stShndx != 0 && (sym.bind == 1 || sym.bind == 2) &&
    (sym.visibility == 0 || sym.visibility == 3)

/-! ## Lookups by index -/

/-- The offset of the symbol table of `count` records; the size is a 64-bit product. -/
def symtabOffsetOf (img : Image) (info : SymbolInfo) (count : Nat) : Option Nat :=
  img.elfVaddrToImageOffset info.symtabVaddr (BitVec.ofNat 64 count * info.syment)

/-- The offset of a record, after the checks of its index and of the size of the table. -/
def symbolRecordOffset (img : Image) (info : SymbolInfo) (symbolIndex : BitVec 64) : Option Nat := do
  let symbolCount ← dynamicSymbolCountFromHash img info
  if symbolCount ≤ symbolIndex.toNat then none
  else
    (symtabOffsetOf img info symbolCount).map fun symtabOffset =>
      recordOffset info symtabOffset symbolIndex.toNat

def resolveSameImageRelocSymbol (img : Image) (info : SymbolInfo) (symbolIndex : BitVec 64) :
    Traced SymRead (BitVec 64 × BitVec 8) :=
  if info.symtabVaddr = 0 ∨ info.syment.toNat < symSize then .fail
  else do
    let offset ← Traced.ofOption (symbolRecordOffset img info symbolIndex)
    let sym ← readSym img offset
    if sym.stShndx = 0 then .fail else pure (sym.stValue, sym.type)

def dynamicSymbolByIndex (img : Image) (info : SymbolInfo) (symbolIndex : BitVec 64) :
    Traced SymRead (ElfSym × Nat) :=
  if info.symtabVaddr = 0 ∨ info.strtabVaddr = 0 ∨ info.strsz = 0 ∨ info.syment.toNat < symSize then
    .fail
  else do
    let offset ← Traced.ofOption (symbolRecordOffset img info symbolIndex)
    let strtabOffset ← Traced.ofOption (img.elfVaddrToImageOffset info.strtabVaddr info.strsz)
    let sym ← readSym img offset
    if info.strsz.toNat ≤ sym.stName.toNat then .fail
    else pure (sym, strtabOffset + sym.stName.toNat)

def dynamicSymbolNameByIndex (img : Image) (info : SymbolInfo) (symbolIndex : BitVec 64) :
    Traced SymRead (Nat × BitVec 8) := do
  let found ← dynamicSymbolByIndex img info symbolIndex
  pure (found.2, found.1.stInfo)

/-! ## Versions -/

def readSymbolVersionIndex (img : Image) (info : SymbolInfo) (symbolIndex : Nat) :
    Option (BitVec 16) :=
  (img.elfVaddrToImageOffset info.versymVaddr (BitVec.ofNat 64 ((symbolIndex + 1) * 2))).map
    fun versymOffset => img.u16 (versymOffset + symbolIndex * 2)

/-- The body of the loop of `version_string_from_verdef`, with the offset of the name as its result.
-/
def verdefBody (img : Image) (info : SymbolInfo) (versionIndex : BitVec 16) (s : Nat × Nat) :
    Except (Option Nat) (Nat × Nat) :=
  if info.verdefNum.toNat ≤ s.1 then .error none
  else if img.codeSize < s.2 ∨ img.codeSize - s.2 < 20 then .error none
  else if img.u16 (s.2 + 4) &&& 0x7fff = versionIndex then
    let auxOffset := s.2 + (img.u32 (s.2 + 12)).toNat
    if img.codeSize < auxOffset ∨ img.codeSize - auxOffset < 8 then .error none
    else if info.strsz.toNat ≤ (img.u32 auxOffset).toNat then .error none
    else .error (some (img.u32 auxOffset).toNat)
  else if img.u32 (s.2 + 16) = 0 then .error none
  else .ok (s.1 + 1, s.2 + (img.u32 (s.2 + 16)).toNat)

theorem verdefBody_eq_ok {info : SymbolInfo} {versionIndex : BitVec 16}
    (h : verdefBody img info versionIndex s = .ok s') : s.2 < s'.2 ∧ s.2 + 20 ≤ img.codeSize := by
  rw [verdefBody] at h
  split at h
  · cases h
  split at h
  · cases h
  split at h
  · dsimp only at h
    repeat' split at h
    all_goals cases h
  split at h
  · cases h
  rename_i hnext
  cases h
  have hpos : (img.u32 (s.2 + 16)).toNat ≠ 0 := fun hz => hnext (BitVec.eq_of_toNat_eq hz)
  omega

def verdefLoop (img : Image) (info : SymbolInfo) (versionIndex : BitVec 16) :
    Hw.Loop (Nat × Nat) (Option Nat) where
  body := verdefBody img info versionIndex
  measure s := img.codeSize - s.2
  decreases := by
    intro s s' h
    obtain ⟨hlt, hle⟩ := verdefBody_eq_ok h
    omega

def versionStringFromVerdef (img : Image) (info : SymbolInfo) (versionIndex : BitVec 16) :
    Option Nat :=
  if info.verdefVaddr = 0 ∨ info.verdefNum = 0 then none
  else do
    let strtabOffset ← img.elfVaddrToImageOffset info.strtabVaddr info.strsz
    let defOffset ← img.elfVaddrToImageOffset info.verdefVaddr 20
    let name ← (verdefLoop img info versionIndex).exit (0, defOffset)
    some (strtabOffset + name)

/-- The version that `symbol_definition_matches_version` compares with the requested one. -/
def definedVersion (img : Image) (info : SymbolInfo) (symbolIndex : Nat) : Option Nat :=
  if info.versymVaddr = 0 then none
  else
    (readSymbolVersionIndex img info symbolIndex).bind fun versionIndex =>
      if versionIndex &&& 0x7fff ≤ 1 then none
      else versionStringFromVerdef img info (versionIndex &&& 0x7fff)

def symbolDefinitionMatchesVersion (img : Image) (info : SymbolInfo) (symbolIndex : Nat)
    (requested : Option (List (BitVec 8))) : Traced SymRead Bool :=
  match requested with
  | none => pure true
  | some requested =>
    match definedVersion img info symbolIndex with
    | none => pure false
    | some offset => strcmpAt img offset requested

/-! ## Lookup by name -/

structure ResolvedSymbol where
  value : BitVec 64
  type : BitVec 8
  ifuncResolver : BitVec 64
  deriving DecidableEq, Repr

/-- The result for a record; an indirect function needs a caller that asks for its resolver. -/
def resolvedSymbol (img : Image) (sym : ElfSym) (wantsIfunc : Bool) : Traced SymRead ResolvedSymbol :=
  if sym.type = 10 then
    if wantsIfunc then pure ⟨0, sym.type, sym.stValue⟩ else .fail
  else pure ⟨img.loadedImage - img.baseVaddr + sym.stValue, sym.type, 0⟩

structure SymbolQuery where
  name : List (BitVec 8)
  version : Option (List (BitVec 8))
  wantsIfunc : Bool
  deriving DecidableEq, Repr

/-- The loop of `resolve_loaded_program_symbol_ex` over the indices of the records. -/
def resolveAmong (img : Image) (info : SymbolInfo) (q : SymbolQuery)
    (symtabOffset strtabOffset : Nat) : List Nat → Traced SymRead ResolvedSymbol
  | [] => .fail
  | index :: rest => do
    let sym ← readSym img (recordOffset info symtabOffset index)
    if info.strsz.toNat ≤ sym.stName.toNat ∨ !symbolIsDependencyExport sym then
      resolveAmong img info q symtabOffset strtabOffset rest
    else
      let same ← strcmpAt img (strtabOffset + sym.stName.toNat) q.name
      if !same then resolveAmong img info q symtabOffset strtabOffset rest
      else
        let ok ← symbolDefinitionMatchesVersion img info index q.version
        if !ok then resolveAmong img info q symtabOffset strtabOffset rest
        else resolvedSymbol img sym q.wantsIfunc

/-- The tables that a lookup by name goes through: the number of symbols, and the offsets of the
records and of the strings. -/
structure SymbolTables where
  count : Nat
  symtabOffset : Nat
  strtabOffset : Nat
  deriving DecidableEq, Repr

def symbolTables (img : Image) (info : SymbolInfo) : Option SymbolTables :=
  if info.symtabVaddr = 0 ∨ info.strtabVaddr = 0 ∨ info.strsz = 0 ∨ info.syment.toNat < symSize then
    none
  else do
    let count ← dynamicSymbolCountFromHash img info
    let symtabOffset ← symtabOffsetOf img info count
    let strtabOffset ← img.elfVaddrToImageOffset info.strtabVaddr info.strsz
    some ⟨count, symtabOffset, strtabOffset⟩

def resolveLoadedProgramSymbolEx (img : Image) (q : SymbolQuery) :
    Traced SymRead ResolvedSymbol := do
  let t ← Traced.ofOption (symbolTables img img.info)
  resolveAmong img img.info q t.symtabOffset t.strtabOffset (List.range t.count)

end Poly.Polyexec
