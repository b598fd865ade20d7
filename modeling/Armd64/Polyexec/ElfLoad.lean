import Armd64.Polyexec.ElfFile
import Armd64.Polyexec.ElfSymbols

/-!
# Loading an ELF file (`load_elf_program` in `polyexec.c`)

The loader goes over the program headers twice: once to find the range of the image and to check
each segment, and once to copy the segments. Then it finds the entry point and reads the dynamic
table.
-/

namespace Poly.Polyexec

inductive ElfError
  | tooSmall
  | unsupportedHeader
  | badPhdrTable
  | badInterpreter
  | badNote
  | badTls
  | badLoadSegment
  | tooManyLoadSegments
  | unsupportedLoadImage
  | loadImageTooLarge
  | loadedImageTooLarge
  | badCopyRange
  | symbolNotFound
  | unsupportedEntry
  | badDynamic
  | badSonameTable
  | badSonameString
  | sonameTooLong
  | badPreinitArray
  | badInitArray
  deriving DecidableEq, Repr

/-! ## The first pass -/

def maxLoadSegments : Nat := 16

def maxProcessTlsBytes : Nat := 64 * 1024

def alignDownU64 (value alignment : BitVec 64) : BitVec 64 := value &&& ~~~(alignment - 1)

structure LoadSegment where
  vaddr : BitVec 64
  offset : BitVec 64
  filesz : BitVec 64
  memsz : BitVec 64
  flags : BitVec 32
  deriving DecidableEq, Repr

structure HeaderScan where
  baseVaddr : BitVec 64 := BitVec.allOnes 64
  limitVaddr : BitVec 64 := 0
  dynamicVaddr : BitVec 64 := 0
  dynamicSize : BitVec 64 := 0
  phdrVaddr : BitVec 64 := 0
  foundLoad : Bool := false
  interpPath : Option (List (BitVec 8)) := none
  relroVaddr : BitVec 64 := 0
  relroSize : BitVec 64 := 0
  tlsVaddr : BitVec 64 := 0
  tlsFilesz : BitVec 64 := 0
  tlsMemsz : BitVec 64 := 0
  tlsAlign : BitVec 64 := 0
  loadSegments : List LoadSegment := []
  bridgeSpecs : List ProcessBridgeSpec := []
  deriving DecidableEq, Repr

def ProgramHeader.inFile (ph : ProgramHeader) (f : ElfFile) : Prop :=
  ph.offset.toNat ≤ f.size ∧ ph.filesz.toNat ≤ f.size - ph.offset.toNat

instance (ph : ProgramHeader) (f : ElfFile) : Decidable (ph.inFile f) :=
  inferInstanceAs (Decidable (_ ∧ _))

def scanInterp (f : ElfFile) (s : HeaderScan) (ph : ProgramHeader) : Except ElfError HeaderScan :=
  if ph.filesz = 0 ∨ 160 ≤ ph.filesz.toNat ∨ ¬ph.inFile f ∨
      !hasNul (f.bytes ph.offset.toNat ph.filesz.toNat) then .error .badInterpreter
  else .ok { s with interpPath := some (cString (f.bytes ph.offset.toNat ph.filesz.toNat)) }

def scanTls (f : ElfFile) (s : HeaderScan) (ph : ProgramHeader) : Except ElfError HeaderScan :=
  if ph.memsz.toNat < ph.filesz.toNat ∨ ¬ph.inFile f ∨ maxProcessTlsBytes < ph.memsz.toNat ∨
      maxProcessTlsBytes < ph.align.toNat then .error .badTls
  else
    .ok { s with
      tlsVaddr := ph.vaddr, tlsFilesz := ph.filesz, tlsMemsz := ph.memsz, tlsAlign := ph.align }

/-- The checks of a `PT_LOAD` header; an empty file part may lie anywhere. -/
def ProgramHeader.loadOk (ph : ProgramHeader) (f : ElfFile) : Prop :=
  ph.filesz.toNat ≤ ph.memsz.toNat ∧ (ph.filesz ≠ 0 → ph.inFile f) ∧
    ph.vaddr.toNat ≤ 2 ^ 64 - 1 - ph.memsz.toNat ∧ ph.vaddr.toNat ≤ 2 ^ 64 - 1 - ph.filesz.toNat

instance (ph : ProgramHeader) (f : ElfFile) : Decidable (ph.loadOk f) :=
  inferInstanceAs (Decidable (_ ∧ _ ∧ _ ∧ _))

/-- The address of the program headers, if they are in the file part of the segment. -/
def scanPhdrVaddr (f : ElfFile) (s : HeaderScan) (ph : ProgramHeader) : BitVec 64 :=
  let tableSize := f.ehdr.phnum.toNat * f.ehdr.phentsize.toNat
  let offsetInSegment := f.ehdr.phoff - ph.offset
  if s.phdrVaddr = 0 ∧ ph.offset.toNat ≤ f.ehdr.phoff.toNat ∧
      offsetInSegment.toNat ≤ ph.filesz.toNat ∧
      tableSize ≤ ph.filesz.toNat - offsetInSegment.toNat then ph.vaddr + offsetInSegment
  else s.phdrVaddr

def scanLoad (f : ElfFile) (s : HeaderScan) (ph : ProgramHeader) : Except ElfError HeaderScan :=
  if ¬ph.loadOk f then .error .badLoadSegment
  -- `record_load_segment`
  else if maxLoadSegments ≤ s.loadSegments.length then .error .tooManyLoadSegments
  else
    let segmentBase := alignDownU64 ph.vaddr 0x1000
    let segmentLimit := ph.vaddr + ph.memsz
    .ok { s with
      phdrVaddr := scanPhdrVaddr f s ph
      loadSegments := s.loadSegments ++ [⟨ph.vaddr, ph.offset, ph.filesz, ph.memsz, ph.flags⟩]
      baseVaddr := if segmentBase.toNat < s.baseVaddr.toNat then segmentBase else s.baseVaddr
      limitVaddr := if s.limitVaddr.toNat < segmentLimit.toNat then segmentLimit else s.limitVaddr
      foundLoad := true }

def scanPhdr (f : ElfFile) (s : HeaderScan) (ph : ProgramHeader) : Except ElfError HeaderScan :=
  if ph.type = ptPhdr then .ok { s with phdrVaddr := ph.vaddr }
  else if ph.type = ptDynamic then
    .ok { s with dynamicVaddr := ph.vaddr, dynamicSize := ph.filesz }
  else if ph.type = ptInterp then scanInterp f s ph
  else if ph.type = ptGnuRelro then .ok { s with relroVaddr := ph.vaddr, relroSize := ph.memsz }
  else if ph.type = ptNote then
    match parseProcessBridgeSpecsNotes f s.bridgeSpecs ph.offset.toNat ph.filesz.toNat with
    | none => .error .badNote
    | some specs => .ok { s with bridgeSpecs := specs }
  else if ph.type = ptTls then scanTls f s ph
  else if ph.type = ptLoad then scanLoad f s ph
  else .ok s

/-! ## The second pass -/

abbrev CodeBytes := Nat → BitVec 8

def copyFromFile (f : ElfFile) (code : CodeBytes) (dest offset n : Nat) : CodeBytes :=
  fun k => if dest ≤ k ∧ k < dest + n then f.byte (offset + (k - dest)) else code k

def copySegment (f : ElfFile) (baseVaddr : BitVec 64) (codeSize : Nat) (code : CodeBytes)
    (ph : ProgramHeader) : Except ElfError CodeBytes :=
  if ph.type ≠ ptLoad ∨ ph.filesz = 0 then .ok code
  else
    let destOffset := (ph.vaddr - baseVaddr).toNat
    if codeSize < destOffset ∨ codeSize - destOffset < ph.filesz.toNat then .error .badCopyRange
    else .ok (copyFromFile f code destOffset ph.offset.toNat ph.filesz.toNat)

/-! ## The entry point -/

/-- The loop of `resolve_dynamic_symbol` over the indices of the records. -/
def dynamicSymbolAmong (img : Image) (symtabOffset strtabOffset : Nat) (name : List (BitVec 8)) :
    List Nat → Hw.Traced SymRead (BitVec 64)
  | [] => .fail
  | index :: rest => do
    let sym ← readSym img (recordOffset img.info symtabOffset index)
    if img.info.strsz.toNat ≤ sym.stName.toNat then
      dynamicSymbolAmong img symtabOffset strtabOffset name rest
    else
      let same ← strcmpAt img (strtabOffset + sym.stName.toNat) name
      if same then pure sym.stValue
      else dynamicSymbolAmong img symtabOffset strtabOffset name rest

def resolveDynamicSymbol (img : Image) (name : List (BitVec 8)) :
    Hw.Traced SymRead (BitVec 64) := do
  let t ← Hw.Traced.ofOption (symbolTables img img.info)
  dynamicSymbolAmong img t.symtabOffset t.strtabOffset name (List.range t.count)

def ElfFile.strcmpAt (f : ElfFile) (offset : Nat) : List (BitVec 8) → Bool
  | [] => f.byte offset == 0
  | c :: cs => if f.byte offset = c ∧ c ≠ 0 then f.strcmpAt (offset + 1) cs else f.byte offset == c

def sectionSymbol (f : ElfFile) (name : List (BitVec 8)) (sym : SectionHeader) :
    Option (BitVec 64) :=
  let fits (sh : SectionHeader) : Prop :=
    sh.offset.toNat ≤ f.size ∧ sh.size.toNat ≤ f.size - sh.offset.toNat
  if ¬(sym.type = 11 ∨ sym.type = 2) then none
  else if sym.entsize.toNat < symSize ∨ ¬fits sym ∨ f.ehdr.shnum.toNat ≤ sym.link.toNat then none
  else
    let str := f.shdr (f.ehdr.shoff.toNat + sym.link.toNat * shdrSize)
    if ¬fits str then none
    else
      (List.range (sym.size.toNat / sym.entsize.toNat)).findSome? fun index =>
        let record := sym.offset.toNat + index * sym.entsize.toNat
        let stName := (f.u32 record).toNat
        if str.size.toNat ≤ stName then none
        else if f.strcmpAt (str.offset.toNat + stName) name then some (f.u64 (record + 8))
        else none

def resolveSectionSymbol (f : ElfFile) (name : List (BitVec 8)) : Option (BitVec 64) :=
  let e := f.ehdr
  if e.shoff = 0 ∨ e.shnum = 0 ∨ e.shentsize.toNat < shdrSize ∨ f.size < e.shoff.toNat ∨
      f.size - e.shoff.toNat < e.shnum.toNat * e.shentsize.toNat then none
  else
    (List.range e.shnum.toNat).findSome? fun n =>
      sectionSymbol f name (f.shdr (e.shoff.toNat + n * shdrSize))

/-- The entry point of the program: that of the file, or the symbol with the given name. -/
def entryVaddr (f : ElfFile) (s : HeaderScan) (img : Image) (symbolName : List (BitVec 8)) :
    Option (BitVec 64) :=
  if symbolName = [] then some f.ehdr.entry
  else
    let resolved :=
      if s.dynamicVaddr ≠ 0 ∧ s.dynamicSize ≠ 0 ∧ s.dynamicSize.toNat % 16 = 0 then
        (img.elfVaddrToImageOffset s.dynamicVaddr s.dynamicSize).bind fun _ =>
          (resolveDynamicSymbol img symbolName).value
      else none
    resolved <|> resolveSectionSymbol f symbolName

def entryInExec (f : ElfFile) (entry : BitVec 64) : Bool :=
  f.phdrs.any fun ph =>
    ph.type == ptLoad && ph.flags.getLsbD 0 && decide (ph.vaddr.toNat ≤ entry.toNat) &&
      decide (entry.toNat < (ph.vaddr + ph.filesz).toNat)

/-! ## The image -/

def instructionAlign (arch : Abi.Arch) : Nat := if arch = .aarch64 then 4 else 2

structure ImageRange (arch : Abi.Arch) where
  baseVaddr : BitVec 64
  limitVaddr : BitVec 64
  codeSize : Nat
  base_lt : baseVaddr.toNat < limitVaddr.toNat
  limit_le : limitVaddr.toNat ≤ baseVaddr.toNat + codeSize
  aligned : codeSize % instructionAlign arch = 0
  codeSize_le : codeSize ≤ maxProgramBytes

def roundedSize (arch : Abi.Arch) (span : Nat) : Nat :=
  let align := instructionAlign arch
  if span % align ≠ 0 then span + (align - span % align) else span

theorem roundedSize_spec (arch : Abi.Arch) (span : Nat) :
    span ≤ roundedSize arch span ∧ roundedSize arch span % instructionAlign arch = 0 := by
  rw [roundedSize, instructionAlign]
  cases arch <;> simp <;> split <;> omega

def imageRange (arch : Abi.Arch) (s : HeaderScan) : Except ElfError (ImageRange arch) :=
  if hlt : s.foundLoad = true ∧ s.baseVaddr.toNat < s.limitVaddr.toNat then
    let span := s.limitVaddr.toNat - s.baseVaddr.toNat
    if maxProgramBytes < span then .error .loadImageTooLarge
    else
      if hsize : roundedSize arch span = 0 ∨ maxProgramBytes < roundedSize arch span then
        .error .loadedImageTooLarge
      else
        .ok {
          baseVaddr := s.baseVaddr
          limitVaddr := s.limitVaddr
          codeSize := roundedSize arch span
          base_lt := hlt.2
          limit_le := by
            have hspan := (roundedSize_spec arch span).1
            omega
          aligned := (roundedSize_spec arch span).2
          codeSize_le := by omega }
  else .error .unsupportedLoadImage

def dynamicEntries (code : CodeBytes) (offset count : Nat) : List (BitVec 64 × BitVec 64) :=
  (List.range count).map fun n =>
    (Hw.ofWords 8 fun i => code (offset + n * 16 + i),
      Hw.ofWords 8 fun i => code (offset + n * 16 + 8 + i))

/-- The image with its dynamic table, for the lookups. The loader reads it before it is mapped. -/
def ImageRange.image {arch : Abi.Arch} (r : ImageRange arch) (s : HeaderScan) (code : CodeBytes) :
    Image :=
  let img : Image := ⟨r.baseVaddr, r.codeSize, r.codeSize_le, 0, code, []⟩
  match img.elfVaddrToImageOffset s.dynamicVaddr s.dynamicSize with
  | none => img
  | some offset => { img with dynamic := dynamicEntries code offset (s.dynamicSize.toNat / 16) }

/-! ## The dynamic table -/

def dtInit : BitVec 64 := 12
def dtFini : BitVec 64 := 13
def dtSoname : BitVec 64 := 14
def dtInitArray : BitVec 64 := 25
def dtFiniArray : BitVec 64 := 26
def dtInitArraysz : BitVec 64 := 27
def dtFiniArraysz : BitVec 64 := 28
def dtPreinitArray : BitVec 64 := 32
def dtPreinitArraysz : BitVec 64 := 33

/-- The fields of `struct poly_program` that come from the dynamic table. -/
structure DynamicFields where
  dynamicOffset : Nat := 0
  dynamicSize : Nat := 0
  soname : List (BitVec 8) := []
  initVaddr : BitVec 64 := 0
  preinitArrayVaddr : BitVec 64 := 0
  preinitArraySize : BitVec 64 := 0
  initArrayVaddr : BitVec 64 := 0
  initArraySize : BitVec 64 := 0
  finiVaddr : BitVec 64 := 0
  finiArrayVaddr : BitVec 64 := 0
  finiArraySize : BitVec 64 := 0
  deriving DecidableEq, Repr

def readSoname (img : Image) : Except ElfError (List (BitVec 8)) :=
  let sonameOffset := img.dyn dtSoname (BitVec.allOnes 64)
  let strtabVaddr := img.dyn dtStrtab 0
  let strsz := img.dyn dtStrsz 0
  if sonameOffset = BitVec.allOnes 64 then .ok []
  else if strtabVaddr = 0 ∨ strsz = 0 ∨ strsz.toNat ≤ sonameOffset.toNat then .error .badSonameTable
  else
    match img.elfVaddrToImageOffset strtabVaddr strsz with
    | none => .error .badSonameTable
    | some strtabOffset =>
      let strings := (List.range (strsz.toNat - sonameOffset.toNat)).map fun i =>
        img.byte (strtabOffset + sonameOffset.toNat + i)
      if !hasNul strings then .error .badSonameString
      else if 160 ≤ (cString strings).length then .error .sonameTooLong
      else .ok (cString strings)

/-- An array of the dynamic table without an address, or with a part of an entry. -/
def badArray (vaddr size : BitVec 64) : Prop := size ≠ 0 ∧ (vaddr = 0 ∨ size.toNat % 8 ≠ 0)

instance (vaddr size : BitVec 64) : Decidable (badArray vaddr size) :=
  inferInstanceAs (Decidable (_ ∧ _))

def readDynamic (s : HeaderScan) (img : Image) : Except ElfError DynamicFields :=
  if s.dynamicVaddr = 0 ∨ s.dynamicSize = 0 then .ok {}
  else if s.dynamicSize.toNat % 16 ≠ 0 then .error .badDynamic
  else
    match img.elfVaddrToImageOffset s.dynamicVaddr s.dynamicSize with
    | none => .error .badDynamic
    | some dynamicOffset => do
      let soname ← readSoname img
      let fields : DynamicFields := {
        dynamicOffset := dynamicOffset
        dynamicSize := s.dynamicSize.toNat
        soname := soname
        initVaddr := img.dyn dtInit 0
        preinitArrayVaddr := img.dyn dtPreinitArray 0
        preinitArraySize := img.dyn dtPreinitArraysz 0
        initArrayVaddr := img.dyn dtInitArray 0
        initArraySize := img.dyn dtInitArraysz 0
        finiVaddr := img.dyn dtFini 0
        finiArrayVaddr := img.dyn dtFiniArray 0
        finiArraySize := img.dyn dtFiniArraysz 0 }
      if badArray fields.preinitArrayVaddr fields.preinitArraySize then .error .badPreinitArray
      else if badArray fields.initArrayVaddr fields.initArraySize then .error .badInitArray
      else .ok fields

/-! ## The loader -/

structure ElfProgram where
  arch : Abi.Arch
  isEtExec : Bool
  baseVaddr : BitVec 64
  codeSize : Nat
  codeBytes : CodeBytes
  entryOffset : Nat
  phent : BitVec 16
  phnum : BitVec 16
  scan : HeaderScan
  dynamic : DynamicFields

def etExec : BitVec 16 := 2
def etDyn : BitVec 16 := 3

/-- The checks of the file header and of the table of program headers. -/
def checkHeader (f : ElfFile) : Except ElfError Abi.Arch :=
  let e := f.ehdr
  if f.size < ehdrSize then .error .tooSmall
  -- `ELFMAG`, `ELFCLASS64`, `ELFDATA2LSB`
  else if e.ident.take 6 ≠ [0x7f, 0x45, 0x4c, 0x46, 2, 1] ∨ ¬(e.type = etExec ∨ e.type = etDyn) then
    .error .unsupportedHeader
  else
    match detectArch e.machine with
    | none => .error .unsupportedHeader
    | some arch =>
      if e.phentsize.toNat < phdrSize ∨ f.size < e.phoff.toNat ∨
          f.size - e.phoff.toNat < e.phnum.toNat * e.phentsize.toNat then .error .badPhdrTable
      else .ok arch

/-- The offset of the entry point. A library without one is entered at its start. -/
def entryOffset (f : ElfFile) (symbolName : List (BitVec 8)) (baseVaddr limitVaddr : BitVec 64)
    (entry : BitVec 64) : Except ElfError Nat :=
  let atStart := decide (f.ehdr.type = etDyn ∧ symbolName = [] ∧ entry = 0)
  let entry' := if atStart then baseVaddr else entry
  if (entryInExec f entry || atStart) ∧ baseVaddr.toNat ≤ entry'.toNat ∧
      entry'.toNat < limitVaddr.toNat then .ok (entry'.toNat - baseVaddr.toNat)
  else .error .unsupportedEntry

/-- `load_elf_program` for a file that was read. An empty `symbolName` stands for none. -/
def loadElfProgram (f : ElfFile) (symbolName : List (BitVec 8)) : Except ElfError ElfProgram := do
  let arch ← checkHeader f
  let s ← f.phdrs.foldlM (scanPhdr f) {}
  let r ← imageRange arch s
  let code ← f.phdrs.foldlM (copySegment f r.baseVaddr r.codeSize) fun _ => 0
  match entryVaddr f s (r.image s code) symbolName with
  | none => throw .symbolNotFound
  | some entry =>
    let offset ← entryOffset f symbolName r.baseVaddr r.limitVaddr entry
    let dynamic ← readDynamic s (r.image s code)
    return {
      arch := arch
      isEtExec := f.ehdr.type = etExec
      baseVaddr := r.baseVaddr
      codeSize := r.codeSize
      codeBytes := code
      entryOffset := offset
      phent := f.ehdr.phentsize
      phnum := f.ehdr.phnum
      scan := s
      dynamic := dynamic }

end Poly.Polyexec
