import Armd64.Lib.Code
import Armd64.Lib.Layout

/-!
# Small ELF files (`mkpolyelf.c`)

The tool writes the text, the data and the tables of an image at offsets that are fixed, but for the
symbols and what follows them. A later write replaces what is there.
-/

namespace Poly.Mkpolyelf

open Hw (alignUp toBytes Memory fetch)

abbrev Text := List (BitVec 8)

inductive Machine
  | aarch64
  | riscv
  deriving DecidableEq

/-- The image that the data option asks for. -/
inductive ImageKind
  | plain
  | splitData64
  | dynNone64
  | dynRelative64
  | dynRelRelative64
  | dynRelr64
  | dynRelrBitmap64
  | dynIrelative64
  | dynSymbol64
  | dynJumpSlot64
  | dynRelJumpSlot64
  | dynImport64
  | dynImportFunc64
  deriving DecidableEq

structure ExportOption where
  name : Text
  /-- The last argument of `--export-at` and `--export-dyntab-at`. -/
  offset : Option Text
  /-- The options `--export` and `--export-at`, not those with `-dyntab`. -/
  sections : Bool

/-- A command line. It is in memory, so its length is far below `2 ^ 64`. -/
structure Command where
  machine : Machine
  kind : ImageKind
  /-- What follows the data option. -/
  argument : Text
  exported : Option ExportOption
  tokens : List Text
  short : argument.length + (exported.map (·.name.length)).getD 0 + tokens.length < 2 ^ 60

/-- The numbers that the C library parses. -/
structure Env where
  parseU16 : Text → Option (BitVec 16)
  parseU32 : Text → Option (BitVec 32)
  parseU64 : Text → Option (BitVec 64)

/-! ## Structures of the file -/

def u16 (n : Nat) : List (BitVec 8) := toBytes 2 (BitVec.ofNat 16 n)

def u32 (n : Nat) : List (BitVec 8) := toBytes 4 (BitVec.ofNat 32 n)

def u64 (n : Nat) : List (BitVec 8) := toBytes 8 (BitVec.ofNat 64 n)

/-- `struct elf64_phdr`, with `p_paddr = p_vaddr` and `p_memsz = p_filesz`. -/
structure Phdr where
  type : Nat
  flags : Nat
  offset : Nat
  vaddr : Nat
  filesz : Nat
  align : Nat

def Phdr.bytes (ph : Phdr) : List (BitVec 8) :=
  u32 ph.type ++ u32 ph.flags ++ u64 ph.offset ++ u64 ph.vaddr ++ u64 ph.vaddr ++ u64 ph.filesz ++
    u64 ph.filesz ++ u64 ph.align

/-- `struct elf64_sym`. -/
def sym (name info shndx value size : Nat) : List (BitVec 8) :=
  u32 name ++ [BitVec.ofNat 8 info, 0] ++ u16 shndx ++ u64 value ++ u64 size

/-- `struct elf64_shdr`. -/
structure Shdr where
  name : Nat := 0
  type : Nat := 0
  flags : Nat := 0
  addr : Nat := 0
  offset : Nat := 0
  size : Nat := 0
  link : Nat := 0
  info : Nat := 0
  addralign : Nat := 0
  entsize : Nat := 0

def Shdr.bytes (sh : Shdr) : List (BitVec 8) :=
  u32 sh.name ++ u32 sh.type ++ u64 sh.flags ++ u64 sh.addr ++ u64 sh.offset ++ u64 sh.size ++
    u32 sh.link ++ u32 sh.info ++ u64 sh.addralign ++ u64 sh.entsize

def symbolInfo (bind type : Nat) : Nat := bind <<< 4 ||| (type &&& 0xf)

namespace Machine

variable (m : Machine)

def number : Nat := match m with | aarch64 => 183 | riscv => 243

def relocType (arm risc : Nat) : Nat := match m with | aarch64 => arm | riscv => risc

def relativeRelocType : Nat := m.relocType 1027 3

def symbolicRelocType : Nat := m.relocType 257 2

def jumpSlotRelocType : Nat := m.relocType 1026 5

def irelativeRelocType : Nat := m.relocType 1032 58

def noneRelocType : Nat := m.relocType 0 0

def importRelocType : Nat := m.relocType 1025 2

end Machine

def shstrtab : Text :=
  [0, 0x2e, 0x74, 0x65, 0x78, 0x74, 0, 0x2e, 0x64, 0x61, 0x74, 0x61, 0, 0x2e, 0x64, 0x79, 0x6e,
    0x61, 0x6d, 0x69, 0x63, 0, 0x2e, 0x72, 0x65, 0x6c, 0x61, 0x2e, 0x64, 0x79, 0x6e, 0, 0x2e, 0x64,
    0x79, 0x6e, 0x73, 0x79, 0x6d, 0, 0x2e, 0x64, 0x79, 0x6e, 0x73, 0x74, 0x72, 0, 0x2e, 0x73, 0x68,
    0x73, 0x74, 0x72, 0x74, 0x61, 0x62, 0, 0]

/-- A write to the file, and where it is in memory if it belongs to a segment that is loaded. -/
structure Piece where
  offset : Nat
  vaddr : Option Nat
  data : List (BitVec 8)

namespace Command

variable (env : Env) (c : Command)

/-! ## Options -/

def splitData : Bool := c.kind ≠ .plain

def dynImage : Bool := c.kind ≠ .plain ∧ c.kind ≠ .splitData64

def isImport : Bool := c.kind = .dynImport64 ∨ c.kind = .dynImportFunc64

/-- The entries are those of `struct elf64_rel`. -/
def isRel : Bool := c.kind = .dynRelRelative64 ∨ c.kind = .dynRelJumpSlot64

def argc : Nat :=
  3 + (if c.splitData then 2 else 0) +
    (c.exported.elim 0 fun e => if e.offset.isSome then 3 else 2) + c.tokens.length

/-- The data value, which an import gets too if its name is a number. -/
def dataValue : BitVec 64 := if c.argc < 7 then 0 else (env.parseU64 c.argument).getD 0

def exportOffset : Nat := ((c.exported.bind (·.offset)).bind env.parseU64).elim 0 (·.toNat)

/-- The name of the symbol of the relocation, for the kinds that are `dyn_symbolic`. -/
def relocSymbolName : Option Text :=
  match c.kind with
  | .dynSymbol64 | .dynJumpSlot64 | .dynRelJumpSlot64 =>
    some [0x70, 0x6f, 0x6c, 0x79, 0x5f, 0x76, 0x61, 0x6c, 0x75, 0x65]
  | .dynImport64 | .dynImportFunc64 => some c.argument
  | _ => none

def hasDynsym : Bool := c.exported.isSome || c.relocSymbolName.isSome

def hasSections : Bool := c.exported.any (·.sections)

def parseTextToken (text : Text) : Option (BitVec 32 × Nat) :=
  if text.take 2 = [0x68, 0x3a] then
    if c.machine ≠ .riscv then none
    else (env.parseU16 (text.drop 2)).map fun v => (v.setWidth 32, 2)
  else (env.parseU32 text).map fun v => (v, 4)

/-- The encoded instructions. -/
def text : Option (List (BitVec 8)) :=
  (c.tokens.mapM (c.parseTextToken env)).map fun insns =>
    insns.flatMap fun i => (toBytes 4 i.1).take i.2

/-- The checks of the data option, the names and the export offset. -/
def accepted (textSize : Nat) : Bool :=
  (!c.splitData || (7 ≤ c.argc && (env.parseU64 c.argument).isSome) ||
    (c.isImport && 6 ≤ c.argc)) &&
  !c.tokens.isEmpty && c.relocSymbolName.all (· ≠ []) &&
  c.exported.all fun e => e.name ≠ [] && e.offset.all (fun o => (env.parseU64 o).isSome) &&
    c.exportOffset env < textSize &&
    c.exportOffset env % (if c.machine = .riscv then 2 else 4) = 0

/-! ## The layout -/

def textVaddr : Nat := if c.dynImage then 0 else 0x400000

def dataVaddr : Nat := if c.dynImage then 0x2000 else 0x402000

def dynsymCount : Nat :=
  1 + (if c.exported.isSome then 1 else 0) + if c.relocSymbolName.isSome then 1 else 0

def dynsymSize : Nat := c.dynsymCount * 24

def dynsymOffset : Nat := if c.dynImage && c.hasDynsym then 0x3000 + 0x300 else 0x5000

def dynsymVaddr : Nat := if c.dynImage && c.hasDynsym then c.dataVaddr + 0x300 else 0

def dynstrOffset : Nat := c.dynsymOffset + c.dynsymSize

def dynstrVaddr : Nat := if c.dynsymVaddr ≠ 0 then c.dynsymVaddr + c.dynsymSize else 0

def dynstrSize : Nat :=
  if c.hasDynsym then
    1 + (c.exported.map fun e => e.name.length + 1).getD 0 +
      (c.relocSymbolName.map fun name => name.length + 1).getD 0
  else 0

def dynhashOffset : Nat := if c.hasDynsym then alignUp 4 (c.dynstrOffset + c.dynstrSize) else 0

def dynhashVaddr : Nat :=
  if c.hasDynsym then c.dynstrVaddr + (c.dynhashOffset - c.dynstrOffset) else 0

def dynhashSize : Nat := if c.hasDynsym then (2 + 1 + c.dynsymCount) * 4 else 0

/-- The size of the relocations that are written. -/
def relocSize : Nat :=
  match c.kind with
  | .dynRelr64 => 8
  | .dynRelrBitmap64 | .dynRelRelative64 | .dynRelJumpSlot64 => 16
  | _ => 24

def dataSize : Nat :=
  if c.dynImage then
    if c.hasDynsym then
      0x300 + c.dynsymSize + c.dynstrSize + (c.dynhashOffset - c.dynstrOffset - c.dynstrSize) +
        c.dynhashSize
    else 0x200 +
      match c.kind with
      | .dynRelr64 => 8
      | .dynRelrBitmap64 | .dynRelRelative64 => 16
      | _ => 24
  else if c.splitData then 8
  else 0

def dynamicCount : Nat := if c.dynImage then if c.hasDynsym then 9 else 4 else 0

def shstrOffset : Nat :=
  alignUp 8 (if c.hasDynsym then c.dynhashOffset + c.dynhashSize else c.dynstrOffset + c.dynstrSize)

def shoff : Nat := alignUp 8 (c.shstrOffset + shstrtab.length)

def phnum : Nat := if c.dynImage then 3 else if c.splitData then 2 else 1

/-! ## The file -/

def ehdr : List (BitVec 8) :=
  [0x7f, 0x45, 0x4c, 0x46, 2, 1, 1] ++ List.replicate 9 0 ++ u16 (if c.dynImage then 3 else 2) ++
    u16 c.machine.number ++ u32 1 ++ u64 c.textVaddr ++ u64 64 ++
    u64 (if c.hasSections then c.shoff else 0) ++ u32 0 ++ u16 64 ++ u16 56 ++ u16 c.phnum ++
    u16 (if c.hasSections then 64 else 0) ++ u16 (if c.hasSections then 8 else 0) ++
    u16 (if c.hasSections then 7 else 0)

/-- `PT_LOAD` for the text and the data, and `PT_DYNAMIC`. -/
def phdrs (textSize : Nat) : List Phdr :=
  ⟨1, 5, 0x1000, c.textVaddr, textSize, 0x1000⟩ ::
    (if c.splitData then [⟨1, 6, 0x3000, c.dataVaddr, c.dataSize, 0x1000⟩] else []) ++
    if c.dynImage then [⟨2, 6, 0x3100, c.dataVaddr + 0x100, c.dynamicCount * 16, 8⟩] else []

/-- The words of the data segment: `first_data_value` and those after it. -/
def dataWords : List (BitVec 64) :=
  let value := c.dataValue env
  match c.kind with
  | .plain => []
  | .splitData64 => [value]
  | .dynNone64 => [value, value]
  | .dynRelRelative64 | .dynRelr64 => [BitVec.ofNat 64 (c.dataVaddr + 8), value]
  | .dynRelrBitmap64 =>
    [BitVec.ofNat 64 (c.dataVaddr + 8), BitVec.ofNat 64 (c.dataVaddr + 16), value]
  | _ => [0, value]

def dataBytes : List (BitVec 8) := (c.dataWords env).flatMap (toBytes 8)

/-- The tags of the relocations, of their size and of the third entry, and its value. -/
def relocTags : Nat × Nat × Nat × Nat :=
  match c.kind with
  | .dynRelr64 | .dynRelrBitmap64 => (36, 35, 37, 8)
  | .dynRelRelative64 => (17, 18, 19, 16)
  | .dynRelJumpSlot64 => (23, 2, 20, 17)
  | .dynJumpSlot64 | .dynImportFunc64 => (23, 2, 20, 7)
  | _ => (7, 8, 9, 24)

def dynamic : List (Nat × Nat) :=
  let (table, size, third, value) := c.relocTags
  [(table, c.dataVaddr + 0x200), (size, c.relocSize), (third, value)] ++
    (if c.hasDynsym then
      [(6, c.dynsymVaddr), (11, 24), (5, c.dynstrVaddr), (10, c.dynstrSize), (4, c.dynhashVaddr)]
    else []) ++ [(0, 0)]

def dynamicBytes : List (BitVec 8) := c.dynamic.flatMap fun d => u64 d.1 ++ u64 d.2

def relocs : List (BitVec 8) :=
  let symbol := (1 + if c.exported.isSome then 1 else 0) <<< 32
  let rel (info : Nat) := u64 c.dataVaddr ++ u64 info
  match c.kind with
  | .dynRelr64 => u64 c.dataVaddr
  | .dynRelrBitmap64 => u64 c.dataVaddr ++ u64 3
  | .dynRelRelative64 => rel c.machine.relativeRelocType
  | .dynRelJumpSlot64 => rel (symbol ||| c.machine.jumpSlotRelocType)
  | .dynSymbol64 => rel (symbol ||| c.machine.symbolicRelocType) ++ u64 0
  | .dynJumpSlot64 | .dynImportFunc64 => rel (symbol ||| c.machine.jumpSlotRelocType) ++ u64 0
  | .dynImport64 => rel (symbol ||| c.machine.importRelocType) ++ u64 0
  | .dynIrelative64 => rel c.machine.irelativeRelocType ++ u64 c.textVaddr
  | .dynNone64 => rel c.machine.noneRelocType ++ u64 0
  | _ => rel c.machine.relativeRelocType ++ u64 (c.dataVaddr + 8)

def symbols (textSize : Nat) : List (BitVec 8) :=
  let offset := c.exportOffset env
  sym 0 (symbolInfo 0 0) 0 0 0 ++
    (if c.exported.isSome then
      sym 1 (symbolInfo 1 2) 1 (c.textVaddr + offset) (textSize - offset)
    else []) ++
    if c.relocSymbolName.isSome then
      sym (1 + (c.exported.map fun e => e.name.length + 1).getD 0)
        (symbolInfo 1 (if c.kind = .dynImportFunc64 then 2 else 1)) (if c.isImport then 0 else 2)
        (if c.isImport then 0 else c.dataVaddr + 8) (if c.isImport then 0 else 8)
    else []

def dynstr : List (BitVec 8) :=
  [0] ++ (c.exported.map fun e => e.name ++ [0]).getD [] ++
    (c.relocSymbolName.map fun name => name ++ [0]).getD []

/-- One bucket, and a chain through all symbols. -/
def dynhash : List (BitVec 8) :=
  u32 1 ++ u32 c.dynsymCount ++ u32 (if 1 < c.dynsymCount then 1 else 0) ++
    (List.range c.dynsymCount).flatMap fun n =>
      u32 (if 0 < n ∧ n + 1 < c.dynsymCount then n + 1 else 0)

def sectionHeaders (textSize : Nat) : List Shdr :=
  let alloc := if c.dynImage then 2 else 0
  let entry := if c.isRel then 16 else 24
  [{},
    { name := 1, type := 1, flags := 6, addr := c.textVaddr, offset := 0x1000, size := textSize,
      addralign := 4 },
    { name := 7, type := 1, flags := 2, addr := c.dataVaddr, offset := 0x3000, size := c.dataSize,
      addralign := 8 },
    { name := 13, type := 6, flags := 2, addr := c.dataVaddr + 0x100, offset := 0x3100,
      size := c.dynamicCount * 16, link := 6, addralign := 8, entsize := 16 },
    { name := 22, type := if c.isRel then 9 else 4, flags := 2, addr := c.dataVaddr + 0x200,
      offset := 0x3200, size := entry, link := 5, addralign := 8, entsize := entry },
    { name := 32, type := 11, flags := alloc, addr := c.dynsymVaddr, offset := c.dynsymOffset,
      size := c.dynsymSize, link := 6, info := 1, addralign := 8, entsize := 24 },
    { name := 40, type := 3, flags := alloc, addr := c.dynstrVaddr, offset := c.dynstrOffset,
      size := c.dynstrSize, addralign := 1 },
    { name := 48, type := 3, offset := c.shstrOffset, size := shstrtab.length, addralign := 1 }]

def dataPieces : List Piece :=
  if c.splitData then
    ⟨0x3000, some c.dataVaddr, c.dataBytes env⟩ ::
      if c.dynImage then
        [⟨0x3100, some (c.dataVaddr + 0x100), c.dynamicBytes⟩,
          ⟨0x3200, some (c.dataVaddr + 0x200), c.relocs⟩]
      else []
  else []

def symbolPieces (textSize : Nat) : List Piece :=
  let loaded (vaddr : Nat) := if c.dynImage then some vaddr else none
  if c.hasDynsym then
    [⟨c.dynsymOffset, loaded c.dynsymVaddr, c.symbols env textSize⟩,
      ⟨c.dynstrOffset, loaded c.dynstrVaddr, c.dynstr⟩] ++
      if c.dynImage then [⟨c.dynhashOffset, loaded c.dynhashVaddr, c.dynhash⟩] else []
  else []

def sectionPieces (textSize : Nat) : List Piece :=
  if c.hasSections then
    [⟨c.shstrOffset, none, shstrtab⟩,
      ⟨c.shoff, none, (c.sectionHeaders textSize).flatMap Shdr.bytes⟩]
  else []

/-- All writes, in their order. -/
def pieces (text : List (BitVec 8)) : List Piece :=
  [⟨0, none, c.ehdr ++ (c.phdrs text.length).flatMap Phdr.bytes⟩,
    ⟨0x1000, some c.textVaddr, text⟩] ++
    c.dataPieces env ++ c.symbolPieces env text.length ++ c.sectionPieces text.length

/-- The instructions and the writes for a command line that is accepted. -/
def mkpolyelf : Option (List (BitVec 8) × List Piece) :=
  (c.text env).bind fun text =>
    if c.accepted env text.length then some (text, c.pieces env text) else none

end Command

/-- The file after some writes: the last write to a byte counts, and holes are zero. -/
def fileByte (pieces : List Piece) (i : Nat) : BitVec 8 :=
  match pieces.reverse.find? fun p => p.offset ≤ i ∧ i < p.offset + p.data.length with
  | some p => p.data.getD (i - p.offset) 0
  | none => 0

/-! ## Reading a file -/

/-- The `PT_LOAD` segments of `n` program headers at `a`: their addresses and contents. -/
def segmentsFrom (file : Memory) : Nat → BitVec 64 → List (BitVec 64 × List (BitVec 8))
  | 0, _ => []
  | n + 1, a =>
    (if fetch 4 file a = 1 then
      [(fetch 8 file (a + 16), (List.range (fetch 8 file (a + 32)).toNat).map fun i =>
        file (fetch 8 file (a + 8) + BitVec.ofNat 64 i))]
    else []) ++ segmentsFrom file n (a + 56)

/-- From the fields `e_phnum` and `e_phoff`. -/
def segments (file : Memory) : List (BitVec 64 × List (BitVec 8)) :=
  segmentsFrom file (fetch 2 file 56).toNat (fetch 8 file 32)

end Poly.Mkpolyelf
