import Armd64.Abi.Layout
import Armd64.Lib.Loop
import Armd64.Lib.Words

/-!
# ELF files (`polyexec.c`)

The parts of an ELF file that the loader reads: the file header, the program headers and the notes.
Nothing here is checked; the loader does that.
-/

namespace Poly.Polyexec

def cString (bytes : List (BitVec 8)) : List (BitVec 8) := bytes.takeWhile (· ≠ 0)

def hasNul (bytes : List (BitVec 8)) : Bool := bytes.any (· == 0)

def textBytes (s : String) : List (BitVec 8) := s.toList.map fun c => BitVec.ofNat 8 c.toNat

structure ElfFile where
  size : Nat
  byte : Nat → BitVec 8

namespace ElfFile

variable (f : ElfFile)

def u16 (offset : Nat) : BitVec 16 := Hw.ofWords 2 fun i => f.byte (offset + i)

def u32 (offset : Nat) : BitVec 32 := Hw.ofWords 4 fun i => f.byte (offset + i)

def u64 (offset : Nat) : BitVec 64 := Hw.ofWords 8 fun i => f.byte (offset + i)

def bytes (offset n : Nat) : List (BitVec 8) := (List.range n).map fun i => f.byte (offset + i)

end ElfFile

/-! ## Headers -/

structure ElfHeader where
  ident : List (BitVec 8)
  type : BitVec 16
  machine : BitVec 16
  entry : BitVec 64
  phoff : BitVec 64
  shoff : BitVec 64
  phentsize : BitVec 16
  phnum : BitVec 16
  shentsize : BitVec 16
  shnum : BitVec 16
  deriving DecidableEq, Repr

structure ProgramHeader where
  type : BitVec 32
  flags : BitVec 32
  offset : BitVec 64
  vaddr : BitVec 64
  filesz : BitVec 64
  memsz : BitVec 64
  align : BitVec 64
  deriving DecidableEq, Repr

structure SectionHeader where
  type : BitVec 32
  offset : BitVec 64
  size : BitVec 64
  link : BitVec 32
  entsize : BitVec 64
  deriving DecidableEq, Repr

def ehdrSize : Nat := 64

def phdrSize : Nat := 56

def shdrSize : Nat := 64

def ptLoad : BitVec 32 := 1
def ptDynamic : BitVec 32 := 2
def ptInterp : BitVec 32 := 3
def ptNote : BitVec 32 := 4
def ptPhdr : BitVec 32 := 6
def ptTls : BitVec 32 := 7
def ptGnuRelro : BitVec 32 := 0x6474e552

namespace ElfFile

variable (f : ElfFile)

def ehdr : ElfHeader where
  ident := f.bytes 0 16
  type := f.u16 16
  machine := f.u16 18
  entry := f.u64 24
  phoff := f.u64 32
  shoff := f.u64 40
  phentsize := f.u16 54
  phnum := f.u16 56
  shentsize := f.u16 58
  shnum := f.u16 60

def phdr (offset : Nat) : ProgramHeader where
  type := f.u32 offset
  flags := f.u32 (offset + 4)
  offset := f.u64 (offset + 8)
  vaddr := f.u64 (offset + 16)
  filesz := f.u64 (offset + 32)
  memsz := f.u64 (offset + 40)
  align := f.u64 (offset + 48)

def phdrs : List ProgramHeader :=
  (List.range f.ehdr.phnum.toNat).map fun n =>
    f.phdr (f.ehdr.phoff.toNat + n * f.ehdr.phentsize.toNat)

def shdr (offset : Nat) : SectionHeader where
  type := f.u32 (offset + 4)
  offset := f.u64 (offset + 24)
  size := f.u64 (offset + 32)
  link := f.u32 (offset + 40)
  entsize := f.u64 (offset + 56)

end ElfFile

def emX86 : BitVec 16 := 62
def emAarch64 : BitVec 16 := 183
def emRiscv : BitVec 16 := 243

def detectArch (machine : BitVec 16) : Option Abi.Arch :=
  if machine = emAarch64 then some .aarch64
  else if machine = emRiscv then some .riscv
  else if machine = emX86 then some .x86
  else none

/-! ## Notes -/

inductive ProcessBridge
  | default
  | vec128U32
  | compactU32F32
  | compactF32U32
  | u64Stack9
  | fp64
  | fp32
  | aarch64Hfa3F32Ret
  | aarch64Hfa4F32Ret
  | aarch64Hfa3F64Ret
  | aarch64Hfa4F64Ret
  | aarch64Hfa3F64Arg
  | aarch64Hfa4F64Arg
  | aarch64Hfa3F32Arg
  | aarch64Hfa4F32Arg
  | fpair32Arg
  | fpair64Arg
  | fpair32Ret
  | fpair64Ret
  | sretX86Sysv
  | nativeSret
  deriving DecidableEq, Repr

def processBridgeNames : List (String × ProcessBridge) :=
  [("default", .default), ("vec128_u32", .vec128U32), ("compact_u32_f32", .compactU32F32),
    ("compact_f32_u32", .compactF32U32), ("u64_stack9", .u64Stack9), ("fp64", .fp64),
    ("fp32", .fp32), ("aarch64_hfa3_f32_ret", .aarch64Hfa3F32Ret),
    ("aarch64_hfa4_f32_ret", .aarch64Hfa4F32Ret), ("aarch64_hfa3_f64_ret", .aarch64Hfa3F64Ret),
    ("aarch64_hfa4_f64_ret", .aarch64Hfa4F64Ret), ("aarch64_hfa3_f64_arg", .aarch64Hfa3F64Arg),
    ("aarch64_hfa4_f64_arg", .aarch64Hfa4F64Arg), ("aarch64_hfa3_f32_arg", .aarch64Hfa3F32Arg),
    ("aarch64_hfa4_f32_arg", .aarch64Hfa4F32Arg), ("fpair32_arg", .fpair32Arg),
    ("fpair64_arg", .fpair64Arg), ("fpair32_ret", .fpair32Ret), ("fpair64_ret", .fpair64Ret),
    ("sret_x86_sysv", .sretX86Sysv), ("native_sret", .nativeSret)]

def processBridgeKindFromName (name : List (BitVec 8)) : Option ProcessBridge :=
  (processBridgeNames.find? fun entry => textBytes entry.1 == cString name).map (·.2)

structure ProcessBridgeSpec where
  symbol : List (BitVec 8)
  bridgeKind : ProcessBridge
  deriving DecidableEq, Repr

def maxProcessBridgeSpecs : Nat := 16

def appendProcessBridgeSpec (specs : List ProcessBridgeSpec) (symbol bridge : List (BitVec 8)) :
    Option (List ProcessBridgeSpec) :=
  if symbol.length = 0 ∨ 80 ≤ symbol.length ∨ bridge.length = 0 ∨ 40 ≤ bridge.length ∨
      maxProcessBridgeSpecs ≤ specs.length then none
  else (processBridgeKindFromName bridge).map fun kind => specs ++ [⟨symbol, kind⟩]

def isBlank (c : BitVec 8) : Bool := c == 0x20 || c == 0x09

/-- One line of `parse_process_bridge_specs_text`: a symbol and a bridge, or nothing. -/
def parseProcessBridgeSpecsLine (specs : List ProcessBridgeSpec) (line : List (BitVec 8)) :
    Option (List ProcessBridgeSpec) :=
  let line := line.dropWhile isBlank
  let symbol := line.takeWhile (!isBlank ·)
  let bridge := ((line.dropWhile (!isBlank ·)).dropWhile isBlank).takeWhile (!isBlank ·)
  if symbol ≠ [] ∧ bridge ≠ [] then appendProcessBridgeSpec specs symbol bridge else some specs

def parseProcessBridgeSpecsText (specs : List ProcessBridgeSpec) (desc : List (BitVec 8)) :
    Option (List ProcessBridgeSpec) :=
  (desc.splitOn 0x0a).foldlM parseProcessBridgeSpecsLine specs

def noteAlign (n : BitVec 32) : Nat := ((n + 3) &&& ~~~3#32).toNat

/-- The body of the loop of `parse_process_bridge_specs_notes`: the offset of the next note and the
entries so far. -/
def noteBody (f : ElfFile) (limit : Nat) (s : Nat × List ProcessBridgeSpec) :
    Except (Option (List ProcessBridgeSpec)) (Nat × List ProcessBridgeSpec) :=
  if limit ≤ s.1 then .error (some s.2)
  else if limit - s.1 < 12 then .error none
  else
    let namesz := f.u32 s.1
    let descsz := f.u32 (s.1 + 4)
    let name := s.1 + 12
    if limit - name < namesz.toNat then .error none
    else
      let desc := name + noteAlign namesz
      if limit < desc ∨ limit - desc < descsz.toNat then .error none
      else
        let next := desc + noteAlign descsz
        if limit < next then .error none
        else if namesz = 8 ∧ f.bytes name 8 = textBytes "POLYABI" ++ [0] then
          match parseProcessBridgeSpecsText s.2 (f.bytes desc descsz.toNat) with
          | none => .error none
          | some specs => .ok (next, specs)
        else .ok (next, s.2)

section

variable {f : ElfFile} {limit : Nat} {s s' : Nat × List ProcessBridgeSpec}
  (h : noteBody f limit s = .ok s')

include h

theorem noteBody_ok : let namesz := f.u32 s.1
    let descsz := f.u32 (s.1 + 4)
    let desc := s.1 + 12 + noteAlign namesz
    s.1 + 12 + namesz.toNat ≤ limit ∧ desc + descsz.toNat ≤ limit ∧
      s'.1 = desc + noteAlign descsz ∧ s'.1 ≤ limit ∧
      if namesz = 8 ∧ f.bytes (s.1 + 12) 8 = textBytes "POLYABI" ++ [0] then
        parseProcessBridgeSpecsText s.2 (f.bytes desc descsz.toNat) = some s'.2
      else s'.2 = s.2 := by
  rw [noteBody] at h
  dsimp only at h ⊢
  split at h
  · cases h
  split at h
  · cases h
  split at h
  · cases h
  split at h
  · cases h
  split at h
  · cases h
  split at h
  next howner =>
    rw [if_pos howner]
    split at h
    · cases h
    next hspecs =>
      cases h
      exact ⟨by omega, by omega, rfl, by omega, hspecs⟩
  next howner =>
    rw [if_neg howner]
    cases h
    exact ⟨by omega, by omega, rfl, by omega, rfl⟩

theorem noteBody_decreases : limit - s'.1 < limit - s.1 := by
  obtain ⟨-, -, hnext, hle, -⟩ := noteBody_ok h
  omega

end

def noteLoop (f : ElfFile) (limit : Nat) :
    Hw.Loop (Nat × List ProcessBridgeSpec) (Option (List ProcessBridgeSpec)) where
  body := noteBody f limit
  measure s := limit - s.1
  decreases := noteBody_decreases

def parseProcessBridgeSpecsNotes (f : ElfFile) (specs : List ProcessBridgeSpec)
    (offset noteSize : Nat) : Option (List ProcessBridgeSpec) :=
  if f.size < offset ∨ f.size - offset < noteSize then none
  else (noteLoop f (offset + noteSize)).exit (offset, specs)

end Poly.Polyexec
