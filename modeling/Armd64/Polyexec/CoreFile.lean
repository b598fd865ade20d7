import Armd64.Polyexec.Protections
import Armd64.Polyexec.Trampoline

/-!
# The core file of a fatal signal (`polyexec.c`)

The file has the headers, the notes, and the memory of the program and of its stack, each from the
next page on. The sizes that the headers have are computed before the notes are written. Offsets in
the file are numbers: at most 17 segments of at most 128 MiB are far from the end of a `size_t`.
-/

namespace Poly.Polyexec

open Hw (alignUp toBytes)

abbrev Record (n : Nat) := { bytes : List (BitVec 8) // bytes.length = n }

/-- The program of `poly_process_exit_finalizers`. The file at `path` was opened, so the path is
shorter than `PATH_MAX`. -/
structure CoreContext where
  program : ElfProgram
  loadedImage : BitVec 64
  path : List (BitVec 8)
  codeSize_le : program.codeSize ≤ maxProgramBytes
  path_lt : path.length < 4096

/-- What `poly_write_fatal_debug_note_elf` finds: the debug note, the records it fills in, the
program and the memory. -/
structure CoreRequest where
  note : Record 9216
  frontend : BitVec 32
  sp : BitVec 64
  aarch64Sp : BitVec 64
  riscvSp : BitVec 64
  siginfo : Record 128
  aarch64Status : Record 392
  riscvStatus : Record 376
  prpsinfo : Record 136
  context : Option CoreContext
  isMapped : BitVec 64 → Bool
  memory : BitVec 64 → BitVec 8

/-! ## Notes -/

def coreNoteName : List (BitVec 8) := [0x43, 0x4f, 0x52, 0x45, 0]
def polyNoteName : List (BitVec 8) := [0x50, 0x4f, 0x4c, 0x59, 0]

def elfNoteSize (nameSize descSize : Nat) : Nat := 12 + alignUp 4 nameSize + alignUp 4 descSize

def zeroPad (size : Nat) : List (BitVec 8) := List.replicate (alignUp 4 size - size) 0

def elfNhdr (nameSize descSize : Nat) (type : BitVec 32) : List (BitVec 8) :=
  toBytes 4 (BitVec.ofNat 32 nameSize) ++ toBytes 4 (BitVec.ofNat 32 descSize) ++ toBytes 4 type

def elfNote (name : List (BitVec 8)) (type : BitVec 32) (desc : List (BitVec 8)) :
    List (BitVec 8) :=
  elfNhdr name.length desc.length type ++ name ++ zeroPad name.length ++ desc ++
    zeroPad desc.length

structure CoreFileMapping where
  start : BitVec 64
  endAddr : BitVec 64
  filePageOffset : BitVec 64
  memory : BitVec 64
  filesz : Nat
  flags : BitVec 32
  path : List (BitVec 8)

def coreNtFileDescSize (mappings : List CoreFileMapping) : Nat :=
  if mappings.length = 0 then 0
  else 2 * 8 + mappings.length * 3 * 8 + (mappings.map fun m => m.path.length + 1).sum

def elfNtFileNote (mappings : List CoreFileMapping) : List (BitVec 8) :=
  if mappings.length = 0 then []
  else
    elfNhdr 5 (coreNtFileDescSize mappings) 0x46494c45 ++ coreNoteName ++ zeroPad 5 ++
      (toBytes 8 (BitVec.ofNat 64 mappings.length) ++ toBytes 8 0x1000#64) ++
      (mappings.flatMap fun m =>
        toBytes 8 m.start ++ toBytes 8 m.endAddr ++ toBytes 8 m.filePageOffset) ++
      (mappings.flatMap fun m => m.path ++ [0]) ++ zeroPad (coreNtFileDescSize mappings)

/-! ## Memory -/

/-- One step of the loop of `poly_collect_core_file_mappings`. A `uint64_t` is never above
`SIZE_MAX`. -/
def coreFileMapping (ctx : CoreContext) (s : LoadSegment) : Option CoreFileMapping :=
  let base := ctx.program.baseVaddr
  let loadBias := ctx.loadedImage - base
  if s.memsz = 0 ∨ 2 ^ 64 - 1 - s.memsz.toNat < s.vaddr.toNat then none
  else
    let pageVaddr := alignDownU64 s.vaddr 0x1000
    let pageEnd := alignUpU64 (s.vaddr + s.memsz) 0x1000
    if pageEnd.toNat ≤ pageVaddr.toNat ∨ pageVaddr.toNat < base.toNat ∨
        ctx.program.codeSize < (pageEnd - base).toNat ∨
        2 ^ 64 - 1 - pageVaddr.toNat < loadBias.toNat then none
    else
      let start := loadBias + pageVaddr
      if 2 ^ 64 - 1 - (pageEnd - pageVaddr).toNat < start.toNat then none
      else some {
        start := start
        endAddr := start + (pageEnd - pageVaddr)
        filePageOffset := alignDownU64 s.offset 0x1000 / 0x1000
        memory := ctx.loadedImage + (pageVaddr - base)
        filesz := (pageEnd - pageVaddr).toNat
        flags := s.flags
        path := ctx.path }

def coreMaxFileMappings : Nat := 16

/-- The loop of `poly_guest_stack_core_range`, for the pages that are left. -/
def stackPages (isMapped : BitVec 64 → Bool) (start : BitVec 64) : Nat → Nat → Nat
  | 0, bytes => bytes
  | n + 1, bytes =>
    if isMapped (start + BitVec.ofNat 64 bytes) then stackPages isMapped start n (bytes + 0x1000)
    else bytes

structure CoreLoad where
  flags : BitVec 32
  vaddr : BitVec 64
  memory : BitVec 64
  filesz : Nat

def placeLoads : Nat → List CoreLoad → List (Nat × CoreLoad)
  | _, [] => []
  | next, l :: loads => (next, l) :: placeLoads (alignUp 0x1000 (next + l.filesz)) loads

def phdrBytes (p : ProgramHeader) : List (BitVec 8) :=
  toBytes 4 p.type ++ toBytes 4 p.flags ++ toBytes 8 p.offset ++ toBytes 8 p.vaddr ++
    toBytes 8 0#64 ++ toBytes 8 p.filesz ++ toBytes 8 p.memsz ++ toBytes 8 p.align

def loadPhdr (p : Nat × CoreLoad) : ProgramHeader where
  type := ptLoad
  flags := p.2.flags
  offset := BitVec.ofNat 64 p.1
  vaddr := p.2.vaddr
  filesz := BitVec.ofNat 64 p.2.filesz
  memsz := BitVec.ofNat 64 p.2.filesz
  align := 0x1000

/-! ## The file -/

def debugNoteElfMachine (frontend : BitVec 32) : BitVec 16 :=
  if frontend = frontendOf .aarch64 then 183
  else if frontend = frontendOf .riscv then 243
  else 62

namespace CoreRequest

variable (r : CoreRequest)

def prstatus : Option (List (BitVec 8)) :=
  if r.frontend = frontendOf .aarch64 then some r.aarch64Status.1
  else if r.frontend = frontendOf .riscv then some r.riscvStatus.1
  else none

def fileMappings : List CoreFileMapping :=
  match r.context with
  | none => []
  | some ctx =>
    (ctx.program.scan.loadSegments.filterMap (coreFileMapping ctx)).take coreMaxFileMappings

def guestStackCoreRange : Nat × BitVec 64 :=
  let sp :=
    if r.sp = 0 ∧ r.frontend = frontendOf .aarch64 then r.aarch64Sp
    else if r.sp = 0 ∧ r.frontend = frontendOf .riscv then r.riscvSp
    else r.sp
  if sp = 0 then (0, 0)
  else
    let start := alignDownU64 sp 0x1000
    -- `POLYEXEC_CORE_STACK_BYTES`
    let bytes := stackPages r.isMapped start (64 * 1024 / 0x1000) 0
    if bytes = 0 then (0, 0) else (bytes, start)

/-- The segments: the mappings, and then the stack if it has any page. -/
def loads : List CoreLoad :=
  (r.fileMappings.map fun m => ⟨m.flags, m.start, m.memory, m.filesz⟩) ++
    if r.guestStackCoreRange.1 ≠ 0 then
      [⟨6, r.guestStackCoreRange.2, r.guestStackCoreRange.2, r.guestStackCoreRange.1⟩]
    else []

def auxv : List (BitVec 8) := List.replicate 16 0

def noteFilesz : Nat :=
  elfNoteSize 5 128 + (r.prstatus.map fun s => elfNoteSize 5 s.length).getD 0 +
    elfNoteSize 5 136 + elfNoteSize 5 16 +
    (if r.fileMappings.length ≠ 0 then elfNoteSize 5 (coreNtFileDescSize r.fileMappings) else 0) +
    elfNoteSize 5 9216

def phnum : BitVec 16 :=
  BitVec.ofNat 16 (1 + r.fileMappings.length + if r.guestStackCoreRange.1 ≠ 0 then 1 else 0)

def noteOffset : Nat := ehdrSize + r.phnum.toNat * phdrSize

def placed : List (Nat × CoreLoad) :=
  placeLoads (alignUp 0x1000 (r.noteOffset + r.noteFilesz)) r.loads

def phdrs : List ProgramHeader :=
  ⟨ptNote, 0, BitVec.ofNat 64 r.noteOffset, 0, BitVec.ofNat 64 r.noteFilesz, 0, 4⟩ ::
    r.placed.map loadPhdr

def ehdrBytes : List (BitVec 8) :=
  [0x7f, 0x45, 0x4c, 0x46, 2, 1, 1, 0, 0, 0, 0, 0, 0, 0, 0, 0] ++ toBytes 2 4#16 ++
    toBytes 2 (debugNoteElfMachine r.frontend) ++ toBytes 4 1#32 ++ toBytes 8 0#64 ++
    toBytes 8 64#64 ++ toBytes 8 0#64 ++ toBytes 4 0#32 ++ toBytes 2 64#16 ++ toBytes 2 56#16 ++
    toBytes 2 r.phnum ++ toBytes 2 0#16 ++ toBytes 2 0#16 ++ toBytes 2 0#16

def noteBytes : List (BitVec 8) :=
  (r.prstatus.map fun s => elfNote coreNoteName 1 s).getD [] ++
    elfNote coreNoteName 0x53494749 r.siginfo.1 ++ elfNote coreNoteName 3 r.prpsinfo.1 ++
    elfNote coreNoteName 6 auxv ++ elfNtFileNote r.fileMappings ++
    elfNote polyNoteName 0x32564744 r.note.1

/-- `poly_write_zero_padding_to_offset`. The position in the file is its length. -/
def writeZeroPaddingToOffset (file : List (BitVec 8)) (target : Nat) : Option (List (BitVec 8)) :=
  if target < file.length then none
  else some (file ++ List.replicate (target - file.length) 0)

def memoryBytes (l : CoreLoad) : List (BitVec 8) :=
  (List.range l.filesz).map fun i => r.memory (l.memory + BitVec.ofNat 64 i)

def writeCoreLoadSegment (file : List (BitVec 8)) (p : Nat × CoreLoad) :
    Option (List (BitVec 8)) :=
  if p.2.filesz = 0 then some file
  else (writeZeroPaddingToOffset file p.1).map (· ++ r.memoryBytes p.2)

def writeFatalDebugNoteElf : Option (List (BitVec 8)) :=
  r.placed.foldlM r.writeCoreLoadSegment
    (r.ehdrBytes ++ (r.phdrs.flatMap phdrBytes).take (r.phnum.toNat * phdrSize) ++ r.noteBytes)

end CoreRequest

end Poly.Polyexec
