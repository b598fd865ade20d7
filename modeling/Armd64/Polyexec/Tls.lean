import Armd64.Polyexec.ElfLoad
import Armd64.Polyexec.Lifecycle

/-!
# Thread-local storage of a process (`polyexec.c`)

The runtime has one block of thread-local storage for all programs of a process. It gives each
program a range of the block before it maps the dependencies, and copies the initial bytes of each
program to its range after that.
-/

namespace Poly.Polyexec

/-- The `tls_*` fields of `struct poly_program` from its `PT_TLS` header, all zero without one. -/
structure TlsSegment where
  vaddr : BitVec 64
  filesz : BitVec 64
  memsz : BitVec 64
  align : BitVec 64
  /-- The loader refuses a header with more bytes in the file than in memory. -/
  filesz_le : filesz.toNat ≤ memsz.toNat

def HeaderScan.tlsSegment (s : HeaderScan) (hle : s.tlsFilesz.toNat ≤ s.tlsMemsz.toNat) :
    TlsSegment :=
  ⟨s.tlsVaddr, s.tlsFilesz, s.tlsMemsz, s.tlsAlign, hle⟩

/-! ## Ranges -/

def alignUpSize (value alignment : BitVec 64) : Option (BitVec 64) :=
  if alignment.toNat ≤ 1 then some value
  else if alignment &&& (alignment - 1) ≠ 0 ∨
      (BitVec.allOnes 64 - (alignment - 1)).toNat < value.toNat then none
  else some ((value + alignment - 1) &&& ~~~(alignment - 1))

def TlsSegment.alignment (t : TlsSegment) : BitVec 64 := if t.align ≠ 0 then t.align else 1

/-- `reserve_process_tls_range`: the new total size, and the offset of the range. -/
def reserveProcessTlsRange (totalSize : BitVec 64) (t : TlsSegment) :
    Option (BitVec 64 × BitVec 64) :=
  if t.memsz = 0 then some (totalSize, 0)
  else if maxProcessTlsBytes < t.memsz.toNat ∨ maxProcessTlsBytes < t.align.toNat then none
  else
    match alignUpSize totalSize t.alignment with
    | none => none
    | some aligned =>
      if maxProcessTlsBytes < aligned.toNat ∨
          maxProcessTlsBytes - aligned.toNat < t.memsz.toNat then none
      else some (aligned + t.memsz, aligned)

/-- The size of the block so far, and the `tls_offset` of each program. -/
structure TlsLayout where
  totalSize : BitVec 64
  offset : Nat → BitVec 64

def TlsLayout.empty : TlsLayout := ⟨0, fun _ => 0⟩

section

variable (h : ProgramHeap) (tls : Nat → TlsSegment)

def reserveProgram (s : TlsLayout) (p : Nat) : Option TlsLayout := do
  let (totalSize, offset) ← reserveProcessTlsRange s.totalSize (tls p)
  return ⟨totalSize, fun q => if q = p then offset else s.offset q⟩

def reserveProcessTlsTree : Nat → Nat → TlsLayout → Option TlsLayout
  | 0, _, _ => none
  | budget + 1, p, s => do
    let s ← reserveProgram tls s p
    (h.ownedRefs p).foldlM (fun s r => reserveProcessTlsTree budget (h.target r) s) s

end

/-! ## Copies -/

abbrev TlsBlock := Nat → BitVec 8

section

variable (P : Process) (tls : Nat → TlsSegment) (s : TlsLayout) (mem : Hw.Memory)

def copyProcessTlsImage (block : TlsBlock) (p : Nat) : Option TlsBlock :=
  let t := tls p
  let image := (P.program p).image
  let offset := (s.offset p).toNat
  if t.memsz = 0 then some block
  else
    match image.elfVaddrToImageOffset t.vaddr t.filesz with
    | none => none
    | some imageOffset =>
      if s.totalSize.toNat < offset ∨ s.totalSize.toNat - offset < t.filesz.toNat then none
      else
        some fun k =>
          if offset ≤ k ∧ k < offset + t.filesz.toNat then
            mem (image.loadedImage + BitVec.ofNat 64 (imageOffset + (k - offset)))
          else block k

/-- `copy_process_dependency_tls_images`, with a budget for its depth, where the dependencies in
`mapped` have a `loaded_image`. -/
def copyProcessDependencyTlsImages (mapped : List DepRef) : Nat → Nat → TlsBlock → Option TlsBlock
  | 0, _, _ => none
  | budget + 1, p, block =>
    (P.heap.depRefs p).foldlM
      (fun block r =>
        if r ∉ mapped then return block
        else if P.heap.sharedFrom r ≠ none then return block
        else do
          let block ← copyProcessDependencyTlsImages mapped budget (P.heap.target r) block
          copyProcessTlsImage P tls s mem block (P.heap.target r))
      block

/-- The copies of `emit_and_run_process`, to a new block. There is none if its size is zero. -/
def copyProcessTlsImages (mapped : List DepRef) (budget : Nat) : Option TlsBlock :=
  let block : TlsBlock := fun _ => 0
  if s.totalSize = 0 then some block
  else do
    let block ← copyProcessTlsImage P tls s mem block 0
    copyProcessDependencyTlsImages P tls s mem mapped budget 0 block

end

end Poly.Polyexec
