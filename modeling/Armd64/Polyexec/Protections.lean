import Armd64.Polyexec.ElfLoad

/-!
# Page protections of a loaded image (`polyexec.c`)

After its relocation an image is protected: each segment with the permissions of its flags, one
after the other, and then the range of `PT_GNU_RELRO` as read-only. Each range is rounded to whole
pages.
-/

namespace Poly.Polyexec

inductive Perm
  | read
  | write
  | exec
  deriving DecidableEq, Repr

structure Prot where
  read : Bool
  write : Bool
  exec : Bool
  deriving DecidableEq, Repr

def Prot.has (p : Prot) : Perm → Bool
  | .read => p.read
  | .write => p.write
  | .exec => p.exec

def loadSegmentProt (flags : BitVec 32) : Prot :=
  ⟨flags.getLsbD 2, flags.getLsbD 1, flags.getLsbD 0⟩

def protRead : Prot := ⟨true, false, false⟩

abbrev PageMap := Nat → Prot

/-- `mprotect` of a range. The system refuses an address inside a page, and may have other reasons
to refuse. -/
def mprotect (refuses : Nat → Nat → Prot → Bool) (addr length : Nat) (prot : Prot) (mem : PageMap) :
    Option PageMap :=
  if addr % 0x1000 ≠ 0 ∨ refuses addr length prot then none
  else some fun page =>
    if addr ≤ page * 0x1000 ∧ page * 0x1000 < addr + length then prot else mem page

def alignUpU64 (value alignment : BitVec 64) : BitVec 64 :=
  (value + alignment - 1) &&& ~~~(alignment - 1)

section

variable (refuses : Nat → Nat → Prot → Bool) (p : ElfProgram) (image : Nat)

def protectImageRange (vaddr size : BitVec 64) (prot : Prot) (mem : PageMap) : Option PageMap :=
  if size = 0 then some mem
  else if vaddr.toNat < p.baseVaddr.toNat ∨ 2 ^ 64 - 1 - size.toNat < vaddr.toNat then none
  else
    let start := alignDownU64 vaddr 0x1000
    let endUnaligned := vaddr + size
    if 2 ^ 64 - 1 - 0xfff < endUnaligned.toNat then none
    else
      let rangeEnd := alignUpU64 endUnaligned 0x1000
      let mappedImageSize := alignUpU64 (BitVec.ofNat 64 p.codeSize) 0x1000
      if start.toNat < p.baseVaddr.toNat ∨ rangeEnd.toNat < start.toNat ∨
          mappedImageSize.toNat < (rangeEnd - p.baseVaddr).toNat then none
      else
        mprotect refuses (image + (start - p.baseVaddr).toNat) (rangeEnd - start).toNat prot mem

def protectLoadSegments (mem : PageMap) : Option PageMap :=
  p.scan.loadSegments.foldlM
    (fun mem segment =>
      protectImageRange refuses p image segment.vaddr segment.memsz (loadSegmentProt segment.flags)
        mem) mem

/-- The segments, and then `PT_GNU_RELRO`, as in `map_process_dependencies`. -/
def protectImage (mem : PageMap) : Option PageMap := do
  let mem ← protectLoadSegments refuses p image mem
  protectImageRange refuses p image p.scan.relroVaddr p.scan.relroSize protRead mem

end

end Poly.Polyexec
