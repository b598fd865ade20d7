import Armd64.Lib.Words

/-!
# Relocations of the static caller (`polycall.c`)

`polycall` does not relocate an image in place: it records the relocations of a program and applies
them when the program is placed.
-/

namespace Poly.Polycall

structure DynamicReloc where
  offset : Nat
  size : Nat
  value : BitVec 64
  baseKind : Nat
  deriving DecidableEq, Repr

structure Program where
  baseVaddr : BitVec 64
  imageSize : Nat
  image : Nat → BitVec 8
  relocs : List DynamicReloc

def maxDynamicRelocs : Nat := 4096

def relocBaseLoadBias : Nat := 1

def imageVaddrToOffset (baseVaddr : BitVec 64) (imageSize : Nat) (vaddr size : BitVec 64) :
    Option Nat :=
  if vaddr.toNat < baseVaddr.toNat ∨ imageSize < size.toNat then none
  else
    let imageOffset := vaddr.toNat - baseVaddr.toNat
    if imageSize - size.toNat < imageOffset then none else some imageOffset

namespace Program

def elfVaddrToImageOffset (p : Program) (vaddr size : BitVec 64) : Option Nat :=
  imageVaddrToOffset p.baseVaddr p.imageSize vaddr size

def readLe64 (p : Program) (offset : Nat) : BitVec 64 := Hw.ofWords 8 fun i => p.image (offset + i)

end Program

section

-- `realloc` finds the memory for a number of records
variable (realloc : Nat → Bool)

def appendDynamicReloc (p : Program) (offset : Nat) (value : BitVec 64) (baseKind : Nat) :
    Option Program :=
  if maxDynamicRelocs ≤ p.relocs.length then none
  else if !realloc (p.relocs.length + 1) then none
  else some { p with relocs := p.relocs ++ [⟨offset, 8, value, baseKind⟩] }

def appendRelrRelocation (p : Program) (relocVaddr : BitVec 64) : Option Program := do
  let relocationOffset ← p.elfVaddrToImageOffset relocVaddr 8
  appendDynamicReloc realloc p relocationOffset (p.readLe64 relocationOffset) relocBaseLoadBias

/-- The body of the loop of `process_relr_table`, with the address that a bitmap starts at. -/
def relrEntry (s : Program × BitVec 64) (entry : BitVec 64) : Option (Program × BitVec 64) :=
  if entry &&& 1 = 0 then do
    let p ← appendRelrRelocation realloc s.1 entry
    return (p, entry + 8)
  else do
    let bitmap := entry >>> 1
    let p ← (List.range 63).foldlM
      (fun p bit =>
        if bitmap.getLsbD bit then appendRelrRelocation realloc p (s.2 + BitVec.ofNat 64 (bit * 8))
        else pure p)
      s.1
    return (p, s.2 + 63 * 8)

def processRelrTable (p : Program) (relrVaddr relrSize relrEnt : BitVec 64) : Option Program :=
  if relrSize = 0 then some p
  else if relrEnt ≠ 8 ∨ relrSize.toNat % 8 ≠ 0 then none
  else do
    let relrOffset ← p.elfVaddrToImageOffset relrVaddr relrSize
    let words := (List.range (relrSize.toNat / 8)).map fun n => p.readLe64 (relrOffset + n * 8)
    let s ← words.foldlM (relrEntry realloc) (p, 0)
    return s.1

end

end Poly.Polycall
