import Armd64.Polyexec.Relocations

/-!
# The four relocation loops (`polyexec.c`)

`apply_relative_relocations` has a loop for each of the tables `DT_RELA` and `DT_REL` and for the
two formats of `DT_JMPREL`. `Relocations` has one definition for both formats of a table; here are
the bodies of the loops one by one, with the checks and the additions in the order of the source.
-/

namespace Poly.Polyexec

open Hw (Traced)
open Hw.Traced
open scoped RelocTypes

structure Rel where
  offset : BitVec 64
  info : BitVec 64
  deriving DecidableEq, Repr

structure Rela extends Rel where
  addend : BitVec 64
  deriving DecidableEq, Repr

def Rel.symbolIndex (r : Rel) : BitVec 64 := r.info >>> 32

def Rel.type (r : Rel) : BitVec 32 := r.info.setWidth 32

structure RelocResult where
  value : BitVec 64
  absolute : Bool
  deriving DecidableEq, Repr

section

variable (env : RelocEnv) (p : RelocProgram) (info : SymbolInfo)

def RelocResult.word (r : RelocResult) : BitVec 64 :=
  if r.absolute then r.value else p.loadBias + r.value

/-- The symbol of a symbolic relocation: of the image, from a resolver of the image, or of another
program. -/
def resolveRelocSymbol (bytes : CodeBytes) (symbolIndex : BitVec 64) : Option RelocResult :=
  match (resolveSameImageRelocSymbol (p.image bytes) info symbolIndex).value with
  | some (value, type) =>
    -- `STT_GNU_IFUNC`
    if type = 10 then (env.irelative bytes value).map fun value => ⟨value, true⟩
    else some ⟨value, false⟩
  | none =>
    (resolveDependencyRelocSymbol env p info bytes symbolIndex).map fun value => ⟨value, true⟩

/-! ## `TLSDESC` -/

/-- The branch for `TLSDESC` of the loops over `Elf64_Rela`: the helper, and the offset for it. -/
def relaTlsdesc (bytes : CodeBytes) (rela : Rela) : Traced RelocWrite CodeBytes :=
  if env.tlsdescHelperPc = 0 then .fail
  else do
    let target ← ofOption ((p.image bytes).elfVaddrToImageOffset rela.offset 16)
    let value ← ofOption (resolveProcessTlsRelocSymbol env p info bytes rela.symbolIndex)
    let bytes ← writeWord bytes target env.tlsdescHelperPc
    writeWord bytes (target + 8) (value + rela.addend)

/-- The branch of the loops over `Elf64_Rel`. The addend is in the second word. -/
def relTlsdesc (bytes : CodeBytes) (rel : Rel) : Traced RelocWrite CodeBytes :=
  if env.tlsdescHelperPc = 0 then .fail
  else do
    let target ← ofOption ((p.image bytes).elfVaddrToImageOffset rel.offset 16)
    let value ← ofOption (resolveProcessTlsRelocSymbol env p info bytes rel.symbolIndex)
    let bytes ← writeWord bytes target env.tlsdescHelperPc
    writeWord bytes (target + 8) ((p.image bytes).u64 (target + 8) + value)

/-! ## The main tables -/

def relaEntry (bytes : CodeBytes) (rela : Rela) : Traced RelocWrite CodeBytes :=
  let types := relocTypes p.arch
  let symbolIndex := rela.symbolIndex
  let type := rela.type
  if type = types.none then pure bytes
  else if symbolIndex ≠ 0 ∧ type = types.copy then
    applyProcessCopyRelocation env p info bytes symbolIndex rela.offset
  else do
    let target ← ofOption ((p.image bytes).elfVaddrToImageOffset rela.offset 8)
    if symbolIndex = 0 ∧ type = types.relative then
      writeWord bytes target (RelocResult.word p ⟨rela.addend, false⟩)
    else if symbolIndex = 0 ∧ type = types.irelative then
      let value ← ofOption (env.irelative bytes rela.addend)
      writeWord bytes target (RelocResult.word p ⟨value, true⟩)
    else if symbolIndex ≠ 0 ∧ type = types.tlsTprel then
      let value ← ofOption (resolveProcessTlsRelocSymbol env p info bytes symbolIndex)
      writeWord bytes target (RelocResult.word p ⟨value + rela.addend, true⟩)
    else if symbolIndex ≠ 0 ∧ type = types.tlsdesc then relaTlsdesc env p info bytes rela
    else if type = types.tlsDtpmod then
      writeWord bytes target (RelocResult.word p ⟨1 + rela.addend, true⟩)
    else if symbolIndex ≠ 0 ∧ type = types.tlsDtprel then
      let value ← ofOption (resolveProcessTlsRelocSymbol env p info bytes symbolIndex)
      writeWord bytes target (RelocResult.word p ⟨value + rela.addend, true⟩)
    else if symbolIndex ≠ 0 ∧ type ∈ types.symbolic64 then
      let symbol ← ofOption (resolveRelocSymbol env p info bytes symbolIndex)
      writeWord bytes target (RelocResult.word p ⟨symbol.value + rela.addend, symbol.absolute⟩)
    else .fail

/-- The body of the loop over `DT_REL`. The addend is in the image. -/
def relEntry (bytes : CodeBytes) (rel : Rel) : Traced RelocWrite CodeBytes :=
  let types := relocTypes p.arch
  let symbolIndex := rel.symbolIndex
  let type := rel.type
  if type = types.none then pure bytes
  else if symbolIndex ≠ 0 ∧ type = types.copy then
    applyProcessCopyRelocation env p info bytes symbolIndex rel.offset
  else do
    let target ← ofOption ((p.image bytes).elfVaddrToImageOffset rel.offset 8)
    let relocValue := (p.image bytes).u64 target
    if symbolIndex = 0 ∧ type = types.relative then
      writeWord bytes target (RelocResult.word p ⟨relocValue, false⟩)
    else if symbolIndex = 0 ∧ type = types.irelative then
      let value ← ofOption (env.irelative bytes relocValue)
      writeWord bytes target (RelocResult.word p ⟨value, true⟩)
    else if symbolIndex ≠ 0 ∧ type = types.tlsTprel then
      let value ← ofOption (resolveProcessTlsRelocSymbol env p info bytes symbolIndex)
      writeWord bytes target (RelocResult.word p ⟨relocValue + value, true⟩)
    else if symbolIndex ≠ 0 ∧ type = types.tlsdesc then relTlsdesc env p info bytes rel
    else if type = types.tlsDtpmod then
      writeWord bytes target (RelocResult.word p ⟨relocValue + 1, true⟩)
    else if symbolIndex ≠ 0 ∧ type = types.tlsDtprel then
      let value ← ofOption (resolveProcessTlsRelocSymbol env p info bytes symbolIndex)
      writeWord bytes target (RelocResult.word p ⟨relocValue + value, true⟩)
    else if symbolIndex ≠ 0 ∧ type ∈ types.symbolic64 then
      let symbol ← ofOption (resolveRelocSymbol env p info bytes symbolIndex)
      writeWord bytes target (RelocResult.word p ⟨relocValue + symbol.value, symbol.absolute⟩)
    else .fail

/-! ## The tables of `DT_JMPREL` -/

/-- The body of the loop over `DT_JMPREL` in the format of `DT_RELA`. The symbol comes before the
check of the target. -/
def pltRelaEntry (bytes : CodeBytes) (rela : Rela) : Traced RelocWrite CodeBytes :=
  let types := relocTypes p.arch
  let symbolIndex := rela.symbolIndex
  let type := rela.type
  if type = types.none then pure bytes
  else if symbolIndex ≠ 0 ∧ type = types.tlsdesc then relaTlsdesc env p info bytes rela
  else if symbolIndex = 0 ∨ type ∉ types.symbolic64 then .fail
  else do
    let symbol ← ofOption (resolveRelocSymbol env p info bytes symbolIndex)
    let target ← ofOption ((p.image bytes).elfVaddrToImageOffset rela.offset 8)
    writeWord bytes target (symbol.word p + rela.addend)

/-- The body of the loop over `DT_JMPREL` in the format of `DT_REL`. The check of the target comes
before the symbol. -/
def pltRelEntry (bytes : CodeBytes) (rel : Rel) : Traced RelocWrite CodeBytes :=
  let types := relocTypes p.arch
  let symbolIndex := rel.symbolIndex
  let type := rel.type
  if type = types.none then pure bytes
  else if symbolIndex ≠ 0 ∧ type = types.tlsdesc then relTlsdesc env p info bytes rel
  else if symbolIndex = 0 ∨ type ∉ types.symbolic64 then .fail
  else do
    let target ← ofOption ((p.image bytes).elfVaddrToImageOffset rel.offset 8)
    let symbol ← ofOption (resolveRelocSymbol env p info bytes symbolIndex)
    writeWord bytes target (symbol.word p + (p.image bytes).u64 target)

/-! ## Tables -/

def readRel (bytes : CodeBytes) (offset : Nat) : Rel :=
  ⟨(p.image bytes).u64 offset, (p.image bytes).u64 (offset + 8)⟩

def readRela (bytes : CodeBytes) (offset : Nat) : Rela :=
  ⟨readRel p bytes offset, (p.image bytes).u64 (offset + 16)⟩

def relaTable (vaddr size entrySize : BitVec 64) (bytes : CodeBytes) :
    Traced RelocWrite CodeBytes :=
  if vaddr = 0 ∨ size = 0 then pure bytes
  else if entrySize.toNat < 24 ∨ size.toNat % entrySize.toNat ≠ 0 then .fail
  else do
    let offset ← ofOption ((p.image bytes).elfVaddrToImageOffset vaddr size)
    (List.range (size.toNat / entrySize.toNat)).foldlM
      (fun bytes n => relaEntry env p info bytes (readRela p bytes (offset + n * entrySize.toNat)))
      bytes

def relTable (vaddr size entrySize : BitVec 64) (bytes : CodeBytes) : Traced RelocWrite CodeBytes :=
  if vaddr = 0 ∨ size = 0 then pure bytes
  else if entrySize.toNat < 16 ∨ size.toNat % entrySize.toNat ≠ 0 then .fail
  else do
    let offset ← ofOption ((p.image bytes).elfVaddrToImageOffset vaddr size)
    (List.range (size.toNat / entrySize.toNat)).foldlM
      (fun bytes n => relEntry env p info bytes (readRel p bytes (offset + n * entrySize.toNat)))
      bytes

def pltRelaTable (vaddr size : BitVec 64) (bytes : CodeBytes) : Traced RelocWrite CodeBytes :=
  if size = 0 then pure bytes
  else if vaddr = 0 then .fail
  else if size.toNat % 24 ≠ 0 then .fail
  else do
    let offset ← ofOption ((p.image bytes).elfVaddrToImageOffset vaddr size)
    (List.range (size.toNat / 24)).foldlM
      (fun bytes n => pltRelaEntry env p info bytes (readRela p bytes (offset + n * 24))) bytes

def pltRelTable (vaddr size : BitVec 64) (bytes : CodeBytes) : Traced RelocWrite CodeBytes :=
  if size = 0 then pure bytes
  else if vaddr = 0 then .fail
  else if size.toNat % 16 ≠ 0 then .fail
  else do
    let offset ← ofOption ((p.image bytes).elfVaddrToImageOffset vaddr size)
    (List.range (size.toNat / 16)).foldlM
      (fun bytes n => pltRelEntry env p info bytes (readRel p bytes (offset + n * 16))) bytes

end

end Poly.Polyexec
