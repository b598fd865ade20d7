import Armd64.Proofs.RelocLoops
import Armd64.Proofs.RelocPatch

/-!
# The value of a symbolic relocation

A symbolic relocation should store `S + A`: the address of the symbol, which moves with the image if
the symbol is in a section and stays if it is absolute, and the addend. The lookup of a symbol in
its own image only asks whether it is defined, and all four loops add the load bias to its value.
-/

namespace Poly.Polyexec

def shnAbs : BitVec 16 := 0xfff1

def symbolValue (p : RelocProgram) (sym : ElfSym) : BitVec 64 :=
  if sym.stShndx = shnAbs then sym.stValue else p.loadBias + sym.stValue

/-- The symbol with this index is defined in the image, and is not an indirect function. -/
structure DefinesSymbol (img : Image) (info : SymbolInfo) (symbolIndex : BitVec 64) (sym : ElfSym) :
    Prop where
  symtab : info.symtabVaddr ≠ 0
  syment : symSize ≤ info.syment.toNat
  record : (symbolRecordOffset img info symbolIndex).map img.sym = some sym
  defined : sym.stShndx ≠ 0
  direct : sym.type ≠ 10

def wordAfter (p : RelocProgram) (target : Nat) (t : Hw.Traced RelocWrite CodeBytes) :
    Option (BitVec 64) :=
  t.value.map fun bytes => (p.image bytes).u64 target

section

variable {env : RelocEnv} {p : RelocProgram} {info : SymbolInfo} {bytes : CodeBytes}

variable {symbolIndex : BitVec 64} {sym : ElfSym}

theorem resolveSameImageRelocSymbol_of_defines {img : Image}
    (h : DefinesSymbol img info symbolIndex sym) :
    (resolveSameImageRelocSymbol img info symbolIndex).value = some (sym.stValue, sym.type) := by
  obtain ⟨offset, hoffset, rfl⟩ := Option.map_eq_some_iff.mp h.record
  have hcheck : ¬ (info.symtabVaddr = 0 ∨ info.syment.toNat < symSize) := by
    rintro (hzero | hlt)
    · exact h.symtab hzero
    · exact Nat.not_lt.mpr h.syment hlt
  rw [resolveSameImageRelocSymbol, if_neg hcheck, Hw.Traced.value_bind]
  refine ⟨offset, hoffset, Hw.Traced.value_bind.mpr ⟨img.sym offset, rfl, ?_⟩⟩
  rw [if_neg h.defined]
  rfl

theorem symbolicAddress_of_defines (h : DefinesSymbol (p.image bytes) info symbolIndex sym) :
    symbolicAddress env p info bytes symbolIndex = some (p.loadBias + sym.stValue) := by
  rw [symbolicAddress, resolveSameImageRelocSymbol_of_defines h]
  dsimp only
  rw [if_neg h.direct]

/-- A symbolic type is none of the types that the loops ask for before it. -/
structure OnlySymbolic (types : RelocTypes) (type : BitVec 32) : Prop where
  none : type ≠ types.none
  copy : type ≠ types.copy
  tprel : type ≠ types.tlsTprel
  dtprel : type ≠ types.tlsDtprel
  dtpmod : type ≠ types.tlsDtpmod
  tlsdesc : type ≠ types.tlsdesc

theorem onlySymbolic_of_mem {a : Abi.Arch} {type : BitVec 32}
    (h : type ∈ (relocTypes a).symbolic64) :
    OnlySymbolic (relocTypes a) type := by
  cases a <;>
    · simp only [relocTypes, List.mem_cons, List.not_mem_nil, or_false] at h
      rcases h with rfl | rfl | rfl <;> constructor <;> decide

variable {e : RelocEntry} {address : BitVec 64} {target : Nat}

theorem relocEntry_of_symbolic (hindex : e.symbolIndex ≠ 0)
    (htype : e.type ∈ (relocTypes p.arch).symbolic64)
    (htarget : p.offsetOf e.offset 8 = some target)
    (haddress : symbolicAddress env p info bytes e.symbolIndex = some address) :
    (relocEntry env p info bytes e).value =
      some (patch bytes target (Hw.toBytes 8 (address + e.addendAt p bytes target))) := by
  obtain ⟨hnone, hcopy, htp, hdtp, hmod, hdesc⟩ := onlySymbolic_of_mem htype
  have hvalue : relocValue env p info bytes e.symbolIndex e.type (e.addendAt p bytes target) =
      some (address + e.addendAt p bytes target) := by
    have htls : ¬ (e.symbolIndex ≠ 0 ∧ (e.type = (relocTypes p.arch).tlsTprel ∨
        e.type = (relocTypes p.arch).tlsDtprel)) := by
      rintro ⟨-, h | h⟩
      · exact htp h
      · exact hdtp h
    rw [relocValue, if_neg fun h => hindex h.1, if_neg fun h => hindex h.1,
      if_neg htls, if_neg hmod,
      if_pos ⟨hindex, htype⟩, haddress]
    rfl
  rw [relocEntry_patches, entryPatch, if_neg hnone, if_neg fun h => hcopy h.2, htarget,
    Option.bind_eq_bind, Option.bind_some, if_neg fun h => hdesc h.2, hvalue]
  rfl

theorem pltEntry_of_symbolic (hindex : e.symbolIndex ≠ 0)
    (htype : e.type ∈ (relocTypes p.arch).symbolic64)
    (htarget : p.offsetOf e.offset 8 = some target)
    (haddress : symbolicAddress env p info bytes e.symbolIndex = some address) :
    (pltEntry env p info bytes e).value =
      some (patch bytes target (Hw.toBytes 8 (address + e.addendAt p bytes target))) := by
  obtain ⟨hnone, -, -, -, -, hdesc⟩ := onlySymbolic_of_mem htype
  have hsupported : ¬ (e.symbolIndex = 0 ∨ e.type ∉ (relocTypes p.arch).symbolic64) := by
    rintro (h | h)
    · exact hindex h
    · exact h htype
  rw [pltEntry_patches, pltPatch, if_neg hnone, if_neg fun h => hdesc h.2, if_neg hsupported,
    haddress, htarget]
  rfl

theorem wordAfter_eq {t : Hw.Traced RelocWrite CodeBytes} {value : BitVec 64}
    (h : t.value = some (patch bytes target (Hw.toBytes 8 value))) :
    wordAfter p target t = some value := by
  rw [wordAfter, h, Option.map_some, u64_patch]

theorem biased_eq_symbolValue_iff {a : BitVec 64} :
    some (p.loadBias + sym.stValue + a) = some (symbolValue p sym + a) ↔
      (sym.stShndx = shnAbs → p.loadBias = 0) := by
  rw [Option.some.injEq, BitVec.add_left_inj, symbolValue]
  split
  · rename_i habs
    rw [imp_iff_right habs]
    exact BitVec.add_left_eq_self
  · rename_i habs
    simp [habs]

end

/-- The stored value is `S + A` in the loops over `DT_RELA`, `DT_REL` and `DT_JMPREL` exactly when
the symbol is not absolute or the image did not move. -/
theorem symbolic_value_iff (env : RelocEnv) (p : RelocProgram) (info : SymbolInfo)
    (bytes : CodeBytes) (rela : Rela) (sym : ElfSym) (target : Nat) (hindex : rela.symbolIndex ≠ 0)
    (htype : rela.type ∈ (relocTypes p.arch).symbolic64)
    (htarget : p.offsetOf rela.offset 8 = some target)
    (hsym : DefinesSymbol (p.image bytes) info rela.symbolIndex sym) :
    let S := symbolValue p sym
    let word := (p.image bytes).u64 target
    let moves := sym.stShndx = shnAbs → p.loadBias = 0
    (wordAfter p target (relaEntry env p info bytes rela) = some (S + rela.addend) ↔ moves) ∧
      (wordAfter p target (relEntry env p info bytes rela.toRel) = some (S + word) ↔ moves) ∧
      (wordAfter p target (pltRelaEntry env p info bytes rela) = some (S + rela.addend) ↔ moves) ∧
      (wordAfter p target (pltRelEntry env p info bytes rela.toRel) = some (S + word) ↔ moves) := by
  have haddress : symbolicAddress env p info bytes rela.symbolIndex =
      some (p.loadBias + sym.stValue) := symbolicAddress_of_defines hsym
  refine ⟨?_, ?_, ?_, ?_⟩
  · rw [relaEntry_eq, wordAfter_eq (relocEntry_of_symbolic (e := rela.entry) hindex htype htarget
      haddress)]
    exact biased_eq_symbolValue_iff
  · rw [relEntry_eq, wordAfter_eq (relocEntry_of_symbolic (e := rela.toRel.entry) hindex htype
      htarget
      haddress)]
    exact biased_eq_symbolValue_iff
  · rw [pltRelaEntry_eq, wordAfter_eq (pltEntry_of_symbolic (e := rela.entry) hindex htype htarget
      haddress)]
    exact biased_eq_symbolValue_iff
  · rw [pltRelEntry_eq, wordAfter_eq (pltEntry_of_symbolic (e := rela.toRel.entry) hindex htype
      htarget haddress)]
    exact biased_eq_symbolValue_iff

/-- An x86 image with the symbol `v` of value `0x1070`, in section `shndx`, and an `R_X86_64_64`
relocation against it at `0x1068`. -/
def symbolImage (shndx : BitVec 16) : CodeBytes := wordImage
  [0x200000001, 1, 0,
    0, 0, 0, shndx ++ 0x001100000001#48, 0x1070, 8,
    0x7600, 0x1068, 0x100000001, 4, 0, 0x2a,
    dtSymtab, 0x1018, dtStrtab, 0x1048, dtStrsz, 3, dtHash, 0x1000, dtRela, 0x1050, dtRelasz, 24]

def symbolOfImage (shndx : BitVec 16) : ElfSym := ⟨1, 0x11, 0, shndx, 0x1070, 8⟩

def emptyEnv : RelocEnv :=
  ⟨fun _ _ => none, fun _ _ => none, fun _ _ => none, fun _ _ => none, 0, 0⟩

/-- A symbol in a section, in the loops over `Elf64_Rela`. -/
theorem symbolic_value_iff_section :
    let bytes := symbolImage 1
    let info := (symbolProgram.image bytes).info
    let rela : Rela := ⟨⟨0x1068, 0x100000001⟩, 4⟩
    wordAfter symbolProgram 0x68 (relaEntry emptyEnv symbolProgram info bytes rela) =
        some 0x400074 ∧
      wordAfter symbolProgram 0x68 (pltRelaEntry emptyEnv symbolProgram info bytes rela) =
        some 0x400074 := by
  have h := symbolic_value_iff emptyEnv symbolProgram (symbolProgram.image (symbolImage 1)).info
    (symbolImage 1) ⟨⟨0x1068, 0x100000001⟩, 4⟩ (symbolOfImage 1) 0x68 (by decide) (by decide)
    (by decide +kernel)
    ⟨by decide +kernel, by decide +kernel, by decide +kernel, by decide, by decide⟩
  exact ⟨h.1.mpr fun habs => absurd habs (by decide),
    h.2.2.1.mpr fun habs => absurd habs (by decide)⟩

/-- The symbol is absolute, so the word should be `0x1074`, but the image is `0x3ff000` above the
addresses of its file. -/
theorem absolute_symbol_moves :
    (symbolProgram.image (symbolImage shnAbs)).sym 0x30 = symbolOfImage shnAbs ∧
      symbolValue symbolProgram (symbolOfImage shnAbs) + 4 = 0x1074 ∧
      wordAfter symbolProgram 0x68
        (applyRelativeRelocations emptyEnv symbolProgram (symbolImage shnAbs)) = some 0x400074 := by
  decide +kernel

end Poly.Polyexec
