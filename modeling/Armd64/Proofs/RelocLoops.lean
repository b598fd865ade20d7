import Armd64.Polyexec.RelocLoops

/-!
# The relocation loops are one

* `relaEntry_eq`, `relEntry_eq`, `pltRelaEntry_eq`, `pltRelEntry_eq`: each of the four bodies is
  that of `Relocations` for its format.
* `relaTable_eq`, `relTable_eq`, `pltRelaTable_eq`, `pltRelTable_eq`: so are the tables.
-/

namespace Poly.Polyexec

open Hw (Traced)
open Hw.Traced
open scoped RelocTypes

def Rel.entry (rel : Rel) : RelocEntry := ⟨rel.offset, rel.info, none⟩

def Rela.entry (rela : Rela) : RelocEntry := ⟨rela.offset, rela.info, some rela.addend⟩

@[simp] theorem Rel.entry_symbolIndex (rel : Rel) : rel.entry.symbolIndex = rel.symbolIndex := rfl
@[simp] theorem Rel.entry_type (rel : Rel) : rel.entry.type = rel.type := rfl
@[simp] theorem Rel.entry_offset (rel : Rel) : rel.entry.offset = rel.offset := rfl
@[simp] theorem Rela.entry_symbolIndex (rela : Rela) :
    rela.entry.symbolIndex = rela.symbolIndex := rfl
@[simp] theorem Rela.entry_type (rela : Rela) : rela.entry.type = rela.type := rfl
@[simp] theorem Rela.entry_offset (rela : Rela) : rela.entry.offset = rela.offset := rfl

variable {env : RelocEnv} {p : RelocProgram} {info : SymbolInfo} {bytes : CodeBytes}

/-! ## Values -/

theorem tlsTprel_ne_tlsdesc (a : Abi.Arch) : (relocTypes a).tlsTprel ≠ (relocTypes a).tlsdesc := by
  cases a <;> decide

theorem tlsDtprel_ne_tlsDtpmod (a : Abi.Arch) :
    (relocTypes a).tlsDtprel ≠ (relocTypes a).tlsDtpmod := by
  cases a <;> decide

theorem symbolicAddress_eq (symbolIndex : BitVec 64) :
    symbolicAddress env p info bytes symbolIndex =
      (resolveRelocSymbol env p info bytes symbolIndex).map (·.word p) := by
  unfold symbolicAddress resolveRelocSymbol
  cases (resolveSameImageRelocSymbol (p.image bytes) info symbolIndex).value with
  | none =>
    cases resolveDependencyRelocSymbol env p info bytes symbolIndex <;> rfl
  | some found =>
    dsimp only
    split
    · cases env.irelative bytes found.1 <;> rfl
    · rfl

theorem word_add (r : RelocResult) (a : BitVec 64) :
    RelocResult.word p ⟨r.value + a, r.absolute⟩ = r.word p + a := by
  unfold RelocResult.word
  split
  · rfl
  · exact (BitVec.add_assoc _ _ _).symm

/-! ## Bodies -/

theorem relaTlsdesc_eq (rela : Rela) :
    relaTlsdesc env p info bytes rela = relocTlsdesc env p info bytes rela.entry := rfl

theorem relTlsdesc_eq (rel : Rel) :
    relTlsdesc env p info bytes rel = relocTlsdesc env p info bytes rel.entry := by
  unfold relTlsdesc relocTlsdesc
  split
  · rfl
  congr 1
  funext target
  congr 1
  funext value
  congr 1
  funext bytes
  rw [BitVec.add_comm]
  rfl

/-- The branches of a main table after the check of the target, with the addend of the entry and
its branch for `TLSDESC`. -/
def relocBranches (env : RelocEnv) (p : RelocProgram) (info : SymbolInfo) (bytes : CodeBytes)
    (symbolIndex : BitVec 64) (type : BitVec 32) (target : Nat) (addend : BitVec 64)
    (tlsdesc : Traced RelocWrite CodeBytes) : Traced RelocWrite CodeBytes :=
  let types := relocTypes p.arch
  let write (r : RelocResult) := writeWord bytes target (r.word p)
  let tlsValue := ofOption (resolveProcessTlsRelocSymbol env p info bytes symbolIndex)
  if symbolIndex = 0 ∧ type = types.relative then write ⟨addend, false⟩
  else if symbolIndex = 0 ∧ type = types.irelative then
    ofOption (env.irelative bytes addend) >>= fun value => write ⟨value, true⟩
  else if symbolIndex ≠ 0 ∧ type = types.tlsTprel then
    tlsValue >>= fun value => write ⟨value + addend, true⟩
  else if symbolIndex ≠ 0 ∧ type = types.tlsdesc then tlsdesc
  else if type = types.tlsDtpmod then write ⟨1 + addend, true⟩
  else if symbolIndex ≠ 0 ∧ type = types.tlsDtprel then
    tlsValue >>= fun value => write ⟨value + addend, true⟩
  else if symbolIndex ≠ 0 ∧ type ∈ types.symbolic64 then
    ofOption (resolveRelocSymbol env p info bytes symbolIndex) >>= fun symbol =>
      writeWord bytes target (RelocResult.word p ⟨symbol.value + addend, symbol.absolute⟩)
  else .fail

theorem relocBranches_eq {symbolIndex addend : BitVec 64} {type : BitVec 32} {target : Nat}
    {tlsdesc : Traced RelocWrite CodeBytes} :
    relocBranches env p info bytes symbolIndex type target addend tlsdesc =
      if symbolIndex ≠ 0 ∧ type = (relocTypes p.arch).tlsdesc then tlsdesc
      else
        ofOption (relocValue env p info bytes symbolIndex type addend) >>= fun value =>
          writeWord bytes target value := by
  unfold relocBranches relocValue
  dsimp only
  by_cases hdesc : symbolIndex ≠ 0 ∧ type = (relocTypes p.arch).tlsdesc
  · rw [if_neg fun h => hdesc.1 h.1, if_neg fun h => hdesc.1 h.1,
      if_neg fun h => tlsTprel_ne_tlsdesc p.arch (h.2.symm.trans hdesc.2),
      if_pos hdesc, if_pos hdesc]
  rw [if_neg hdesc, if_neg hdesc]
  by_cases hrel : symbolIndex = 0 ∧ type = (relocTypes p.arch).relative
  · rw [if_pos hrel, if_pos hrel, ofOption_some, pure_bind]
    rfl
  rw [if_neg hrel, if_neg hrel]
  by_cases hirel : symbolIndex = 0 ∧ type = (relocTypes p.arch).irelative
  · rw [if_pos hirel, if_pos hirel]
    rfl
  rw [if_neg hirel, if_neg hirel]
  by_cases htp : symbolIndex ≠ 0 ∧ type = (relocTypes p.arch).tlsTprel
  · rw [if_pos htp, if_pos ⟨htp.1, .inl htp.2⟩, ofOption_map_bind]
    rfl
  rw [if_neg htp]
  by_cases hdtp : symbolIndex ≠ 0 ∧ type = (relocTypes p.arch).tlsDtprel
  · have hmod : ¬ type = (relocTypes p.arch).tlsDtpmod := fun h =>
      tlsDtprel_ne_tlsDtpmod p.arch (hdtp.2.symm.trans h)
    rw [if_neg hmod, if_pos hdtp, if_pos ⟨hdtp.1, .inr hdtp.2⟩, ofOption_map_bind]
    rfl
  have htls : ¬ (symbolIndex ≠ 0 ∧
      (type = (relocTypes p.arch).tlsTprel ∨ type = (relocTypes p.arch).tlsDtprel)) := by
    rintro ⟨hne, h | h⟩
    · exact htp ⟨hne, h⟩
    · exact hdtp ⟨hne, h⟩
  split
  · rfl
  split
  · rw [ofOption_map_bind, symbolicAddress_eq, ofOption_map_bind]
    congr 1
    funext symbol
    rw [word_add]
  · rfl

theorem relaEntry_eq (rela : Rela) :
    relaEntry env p info bytes rela = relocEntry env p info bytes rela.entry := by
  unfold relaEntry relocEntry
  dsimp only
  rw [Rela.entry_type, Rela.entry_symbolIndex, Rela.entry_offset]
  split
  · rfl
  split
  · rfl
  congr 1
  funext target
  exact relocBranches_eq

theorem relEntry_eq (rel : Rel) :
    relEntry env p info bytes rel = relocEntry env p info bytes rel.entry := by
  unfold relEntry relocEntry
  dsimp only
  rw [Rel.entry_type, Rel.entry_symbolIndex, Rel.entry_offset]
  split
  · rfl
  split
  · rfl
  congr 1
  funext target
  simp only [BitVec.add_comm ((p.image bytes).u64 target), relTlsdesc_eq]
  exact relocBranches_eq

theorem pltRelaEntry_eq (rela : Rela) :
    pltRelaEntry env p info bytes rela = pltEntry env p info bytes rela.entry := by
  unfold pltRelaEntry pltEntry
  rw [symbolicAddress_eq, ofOption_map_bind, relaTlsdesc_eq]
  rfl

theorem pltRelEntry_eq (rel : Rel) :
    pltRelEntry env p info bytes rel = pltEntry env p info bytes rel.entry := by
  unfold pltRelEntry pltEntry
  rw [symbolicAddress_eq, ofOption_map_bind, relTlsdesc_eq, ofOption_comm]
  rfl

/-! ## Tables -/

variable {vaddr size : BitVec 64}

theorem relaTable_eq (entrySize : BitVec 64) :
    relaTable env p info vaddr size entrySize bytes =
      relocTable env p info true vaddr size entrySize bytes := by
  unfold relaTable relocTable relocEntries
  simp only [relaEntry_eq]
  rfl

theorem relTable_eq (entrySize : BitVec 64) :
    relTable env p info vaddr size entrySize bytes =
      relocTable env p info false vaddr size entrySize bytes := by
  unfold relTable relocTable relocEntries
  simp only [relEntry_eq]
  rfl

theorem pltRelaTable_eq :
    pltRelaTable env p info vaddr size bytes = pltTable env p info vaddr size dtRela bytes := by
  unfold pltRelaTable pltTable relocEntries
  simp only [pltRelaEntry_eq]
  simp [relocEntrySize]
  rfl

theorem pltRelTable_eq :
    pltRelTable env p info vaddr size bytes = pltTable env p info vaddr size dtRel bytes := by
  unfold pltRelTable pltTable relocEntries
  simp only [pltRelEntry_eq]
  have hne : dtRel ≠ dtRela := by decide
  simp [relocEntrySize, hne]
  rfl

end Poly.Polyexec
