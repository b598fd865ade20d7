import Armd64.Proofs.Relr
import Armd64.Proofs.SymbolicValue

/-!
# Relocations with and without addends

A table in the format of `DT_REL` has its addends in the words that it is for. It should do the same
as the table in the format of `DT_RELA` with these addends, for the main tables and for those of
`DT_JMPREL`. Both tables may be in one image, or in two images, as long as the lookups of the
symbols do not depend on the bytes in which the images differ.
-/

namespace Poly.Polyexec

open Hw (Traced)

/-! ## Lookups -/

structure SameLookups (env : RelocEnv) (p : RelocProgram) (info : SymbolInfo)
    (bytes bytes' : CodeBytes) : Prop where
  irelative : env.irelative bytes = env.irelative bytes'
  scopeSymbol : env.scopeSymbol bytes = env.scopeSymbol bytes'
  scopeTlsSymbol : env.scopeTlsSymbol bytes = env.scopeTlsSymbol bytes'
  scopeObjectSymbol : env.scopeObjectSymbol bytes = env.scopeObjectSymbol bytes'
  request : ∀ k, symbolRequest (p.image bytes) info k = symbolRequest (p.image bytes') info k
  sameImage : ∀ k, (resolveSameImageRelocSymbol (p.image bytes) info k).value =
    (resolveSameImageRelocSymbol (p.image bytes') info k).value

namespace SameLookups

variable {env : RelocEnv} {p : RelocProgram} {info : SymbolInfo} {bytes bytes' : CodeBytes}

theorem refl : SameLookups env p info bytes bytes :=
  ⟨rfl, rfl, rfl, rfl, fun _ => rfl, fun _ => rfl⟩

variable (h : SameLookups env p info bytes bytes')

include h

theorem tlsSymbol (k : BitVec 64) :
    resolveProcessTlsRelocSymbol env p info bytes k =
      resolveProcessTlsRelocSymbol env p info bytes' k := by
  unfold resolveProcessTlsRelocSymbol
  rw [h.request, h.scopeTlsSymbol]

theorem symbolicAddress_eq (k : BitVec 64) :
    symbolicAddress env p info bytes k = symbolicAddress env p info bytes' k := by
  unfold symbolicAddress resolveDependencyRelocSymbol
  rw [h.sameImage, h.irelative, h.request, h.scopeSymbol]

theorem relocValue_eq (k : BitVec 64) (type : BitVec 32) (addend : BitVec 64) :
    relocValue env p info bytes k type addend = relocValue env p info bytes' k type addend := by
  unfold relocValue
  rw [h.irelative, h.tlsSymbol, h.symbolicAddress_eq]

end SameLookups

/-! ## Twins -/

/-- Entries for the same target, type and symbol, with the same addend at the last word of the
target, each in its image. -/
structure Twin (p : RelocProgram) (bytes bytes' : CodeBytes) (e e' : RelocEntry) : Prop where
  offset : e'.offset = e.offset
  info : e'.info = e.info
  addend : ∀ target size, relocTarget p e = some (target, size) → ¬ e.IsCopy p →
    e.addendAt p bytes (target + (size - 8)) = e'.addendAt p bytes' (target + (size - 8))

section

variable {env : RelocEnv} {p : RelocProgram} {info : SymbolInfo} {bytes bytes' : CodeBytes}
  {e e' : RelocEntry}

section

variable (h : Twin p bytes bytes' e e')

include h

theorem Twin.symbolIndex : e'.symbolIndex = e.symbolIndex := by
  rw [RelocEntry.symbolIndex, h.info, RelocEntry.symbolIndex]

theorem Twin.type : e'.type = e.type := by
  rw [RelocEntry.type, h.info, RelocEntry.type]

theorem Twin.addend_word (hnone : e.type ≠ (relocTypes p.arch).none)
    (hcopy : ¬ e.IsCopy p) (hdesc : ¬ (e.symbolIndex ≠ 0 ∧ e.type = (relocTypes p.arch).tlsdesc))
    {target : Nat} (hoffset : p.offsetOf e.offset 8 = some target) :
    e.addendAt p bytes target = e'.addendAt p bytes' target := by
  refine h.addend target 8 ?_ hcopy
  rw [relocTarget, if_neg hnone, if_neg hdesc, hoffset]
  rfl

end

theorem copy_ne_tlsdesc (a : Abi.Arch) : (relocTypes a).copy ≠ (relocTypes a).tlsdesc := by
  cases a <;> decide

theorem Twin.addend_tlsdesc (h : Twin p bytes bytes' e e')
    (hnone : e.type ≠ (relocTypes p.arch).none)
    (hdesc : e.symbolIndex ≠ 0 ∧ e.type = (relocTypes p.arch).tlsdesc) {target : Nat}
    (hoffset : p.offsetOf e.offset 16 = some target) :
    e.addendAt p bytes (target + 8) = e'.addendAt p bytes' (target + 8) := by
  refine h.addend target 16 ?_ fun hcopy => copy_ne_tlsdesc p.arch (hcopy.2.2.symm.trans hdesc.2)
  rw [relocTarget, if_neg hnone, if_pos hdesc, hoffset]
  rfl

section

variable (hlookups : SameLookups env p info bytes bytes')

include hlookups

theorem tlsdescPatch_twin (h : Twin p bytes bytes' e e') (hnone : e.type ≠ (relocTypes p.arch).none)
    (hdesc : e.symbolIndex ≠ 0 ∧ e.type = (relocTypes p.arch).tlsdesc) :
    tlsdescPatch env p info bytes e = tlsdescPatch env p info bytes' e' := by
  unfold tlsdescPatch
  rw [h.offset, h.symbolIndex, hlookups.tlsSymbol]
  cases hoffset : p.offsetOf e.offset 16 with
  | none => simp only [Option.bind_eq_bind, Option.bind_none]
  | some target =>
    simp only [Option.bind_eq_bind, Option.bind_some, h.addend_tlsdesc hnone hdesc hoffset]

theorem copyPatch_twin (h : Twin p bytes bytes' e e') :
    copyPatch env p info bytes e = copyPatch env p info bytes' e' := by
  unfold copyPatch
  rw [h.offset, h.symbolIndex, hlookups.request, hlookups.scopeObjectSymbol]

theorem entryPatch_twin (h : Twin p bytes bytes' e e') :
    entryPatch env p info bytes e = entryPatch env p info bytes' e' := by
  unfold entryPatch
  rw [h.offset, h.symbolIndex, h.type, copyPatch_twin hlookups h]
  split
  · rfl
  rename_i hnone
  split
  · rfl
  rename_i hcopy
  cases hoffset : p.offsetOf e.offset 8 with
  | none => simp only [Option.bind_eq_bind, Option.bind_none]
  | some target =>
    rw [Option.bind_eq_bind, Option.bind_some, Option.bind_eq_bind, Option.bind_some]
    split
    · rename_i hdesc
      rw [tlsdescPatch_twin hlookups h hnone hdesc]
    · rename_i hdesc
      rw [h.addend_word hnone (fun hc => hcopy hc.2) hdesc hoffset, hlookups.relocValue_eq]

theorem pltPatch_twin (h : Twin p bytes bytes' e e') :
    pltPatch env p info bytes e = pltPatch env p info bytes' e' := by
  unfold pltPatch
  rw [h.offset, h.symbolIndex, h.type, hlookups.symbolicAddress_eq]
  split
  · rfl
  rename_i hnone
  split
  · rename_i hdesc
    rw [tlsdescPatch_twin hlookups h hnone hdesc]
  rename_i hdesc
  split
  · rfl
  rename_i hbad
  have hcopy : ¬ e.IsCopy p := fun hc =>
    hbad (.inr fun hmem => (onlySymbolic_of_mem hmem).copy hc.2.2)
  cases hoffset : p.offsetOf e.offset 8 with
  | none => simp only [Option.bind_eq_bind, Option.bind_none]
  | some target => simp only [Option.bind_eq_bind, Option.bind_some,
      h.addend_word hnone hcopy hdesc hoffset]

end

end

/-! ## Loops in lockstep -/

/-- One of the two kinds of tables: what an entry does, its patch and its target. -/
structure Relocator (p : RelocProgram) where
  entry : CodeBytes → RelocEntry → Traced RelocWrite CodeBytes
  change : CodeBytes → RelocEntry → Option (Option (Nat × List (BitVec 8)))
  target : CodeBytes → RelocEntry → Option (Nat × Nat)
  patches : ∀ {bytes e}, Patches bytes (change bytes e) (entry bytes e)
  change_target : ∀ {bytes e offset data}, change bytes e = some (some (offset, data)) →
    target bytes e = some (offset, data.length)
  skip_target : ∀ {bytes e}, change bytes e = some none → target bytes e = none
  target_reloc : ∀ {bytes e}, ¬ e.IsCopy p → target bytes e = relocTarget p e

section

variable {env : RelocEnv} {p : RelocProgram} {info : SymbolInfo} {bytes : CodeBytes}
  {e : RelocEntry}

theorem entryTarget_of_not_isCopy (h : ¬ e.IsCopy p) :
    entryTarget env p info bytes e = relocTarget p e := if_neg h

theorem entryPatch_skip (h : entryPatch env p info bytes e = some none) :
    entryTarget env p info bytes e = none := by
  unfold entryPatch at h
  split at h
  · rename_i hnone
    rw [entryTarget_of_not_isCopy fun hc => hc.1 hnone, relocTarget, if_pos hnone]
  split at h
  · obtain ⟨change, -, heq⟩ := Option.map_eq_some_iff.mp h
    cases heq
  obtain ⟨target, -, h⟩ := Option.bind_eq_some_iff.mp h
  split at h
  · obtain ⟨change, -, heq⟩ := Option.map_eq_some_iff.mp h
    cases heq
  · obtain ⟨value, -, heq⟩ := Option.bind_eq_some_iff.mp h
    cases heq

theorem pltPatch_skip (h : pltPatch env p info bytes e = some none) : relocTarget p e = none := by
  unfold pltPatch at h
  split at h
  · rename_i hnone
    rw [relocTarget, if_pos hnone]
  split at h
  · obtain ⟨change, -, heq⟩ := Option.map_eq_some_iff.mp h
    cases heq
  split at h
  · cases h
  obtain ⟨address, -, h⟩ := Option.bind_eq_some_iff.mp h
  obtain ⟨target, -, heq⟩ := Option.bind_eq_some_iff.mp h
  cases heq

end

def mainRelocator (env : RelocEnv) (p : RelocProgram) (info : SymbolInfo) : Relocator p where
  entry := relocEntry env p info
  change := entryPatch env p info
  target := entryTarget env p info
  patches := relocEntry_patches
  change_target := entryPatch_target
  skip_target := entryPatch_skip
  target_reloc := entryTarget_of_not_isCopy

def pltRelocator (env : RelocEnv) (p : RelocProgram) (info : SymbolInfo) : Relocator p where
  entry := pltEntry env p info
  change := pltPatch env p info
  target _ := relocTarget p
  patches := pltEntry_patches
  change_target := pltPatch_target
  skip_target := pltPatch_skip
  target_reloc _ := rfl

def DifferWithin (bytes bytes' c c' : CodeBytes) : Prop := ∀ i, c i ≠ c' i → bytes i ≠ bytes' i

def SameOn (S : Nat → Prop) (bytes bytes' : CodeBytes) : Prop := ∀ i, S i → bytes' i = bytes i

section

variable {p : RelocProgram} (r : Relocator p) (S : Nat → Prop) (bytes : CodeBytes)

def EntryByte (e : RelocEntry) (i : Nat) : Prop :=
  ∃ x, SameOn S bytes x ∧ ∃ target size, r.target x e = some (target, size) ∧ target ≤ i ∧
    i < target + size

/-- A byte of the target of an entry, in every image with the same tables. -/
def SureByte (e : RelocEntry) (i : Nat) : Prop :=
  ∀ x, SameOn S bytes x → ∃ target size, r.target x e = some (target, size) ∧ target ≤ i ∧
    i < target + size

/-- Two tables with the same entries, and no target in a table or in another target. -/
structure TwinTables (bytes' : CodeBytes) (R R' : Nat → RelocEntry) (count : Nat) : Prop where
  twin : ∀ n < count, Twin p bytes bytes' (R n) (R' n)
  tables : ∀ n < count, ∀ i, EntryByte r S bytes (R n) i → ¬ S i
  apart : ∀ m < count, ∀ n < count, m ≠ n → ∀ i,
    EntryByte r S bytes (R m) i → ¬ EntryByte r S bytes (R n) i

structure Lockstep (bytes' : CodeBytes) (R : Nat → RelocEntry) (count : Nat) (ns : List Nat)
    (c c' : CodeBytes) : Prop where
  lt : ∀ n ∈ ns, n < count
  nodup : ns.Nodup
  same : SameOn S bytes c
  same' : SameOn S bytes' c'
  words : ∀ n ∈ ns, ∀ i, EntryByte r S bytes (R n) i → c i = bytes i
  differ : ∀ i, c i ≠ c' i → bytes i ≠ bytes' i ∧
    ∀ n < count, n ∉ ns → ¬ SureByte r S bytes (R n) i

variable {r S bytes} {bytes' c c' : CodeBytes} {R R' : Nat → RelocEntry} {count n : Nat}
  {ns : List Nat}

theorem addendAt_of_none {e : RelocEntry} (h : e.addend = none) (x : CodeBytes) (t : Nat) :
    e.addendAt p x t = (p.image x).u64 t := by
  rw [RelocEntry.addendAt, h, Option.getD_none]

theorem addendAt_of_ne_none {e : RelocEntry} (h : e.addend ≠ none) (x y : CodeBytes) (t : Nat) :
    e.addendAt p x t = e.addendAt p y t := by
  obtain ⟨a, ha⟩ := Option.ne_none_iff_exists'.mp h
  rw [RelocEntry.addendAt, RelocEntry.addendAt, ha, Option.getD_some, Option.getD_some]

theorem Lockstep.twin (haddend : ∀ n, (R n).addend = none) (haddend' : ∀ n, (R' n).addend ≠ none)
    (htables : TwinTables r S bytes bytes' R R' count)
    (h : Lockstep r S bytes bytes' R count ns c c') (hn : n ∈ ns) : Twin p c c' (R n) (R' n) := by
  obtain ⟨hoffset, hinfo, hword⟩ := htables.twin n (h.lt n hn)
  refine ⟨hoffset, hinfo, fun target size htarget hcopy => ?_⟩
  have hsize : 8 ≤ size := by
    unfold relocTarget at htarget
    split at htarget
    · cases htarget
    split at htarget
    all_goals
      obtain ⟨offset, -, heq⟩ := Option.map_eq_some_iff.mp htarget
      cases heq
      decide
  have hkept : (p.image c).u64 (target + (size - 8)) =
      (p.image bytes).u64 (target + (size - 8)) := by
    refine u64_congr fun k hk => h.words n hn _ ⟨bytes, fun _ _ => rfl, target, size, ?_⟩
    exact ⟨(r.target_reloc hcopy).trans htarget, by omega, by omega⟩
  rw [addendAt_of_none (haddend n), hkept, addendAt_of_ne_none (haddend' n) c' bytes',
    ← addendAt_of_none (haddend n)]
  exact hword target size htarget hcopy

theorem Lockstep.patch (htables : TwinTables r S bytes bytes' R R' count)
    (h : Lockstep r S bytes bytes' R count (n :: ns) c c') {offset : Nat} {data : List (BitVec 8)}
    (htarget : r.target c (R n) = some (offset, data.length)) :
    Lockstep r S bytes bytes' R count ns (patch c offset data) (patch c' offset data) := by
  obtain ⟨hn, hlt⟩ := List.forall_mem_cons.mp h.lt
  obtain ⟨hnot, hnodup⟩ := List.nodup_cons.mp h.nodup
  have hbyte : ∀ i, ¬ (i < offset ∨ offset + data.length ≤ i) → EntryByte r S bytes (R n) i :=
    fun i hi => ⟨c, h.same, offset, data.length, htarget, by omega, by omega⟩
  have hout : ∀ i, ¬ EntryByte r S bytes (R n) i → i < offset ∨ offset + data.length ≤ i :=
    fun i hi => by_contra fun hin => hi (hbyte i hin)
  refine ⟨hlt, hnodup, fun i hi => ?_, fun i hi => ?_, fun m hm i hi => ?_, fun i hi => ?_⟩
  · rw [patch_outside (hout i fun hb => htables.tables n hn i hb hi), h.same i hi]
  · rw [patch_outside (hout i fun hb => htables.tables n hn i hb hi), h.same' i hi]
  · have hne : m ≠ n := fun heq => hnot (heq ▸ hm)
    rw [patch_outside (hout i (htables.apart m (hlt m hm) n hn hne i hi)),
      h.words m (List.mem_cons_of_mem _ hm) i hi]
  · have hoff : i < offset ∨ offset + data.length ≤ i := by
      by_contra hin
      exact hi (patch_congr fun ho => absurd ho hin)
    rw [patch_outside hoff, patch_outside hoff] at hi
    obtain ⟨hdiff, hwritten⟩ := h.differ i hi
    refine ⟨hdiff, fun m hm hmem hsure => ?_⟩
    by_cases hmn : m = n
    · subst hmn
      obtain ⟨target, size, heq, hlow, hhigh⟩ := hsure c h.same
      cases htarget.symm.trans heq
      omega
    · exact hwritten m hm (fun hin => (List.mem_cons.mp hin).elim hmn hmem) hsure

theorem Lockstep.skip (h : Lockstep r S bytes bytes' R count (n :: ns) c c')
    (htarget : r.target c (R n) = none) : Lockstep r S bytes bytes' R count ns c c' := by
  refine ⟨(List.forall_mem_cons.mp h.lt).2, (List.nodup_cons.mp h.nodup).2, h.same, h.same',
    fun m hm => h.words m (List.mem_cons_of_mem _ hm), fun i hi => ?_⟩
  obtain ⟨hdiff, hwritten⟩ := h.differ i hi
  refine ⟨hdiff, fun m hm hmem hsure => ?_⟩
  by_cases hmn : m = n
  · subst hmn
    obtain ⟨target, size, heq, -⟩ := hsure c h.same
    cases htarget.symm.trans heq
  · exact hwritten m hm (fun hin => (List.mem_cons.mp hin).elim hmn hmem) hsure

def SameChanges (r : Relocator p) (S : Nat → Prop) (bytes bytes' : CodeBytes) : Prop :=
  ∀ c c', SameOn S bytes c → DifferWithin bytes bytes' c c' → ∀ e e', Twin p c c' e e' →
    r.change c e = r.change c' e'

theorem Lockstep.step (haddend : ∀ n, (R n).addend = none) (haddend' : ∀ n, (R' n).addend ≠ none)
    (htables : TwinTables r S bytes bytes' R R' count) (hchange : SameChanges r S bytes bytes')
    (h : Lockstep r S bytes bytes' R count (n :: ns) c c') :
    Option.Rel (Lockstep r S bytes bytes' R count ns) (r.entry c (R n)).value
      (r.entry c' (R' n)).value := by
  have hsame := hchange c c' h.same (fun i hi => (h.differ i hi).1) _ _
    (h.twin haddend haddend' htables List.mem_cons_self)
  rw [r.patches, r.patches, ← hsame]
  cases hc : r.change c (R n) with
  | none => exact .none
  | some change =>
    cases change with
    | none => exact .some (h.skip (r.skip_target hc))
    | some change => exact .some (h.patch htables (r.change_target hc))

/-- The images after both tables differ only where they did before and no entry has its target. -/
def SameAfter (r : Relocator p) (S : Nat → Prop) (bytes bytes' : CodeBytes) (R : Nat → RelocEntry)
    (count : Nat) (d d' : CodeBytes) : Prop :=
  ∀ i, d i ≠ d' i → bytes i ≠ bytes' i ∧ ∀ n < count, ¬ SureByte r S bytes (R n) i

theorem entries_agree {read read' : CodeBytes → Nat → RelocEntry}
    (hread : ∀ x, SameOn S bytes x → ∀ n < count, read x n = R n)
    (hread' : ∀ x, SameOn S bytes' x → ∀ n < count, read' x n = R' n)
    (haddend : ∀ n, (R n).addend = none) (haddend' : ∀ n, (R' n).addend ≠ none)
    (htables : TwinTables r S bytes bytes' R R' count) (hchange : SameChanges r S bytes bytes') :
    Option.Rel (SameAfter r S bytes bytes' R count)
      ((List.range count).foldlM (fun x n => r.entry x (read x n)) bytes).value
      ((List.range count).foldlM (fun x n => r.entry x (read' x n)) bytes').value := by
  have hstart : Lockstep r S bytes bytes' R count (List.range count) bytes bytes' := by
    refine ⟨fun n hn => List.mem_range.mp hn, List.nodup_range, fun _ _ => rfl, fun _ _ => rfl,
      fun _ _ _ _ => rfl, fun i hi => ⟨hi, fun n hn hno => ?_⟩⟩
    exact absurd (List.mem_range.mpr hn) hno
  refine Traced.foldlM_lockstep (fun n ns c c' h => ?_) (fun d d' h i hi => ?_) hstart
  · have hn := h.lt n List.mem_cons_self
    rw [hread c h.same n hn, hread' c' h.same' n hn]
    exact h.step haddend haddend' htables hchange
  · obtain ⟨hdiff, hwritten⟩ := h.differ i hi
    exact ⟨hdiff, fun n hn => hwritten n hn List.not_mem_nil⟩

theorem SameAfter.eq {v v' : Option CodeBytes}
    (h : Option.Rel (SameAfter r S bytes bytes R count) v v') : v = v' := by
  cases h with
  | none => rfl
  | some h =>
    congr 1
    funext i
    by_contra hne
    exact (h i hne).1 rfl

end

/-! ## Tables -/

section

variable {env : RelocEnv} {p : RelocProgram} {info : SymbolInfo} {bytes bytes' : CodeBytes}
  {vaddr size : BitVec 64} {offset count : Nat}

theorem TableAt.count_eq_zero {entrySize : Nat} (h : TableAt p vaddr size offset entrySize count)
    (hzero : size = 0) (hpos : 0 < entrySize) : count = 0 := by
  have hmul : count * entrySize = 0 := by rw [← h.size, hzero]; rfl
  exact (Nat.mul_eq_zero.mp hmul).resolve_right (by omega)

theorem relocTable_of_tableAt (withAddend : Bool) {entrySize : BitVec 64}
    (h : TableAt p vaddr size offset entrySize.toNat count)
    (hsize : relocEntrySize withAddend ≤ entrySize.toNat) :
    relocTable env p info withAddend vaddr size entrySize bytes =
      relocEntries p (relocEntry env p info) withAddend offset entrySize.toNat count bytes := by
  have hpos : 0 < relocEntrySize withAddend := by cases withAddend <;> decide
  unfold relocTable
  by_cases hzero : size = 0
  · rw [if_pos (.inr hzero), h.count_eq_zero hzero (by omega)]
    rfl
  have hmod : size.toNat % entrySize.toNat = 0 := by rw [h.size, Nat.mul_mod_left]
  rw [if_neg (not_or.mpr ⟨h.vaddr_ne, hzero⟩), if_neg (by omega),
    RelocProgram.elfVaddrToImageOffset_eq, h.offsetOf, h.size, Nat.mul_div_cancel _ (by omega)]
  rw [Traced.ofOption_some, pure_bind]

theorem pltTable_of_tableAt (withAddend : Bool)
    (h : TableAt p vaddr size offset (relocEntrySize withAddend) count) :
    pltTable env p info vaddr size (if withAddend then dtRela else dtRel) bytes =
      relocEntries p (pltEntry env p info) withAddend offset (relocEntrySize withAddend) count
        bytes := by
  have hpos : 0 < relocEntrySize withAddend := by cases withAddend <;> decide
  have hformat : decide ((if withAddend then dtRela else dtRel) = dtRela) = withAddend := by
    cases withAddend <;> decide
  have hknown : ¬ ((if withAddend then dtRela else dtRel) ≠ dtRela ∧
      (if withAddend then dtRela else dtRel) ≠ dtRel) := by
    cases withAddend <;> decide
  unfold pltTable
  by_cases hzero : size = 0
  · rw [if_pos hzero, h.count_eq_zero hzero hpos]
    rfl
  have hmod : size.toNat % relocEntrySize withAddend = 0 := by rw [h.size, Nat.mul_mod_left]
  rw [if_neg hzero, if_neg (not_or.mpr ⟨h.vaddr_ne, hknown⟩)]
  dsimp only
  rw [hformat, if_neg (not_not.mpr hmod), RelocProgram.elfVaddrToImageOffset_eq, h.offsetOf, h.size,
    Nat.mul_div_cancel _ hpos, Traced.ofOption_some, pure_bind]

end

def DynTable.HasByte (p : RelocProgram) (table : DynTable) (i : Nat) : Prop :=
  ∃ offset, p.offsetOf table.vaddr table.size = some offset ∧ offset ≤ i ∧
    i < offset + table.size.toNat

section

variable {p : RelocProgram} {bytes bytes' : CodeBytes} {offset : Nat} {withAddend : Bool}

theorem readRelocEntry_congr
    (h : ∀ k < relocEntrySize withAddend, bytes' (offset + k) = bytes (offset + k)) :
    readRelocEntry p bytes' withAddend offset = readRelocEntry p bytes withAddend offset := by
  have hword : ∀ k, k + 8 ≤ relocEntrySize withAddend →
      (p.image bytes').u64 (offset + k) = (p.image bytes).u64 (offset + k) := by
    intro k hk
    refine u64_congr fun j hj => ?_
    rw [Nat.add_assoc]
    exact h (k + j) (by omega)
  have hoffset := hword 0
  have hinfo := hword 8
  have haddend := hword 16
  unfold readRelocEntry
  cases withAddend with
  | false => simp_all [relocEntrySize]
  | true => simp_all [relocEntrySize]

theorem readRelocEntry_of_same {table : DynTable} {count n : Nat}
    (htable : TableAt p table.vaddr table.size offset table.entrySize.toNat count)
    (hsize : relocEntrySize withAddend ≤ table.entrySize.toNat) (hn : n < count)
    (hsame : ∀ i, table.HasByte p i → bytes' i = bytes i) :
    readRelocEntry p bytes' withAddend (offset + n * table.entrySize.toNat) =
      readRelocEntry p bytes withAddend (offset + n * table.entrySize.toNat) := by
  have hlast : (n + 1) * table.entrySize.toNat ≤ count * table.entrySize.toNat :=
    Nat.mul_le_mul_right _ hn
  rw [Nat.succ_mul] at hlast
  exact readRelocEntry_congr fun k hk =>
    hsame _ ⟨offset, htable.offsetOf, by omega, by rw [htable.size]; omega⟩

end

/-- A table of `DT_REL` does the same as that of `DT_RELA` with the words at the targets as addends.
The bytes `S` contain the tables, and no target. -/
theorem rel_agrees_with_rela (env : RelocEnv) (p : RelocProgram) (info : SymbolInfo)
    (S : Nat → Prop) (bytes bytes' : CodeBytes) (rel rela : DynTable) (offset offset' count : Nat)
    (hrel : TableAt p rel.vaddr rel.size offset rel.entrySize.toNat count)
    (hrelSize : 16 ≤ rel.entrySize.toNat)
    (hrela : TableAt p rela.vaddr rela.size offset' rela.entrySize.toNat count)
    (hrelaSize : 24 ≤ rela.entrySize.toNat)
    (hS : ∀ i, rel.HasByte p i ∨ rela.HasByte p i → S i)
    (hlookups : ∀ c c', SameOn S bytes c → DifferWithin bytes bytes' c c' →
      SameLookups env p info c c') :
    let R n := (readRel p bytes (offset + n * rel.entrySize.toNat)).entry
    let R' n := (readRela p bytes' (offset' + n * rela.entrySize.toNat)).entry
    let main := mainRelocator env p info
    let plt := pltRelocator env p info
    (TwinTables main S bytes bytes' R R' count →
      let v := (relTable env p info rel.vaddr rel.size rel.entrySize bytes).value
      let v' := (relaTable env p info rela.vaddr rela.size rela.entrySize bytes').value
      Option.Rel (SameAfter main S bytes bytes' R count) v v' ∧ (bytes = bytes' → v = v')) ∧
    (rel.entrySize = 16 → rela.entrySize = 24 → TwinTables plt S bytes bytes' R R' count →
      let v := (pltRelTable env p info rel.vaddr rel.size bytes).value
      let v' := (pltRelaTable env p info rela.vaddr rela.size bytes').value
      Option.Rel (SameAfter plt S bytes bytes' R count) v v' ∧ (bytes = bytes' → v = v')) := by
  intro R R' main plt
  have hread : ∀ x, SameOn S bytes x → ∀ n < count,
      readRelocEntry p x false (offset + n * rel.entrySize.toNat) = R n := fun x hx n hn =>
    readRelocEntry_of_same hrel hrelSize hn fun i hi => hx i (hS i (.inl hi))
  have hread' : ∀ x, SameOn S bytes' x → ∀ n < count,
      readRelocEntry p x true (offset' + n * rela.entrySize.toNat) = R' n := fun x hx n hn =>
    readRelocEntry_of_same hrela hrelaSize hn fun i hi => hx i (hS i (.inr hi))
  have haddend : ∀ n, (R n).addend = none := fun _ => rfl
  have haddend' : ∀ n, (R' n).addend ≠ none := fun _ => Option.some_ne_none _
  constructor
  · intro htables v v'
    have hagree : Option.Rel (SameAfter main S bytes bytes' R count) v v' := by
      simp only [v, v', relTable_eq, relaTable_eq, relocTable_of_tableAt false hrel hrelSize,
        relocTable_of_tableAt true hrela hrelaSize]
      exact entries_agree hread hread' haddend haddend' htables
        fun c c' hc hdiff e e' htwin => entryPatch_twin (hlookups c c' hc hdiff) htwin
    exact ⟨hagree, fun heq => SameAfter.eq (heq ▸ hagree)⟩
  · intro hsize hsize' htables v v'
    have hagree : Option.Rel (SameAfter plt S bytes bytes' R count) v v' := by
      rw [hsize] at hrel hread
      rw [hsize'] at hrela hread'
      simp only [v, v', pltRelTable_eq, pltRelaTable_eq]
      rw [show dtRel = if false then dtRela else dtRel from rfl, pltTable_of_tableAt false hrel,
        show dtRela = if true then dtRela else dtRel from rfl, pltTable_of_tableAt true hrela]
      exact entries_agree hread hread' haddend haddend' htables
        fun c c' hc hdiff e e' htwin => pltPatch_twin (hlookups c c' hc hdiff) htwin
    exact ⟨hagree, fun heq => SameAfter.eq (heq ▸ hagree)⟩

section

/-- The image of `symbolImage`, with the addend also at the target. -/
def addendImage : CodeBytes := patch (symbolImage 1) 0x68 (Hw.toBytes 8 (4 : BitVec 64))

def symbolRel : DynTable := ⟨0x1050, 16, 16⟩

def symbolRela : DynTable := ⟨0x1050, 24, 24⟩

theorem symbolRela_hasByte {i : Nat}
    (h : symbolRel.HasByte symbolProgram i ∨ symbolRela.HasByte symbolProgram i) : i < 0x68 := by
  rcases h with ⟨offset, hoffset, hlow, hhigh⟩ | ⟨offset, hoffset, hlow, hhigh⟩
  all_goals
    have hfixed : symbolProgram.offsetOf 0x1050 16 = some 0x50 ∧
      symbolProgram.offsetOf 0x1050 24 = some 0x50 := by decide +kernel
  · cases hfixed.1.symm.trans hoffset
    exact Nat.lt_of_lt_of_le hhigh (by decide)
  · cases hfixed.2.symm.trans hoffset
    exact hhigh

theorem twinTables_symbol {r : Relocator symbolProgram} :
    TwinTables r (· < 0x68) addendImage addendImage
      (fun n => (readRel symbolProgram addendImage (0x50 + n * 16)).entry)
      (fun n => (readRela symbolProgram addendImage (0x50 + n * 24)).entry) 1 := by
  have hrel : readRel symbolProgram addendImage (0x50 + 0 * 16) = ⟨0x1068, 0x100000001⟩ := by
    decide +kernel
  have hrela : readRela symbolProgram addendImage (0x50 + 0 * 24) =
      ⟨⟨0x1068, 0x100000001⟩, 4⟩ := by
    decide +kernel
  have htarget : relocTarget symbolProgram (Rel.entry ⟨0x1068, 0x100000001⟩) = some (0x68, 8) := by
    decide +kernel
  have hcopy : ¬ (Rel.entry ⟨0x1068, 0x100000001⟩).IsCopy symbolProgram := by decide
  refine ⟨fun n hn => ?_, fun n hn i hi hlt => ?_, fun m hm n hn hne => absurd (by omega) hne⟩
  all_goals obtain rfl : n = 0 := by omega
  · refine ⟨rfl, rfl, fun target size h _ => ?_⟩
    cases htarget.symm.trans h
    decide +kernel
  · rw [hrel] at hi
    obtain ⟨x, -, target, size, h, hlow, -⟩ := hi
    rw [r.target_reloc hcopy] at h
    cases htarget.symm.trans h
    omega

/-- A word with the address of a symbol. -/
theorem rel_agrees_with_rela_symbol :
    let info := (symbolProgram.image addendImage).info
    let v := (relTable emptyEnv symbolProgram info 0x1050 16 16 addendImage).value
    v = (relaTable emptyEnv symbolProgram info 0x1050 24 24 addendImage).value ∧
      (pltRelTable emptyEnv symbolProgram info 0x1050 16 addendImage).value =
        (pltRelaTable emptyEnv symbolProgram info 0x1050 24 addendImage).value ∧
      (v.map fun bytes => (symbolProgram.image bytes).u64 0x68) = some 0x400074 := by
  have h := rel_agrees_with_rela emptyEnv symbolProgram (symbolProgram.image addendImage).info
    (· < 0x68) addendImage addendImage symbolRel symbolRela 0x50 0x50 1
    ⟨by decide, by decide +kernel, rfl⟩ (by decide) ⟨by decide, by decide +kernel, rfl⟩ (by decide)
    (fun i hi => symbolRela_hasByte hi)
    (fun c c' _ hdiff => by
      have heq : c = c' := funext fun i => by_contra fun hne => hdiff i hne rfl
      exact heq ▸ .refl)
  exact ⟨(h.1 twinTables_symbol).2 rfl, (h.2 rfl rfl twinTables_symbol).2 rfl, by decide +kernel⟩

end

end Poly.Polyexec
