import Armd64.Polyexec.ElfSymbols
import Mathlib.Data.Nat.Find

/-!
# Symbol lookups and the bounds of the image

A lookup checks the size of the whole symbol table, a 64-bit product, before it reads a record, and
the start of a name before it compares it. The product can wrap for a `DT_HASH` table, and a name
need not end in the string table.
-/

namespace Poly.Polyexec

open SymRead

open Hw (Traced)

/-! ## Bounds -/

/-- The record is in the image; the byte is in the string table that the dynamic table declares. -/
def SymRead.InBounds (img : Image) : SymRead → Prop
  | .record offset => offset + symSize ≤ img.codeSize
  | .name offset =>
    img.info.strtabVaddr.toNat ≤ img.baseVaddr.toNat + offset ∧
      img.baseVaddr.toNat + offset < img.info.strtabVaddr.toNat + img.info.strsz.toNat

/-- All lookups of symbols in the image, of any index and of any name, read in bounds. -/
structure LookupsInBounds (img : Image) : Prop where
  sameImage : ∀ index, (resolveSameImageRelocSymbol img img.info index).All (·.InBounds img)
  nameByIndex : ∀ index, (dynamicSymbolNameByIndex img img.info index).All (·.InBounds img)
  byIndex : ∀ index, (dynamicSymbolByIndex img img.info index).All (·.InBounds img)
  byName : ∀ q, (resolveLoadedProgramSymbolEx img q).All (·.InBounds img)

/-- The size of the symbol table is `2 ^ 64` or more, and its lower 64 bits pass the check. -/
def SizeWraps (img : Image) : Prop :=
  img.info.symtabVaddr ≠ 0 ∧ ∃ count, dynamicSymbolCountFromHash img img.info = some count ∧
    2 ^ 64 ≤ count * img.info.syment.toNat ∧ (symtabOffsetOf img img.info count).isSome

def Terminated (img : Image) (offset : Nat) : Prop :=
  ∃ k, img.byte (offset + k) = 0 ∧ (SymRead.name (offset + k)).InBounds img

def SymbolTables.sym (t : SymbolTables) (img : Image) (index : Nat) : ElfSym :=
  img.sym (recordOffset img.info t.symtabOffset index)

def SymbolTables.compares (t : SymbolTables) (img : Image) (index : Nat) : Bool :=
  decide ((t.sym img index).stName.toNat < img.info.strsz.toNat) &&
    symbolIsDependencyExport (t.sym img index)

def SymbolTables.nameOffset (t : SymbolTables) (img : Image) (index : Nat) : Nat :=
  t.strtabOffset + (t.sym img index).stName.toNat

/-- The names of the exported symbols, and those of their versions, end in the string table. -/
def NamesTerminated (img : Image) : Prop :=
  ∀ t, symbolTables img img.info = some t → ∀ index < t.count, t.compares img index = true →
    Terminated img (t.nameOffset img index) ∧
      ∀ offset, definedVersion img img.info index = some offset → Terminated img offset

/-! ## Records -/

section

variable {img : Image}

variable {info : SymbolInfo} {count : Nat}

theorem count_le (h : dynamicSymbolCountFromHash img info = some count) :
    0 < count ∧ count ≤ 4096 := by
  have hchecked {n : Nat} (hn : (if n ≠ 0 ∧ n ≤ 4096 then some n else none) = some count) :
      0 < count ∧ count ≤ 4096 := by
    split at hn
    · cases hn
      omega
    · cases hn
  rw [dynamicSymbolCountFromHash] at h
  split at h
  · obtain ⟨offset, -, h⟩ := Option.bind_eq_some_iff.mp h
    exact hchecked h
  · split at h
    · cases h
    · obtain ⟨n, -, h⟩ := Option.bind_eq_some_iff.mp h
      exact hchecked h

theorem record_inBounds {offset index : Nat} (hsize : symSize ≤ info.syment.toNat)
    (hoffset : symtabOffsetOf img info count = some offset)
    (hwrap : count * info.syment.toNat < 2 ^ 64) (hindex : index < count) :
    recordOffset info offset index + symSize ≤ img.codeSize := by
  obtain ⟨-, hle⟩ := elfVaddrToImageOffset_eq_some hoffset
  have hproduct : (BitVec.ofNat 64 count * info.syment).toNat = count * info.syment.toNat := by
    rw [BitVec.toNat_mul, BitVec.toNat_ofNat, Nat.mod_mul_mod, Nat.mod_eq_of_lt hwrap]
  have hnext : (index + 1) * info.syment.toNat ≤ count * info.syment.toNat :=
    Nat.mul_le_mul_right _ hindex
  have hmax := img.codeSize_le
  rw [Nat.succ_mul] at hnext
  rw [maxProgramBytes] at hmax
  rw [recordOffset, Nat.mod_eq_of_lt (by omega)]
  omega

/-- If the product wraps and passes the check, the second record is far outside: a stride that comes
back would leave a product close to `2 ^ 64`. -/
theorem record_one_outside {offset : Nat} (hcount : count ≤ 4096)
    (hoffset : symtabOffsetOf img info count = some offset)
    (hwrap : 2 ^ 64 ≤ count * info.syment.toNat) :
    1 < count ∧ img.codeSize < recordOffset info offset 1 + symSize := by
  obtain ⟨-, hle⟩ := elfVaddrToImageOffset_eq_some hoffset
  have hmax := img.codeSize_le
  have hlt := info.syment.isLt
  rw [maxProgramBytes] at hmax
  rw [BitVec.toNat_mul, BitVec.toNat_ofNat, Nat.mod_mul_mod] at hle
  rw [recordOffset, Nat.one_mul]
  generalize info.syment.toNat = stride at hle hlt hwrap ⊢
  have hstride : 2 ^ 52 ≤ stride := by
    have hmul : count * stride ≤ 4096 * stride := Nat.mul_le_mul_right _ hcount
    omega
  have hone : 1 < count := by
    by_contra hno
    have hmul : count * stride ≤ 1 * stride := Nat.mul_le_mul_right _ (Nat.le_of_not_lt hno)
    omega
  refine ⟨hone, ?_⟩
  by_cases hback : offset + stride < 2 ^ 64
  · omega
  · obtain ⟨back, hback⟩ : ∃ back, stride + back = 2 ^ 64 := ⟨2 ^ 64 - stride, by omega⟩
    have hmul : count * back ≤ 4096 * back := Nat.mul_le_mul_right _ hcount
    have hpos : 1 * back ≤ count * back := Nat.mul_le_mul_right _ (Nat.le_of_lt hone)
    have hproduct : count * stride = (2 ^ 64 - count * back) + 2 ^ 64 * (count - 1) := by
      have hsum : count * stride + count * back = count * 2 ^ 64 := by rw [← Nat.mul_add, hback]
      omega
    omega

end

/-! ## Names -/

section

variable {img : Image}

variable {k : Nat} {s : List (BitVec 8)} {offset : Nat}

/-- The comparison ends at the byte `n`: those before it agree and are not zero. -/
structure StrcmpEnds (img : Image) (offset : Nat) (s : List (BitVec 8)) (n : Nat) : Prop where
  agree : ∀ j < n, s[j]? = some (img.byte (offset + j)) ∧ img.byte (offset + j) ≠ 0
  stop : s[n]? = some (img.byte (offset + n)) → img.byte (offset + n) = 0
  all : ∀ P, (strcmpAt img offset s).All P ↔ ∀ j < n + 1, P (.name (offset + j))
  value : (strcmpAt img offset s).value = some (img.byte (offset + n) == s.getD n 0)

theorem strcmpAt_ends (img : Image) (offset : Nat) (s : List (BitVec 8)) :
    ∃ n, StrcmpEnds img offset s n := by
  induction s generalizing offset with
  | nil => exact ⟨0, by simp, by simp, fun P => by simp [strcmpAt], rfl⟩
  | cons c s ih =>
    have hbind : strcmpAt img offset (c :: s) = ⟨.name offset :: _, _⟩ := Traced.bind_some rfl
    by_cases hc : img.byte offset = c ∧ c ≠ 0
    · obtain ⟨n, hagree, hstop, hall, hvalue⟩ := ih (offset + 1)
      rw [if_pos hc] at hbind
      have hnext : ∀ j, offset + 1 + j = offset + (j + 1) := fun j => by omega
      simp only [hnext] at hagree hstop hall hvalue
      refine ⟨n + 1, fun j hj => ?_, hstop, fun P => ?_, by rw [hbind]; exact hvalue⟩
      · cases j with
        | zero => exact ⟨by simp [hc.1], hc.1 ▸ hc.2⟩
        | succ j => exact hagree j (Nat.lt_of_succ_lt_succ hj)
      · rw [hbind, Nat.forall_lt_succ_left]
        exact List.forall_mem_cons.trans (and_congr_right fun _ => hall P)
    · rw [if_neg hc] at hbind
      refine ⟨0, by simp, fun h => ?_, fun P => ?_, by rw [hbind]; rfl⟩
      · by_contra hne
        exact hc ⟨(Option.some.inj h).symm, Option.some.inj h ▸ hne⟩
      · rw [hbind, Nat.forall_lt_succ_left]
        exact List.forall_mem_cons.trans (and_congr_right fun _ => by simp [pure, Traced.ret])

theorem StrcmpEnds.le {n : Nat} (hn : StrcmpEnds img offset s n)
    (h : img.byte (offset + k) = 0) : n ≤ k :=
  Nat.le_of_not_lt fun hlt => (hn.agree k hlt).2 h

theorem strcmpAt_self (h : img.byte (offset + k) = 0) (hne : ∀ j < k, img.byte (offset + j) ≠ 0) :
    (strcmpAt img offset ((List.range k).map fun j => img.byte (offset + j))).value = some true := by
  obtain ⟨n, hn⟩ := strcmpAt_ends img offset ((List.range k).map fun j => img.byte (offset + j))
  obtain rfl : n = k := by
    refine Nat.le_antisymm (hn.le h) (Nat.le_of_not_lt fun hlt => hne n hlt (hn.stop ?_))
    simp [hlt]
  rw [hn.value, h]
  simp

end

/-! ## Lookups -/

section

variable {img : Image} {P : SymRead → Prop}

theorem resolvedSymbol_all (sym : ElfSym) (wantsIfunc : Bool) :
    (resolvedSymbol img sym wantsIfunc).All P := by
  rw [resolvedSymbol]
  repeat' split
  all_goals simp

variable {index i : Nat} {q : SymbolQuery} {t : SymbolTables} {rest : List Nat}

theorem matchesVersion_all {requested : Option (List (BitVec 8))}
    (h : ∀ offset s, definedVersion img img.info index = some offset →
      (strcmpAt img offset s).All P) :
    (symbolDefinitionMatchesVersion img img.info index requested).All P := by
  cases requested with
  | none => exact Traced.all_pure
  | some requested =>
    rw [symbolDefinitionMatchesVersion]
    split
    · exact Traced.all_pure
    · exact h _ _ ‹_›

theorem resolveAmong_cons :
    (resolveAmong img img.info q t.symtabOffset t.strtabOffset (index :: rest)).All P ↔
      P (.record (recordOffset img.info t.symtabOffset index)) ∧
      if t.compares img index then
        (strcmpAt img (t.nameOffset img index) q.name).All P ∧
        ∀ same, (strcmpAt img (t.nameOffset img index) q.name).value = some same →
          if same then
            (symbolDefinitionMatchesVersion img img.info index q.version).All P ∧
            ∀ ok, (symbolDefinitionMatchesVersion img img.info index q.version).value = some ok →
              ok = false →
                (resolveAmong img img.info q t.symtabOffset t.strtabOffset rest).All P
          else (resolveAmong img img.info q t.symtabOffset t.strtabOffset rest).All P
      else (resolveAmong img img.info q t.symtabOffset t.strtabOffset rest).All P := by
  rw [resolveAmong, Traced.all_bind, readSym, Traced.all_emit]
  refine and_congr_right fun _ => ?_
  have hvalue : (Traced.emit (record (recordOffset img.info t.symtabOffset index))
      (img.sym (recordOffset img.info t.symtabOffset index))).value = some (t.sym img index) := rfl
  rw [hvalue]
  simp only [Option.some.injEq, forall_eq']
  have hcompares : t.compares img index = true ↔
      ¬(img.info.strsz.toNat ≤ (t.sym img index).stName.toNat ∨
        (!symbolIsDependencyExport (t.sym img index)) = true) := by
    rw [SymbolTables.compares, Bool.and_eq_true, decide_eq_true_eq, not_or, Nat.not_le,
      Bool.not_eq_true', Bool.not_eq_false]
  by_cases hc : t.compares img index = true
  · rw [if_pos hc, if_neg (hcompares.mp hc), Traced.all_bind]
    refine and_congr_right fun _ => forall_congr' fun same => forall_congr' fun _ => ?_
    cases same with
    | false => exact Iff.rfl
    | true =>
      show (Traced.All P (_ >>= _)) ↔ _
      rw [Traced.all_bind, if_pos rfl]
      refine and_congr_right fun _ => forall_congr' fun ok => forall_congr' fun _ => ?_
      cases ok with
      | false => exact ⟨fun h _ => h, fun h => h rfl⟩
      | true =>
        exact ⟨fun _ h => absurd h.symm Bool.false_ne_true, fun _ => resolvedSymbol_all _ _⟩
  · rw [if_neg hc, if_pos (not_not.mp fun h => hc (hcompares.mpr h))]

/-- A lookup by name reads in bounds if the records are in the image and the names end in the
string table. -/
theorem resolveAmong_all {indices : List Nat}
    (hrecord : ∀ i ∈ indices, P (.record (recordOffset img.info t.symtabOffset i)))
    (hname : ∀ i ∈ indices, t.compares img i → ∀ s,
      (strcmpAt img (t.nameOffset img i) s).All P)
    (hversion : ∀ i ∈ indices, t.compares img i → ∀ offset s,
      definedVersion img img.info i = some offset → (strcmpAt img offset s).All P) :
    (resolveAmong img img.info q t.symtabOffset t.strtabOffset indices).All P := by
  induction indices with
  | nil => exact Traced.all_fail
  | cons i rest ih =>
    rw [List.forall_mem_cons] at hrecord hname hversion
    have hrest := ih hrecord.2 hname.2 hversion.2
    rw [resolveAmong_cons]
    refine ⟨hrecord.1, ?_⟩
    split
    · rename_i hc
      refine ⟨hname.1 hc _, fun same _ => ?_⟩
      split
      · exact ⟨matchesVersion_all (hversion.1 hc), fun _ _ _ => hrest⟩
      · exact hrest
    · exact hrest

/-- A lookup by name goes on after the symbol: its name is not compared, or it is another one, or
its version is another one. -/
def Passes (img : Image) (q : SymbolQuery) (t : SymbolTables) (index : Nat) : Prop :=
  t.compares img index = true →
    (strcmpAt img (t.nameOffset img index) q.name).value = some false ∨
      (∃ same, (strcmpAt img (t.nameOffset img index) q.name).value = some same) ∧
        (symbolDefinitionMatchesVersion img img.info index q.version).value = some false

theorem resolveAmong_of_passes {pre : List Nat} (hpre : ∀ i ∈ pre, Passes img q t i)
    (hall : (resolveAmong img img.info q t.symtabOffset t.strtabOffset (pre ++ rest)).All P) :
    (resolveAmong img img.info q t.symtabOffset t.strtabOffset rest).All P := by
  induction pre with
  | nil => exact hall
  | cons i pre ih =>
    rw [List.forall_mem_cons] at hpre
    rw [List.cons_append, resolveAmong_cons] at hall
    refine ih hpre.2 ?_
    have hnext := hall.2
    split at hnext
    · rename_i hc
      rcases hpre.1 hc with hfalse | ⟨⟨same, hsame⟩, hversion⟩
      · exact hnext.2 false hfalse
      · have hstep := hnext.2 same hsame
        cases same with
        | false => exact hstep
        | true => exact hstep.2 false hversion rfl
    · exact hnext

theorem symbolTables_eq_some {info : SymbolInfo} (h : symbolTables img info = some t) :
    info.symtabVaddr ≠ 0 ∧ symSize ≤ info.syment.toNat ∧
      dynamicSymbolCountFromHash img info = some t.count ∧
      symtabOffsetOf img info t.count = some t.symtabOffset ∧
      info.strtabVaddr.toNat = img.baseVaddr.toNat + t.strtabOffset := by
  rw [symbolTables] at h
  split at h
  · cases h
  · rename_i hchecks
    simp only [not_or, Nat.not_lt] at hchecks
    simp only [Option.bind_eq_bind, Option.bind_eq_some_iff] at h
    obtain ⟨count, hcount, symtab, hsymtab, strtab, hstrtab, h⟩ := h
    cases h
    exact ⟨hchecks.1, hchecks.2.2.2, hcount, hsymtab, (elfVaddrToImageOffset_eq_some hstrtab).1⟩

theorem nameOffset_inBounds (ht : symbolTables img img.info = some t) (hc : t.compares img i) :
    (name (t.nameOffset img i)).InBounds img := by
  obtain ⟨-, -, -, -, hstrtab⟩ := symbolTables_eq_some ht
  rw [SymbolTables.compares, Bool.and_eq_true, decide_eq_true_eq] at hc
  rw [SymRead.InBounds, SymbolTables.nameOffset, hstrtab]
  omega

theorem definedVersion_inBounds {offset : Nat} (h : definedVersion img img.info i = some offset) :
    (name offset).InBounds img := by
  rw [definedVersion] at h
  split at h
  · cases h
  obtain ⟨versionIndex, -, h⟩ := Option.bind_eq_some_iff.mp h
  split at h
  · cases h
  rw [versionStringFromVerdef] at h
  split at h
  · cases h
  simp only [Option.bind_eq_bind, Option.bind_eq_some_iff] at h
  obtain ⟨strtab, hstrtab, start, -, name, hname, h⟩ := h
  obtain ⟨s, -, hs⟩ := (verdefLoop img img.info (versionIndex &&& 0x7fff)).exit_step (0, start)
  rw [hname] at hs
  have hlt : name < img.info.strsz.toNat := by
    change verdefBody img img.info _ s = _ at hs
    rw [verdefBody] at hs
    split at hs
    · cases hs
    split at hs
    · cases hs
    split at hs
    · dsimp only at hs
      split at hs
      · cases hs
      split at hs
      · cases hs
      cases hs
      omega
    split at hs
    · cases hs
    · cases hs
  cases h
  rw [SymRead.InBounds, (elfVaddrToImageOffset_eq_some hstrtab).1]
  omega

end

/-! ## Strings that run out of the table -/

section

variable {img : Image} {offset : Nat}

theorem strcmpAt_of_terminated (h : Terminated img offset)
    (hstart : (name offset).InBounds img) {s : List (BitVec 8)} (hs : ∀ c ∈ s, c ≠ 0)
    (hlong : img.info.strsz.toNat ≤ s.length) : (strcmpAt img offset s).value = some false := by
  obtain ⟨k, hzero, hk⟩ := h
  obtain ⟨n, hn⟩ := strcmpAt_ends img offset s
  have hle := hn.le hzero
  rw [SymRead.InBounds] at hstart hk
  have hlt : n < s.length := by omega
  rw [hn.value, List.getD_eq_getElem?_getD, List.getElem?_eq_getElem hlt, Option.getD_some,
    beq_eq_false_iff_ne.mpr fun heq => ?_]
  exact hs _ (List.getElem_mem hlt)
    (heq.symm.trans (hn.stop (heq.symm ▸ List.getElem?_eq_getElem hlt)))

theorem Terminated.exists_end (h : Terminated img offset) :
    ∃ k, img.byte (offset + k) = 0 ∧ ∀ j < k, img.byte (offset + j) ≠ 0 := by
  obtain ⟨k, hk, -⟩ := h
  have hex : ∃ k, img.byte (offset + k) = 0 := ⟨k, hk⟩
  exact ⟨Nat.find hex, Nat.find_spec hex, fun j hj => Nat.find_min hex hj⟩

theorem overrun_of_not_terminated (hstart : (name offset).InBounds img)
    (h : ¬Terminated img offset) : ∃ s : List (BitVec 8), (∀ c ∈ s, c ≠ 0) ∧
      img.info.strsz.toNat ≤ s.length ∧ ¬(strcmpAt img offset s).All (·.InBounds img) := by
  rw [SymRead.InBounds] at hstart
  obtain ⟨left, hleft⟩ : ∃ left, img.baseVaddr.toNat + offset + left =
      img.info.strtabVaddr.toNat + img.info.strsz.toNat :=
    ⟨img.info.strtabVaddr.toNat + img.info.strsz.toNat - (img.baseVaddr.toNat + offset), by omega⟩
  have hne : ∀ j < left, img.byte (offset + j) ≠ 0 := fun j hj hzero =>
    h ⟨j, hzero, by rw [SymRead.InBounds]; omega⟩
  obtain ⟨n, hn⟩ := strcmpAt_ends img offset ((List.range left).map
    (fun j => img.byte (offset + j)) ++ List.replicate img.info.strsz.toNat 1)
  refine ⟨_, ?_, ?_, fun hall => absurd ((hn.all _).mp hall left ?_) ?_⟩
  · rw [List.forall_mem_append, List.forall_mem_map]
    refine ⟨fun j hj => hne j (List.mem_range.mp hj), fun c hc => ?_⟩
    rw [(List.mem_replicate.mp hc).2]
    decide
  · simp
  · refine Nat.lt_succ_of_le (Nat.le_of_not_lt fun hlt => hne n hlt (hn.stop ?_))
    rw [List.getElem?_append_left (by simpa using hlt)]
    simp [hlt]
  · rw [SymRead.InBounds]
    omega

end

/-! ## When all lookups are in bounds -/

section

variable {img : Image}

variable {i : Nat} {t : SymbolTables}

theorem range_split {n : Nat} (h : i < n) : ∃ rest, List.range n = List.range i ++ i :: rest := by
  obtain ⟨m, rfl⟩ : ∃ m, n = i + (m + 1) := ⟨n - i - 1, by omega⟩
  rw [List.range_add, List.range_succ_eq_map, List.map_cons]
  exact ⟨_, rfl⟩

theorem byName_at (ht : symbolTables img img.info = some t) {P : SymRead → Prop} {q : SymbolQuery}
    (hall : (resolveLoadedProgramSymbolEx img q).All P) (hi : i < t.count)
    (hpre : ∀ j < i, Passes img q t j) :
    ∃ rest, (resolveAmong img img.info q t.symtabOffset t.strtabOffset (i :: rest)).All P := by
  obtain ⟨rest, hrest⟩ := range_split hi
  rw [resolveLoadedProgramSymbolEx, Traced.all_bind] at hall
  have hamong := hall.2 t ht
  rw [hrest] at hamong
  exact ⟨rest, resolveAmong_of_passes (fun j hj => hpre j (List.mem_range.mp hj)) hamong⟩

section

variable (hall : ∀ q, (resolveLoadedProgramSymbolEx img q).All (·.InBounds img))

include hall

/-- If all lookups by name are in bounds, all compared names end in the table: a long string would
pass the symbols before the first whose name does not, and run out there. -/
theorem names_terminated (ht : symbolTables img img.info = some t) (i : Nat) (hi : i < t.count)
    (hc : t.compares img i) : Terminated img (t.nameOffset img i) := by
  induction i using Nat.strongRecOn with
  | _ i ih =>
    by_contra hno
    obtain ⟨s, hs, hlong, hover⟩ := overrun_of_not_terminated (nameOffset_inBounds ht hc) hno
    obtain ⟨rest, hat⟩ := byName_at ht (hall ⟨s, none, false⟩) hi fun j hj hcj =>
      .inl (strcmpAt_of_terminated (ih j hj (by omega) hcj) (nameOffset_inBounds ht hcj) hs hlong)
    rw [resolveAmong_cons, if_pos hc] at hat
    exact hover hat.2.1

theorem versions_terminated (ht : symbolTables img img.info = some t) (i : Nat) (hi : i < t.count)
    (hc : t.compares img i) (offset : Nat)
    (hversion : definedVersion img img.info i = some offset) : Terminated img offset := by
  induction i using Nat.strongRecOn generalizing offset with
  | _ i ih =>
    by_contra hno
    obtain ⟨s, hs, hlong, hover⟩ :=
      overrun_of_not_terminated (definedVersion_inBounds hversion) hno
    obtain ⟨k, hzero, hne⟩ := (names_terminated hall ht i hi hc).exists_end
    have hpasses : ∀ j < i, Passes img ⟨(List.range k).map fun n =>
        img.byte (t.nameOffset img i + n), some s, false⟩ t j := by
      intro j hj hcj
      obtain ⟨_, hends⟩ := strcmpAt_ends img (t.nameOffset img j) _
      refine .inr ⟨⟨_, hends.value⟩, ?_⟩
      rw [symbolDefinitionMatchesVersion]
      split
      · rfl
      · rename_i other hother
        exact strcmpAt_of_terminated (ih j hj (by omega) hcj other hother)
          (definedVersion_inBounds hother) hs hlong
    obtain ⟨rest, hat⟩ := byName_at ht (hall _) hi hpasses
    rw [resolveAmong_cons, if_pos hc] at hat
    have hmatch := (hat.2.2 true (strcmpAt_self hzero hne)).1
    rw [symbolDefinitionMatchesVersion, hversion] at hmatch
    exact hover hmatch

end

theorem Terminated.all_inBounds {offset : Nat} (h : Terminated img offset)
    (hstart : (name offset).InBounds img) (s : List (BitVec 8)) :
    (strcmpAt img offset s).All (·.InBounds img) := by
  obtain ⟨k, hzero, hk⟩ := h
  obtain ⟨n, hn⟩ := strcmpAt_ends img offset s
  have hle := hn.le hzero
  refine (hn.all _).mpr fun j hj => ?_
  rw [SymRead.InBounds] at hstart hk ⊢
  omega

section

variable (h : ¬SizeWraps img)

include h

theorem product_lt_of_not_sizeWraps (hsymtab : img.info.symtabVaddr ≠ 0)
    {count offset : Nat} (hcount : dynamicSymbolCountFromHash img img.info = some count)
    (hoffset : symtabOffsetOf img img.info count = some offset) :
    count * img.info.syment.toNat < 2 ^ 64 := by
  by_contra hge
  exact h ⟨hsymtab, count, hcount, Nat.le_of_not_lt hge, by rw [hoffset]; rfl⟩

theorem symbolRecordOffset_inBounds (hsymtab : img.info.symtabVaddr ≠ 0)
    (hsize : symSize ≤ img.info.syment.toNat) {index : BitVec 64} {offset : Nat}
    (hoffset : symbolRecordOffset img img.info index = some offset) :
    (record offset).InBounds img := by
  rw [symbolRecordOffset, Option.bind_eq_bind, Option.bind_eq_some_iff] at hoffset
  obtain ⟨count, hcount, hoffset⟩ := hoffset
  split at hoffset
  · cases hoffset
  obtain ⟨symtab, hsymtabOffset, rfl⟩ := Option.map_eq_some_iff.mp hoffset
  exact record_inBounds hsize hsymtabOffset
    (product_lt_of_not_sizeWraps h hsymtab hcount hsymtabOffset) (by omega)

theorem resolveSameImage_inBounds (index : BitVec 64) :
    (resolveSameImageRelocSymbol img img.info index).All (·.InBounds img) := by
  rw [resolveSameImageRelocSymbol]
  split
  · exact Traced.all_fail
  rename_i hchecks
  rw [not_or, Nat.not_lt] at hchecks
  rw [Traced.all_bind]
  refine ⟨Traced.all_ofOption, fun offset hoffset => ?_⟩
  rw [Traced.all_bind, readSym, Traced.all_emit]
  refine ⟨symbolRecordOffset_inBounds h hchecks.1 hchecks.2 hoffset, fun sym _ => ?_⟩
  split
  · exact Traced.all_fail
  · exact Traced.all_pure

theorem byIndex_inBounds (index : BitVec 64) :
    (dynamicSymbolByIndex img img.info index).All (·.InBounds img) := by
  rw [dynamicSymbolByIndex]
  split
  · exact Traced.all_fail
  rename_i hchecks
  simp only [not_or, Nat.not_lt] at hchecks
  rw [Traced.all_bind]
  refine ⟨Traced.all_ofOption, fun offset hoffset => ?_⟩
  rw [Traced.all_bind]
  refine ⟨Traced.all_ofOption, fun strtab _ => ?_⟩
  rw [Traced.all_bind, readSym, Traced.all_emit]
  refine ⟨symbolRecordOffset_inBounds h hchecks.1 hchecks.2.2.2 hoffset, fun sym _ => ?_⟩
  split
  · exact Traced.all_fail
  · exact Traced.all_pure

theorem byName_inBounds (hnames : NamesTerminated img) (q : SymbolQuery) :
    (resolveLoadedProgramSymbolEx img q).All (·.InBounds img) := by
  rw [resolveLoadedProgramSymbolEx, Traced.all_bind]
  refine ⟨Traced.all_ofOption, fun t ht => ?_⟩
  obtain ⟨hsymtab, hsize, hcount, hoffset, -⟩ := symbolTables_eq_some ht
  have hwrap := product_lt_of_not_sizeWraps h hsymtab hcount hoffset
  refine resolveAmong_all (fun i hi => ?_) (fun i hi hc s => ?_) fun i hi hc offset s hv => ?_
  · exact record_inBounds hsize hoffset hwrap (List.mem_range.mp hi)
  · exact (hnames t ht i (List.mem_range.mp hi) hc).1.all_inBounds (nameOffset_inBounds ht hc) s
  · exact ((hnames t ht i (List.mem_range.mp hi) hc).2 offset hv).all_inBounds
      (definedVersion_inBounds hv) s

end

theorem not_inBounds_of_sizeWraps (h : SizeWraps img) :
    ¬(resolveSameImageRelocSymbol img img.info 1).All (·.InBounds img) := by
  obtain ⟨hsymtab, count, hcount, hwrap, hsome⟩ := h
  obtain ⟨offset, hoffset⟩ := Option.isSome_iff_exists.mp hsome
  obtain ⟨hone, houtside⟩ := record_one_outside (count_le hcount).2 hoffset hwrap
  have hsize : symSize ≤ img.info.syment.toNat := by
    have hmul : count * img.info.syment.toNat ≤ 4096 * img.info.syment.toNat :=
      Nat.mul_le_mul_right _ (count_le hcount).2
    rw [symSize]
    omega
  have hrecord : symbolRecordOffset img img.info 1 =
      some (recordOffset img.info offset 1) := by
    rw [symbolRecordOffset, hcount]
    show (if count ≤ 1 then none else _) = _
    rw [if_neg (Nat.not_le.mpr hone), hoffset]
    rfl
  intro hall
  rw [resolveSameImageRelocSymbol, if_neg (not_or.mpr ⟨hsymtab, Nat.not_lt.mpr hsize⟩),
    Traced.all_bind] at hall
  have hread := hall.2 _ hrecord
  rw [Traced.all_bind, readSym, Traced.all_emit] at hread
  exact absurd hread.1 (Nat.not_le.mpr houtside)

end

/-- All lookups read in bounds exactly if the size of the symbol table does not wrap, and the names
and versions of exported symbols end in the string table. -/
theorem lookups_inBounds_iff (img : Image) :
    LookupsInBounds img ↔ ¬SizeWraps img ∧ NamesTerminated img := by
  constructor
  · intro h
    refine ⟨fun hwraps => not_inBounds_of_sizeWraps hwraps (h.sameImage 1), fun t ht i hi hc => ?_⟩
    exact ⟨names_terminated h.byName ht i hi hc, versions_terminated h.byName ht i hi hc⟩
  · rintro ⟨hwraps, hnames⟩
    refine ⟨resolveSameImage_inBounds hwraps, fun i => ?_, byIndex_inBounds hwraps,
      byName_inBounds hwraps hnames⟩
    rw [dynamicSymbolNameByIndex, Traced.all_bind]
    exact ⟨byIndex_inBounds hwraps i, fun _ _ => Traced.all_pure⟩

def tableEntries (strsz syment : BitVec 64) : List (BitVec 64 × BitVec 64) :=
  [(dtSymtab, 0x100), (dtStrtab, 0x200), (dtStrsz, strsz), (dtSyment, syment), (dtHash, 0x300)]

/-- An image of one page with a hash table of 4096 symbols, each of `2 ^ 52` bytes. -/
def strideImage : Image where
  baseVaddr := 0
  codeSize := 4096
  codeSize_le := by decide
  loadedImage := 0x10000
  byte offset := if offset = 0x305 then 0x10 else 0
  dynamic := tableEntries 16 0x10000000000000

/-- An image of one page with a string table of the four bytes `\0abc`, and the exported function
`abc`. -/
def unterminatedImage : Image where
  baseVaddr := 0
  codeSize := 4096
  codeSize_le := by decide
  loadedImage := 0x10000
  byte offset :=
    if offset = 0x304 then 2
    else if offset = 0x118 then 1
    else if offset = 0x11c then 0x12
    else if offset = 0x11e then 1
    else if offset = 0x201 then 0x61
    else if offset = 0x202 then 0x62
    else if offset = 0x203 then 0x63
    else 0
  dynamic := tableEntries 4 24

/-- Record 1 is read `2 ^ 52` bytes behind the table; the comparison with `abc` reads the byte after
the string table. -/
theorem lookups_leave_bounds :
    (resolveSameImageRelocSymbol strideImage strideImage.info 1).log =
        [.record (0x100 + 2 ^ 52)] ∧
      ¬LookupsInBounds strideImage ∧
      (resolveLoadedProgramSymbolEx unterminatedImage ⟨[0x61, 0x62, 0x63], none, false⟩).log =
        [.record 0x100, .record 0x118, .name 0x201, .name 0x202, .name 0x203, .name 0x204] ∧
      ¬LookupsInBounds unterminatedImage := by
  have hstride : (resolveSameImageRelocSymbol strideImage strideImage.info 1).log =
      [.record (0x100 + 2 ^ 52)] := by decide +kernel
  have hname : (resolveLoadedProgramSymbolEx unterminatedImage
      ⟨[0x61, 0x62, 0x63], none, false⟩).log =
      [.record 0x100, .record 0x118, .name 0x201, .name 0x202, .name 0x203, .name 0x204] := by
    decide +kernel
  refine ⟨hstride, fun h => ?_, hname, fun h => ?_⟩
  · have hread := h.sameImage 1 (.record (0x100 + 2 ^ 52)) (by rw [hstride]; simp)
    exact absurd hread (show ¬(0x100 + 2 ^ 52 + symSize ≤ 4096) by decide)
  · have hread := h.byName _ (.name 0x204) (by rw [hname]; simp)
    exact absurd hread.2 (by decide)

end Poly.Polyexec
