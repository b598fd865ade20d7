import Armd64.Lib.Lists
import Armd64.Polyexec.ElfLoad

/-!
# Images of loaded files

The image of a file that the loader accepts is the one that its program headers describe, however
they overlap.
-/

namespace Poly.Polyexec

open Hw

def ProgramHeader.covers (ph : ProgramHeader) (a : Nat) : Bool :=
  ph.type == ptLoad && decide (ph.vaddr.toNat ≤ a) &&
    decide (a < ph.vaddr.toNat + ph.filesz.toNat)

/-- The byte at an address: that of the last segment whose file part covers it, or zero. -/
def ElfFile.segmentByte (f : ElfFile) (a : Nat) : BitVec 8 :=
  match f.phdrs.reverse.find? (·.covers a) with
  | some ph => f.byte (ph.offset.toNat + (a - ph.vaddr.toNat))
  | none => 0

structure ImageFaithful (f : ElfFile) (p : ElfProgram) : Prop where
  segments : ∀ ph ∈ f.phdrs, ph.type = ptLoad → p.baseVaddr.toNat ≤ ph.vaddr.toNat ∧
    ph.vaddr.toNat + ph.memsz.toNat ≤ p.baseVaddr.toNat + p.codeSize
  inFile : ∀ ph ∈ f.phdrs, ph.type = ptLoad → ph.filesz ≠ 0 →
    ph.offset.toNat + ph.filesz.toNat ≤ f.size
  bytes : ∀ k < p.codeSize, p.codeBytes k = f.segmentByte (p.baseVaddr.toNat + k)
  entry : p.entryOffset < p.codeSize
  /-- The last `PT_DYNAMIC` is the dynamic range, unless it is empty. -/
  dynamic : ∀ ph, f.phdrs.reverse.find? (·.type == ptDynamic) = some ph → ph.vaddr ≠ 0 →
    ph.filesz ≠ 0 → p.dynamic.dynamicSize = ph.filesz.toNat ∧
      p.baseVaddr.toNat + p.dynamic.dynamicOffset = ph.vaddr.toNat
  dynamicInside : p.dynamic.dynamicOffset + p.dynamic.dynamicSize ≤ p.codeSize
  positive : 0 < p.codeSize
  aligned : p.codeSize % instructionAlign p.arch = 0
  bounded : p.codeSize ≤ maxProgramBytes

variable {f : ElfFile}

/-! ## The first pass -/

theorem alignDownU64_le (v a : BitVec 64) : (alignDownU64 v a).toNat ≤ v.toNat := by
  exact Nat.and_le_left

structure ScanStep (f : ElfFile) (ph : ProgramHeader) (s s' : HeaderScan) : Prop where
  base : s'.baseVaddr.toNat ≤ s.baseVaddr.toNat
  limit : s.limitVaddr.toNat ≤ s'.limitVaddr.toNat
  load : ph.type = ptLoad → ph.loadOk f ∧ s'.baseVaddr.toNat ≤ ph.vaddr.toNat ∧
    ph.vaddr.toNat + ph.memsz.toNat ≤ s'.limitVaddr.toNat
  dynamic : (s'.dynamicVaddr, s'.dynamicSize) =
    if ph.type == ptDynamic then (ph.vaddr, ph.filesz) else (s.dynamicVaddr, s.dynamicSize)

variable {s s' : HeaderScan} {ph : ProgramHeader} {phs : List ProgramHeader} {offset codeSize : Nat}
  {base : BitVec 64} {code : CodeBytes} {arch : Abi.Arch} {symbolName : List (BitVec 8)}

theorem scanLoad_step (htype : ph.type = ptLoad) (h : scanLoad f s ph = .ok s') :
    ScanStep f ph s s' := by
  rw [scanLoad] at h
  split at h
  · cases h
  rename_i hok
  have hok := Classical.not_not.mp hok
  split at h
  · cases h
  cases h
  have hbase := alignDownU64_le ph.vaddr 0x1000
  have hsum : (ph.vaddr + ph.memsz).toNat = ph.vaddr.toNat + ph.memsz.toNat := by
    have := hok.2.2.1
    rw [BitVec.toNat_add, Nat.mod_eq_of_lt (by omega)]
  refine ⟨?_, ?_, fun _ => ⟨hok, ?_, ?_⟩, ?_⟩
  · dsimp only
    split <;> omega
  · dsimp only
    split <;> omega
  · dsimp only
    split <;> omega
  · dsimp only
    split <;> omega
  · simp [htype, ptLoad, ptDynamic]

/-- The range and the dynamic table, which most headers leave alone. -/
def HeaderScan.range (s : HeaderScan) : (BitVec 64 × BitVec 64) × BitVec 64 × BitVec 64 :=
  ((s.baseVaddr, s.limitVaddr), (s.dynamicVaddr, s.dynamicSize))

theorem scanInterp_range (h : scanInterp f s ph = .ok s') : s'.range = s.range := by
  rw [scanInterp] at h
  split at h <;> cases h
  rfl

theorem scanTls_range (h : scanTls f s ph = .ok s') : s'.range = s.range := by
  rw [scanTls] at h
  split at h <;> cases h
  rfl

theorem ScanStep.of_range (hload : ph.type ≠ ptLoad)
    (hrange : s'.range = ((s.baseVaddr, s.limitVaddr),
      if ph.type == ptDynamic then (ph.vaddr, ph.filesz) else (s.dynamicVaddr, s.dynamicSize))) :
    ScanStep f ph s s' := by
  have hbase : s'.baseVaddr = s.baseVaddr := congrArg (·.1.1) hrange
  have hlimit : s'.limitVaddr = s.limitVaddr := congrArg (·.1.2) hrange
  exact ⟨Nat.le_of_eq (by rw [hbase]), Nat.le_of_eq (by rw [hlimit]), fun h => absurd h hload,
    congrArg (·.2) hrange⟩

inductive ScanExit (f : ElfFile) (ph : ProgramHeader) (s : HeaderScan) : HeaderScan → Prop
  | phdr (htype : ph.type = ptPhdr) : ScanExit f ph s { s with phdrVaddr := ph.vaddr }
  | dynamic (htype : ph.type = ptDynamic) :
      ScanExit f ph s { s with dynamicVaddr := ph.vaddr, dynamicSize := ph.filesz }
  | interp {s' : HeaderScan} (htype : ph.type = ptInterp) (h : scanInterp f s ph = .ok s') :
      ScanExit f ph s s'
  | relro (htype : ph.type = ptGnuRelro) :
      ScanExit f ph s { s with relroVaddr := ph.vaddr, relroSize := ph.memsz }
  | note {specs : List ProcessBridgeSpec} (htype : ph.type = ptNote) :
      ScanExit f ph s { s with bridgeSpecs := specs }
  | tls {s' : HeaderScan} (htype : ph.type = ptTls) (h : scanTls f s ph = .ok s') :
      ScanExit f ph s s'
  | load {s' : HeaderScan} (htype : ph.type = ptLoad) (h : scanLoad f s ph = .ok s') :
      ScanExit f ph s s'
  | other (hdynamic : ph.type ≠ ptDynamic) (hload : ph.type ≠ ptLoad) : ScanExit f ph s s

theorem scanPhdr_exit (h : scanPhdr f s ph = .ok s') : ScanExit f ph s s' := by
  rw [scanPhdr] at h
  split at h
  · next htype =>
    cases h
    exact .phdr htype
  split at h
  · next htype =>
    cases h
    exact .dynamic htype
  next hdynamic =>
  split at h
  · next htype => exact .interp htype h
  split at h
  · next htype =>
    cases h
    exact .relro htype
  split at h
  · next htype =>
    split at h <;> cases h
    exact .note htype
  split at h
  · next htype => exact .tls htype h
  split at h
  · next htype => exact .load htype h
  · next hload =>
    cases h
    exact .other hdynamic hload

theorem scanPhdr_step (h : scanPhdr f s ph = .ok s') : ScanStep f ph s s' := by
  -- A header of another kind than `PT_DYNAMIC` leaves the dynamic table alone.
  have hother : ∀ {s' : HeaderScan}, ph.type ≠ ptDynamic → ph.type ≠ ptLoad →
      s'.range = s.range → ScanStep f ph s s' := by
    intro s' hdynamic hload hrange
    refine .of_range hload (hrange.trans ?_)
    simp [hdynamic, HeaderScan.range]
  cases scanPhdr_exit h with
  | phdr htype => exact hother (htype ▸ by decide) (htype ▸ by decide) rfl
  | dynamic htype => exact .of_range (htype ▸ by decide) (by simp [htype]; rfl)
  | interp htype h => exact hother (htype ▸ by decide) (htype ▸ by decide) (scanInterp_range h)
  | relro htype => exact hother (htype ▸ by decide) (htype ▸ by decide) rfl
  | note htype => exact hother (htype ▸ by decide) (htype ▸ by decide) rfl
  | tls htype h => exact hother (htype ▸ by decide) (htype ▸ by decide) (scanTls_range h)
  | load htype h => exact scanLoad_step htype h
  | other hdynamic hload => exact hother hdynamic hload rfl

theorem scan_covers (h : phs.foldlM (scanPhdr f) s = .ok s') :
    s'.baseVaddr.toNat ≤ s.baseVaddr.toNat ∧ s.limitVaddr.toNat ≤ s'.limitVaddr.toNat ∧
      ∀ ph ∈ phs, ph.type = ptLoad → ph.loadOk f ∧ s'.baseVaddr.toNat ≤ ph.vaddr.toNat ∧
        ph.vaddr.toNat + ph.memsz.toNat ≤ s'.limitVaddr.toNat := by
  induction phs generalizing s with
  | nil =>
    cases h
    exact ⟨Nat.le_refl _, Nat.le_refl _, fun ph hph => absurd hph List.not_mem_nil⟩
  | cons ph phs ih =>
    rw [List.foldlM_cons, except_bind_eq_ok] at h
    obtain ⟨s₁, hph, h⟩ := h
    have hstep := scanPhdr_step hph
    obtain ⟨hbase, hlimit, hloads⟩ := ih h
    refine ⟨Nat.le_trans hbase hstep.base, Nat.le_trans hstep.limit hlimit, ?_⟩
    intro q hq htype
    rcases List.mem_cons.mp hq with rfl | hq
    · obtain ⟨hok, hvaddr, hend⟩ := hstep.load htype
      exact ⟨hok, Nat.le_trans hbase hvaddr, Nat.le_trans hend hlimit⟩
    · exact hloads q hq htype

theorem scan_dynamic (h : phs.foldlM (scanPhdr f) {} = .ok s)
    (hlast : phs.reverse.find? (·.type == ptDynamic) = some ph) :
    s.dynamicVaddr = ph.vaddr ∧ s.dynamicSize = ph.filesz := by
  have hview := foldlM_eq_ok_of_step (fun s : HeaderScan => (s.dynamicVaddr, s.dynamicSize))
    (fun b ph => if ph.type == ptDynamic then (ph.vaddr, ph.filesz) else b)
    (fun b ph _ b' hb => (scanPhdr_step hb).dynamic) h
  rw [foldl_eq_find_reverse, hlast] at hview
  exact Prod.mk.inj hview

/-! ## The second pass -/

theorem covers_of_skipped (h : ph.type ≠ ptLoad ∨ ph.filesz = 0) (a : Nat) :
    ph.covers a = false := by
  rcases h with htype | hempty
  · simp [ProgramHeader.covers, htype]
  · have hzero : ph.filesz.toNat = 0 := by rw [hempty]; rfl
    simp only [ProgramHeader.covers, Bool.and_eq_false_imp, decide_eq_false_iff_not,
      Bool.and_eq_true, decide_eq_true_eq]
    omega

theorem covers_of_load {base : Nat} (htype : ph.type = ptLoad)
    (hoffset : ph.vaddr.toNat = base + offset) (k : Nat) :
    ph.covers (base + k) = decide (offset ≤ k ∧ k < offset + ph.filesz.toNat) := by
  rw [ProgramHeader.covers, htype, hoffset, beq_self_eq_true, Bool.true_and, ← Bool.decide_and]
  exact decide_eq_decide.mpr (by omega)

theorem copySegment_byte {code' : CodeBytes}
    (hbase : ph.type = ptLoad → base.toNat ≤ ph.vaddr.toNat)
    (h : copySegment f base codeSize code ph = .ok code') (k : Nat) :
    code' k = if ph.covers (base.toNat + k)
      then f.byte (ph.offset.toNat + (base.toNat + k - ph.vaddr.toNat)) else code k := by
  rw [copySegment] at h
  split at h
  · rename_i hskip
    cases h
    rw [covers_of_skipped hskip]
    rfl
  · rename_i hload
    rw [not_or, Classical.not_not] at hload
    dsimp only at h
    split at h
    · cases h
    cases h
    have hle := hbase hload.1
    have hoffset : ph.vaddr.toNat = base.toNat + (ph.vaddr - base).toNat := by
      rw [BitVec.toNat_sub_of_le (BitVec.le_def.mpr hle)]
      omega
    rw [copyFromFile, covers_of_load hload.1 hoffset]
    simp only [decide_eq_true_eq]
    split
    · congr 2
      omega
    · rfl

theorem copied_eq (hbase : ∀ ph ∈ f.phdrs, ph.type = ptLoad → base.toNat ≤ ph.vaddr.toNat)
    (h : f.phdrs.foldlM (copySegment f base codeSize) (fun _ => 0) = .ok code) (k : Nat) :
    code k = f.segmentByte (base.toNat + k) := by
  have hview := foldlM_eq_ok_of_step (fun code : CodeBytes => code k)
    (fun b ph => if ph.covers (base.toNat + k)
      then f.byte (ph.offset.toNat + (base.toNat + k - ph.vaddr.toNat)) else b)
    (fun b ph hph b' hb => copySegment_byte (hbase ph hph) hb k) h
  rw [foldl_eq_find_reverse] at hview
  rw [hview, ElfFile.segmentByte]
  cases f.phdrs.reverse.find? (·.covers (base.toNat + k)) <;> rfl

/-! ## The image -/

theorem imageRange_eq_ok {r : ImageRange arch} (h : imageRange arch s = .ok r) :
    r.baseVaddr = s.baseVaddr ∧ r.limitVaddr = s.limitVaddr := by
  rw [imageRange] at h
  split at h
  · dsimp only at h
    split at h
    · cases h
    split at h
    · cases h
    cases h
    exact ⟨rfl, rfl⟩
  · cases h

theorem entryOffset_lt {limit entry : BitVec 64}
    (h : entryOffset f symbolName base limit entry = .ok offset) :
    base.toNat + offset < limit.toNat := by
  rw [entryOffset] at h
  generalize (if decide (f.ehdr.type = etDyn ∧ symbolName = [] ∧ entry = 0) = true then base
    else entry) = entry' at h
  split at h
  · cases h
    omega
  · cases h

theorem image_range (r : ImageRange arch) (s : HeaderScan) (code : CodeBytes) :
    (r.image s code).baseVaddr = r.baseVaddr ∧ (r.image s code).codeSize = r.codeSize := by
  rw [ImageRange.image]
  split <;> exact ⟨rfl, rfl⟩

theorem readDynamic_range {img : Image} {d : DynamicFields} (h : readDynamic s img = .ok d) :
    d.dynamicOffset + d.dynamicSize ≤ img.codeSize ∧
      (s.dynamicVaddr ≠ 0 → s.dynamicSize ≠ 0 → d.dynamicSize = s.dynamicSize.toNat ∧
        img.baseVaddr.toNat + d.dynamicOffset = s.dynamicVaddr.toNat) := by
  rw [readDynamic] at h
  split at h
  · rename_i hnone
    cases h
    exact ⟨Nat.zero_le _, fun hv hs => absurd hnone (not_or.mpr ⟨hv, hs⟩)⟩
  split at h
  · cases h
  split at h
  · cases h
  rename_i offset hoffset
  obtain ⟨soname, -, h⟩ := except_bind_eq_ok.mp h
  have hrange := elfVaddrToImageOffset_eq_some hoffset
  dsimp only at h
  split at h
  · cases h
  split at h
  · cases h
  cases h
  exact ⟨hrange.2, fun _ _ => ⟨rfl, hrange.1.symm⟩⟩

structure LoadStages (f : ElfFile) (symbolName : List (BitVec 8)) (p : ElfProgram) where
  s : HeaderScan
  r : ImageRange p.arch
  entry : BitVec 64
  scan : f.phdrs.foldlM (scanPhdr f) {} = .ok s
  range : imageRange p.arch s = .ok r
  copy : f.phdrs.foldlM (copySegment f r.baseVaddr r.codeSize) (fun _ => 0) = .ok p.codeBytes
  entryOffset : entryOffset f symbolName r.baseVaddr r.limitVaddr entry = .ok p.entryOffset
  dynamic : readDynamic s (r.image s p.codeBytes) = .ok p.dynamic
  base : p.baseVaddr = r.baseVaddr
  size : p.codeSize = r.codeSize

theorem loadStages_of_ok {p : ElfProgram} (h : loadElfProgram f symbolName = .ok p) :
    Nonempty (LoadStages f symbolName p) := by
  obtain ⟨arch, -, h⟩ := except_bind_eq_ok.mp h
  obtain ⟨s, hscan, h⟩ := except_bind_eq_ok.mp h
  obtain ⟨r, hrange, h⟩ := except_bind_eq_ok.mp h
  obtain ⟨code, hcopy, h⟩ := except_bind_eq_ok.mp h
  split at h
  · cases h
  rename_i entry _
  obtain ⟨offset, hentry, h⟩ := except_bind_eq_ok.mp h
  obtain ⟨dynamic, hdynamic, h⟩ := except_bind_eq_ok.mp h
  cases h
  exact ⟨⟨s, r, entry, hscan, hrange, hcopy, hentry, hdynamic, rfl, rfl⟩⟩

/-- For every accepted file: the segments are in the image, its bytes are those of the last segment
that covers them and zero elsewhere, entry point and dynamic table are in it, and its size is a
positive multiple of the instruction size and at most the limit. -/
theorem loaded_image_faithful (f : ElfFile) (symbolName : List (BitVec 8)) (p : ElfProgram)
    (h : loadElfProgram f symbolName = .ok p) : ImageFaithful f p := by
  obtain ⟨stages⟩ := loadStages_of_ok h
  obtain ⟨s, r, entry, hscan, hrange, hcopy, hentry, hdynamic, hbase, hsize⟩ := stages
  obtain ⟨hrbase, hrlimit⟩ := imageRange_eq_ok hrange
  obtain ⟨-, -, hloads⟩ := scan_covers hscan
  rw [← hrbase, ← hrlimit] at hloads
  have hle := r.limit_le
  have himage := image_range r s p.codeBytes
  obtain ⟨hinside, hfields⟩ := readDynamic_range hdynamic
  rw [himage.1] at hfields
  rw [himage.2] at hinside
  have hoffset := entryOffset_lt hentry
  constructor
  case segments =>
    intro ph hph htype
    obtain ⟨-, hvaddr, hend⟩ := hloads ph hph htype
    rw [hbase, hsize]
    omega
  case inFile =>
    intro ph hph htype hfilesz
    obtain ⟨hoff, hsz⟩ := (hloads ph hph htype).1.2.1 hfilesz
    omega
  case bytes =>
    intro k _
    rw [hbase]
    exact copied_eq (fun ph hph htype => (hloads ph hph htype).2.1) hcopy k
  case entry => omega
  case dynamic =>
    intro ph hlast hvaddr hfilesz
    obtain ⟨hv, hs⟩ := scan_dynamic hscan hlast
    rw [hbase, ← hv, ← hs]
    exact hfields (hv ▸ hvaddr) (hs ▸ hfilesz)
  case dynamicInside => rwa [hsize]
  case positive => omega
  case aligned =>
    rw [hsize]
    exact r.aligned
  case bounded =>
    rw [hsize]
    exact r.codeSize_le

/-- A file with three segments and `PT_GNU_RELRO`. The second one is on the page of the first one,
over its bytes from `0x80` on; the third one is on a page of its own. -/
def layeredElf : ElfFile where
  size := 288
  byte i := (List.getD
    [0x00010102464c457f, 0, 0x0000000100b70003, 0x400000, 64, 0, 0x0038004000000000, 4,
      0x0000000500000001, 0, 0x400000, 0x400000, 288, 288, 0x1000,
      0x0000000700000001, 0, 0x400080, 0x400080, 8, 0x200, 0x1000,
      0x0000000600000001, 0, 0x401000, 0x401000, 0, 0x100, 0x1000,
      0x000000046474e552, 0, 0x401000, 0x401000, 0, 0x100, 1] (i / 8) (0 : BitVec 64)).extractLsb'
        (8 * (i % 8)) 8

/-- The byte at `0x80` is the first one of the second segment. -/
theorem loaded_image_faithful_layeredElf :
    ∃ p, loadElfProgram layeredElf [] = .ok p ∧ p.codeSize = 0x1100 ∧ p.codeBytes 0x80 = 0x7f ∧
      ImageFaithful layeredElf p := by
  have hload : (loadElfProgram layeredElf []).map (fun p => (p.codeSize, p.codeBytes 0x80)) =
      .ok (0x1100, 0x7f) := by
    decide +kernel
  obtain ⟨p, h, hload⟩ := exists_of_except_map hload
  obtain ⟨hsize, hbyte⟩ := Prod.mk.inj hload
  exact ⟨p, h, hsize, hbyte, loaded_image_faithful _ _ _ h⟩

end Poly.Polyexec
