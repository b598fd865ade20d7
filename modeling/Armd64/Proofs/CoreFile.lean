import Armd64.Lib.Codec
import Armd64.Polyexec.CoreFile

/-!
# The geometry of the core file

The notes are read back as a debugger reads them, and take the whole `PT_NOTE` segment. Each segment
of memory starts on a page after all that was written before, so the padding is never negative.
-/

namespace Poly.Polyexec

open Hw

/-! ## Reading a file back -/

def At (bytes : List (BitVec 8)) (o : Nat) (xs : List (BitVec 8)) : Prop :=
  ∃ pre post, pre.length = o ∧ bytes = pre ++ (xs ++ post)

variable {bytes xs ys : List (BitVec 8)} {o n : Nat}

theorem At.split (h : At bytes o (xs ++ ys)) : At bytes o xs ∧ At bytes (o + xs.length) ys := by
  obtain ⟨pre, post, rfl, rfl⟩ := h
  exact ⟨⟨pre, ys ++ post, rfl, by simp⟩, ⟨pre ++ xs, post, by simp, by simp⟩⟩

theorem At.take (h : At bytes o xs) : (bytes.drop o).take xs.length = xs := by
  obtain ⟨pre, post, rfl, rfl⟩ := h
  rw [List.drop_left, List.take_left]

theorem At.le (h : At bytes o xs) : o + xs.length ≤ bytes.length := by
  obtain ⟨pre, post, rfl, rfl⟩ := h
  simp

theorem at_append (pre xs post : List (BitVec 8)) : At (pre ++ xs ++ post) pre.length xs :=
  ⟨pre, post, rfl, List.append_assoc ..⟩

def fileOf (bytes : List (BitVec 8)) : ElfFile := ⟨bytes.length, fun i => bytes.getD i 0⟩

theorem At.word {v : BitVec (8 * n)} (h : At bytes o (toBytes n v)) :
    ofWords n (fun i => (fileOf bytes).byte (o + i)) = v := by
  obtain ⟨pre, post, rfl, rfl⟩ := h
  refine ofWords_eq (by decide) fun i hi => ?_
  show (pre ++ (toBytes n v ++ post)).getD (pre.length + i) 0 = _
  rw [List.getD_eq_getElem?_getD, List.getElem?_append_right (by omega),
    Nat.add_sub_cancel_left, List.getElem?_append_left (by rwa [length_toBytes]),
    getElem?_toBytes v hi]
  rfl

theorem At.bytes_eq (h : At bytes o xs) : (fileOf bytes).bytes o xs.length = xs := by
  refine Eq.trans (List.ext_getElem? fun i => ?_) h.take
  have hle := h.le
  by_cases hi : i < xs.length
  · have hlt : o + i < bytes.length := by omega
    simp [ElfFile.bytes, fileOf, hi, hlt]
  · have hlen : ((fileOf bytes).bytes o xs.length).length = xs.length := by simp [ElfFile.bytes]
    have hi := Nat.le_of_not_lt hi
    rw [List.getElem?_eq_none (Nat.le_trans (Nat.le_of_eq hlen) hi), h.take,
      List.getElem?_eq_none hi]

theorem length_phdrBytes (p : ProgramHeader) : (phdrBytes p).length = 56 := by
  simp [phdrBytes, length_toBytes]

theorem At.phdr {p : ProgramHeader} (h : At bytes o (phdrBytes p)) :
    (fileOf bytes).phdr o = p := by
  simp only [phdrBytes, List.append_assoc] at h
  obtain ⟨htype, h⟩ := h.split
  obtain ⟨hflags, h⟩ := h.split
  obtain ⟨hoffset, h⟩ := h.split
  obtain ⟨hvaddr, h⟩ := h.split
  obtain ⟨-, h⟩ := h.split
  obtain ⟨hfilesz, h⟩ := h.split
  obtain ⟨hmemsz, halign⟩ := h.split
  simp only [length_toBytes] at hflags hoffset hvaddr hfilesz hmemsz halign
  obtain ⟨type, flags, offset, vaddr, filesz, memsz, align⟩ := p
  exact ProgramHeader.mk.injEq .. ▸ ⟨htype.word, hflags.word, hoffset.word, hvaddr.word,
    hfilesz.word, hmemsz.word, halign.word⟩

theorem length_flatMap_phdrBytes (ps : List ProgramHeader) :
    (ps.flatMap phdrBytes).length = ps.length * 56 := by
  rw [List.length_flatMap, List.map_congr_left fun p _ => length_phdrBytes p, List.map_const',
    List.sum_replicate_nat]

theorem At.phdrs {ps : List ProgramHeader} (h : At bytes o (ps.flatMap phdrBytes)) :
    ((List.range ps.length).map fun n => (fileOf bytes).phdr (o + n * 56)) = ps := by
  induction ps generalizing o with
  | nil => rfl
  | cons p ps ih =>
    rw [List.flatMap_cons] at h
    have hrest := h.split.2
    rw [length_phdrBytes] at hrest
    rw [List.length_cons, List.range_succ_eq_map, List.map_cons, List.map_map, Nat.zero_mul,
      Nat.add_zero, h.split.1.phdr]
    refine congrArg _ (Eq.trans (List.map_congr_left fun n _ => ?_) (ih hrest))
    rw [Function.comp_apply, Nat.succ_mul, Nat.add_comm (n * 56), Nat.add_assoc]

/-! ## Notes -/

structure ElfNote where
  name : List (BitVec 8)
  type : BitVec 32
  desc : List (BitVec 8)

def ElfNote.encode (n : ElfNote) : List (BitVec 8) := elfNote n.name n.type n.desc

def parseNotes : Nat → List (BitVec 8) → Option (List ElfNote)
  | 0, bytes => if bytes = [] then some [] else none
  | fuel + 1, bytes =>
    if bytes = [] then some []
    else if bytes.length < 12 then none
    else
      let nameSize := ((fileOf bytes).u32 0).toNat
      let descSize := ((fileOf bytes).u32 4).toNat
      let rest := bytes.drop 12
      let size := alignUp 4 nameSize + alignUp 4 descSize
      if rest.length < size then none
      else (parseNotes fuel (rest.drop size)).map (⟨rest.take nameSize, (fileOf bytes).u32 8,
        (rest.drop (alignUp 4 nameSize)).take descSize⟩ :: ·)

theorem length_pad (xs : List (BitVec 8)) :
    (xs ++ zeroPad xs.length).length = alignUp 4 xs.length := by
  have := le_alignUp (a := 4) (by decide) xs.length
  simp [zeroPad]
  omega

theorem length_elfNote (name : List (BitVec 8)) (type : BitVec 32) (desc : List (BitVec 8)) :
    (elfNote name type desc).length = elfNoteSize name.length desc.length := by
  have hname := length_pad name
  have hdesc := length_pad desc
  rw [List.length_append] at hname hdesc
  simp only [elfNote, elfNhdr, elfNoteSize, List.length_append, length_toBytes]
  omega

theorem parseNotes_append {n : ElfNote} (hname : n.name.length < 2 ^ 32)
    (hdesc : n.desc.length < 2 ^ 32) (rest : List (BitVec 8)) (fuel : Nat) :
    parseNotes (fuel + 1) (n.encode ++ rest) = (parseNotes fuel rest).map (n :: ·) := by
  obtain ⟨name, type, desc⟩ := n
  generalize hbytes : ElfNote.encode ⟨name, type, desc⟩ ++ rest = bytes
  have heq : bytes = elfNhdr name.length desc.length type ++ ((name ++ zeroPad name.length) ++
      ((desc ++ zeroPad desc.length) ++ rest)) := by
    rw [← hbytes]
    simp [ElfNote.encode, elfNote]
  have hhdr : (elfNhdr name.length desc.length type).length = 12 := by
    simp [elfNhdr, length_toBytes]
  have hat : At bytes 0 (elfNhdr name.length desc.length type) := ⟨[], _, rfl, heq⟩
  rw [elfNhdr, List.append_assoc] at hat
  have h0 := hat.split.1.word
  have h4 := hat.split.2.split.1
  have h8 := hat.split.2.split.2
  simp only [length_toBytes] at h4 h8
  have hdrop : bytes.drop 12 = _ := (congrArg _ heq).trans (List.drop_left' hhdr)
  have hlen : bytes.length = 12 + _ := (congrArg List.length heq).trans
    ((List.length_append).trans (by rw [hhdr]))
  have hnameSize : ((fileOf bytes).u32 0).toNat = name.length :=
    (congrArg BitVec.toNat h0).trans (Nat.mod_eq_of_lt hname)
  have hdescSize : ((fileOf bytes).u32 4).toNat = desc.length :=
    (congrArg BitVec.toNat h4.word).trans (Nat.mod_eq_of_lt hdesc)
  have htype : (fileOf bytes).u32 8 = type := h8.word
  rw [parseNotes, if_neg (fun h => by simp [h] at hlen; omega), if_neg (by omega)]
  simp only [hnameSize, hdescSize, htype, hdrop]
  have hskip : ((name ++ zeroPad name.length) ++ ((desc ++ zeroPad desc.length) ++ rest)).drop
      (alignUp 4 name.length) = (desc ++ zeroPad desc.length) ++ rest :=
    List.drop_left' (length_pad name)
  have hroom : alignUp 4 name.length + alignUp 4 desc.length ≤
      ((name ++ zeroPad name.length) ++ ((desc ++ zeroPad desc.length) ++ rest)).length := by
    rw [List.length_append, length_pad, List.length_append, length_pad]
    omega
  rw [if_neg (Nat.not_lt.mpr hroom), ← List.drop_drop, hskip, List.drop_left' (length_pad desc),
    List.append_assoc name, List.take_left, List.append_assoc desc, List.take_left]

theorem parseNotes_flatMap {notes : List ElfNote} {fuel : Nat} (hfuel : notes.length ≤ fuel)
    (h : ∀ n ∈ notes, n.name.length < 2 ^ 32 ∧ n.desc.length < 2 ^ 32) :
    parseNotes fuel (notes.flatMap ElfNote.encode) = some notes := by
  induction notes generalizing fuel with
  | nil => cases fuel <;> rfl
  | cons n notes ih =>
    obtain ⟨hn, hrest⟩ := List.forall_mem_cons.mp h
    cases fuel with
    | zero => cases hfuel
    | succ fuel =>
      rw [List.flatMap_cons, parseNotes_append hn.1 hn.2, ih (Nat.le_of_succ_le_succ hfuel) hrest]
      rfl

/-! ## Segments -/

theorem coreFileMapping_spec {ctx : CoreContext} {s : LoadSegment} {m : CoreFileMapping}
    (h : coreFileMapping ctx s = some m) :
    m.memory = m.start ∧ 0 < m.filesz ∧ m.filesz ≤ maxProgramBytes ∧ m.path.length < 4096 := by
  simp only [coreFileMapping, Option.ite_none_left_eq_some, Option.some.injEq] at h
  obtain ⟨-, hpages, -, rfl⟩ := h
  generalize alignUpU64 (s.vaddr + s.memsz) 0x1000 = pageEnd at hpages ⊢
  generalize alignDownU64 s.vaddr 0x1000 = pageVaddr at hpages ⊢
  have hcode := ctx.codeSize_le
  have hsize : (pageEnd - pageVaddr).toNat = pageEnd.toNat - pageVaddr.toNat :=
    BitVec.toNat_sub_of_le (BitVec.le_def.mpr (by omega))
  have hspan : (pageEnd - ctx.program.baseVaddr).toNat =
      pageEnd.toNat - ctx.program.baseVaddr.toNat :=
    BitVec.toNat_sub_of_le (BitVec.le_def.mpr (by omega))
  have hmemory : ctx.loadedImage + (pageVaddr - ctx.program.baseVaddr) =
      ctx.loadedImage - ctx.program.baseVaddr + pageVaddr := by bv_omega
  exact ⟨hmemory, by show 0 < (pageEnd - pageVaddr).toNat; omega,
    by show (pageEnd - pageVaddr).toNat ≤ _; omega, ctx.path_lt⟩

theorem stackPages_le (isMapped : BitVec 64 → Bool) (start : BitVec 64) (n bytes : Nat) :
    stackPages isMapped start n bytes ≤ bytes + n * 0x1000 := by
  induction n generalizing bytes with
  | zero => exact Nat.le_refl _
  | succ n ih =>
    rw [stackPages]
    split
    · have := ih (bytes + 0x1000)
      omega
    · omega

namespace CoreRequest

variable (r : CoreRequest)

theorem fileMappings_spec {m : CoreFileMapping} (h : m ∈ r.fileMappings) :
    m.memory = m.start ∧ 0 < m.filesz ∧ m.filesz ≤ maxProgramBytes ∧ m.path.length < 4096 := by
  unfold fileMappings at h
  split at h
  · cases h
  · obtain ⟨s, -, hs⟩ := List.mem_filterMap.mp (List.mem_of_mem_take h)
    exact coreFileMapping_spec hs

theorem length_fileMappings : r.fileMappings.length ≤ 16 := by
  unfold fileMappings
  split
  · exact Nat.zero_le _
  · exact List.length_take_le _ _

theorem guestStackCoreRange_le : r.guestStackCoreRange.1 ≤ maxProgramBytes := by
  simp only [guestStackCoreRange]
  generalize (if r.sp = 0 ∧ r.frontend = frontendOf .aarch64 then r.aarch64Sp
    else if r.sp = 0 ∧ r.frontend = frontendOf .riscv then r.riscvSp else r.sp) = sp
  have hle := stackPages_le r.isMapped (alignDownU64 sp 0x1000) (64 * 1024 / 0x1000) 0
  split
  · exact Nat.zero_le _
  split
  · exact Nat.zero_le _
  · exact Nat.le_trans hle (by decide)

theorem loads_spec {l : CoreLoad} (h : l ∈ r.loads) :
    l.memory = l.vaddr ∧ 0 < l.filesz ∧ l.filesz ≤ maxProgramBytes := by
  rcases List.mem_append.mp h with h | h
  · obtain ⟨m, hm, rfl⟩ := List.mem_map.mp h
    obtain ⟨hmemory, hpos, hle, -⟩ := r.fileMappings_spec hm
    exact ⟨hmemory, hpos, hle⟩
  · split at h
    · rename_i hne
      cases List.mem_singleton.mp h
      exact ⟨rfl, Nat.pos_of_ne_zero hne, r.guestStackCoreRange_le⟩
    · cases h

theorem map_snd_placeLoads (next : Nat) (loads : List CoreLoad) :
    (placeLoads next loads).map Prod.snd = loads := by
  induction loads generalizing next with
  | nil => rfl
  | cons l loads ih => simp [placeLoads, ih]

theorem length_placed : r.placed.length = r.loads.length := by
  rw [← List.length_map Prod.snd, placed, map_snd_placeLoads]

theorem length_phdrs : r.phdrs.length = r.phnum.toNat ∧ r.phdrs.length ≤ 18 := by
  have hle := r.length_fileMappings
  have hloads : r.loads.length =
      r.fileMappings.length + if r.guestStackCoreRange.1 ≠ 0 then 1 else 0 := by
    rw [loads, List.length_append, List.length_map]
    split <;> rfl
  have hone : (if r.guestStackCoreRange.1 ≠ 0 then 1 else 0) ≤ 1 := by
    split <;> decide
  rw [phdrs, List.length_cons, List.length_map, length_placed, hloads, phnum, BitVec.toNat_ofNat]
  omega

theorem writeLoads (loads : List CoreLoad) (next : Nat) (file : List (BitVec 8))
    (hpos : ∀ l ∈ loads, 0 < l.filesz) (hnext : 0x1000 ∣ next) (hfile : file.length ≤ next) :
    ∃ more, (placeLoads next loads).foldlM r.writeCoreLoadSegment file = some (file ++ more) ∧
      (∀ p ∈ placeLoads next loads, p.2 ∈ loads ∧ next ≤ p.1 ∧ 0x1000 ∣ p.1 ∧
        At (file ++ more) p.1 (r.memoryBytes p.2)) ∧
      (placeLoads next loads).Pairwise (fun p q => p.1 + p.2.filesz ≤ q.1) ∧
      (file ++ more).length ≤ next + (loads.map fun l => l.filesz + 0x1000).sum := by
  induction loads generalizing next file with
  | nil => exact ⟨[], by simp [placeLoads], by simp [placeLoads], by simp [placeLoads], by simpa⟩
  | cons l loads ih =>
    obtain ⟨hl, hloads⟩ := List.forall_mem_cons.mp hpos
    let pad := List.replicate (next - file.length) (0 : BitVec 8)
    have hpad : (file ++ pad).length = next := by simp [pad]; omega
    have hmem : (r.memoryBytes l).length = l.filesz := by simp [memoryBytes]
    have hwrite : r.writeCoreLoadSegment file (next, l) = some (file ++ pad ++ r.memoryBytes l) := by
      simp [writeCoreLoadSegment, writeZeroPaddingToOffset, pad, Nat.ne_of_gt hl,
        Nat.not_lt.mpr hfile]
    -- The next segment starts after this one.
    have hge := le_alignUp (a := 0x1000) (by decide) (next + l.filesz)
    have hlt := alignUp_lt (a := 0x1000) (by decide) (next + l.filesz)
    obtain ⟨more, hfold, hall, hpair, hlen⟩ := ih (alignUp 0x1000 (next + l.filesz))
      (file ++ pad ++ r.memoryBytes l) hloads (dvd_alignUp _ _) (by
        rw [List.length_append, hpad, hmem]
        exact hge)
    have hat : At (file ++ pad ++ r.memoryBytes l ++ more) next (r.memoryBytes l) :=
      hpad ▸ at_append (file ++ pad) (r.memoryBytes l) more
    refine ⟨pad ++ r.memoryBytes l ++ more, ?_, ?_, ?_, ?_⟩
    · rw [placeLoads, List.foldlM_cons, hwrite]
      exact hfold.trans (by simp)
    · rw [placeLoads, List.forall_mem_cons, ← List.append_assoc, ← List.append_assoc]
      refine ⟨⟨List.mem_cons_self, Nat.le_refl _, hnext, hat⟩, fun p hp => ?_⟩
      obtain ⟨hin, hle, hdvd, hp⟩ := hall p hp
      exact ⟨List.mem_cons_of_mem _ hin, by omega, hdvd, hp⟩
    · rw [placeLoads, List.pairwise_cons]
      refine ⟨fun p hp => ?_, hpair⟩
      have := (hall p hp).2.1
      show next + l.filesz ≤ p.1
      omega
    · rw [← List.append_assoc, ← List.append_assoc, List.map_cons, List.sum_cons]
      omega

/-! ## The notes of a request -/

def ntFileDesc (mappings : List CoreFileMapping) : List (BitVec 8) :=
  toBytes 8 (BitVec.ofNat 64 mappings.length) ++ toBytes 8 0x1000#64 ++
    (mappings.flatMap fun m =>
      toBytes 8 m.start ++ toBytes 8 m.endAddr ++ toBytes 8 m.filePageOffset) ++
    mappings.flatMap fun m => m.path ++ [0]

def coreNotes : List ElfNote :=
  (r.prstatus.map fun s => ⟨coreNoteName, 1, s⟩).toList ++
    [⟨coreNoteName, 0x53494749, r.siginfo.1⟩, ⟨coreNoteName, 3, r.prpsinfo.1⟩,
      ⟨coreNoteName, 6, auxv⟩] ++
    (if r.fileMappings.length = 0 then []
    else [⟨coreNoteName, 0x46494c45, ntFileDesc r.fileMappings⟩]) ++
    [⟨polyNoteName, 0x32564744, r.note.1⟩]

section

variable {mappings : List CoreFileMapping} (h : mappings.length ≠ 0)

include h

theorem length_ntFileDesc : (ntFileDesc mappings).length = coreNtFileDescSize mappings := by
  have hentries : (mappings.map fun m => (toBytes 8 m.start ++ toBytes 8 m.endAddr ++
      toBytes 8 m.filePageOffset).length).sum = mappings.length * 24 := by
    simp only [List.length_append, length_toBytes, List.map_const', List.sum_replicate_nat]
  simp only [ntFileDesc, coreNtFileDescSize, if_neg h, List.length_append, List.length_flatMap,
    length_toBytes, List.length_singleton] at hentries ⊢
  omega

theorem elfNtFileNote_eq :
    elfNtFileNote mappings = elfNote coreNoteName 0x46494c45 (ntFileDesc mappings) := by
  rw [elfNtFileNote, if_neg h, elfNote, length_ntFileDesc h]
  simp [ntFileDesc, coreNoteName]

end

theorem sum_map_le {α : Type} {f : α → Nat} {b : Nat} {l : List α} (h : ∀ x ∈ l, f x ≤ b) :
    (l.map f).sum ≤ l.length * b := by
  induction l with
  | nil => simp
  | cons x l ih =>
    obtain ⟨hx, hl⟩ := List.forall_mem_cons.mp h
    rw [List.map_cons, List.sum_cons, List.length_cons, Nat.succ_mul]
    have := ih hl
    omega

theorem coreNtFileDescSize_le : coreNtFileDescSize r.fileMappings ≤ 65936 := by
  have hlen := r.length_fileMappings
  have hsum : (r.fileMappings.map fun m => m.path.length + 1).sum ≤ r.fileMappings.length * 4096 :=
    sum_map_le fun m hm => (r.fileMappings_spec hm).2.2.2
  unfold coreNtFileDescSize
  split <;> omega

theorem noteBytes_eq : r.noteBytes = r.coreNotes.flatMap ElfNote.encode := by
  have hfile : elfNtFileNote r.fileMappings =
      (if r.fileMappings.length = 0 then []
      else [⟨coreNoteName, 0x46494c45, ntFileDesc r.fileMappings⟩]).flatMap ElfNote.encode := by
    split
    · rename_i hzero
      rw [elfNtFileNote, if_pos hzero]
      rfl
    · rename_i hne
      rw [List.flatMap_singleton, ElfNote.encode, elfNtFileNote_eq hne]
  rw [noteBytes, coreNotes, hfile]
  cases r.prstatus <;> simp [ElfNote.encode]

theorem prstatus_length {s : List (BitVec 8)} (h : r.prstatus = some s) : s.length ≤ 392 := by
  unfold prstatus at h
  split at h
  · cases h
    exact Nat.le_of_eq r.aarch64Status.2
  split at h
  · cases h
    exact Nat.le_trans (Nat.le_of_eq r.riscvStatus.2) (by decide)
  · cases h

theorem coreNotes_small {n : ElfNote} (h : n ∈ r.coreNotes) :
    n.name.length = 5 ∧ n.desc.length ≤ 65936 := by
  have hle := r.coreNtFileDescSize_le
  simp only [coreNotes, List.mem_append, List.mem_cons, List.not_mem_nil, or_false,
    Option.mem_toList, Option.map_eq_some_iff] at h
  rcases h with ((⟨s, hs, rfl⟩ | rfl | rfl | rfl) | h) | rfl
  · exact ⟨rfl, Nat.le_trans (r.prstatus_length hs) (by decide)⟩
  · exact ⟨rfl, Nat.le_trans (Nat.le_of_eq r.siginfo.2) (by decide)⟩
  · exact ⟨rfl, Nat.le_trans (Nat.le_of_eq r.prpsinfo.2) (by decide)⟩
  · exact ⟨rfl, by decide⟩
  · split at h
    · cases h
    · rename_i hne
      cases List.mem_singleton.mp h
      exact ⟨rfl, Nat.le_trans (Nat.le_of_eq (length_ntFileDesc hne)) hle⟩
  · exact ⟨rfl, Nat.le_trans (Nat.le_of_eq r.note.2) (by decide)⟩

/-- The size that is computed before is that of the notes. -/
theorem noteFilesz_eq : r.noteFilesz =
    (r.coreNotes.map fun n => elfNoteSize n.name.length n.desc.length).sum := by
  have hfile : (if r.fileMappings.length ≠ 0 then
      elfNoteSize 5 (coreNtFileDescSize r.fileMappings) else 0) =
        ((if r.fileMappings.length = 0 then [] else
          [(⟨coreNoteName, 0x46494c45, ntFileDesc r.fileMappings⟩ : ElfNote)]).map
            fun n => elfNoteSize n.name.length n.desc.length).sum := by
    by_cases hzero : r.fileMappings.length = 0
    · rw [if_neg (not_not.mpr hzero), if_pos hzero]
      rfl
    · rw [if_pos hzero, if_neg hzero, ← length_ntFileDesc hzero]
      rfl
  simp only [noteFilesz, coreNotes, hfile, List.map_append, List.sum_append, List.map_cons,
    List.map_nil, List.sum_cons, List.sum_nil, r.siginfo.2, r.prpsinfo.2, r.note.2]
  cases r.prstatus <;> simp [coreNoteName, polyNoteName, auxv] <;> omega

theorem length_noteBytes : r.noteBytes.length = r.noteFilesz := by
  rw [noteBytes_eq, noteFilesz_eq, List.length_flatMap]
  exact congrArg _ (List.map_congr_left fun n _ => length_elfNote ..)

theorem length_coreNotes : r.coreNotes.length ≤ 6 := by
  have hstatus : (r.prstatus.map fun s => (⟨coreNoteName, 1, s⟩ : ElfNote)).toList.length ≤ 1 := by
    cases r.prstatus <;> simp
  simp only [coreNotes, List.length_append, List.length_cons, List.length_nil]
  split
  · simp only [List.length_nil]
    omega
  · simp only [List.length_cons, List.length_nil]
    omega

theorem noteFilesz_le : r.noteFilesz ≤ 2 ^ 20 := by
  have hsize : ∀ n ∈ r.coreNotes, elfNoteSize n.name.length n.desc.length ≤ 65960 := by
    intro n hn
    obtain ⟨hname, hdesc⟩ := r.coreNotes_small hn
    have hlt := alignUp_lt (a := 4) (by decide) n.desc.length
    have h5 : alignUp 4 5 = 8 := by decide
    rw [elfNoteSize, hname, h5]
    omega
  have hsum := sum_map_le hsize
  have hlen := r.length_coreNotes
  rw [noteFilesz_eq]
  omega

theorem length_ehdrBytes : r.ehdrBytes.length = 64 := by
  simp [ehdrBytes, length_toBytes]

theorem phdrs_of_at {file : List (BitVec 8)}
    (h : At file 0 (r.ehdrBytes ++ r.phdrs.flatMap phdrBytes)) :
    (fileOf file).ehdr.phnum = r.phnum ∧ (fileOf file).phdrs = r.phdrs := by
  obtain ⟨hehdr, hphdrs⟩ := h.split
  rw [length_ehdrBytes] at hphdrs
  simp only [ehdrBytes, List.append_assoc] at hehdr
  have hphoff := hehdr.split.2.split.2.split.2.split.2.split.2.split
  have hphent := hphoff.2.split.2.split.2.split.2.split
  have hphnum := hphent.2.split.1
  simp only [length_toBytes, List.length_cons, List.length_nil] at hphoff hphent hphnum
  have h32 : (fileOf file).u64 32 = 64#64 := hphoff.1.word
  have h54 : (fileOf file).u16 54 = 56#16 := hphent.1.word
  have h56 : (fileOf file).u16 56 = r.phnum := hphnum.word
  refine ⟨h56, ?_⟩
  simp only [ElfFile.phdrs, ElfFile.ehdr, h32, h54, h56, ← r.length_phdrs.1]
  exact hphdrs.phdrs

def beforeLoads : List (BitVec 8) := r.ehdrBytes ++ r.phdrs.flatMap phdrBytes ++ r.noteBytes

theorem length_headers : (r.ehdrBytes ++ r.phdrs.flatMap phdrBytes).length = r.noteOffset := by
  rw [List.length_append, length_ehdrBytes, length_flatMap_phdrBytes, r.length_phdrs.1]
  rfl

theorem length_beforeLoads : r.beforeLoads.length = r.noteOffset + r.noteFilesz := by
  rw [beforeLoads, List.length_append, length_headers, length_noteBytes]

theorem writeFatalDebugNoteElf_eq : r.writeFatalDebugNoteElf =
    r.placed.foldlM r.writeCoreLoadSegment r.beforeLoads := by
  have htake : (r.phdrs.flatMap phdrBytes).take (r.phnum.toNat * phdrSize) =
      r.phdrs.flatMap phdrBytes :=
    List.take_of_length_le (by rw [length_flatMap_phdrBytes, r.length_phdrs.1]; exact Nat.le_refl _)
  rw [writeFatalDebugNoteElf, htake, beforeLoads]

theorem writeFatalDebugNoteElf_spec :
    ∃ file, r.writeFatalDebugNoteElf = some file ∧ file.length < 2 ^ 63 ∧
      At file 0 r.beforeLoads ∧
      (∀ p ∈ r.placed, p.2 ∈ r.loads ∧ r.noteOffset + r.noteFilesz ≤ p.1 ∧ 0x1000 ∣ p.1 ∧
        At file p.1 (r.memoryBytes p.2)) ∧
      r.placed.Pairwise fun p q => p.1 + p.2.filesz ≤ q.1 := by
  have hge := le_alignUp (a := 0x1000) (by decide) (r.noteOffset + r.noteFilesz)
  have hlt := alignUp_lt (a := 0x1000) (by decide) (r.noteOffset + r.noteFilesz)
  obtain ⟨more, hfold, hall, hpair, hlen⟩ := r.writeLoads r.loads _ r.beforeLoads
    (fun l hl => (r.loads_spec hl).2.1) (dvd_alignUp _ _)
    (Nat.le_trans (Nat.le_of_eq r.length_beforeLoads) hge)
  refine ⟨_, r.writeFatalDebugNoteElf_eq.trans hfold, ?_, ⟨[], more, rfl, rfl⟩, fun p hp => ?_,
    hpair⟩
  · have hsum := sum_map_le (f := fun l : CoreLoad => l.filesz + 0x1000)
      (b := maxProgramBytes + 0x1000) fun l hl => Nat.add_le_add_right (r.loads_spec hl).2.2 _
    obtain ⟨hphnum, hphdrs⟩ := r.length_phdrs
    have hcount : r.loads.length < 18 := by
      rw [phdrs, List.length_cons, List.length_map, length_placed] at hphdrs
      exact hphdrs
    have hbound : r.loads.length * (maxProgramBytes + 0x1000) ≤ 18 * (maxProgramBytes + 0x1000) :=
      Nat.mul_le_mul_right _ (Nat.le_of_lt hcount)
    have hmax : maxProgramBytes = 134217728 := rfl
    have hnote := r.noteFilesz_le
    have hoffset : r.noteOffset = 64 + r.phdrs.length * 56 := by rw [hphnum]; rfl
    omega
  · obtain ⟨hmem, hle, hdvd, hat⟩ := hall p hp
    exact ⟨hmem, Nat.le_trans hge hle, hdvd, hat⟩

/-- For every debug note, program and memory, the core file is written without a step back. Its
headers are all there, counted by `e_phnum`, the notes follow them and fill the `PT_NOTE` segment,
and the segments of memory start on pages behind them, with the memory that their headers name. -/
theorem core_file_geometry : ∃ file note loads,
    r.writeFatalDebugNoteElf = some file ∧ file.length < 2 ^ 63 ∧
    (fileOf file).ehdr.phnum.toNat = r.phdrs.length ∧ (fileOf file).phdrs = r.phdrs ∧
    r.phdrs = note :: loads ∧ note.type = ptNote ∧
    note.offset.toNat = ehdrSize + r.phdrs.length * phdrSize ∧
    parseNotes file.length ((fileOf file).bytes note.offset.toNat note.filesz.toNat) =
      some r.coreNotes ∧
    (∀ p ∈ loads, p.type = ptLoad ∧ p.offset.toNat % 0x1000 = 0 ∧ 0 < p.filesz.toNat ∧
      note.offset.toNat + note.filesz.toNat ≤ p.offset.toNat ∧
      p.offset.toNat + p.filesz.toNat ≤ file.length ∧
      (fileOf file).bytes p.offset.toNat p.filesz.toNat =
        (List.range p.filesz.toNat).map fun i => r.memory (p.vaddr + BitVec.ofNat 64 i)) ∧
    loads.map (fun p => (p.vaddr, p.filesz.toNat)) = r.loads.map (fun l => (l.vaddr, l.filesz)) ∧
    loads.Pairwise fun p q =>
      p.offset.toNat < q.offset.toNat ∧ p.offset.toNat + p.filesz.toNat ≤ q.offset.toNat := by
  obtain ⟨file, hwrite, hsize, hhead, hall, hpair⟩ := r.writeFatalDebugNoteElf_spec
  have hnotes := hhead.split.2
  obtain ⟨hphnum, hphdrs⟩ := r.phdrs_of_at hhead.split.1
  rw [length_headers, Nat.zero_add] at hnotes
  have hend := hnotes.le
  rw [length_noteBytes] at hend
  have hoffset : (BitVec.ofNat 64 r.noteOffset).toNat = r.noteOffset :=
    toNat_ofNat_of_lt (by omega)
  have hfilesz : (BitVec.ofNat 64 r.noteFilesz).toNat = r.noteFilesz :=
    toNat_ofNat_of_lt (by omega)
  -- The headers of the segments have the offsets and sizes as they are.
  have hload : ∀ p ∈ r.placed, (loadPhdr p).offset.toNat = p.1 ∧
      (loadPhdr p).filesz.toNat = p.2.filesz ∧ p.1 + p.2.filesz ≤ file.length := by
    intro p hp
    have hle := (hall p hp).2.2.2.le
    rw [memoryBytes, List.length_map, List.length_range] at hle
    exact ⟨toNat_ofNat_of_lt (by omega), toNat_ofNat_of_lt (by omega), hle⟩
  refine ⟨file, _, r.placed.map loadPhdr, hwrite, hsize, by rw [hphnum, r.length_phdrs.1], hphdrs,
    rfl, rfl, ?_, ?_, ?_, ?_, ?_⟩
  · rw [hoffset, r.length_phdrs.1]
    rfl
  · have hsmall : ∀ n ∈ r.coreNotes, n.name.length < 2 ^ 32 ∧ n.desc.length < 2 ^ 32 := by
      intro n hn
      have := r.coreNotes_small hn
      omega
    rw [hoffset, hfilesz, ← length_noteBytes, hnotes.bytes_eq, noteBytes_eq]
    refine parseNotes_flatMap (Nat.le_trans r.length_coreNotes ?_) hsmall
    have : 64 ≤ r.noteOffset := Nat.le_add_right _ _
    omega
  · intro q hq
    obtain ⟨p, hp, rfl⟩ := List.mem_map.mp hq
    obtain ⟨hmem, hafter, hdvd, hat⟩ := hall p hp
    obtain ⟨ho, hf, hle⟩ := hload p hp
    obtain ⟨haddr, hpos, -⟩ := r.loads_spec hmem
    rw [ho, hf, hoffset, hfilesz]
    refine ⟨rfl, Nat.mod_eq_zero_of_dvd hdvd, hpos, hafter, hle, ?_⟩
    have hbytes := hat.bytes_eq
    rw [memoryBytes, List.length_map, List.length_range, haddr] at hbytes
    exact hbytes
  · rw [List.map_map, ← map_snd_placeLoads _ r.loads, List.map_map]
    exact List.map_congr_left fun p hp => Prod.ext rfl (hload p hp).2.1
  · refine List.pairwise_map.mpr (hpair.imp_of_mem fun {p q} hp hq hpq => ?_)
    have hpos := (r.loads_spec (hall p hp).1).2.1
    rw [(hload p hp).1, (hload p hp).2.1, (hload q hq).1]
    exact ⟨by omega, hpq⟩

/-- A program with one segment of a page, and a stack of two pages. -/
def mappedRequest : CoreRequest where
  note := ⟨List.replicate 9216 0, List.length_replicate⟩
  frontend := frontendOf .aarch64
  sp := 0x7fffe100
  aarch64Sp := 0
  riscvSp := 0
  siginfo := ⟨List.replicate 128 0, List.length_replicate⟩
  aarch64Status := ⟨List.replicate 392 0, List.length_replicate⟩
  riscvStatus := ⟨List.replicate 376 0, List.length_replicate⟩
  prpsinfo := ⟨List.replicate 136 0, List.length_replicate⟩
  context := some
    { program :=
        { arch := .aarch64
          isEtExec := false
          baseVaddr := 0x400000
          codeSize := 0x1000
          codeBytes := fun _ => 0
          entryOffset := 0
          phent := 56
          phnum := 1
          scan := { loadSegments := [⟨0x400000, 0, 288, 288, 5⟩] }
          dynamic := {} }
      loadedImage := 0x500000
      path := [0x2f, 0x61]
      codeSize_le := by decide
      path_lt := by decide }
  isMapped a := a < 0x80000000
  memory a := a.setWidth 8

theorem core_file_geometry_mapped : ∃ file note loads,
    mappedRequest.writeFatalDebugNoteElf = some file ∧ (fileOf file).phdrs = note :: loads ∧
      loads.map (fun p => (p.vaddr, p.filesz.toNat)) =
        [(0x500000, 0x1000), (0x7fffe000, 0x2000)] ∧
      ∀ p ∈ loads, (fileOf file).bytes p.offset.toNat p.filesz.toNat =
        (List.range p.filesz.toNat).map fun i => (p.vaddr + BitVec.ofNat 64 i).setWidth 8 := by
  obtain ⟨file, note, loads, hfile, -, -, hphdrs, heq, -, -, -, hbytes, hloads, -⟩ :=
    mappedRequest.core_file_geometry
  have hsegments : mappedRequest.loads.map (fun l => (l.vaddr, l.filesz)) =
      [(0x500000, 0x1000), (0x7fffe000, 0x2000)] := by decide +kernel
  exact ⟨file, note, loads, hfile, hphdrs.trans heq, hloads.trans hsegments,
    fun p hp => (hbytes p hp).2.2.2.2.2⟩

end CoreRequest

end Poly.Polyexec
