import Mathlib.Data.List.Pairwise
import Armd64.Polyexec.Tls
import Armd64.Proofs.ElfLoad
import Armd64.Proofs.InitOrder

/-!
# The layout of thread-local storage

* `alignUpSize_eq_some`: the alignment is a power of two, and rounds up.
* `reserve_spec`: the ranges of a list of programs stand one after another.
* `copies_placed`: copies to ranges that do not overlap keep each other's bytes.
* `tls_layout`: the block of a process.
-/

namespace Poly.Polyexec

open Hw

/-! ## The segment of a program -/

/-- The file size that the first pass found is not above the memory size. -/
def HeaderScan.TlsFits (s : HeaderScan) : Prop := s.tlsFilesz.toNat ≤ s.tlsMemsz.toNat

variable {f : ElfFile} {s s' : HeaderScan} {ph : ProgramHeader}

theorem scanInterp_tlsFits (h : scanInterp f s ph = .ok s') (hs : s.TlsFits) : s'.TlsFits := by
  rw [scanInterp] at h
  split at h <;> cases h
  exact hs

theorem scanLoad_tlsFits (h : scanLoad f s ph = .ok s') (hs : s.TlsFits) : s'.TlsFits := by
  rw [scanLoad] at h
  split at h
  · cases h
  split at h <;> cases h
  exact hs

theorem scanTls_tlsFits (h : scanTls f s ph = .ok s') : s'.TlsFits := by
  rw [scanTls] at h
  split at h
  · cases h
  · rename_i hok
    cases h
    exact Nat.le_of_not_lt fun hlt => hok (.inl hlt)

theorem scanPhdr_tlsFits (h : scanPhdr f s ph = .ok s') (hs : s.TlsFits) : s'.TlsFits := by
  cases scanPhdr_exit h with
  | phdr => exact hs
  | dynamic => exact hs
  | interp _ h => exact scanInterp_tlsFits h hs
  | relro => exact hs
  | note => exact hs
  | tls _ h => exact scanTls_tlsFits h
  | load _ h => exact scanLoad_tlsFits h hs
  | other => exact hs

theorem scan_tlsFits {phs : List ProgramHeader} (h : phs.foldlM (scanPhdr f) s = .ok s')
    (hs : s.TlsFits) : s'.TlsFits := by
  induction phs generalizing s with
  | nil =>
    cases h
    exact hs
  | cons ph phs ih =>
    obtain ⟨s₁, hs₁, h⟩ := except_bind_eq_ok.mp h
    exact ih h (scanPhdr_tlsFits hs₁ hs)

theorem tlsFits_of_load {symbolName : List (BitVec 8)} {p : ElfProgram}
    (h : loadElfProgram f symbolName = .ok p) : p.scan.TlsFits := by
  obtain ⟨arch, -, h⟩ := except_bind_eq_ok.mp h
  obtain ⟨s, hscan, h⟩ := except_bind_eq_ok.mp h
  obtain ⟨r, -, h⟩ := except_bind_eq_ok.mp h
  obtain ⟨code, -, h⟩ := except_bind_eq_ok.mp h
  split at h
  · cases h
  obtain ⟨offset, -, h⟩ := except_bind_eq_ok.mp h
  obtain ⟨dynamic, -, h⟩ := except_bind_eq_ok.mp h
  cases h
  exact scan_tlsFits hscan (Nat.le_refl 0)

def tlsOfLoad {symbolName : List (BitVec 8)} {p : ElfProgram}
    (h : loadElfProgram f symbolName = .ok p) : TlsSegment :=
  p.scan.tlsSegment (tlsFits_of_load h)

/-! ## Ranges -/

theorem alignUpSize_eq_some {value alignment aligned : BitVec 64} (h0 : alignment ≠ 0)
    (h : alignUpSize value alignment = some aligned) :
    alignment.toNat ∣ aligned.toNat ∧ value.toNat ≤ aligned.toNat := by
  have hpos : alignment.toNat ≠ 0 := fun heq => h0 (BitVec.eq_of_toNat_eq heq)
  unfold alignUpSize at h
  split at h
  · cases h
    rw [show alignment.toNat = 1 by omega]
    exact ⟨Nat.one_dvd _, Nat.le_refl _⟩
  split at h
  · cases h
  rename_i hchecks
  rw [not_or, not_not] at hchecks
  obtain ⟨hand, hroom⟩ := hchecks
  have hones : (BitVec.allOnes 64).toNat = 2 ^ 64 - 1 := BitVec.toNat_allOnes
  have hsub : (alignment - 1).toNat = alignment.toNat - 1 := by bv_omega
  have hsum : (value + alignment - 1).toNat = value.toNat + (alignment.toNat - 1) := by
    bv_omega
  have hpow : alignment.toNat &&& (alignment.toNat - 1) = 0 := by
    rw [← hsub, ← BitVec.toNat_and, hand]
    rfl
  obtain ⟨k, hk⟩ := (Nat.and_sub_one_eq_zero_iff_isPowerOfTwo hpos).mp hpow
  have hmask : alignment - 1 = (BitVec.allOnes k).setWidth 64 := by
    refine BitVec.eq_of_toNat_eq ?_
    rw [hsub, hk, BitVec.toNat_setWidth, BitVec.toNat_allOnes, Nat.mod_eq_of_lt (by omega)]
  cases h
  rw [toNat_and_not_mask hmask, hsum, hk]
  exact ⟨dvd_alignUp _ _, le_alignUp (Nat.two_pow_pos k) _⟩

theorem TlsSegment.alignment_ne_zero (t : TlsSegment) : t.alignment ≠ 0 := by
  unfold TlsSegment.alignment
  split
  · assumption
  · decide

/-- A range with bytes: it starts after the ranges before it, at a multiple of the alignment, and
the block stays in its limit. -/
structure Reserved (totalSize : BitVec 64) (t : TlsSegment) (totalSize' offset : BitVec 64) :
    Prop where
  dvd : t.alignment.toNat ∣ offset.toNat
  le : totalSize.toNat ≤ offset.toNat
  total : totalSize'.toNat = offset.toNat + t.memsz.toNat
  limit : totalSize'.toNat ≤ maxProcessTlsBytes

theorem reserveProcessTlsRange_eq_some {totalSize totalSize' offset : BitVec 64} {t : TlsSegment}
    (hmemsz : t.memsz ≠ 0)
    (h : reserveProcessTlsRange totalSize t = some (totalSize', offset)) :
    Reserved totalSize t totalSize' offset := by
  unfold reserveProcessTlsRange at h
  rw [if_neg hmemsz] at h
  split at h
  · cases h
  split at h
  · cases h
  rename_i aligned haligned
  split at h
  · cases h
  have hmax : maxProcessTlsBytes = 65536 := rfl
  obtain ⟨hdvd, hle⟩ := alignUpSize_eq_some t.alignment_ne_zero haligned
  cases h
  have hsum : (offset + t.memsz).toNat = offset.toNat + t.memsz.toNat := by
    rw [BitVec.toNat_add, Nat.mod_eq_of_lt (by omega)]
  exact ⟨hdvd, hle, hsum, by omega⟩

section

variable {tls : Nat → TlsSegment} {s s' : TlsLayout} {p : Nat} {ps : List Nat}

theorem reserveProgram_eq_some (h : reserveProgram tls s p = some s') :
    reserveProcessTlsRange s.totalSize (tls p) = some (s'.totalSize, s'.offset p) ∧
      ∀ q, q ≠ p → s'.offset q = s.offset q := by
  obtain ⟨⟨totalSize, offset⟩, hrange, h⟩ := Option.bind_eq_some_iff.mp h
  cases h
  refine ⟨?_, fun q hq => if_neg hq⟩
  dsimp only
  rw [if_pos rfl, hrange]

def tlsPrograms (tls : Nat → TlsSegment) (ps : List Nat) : List Nat :=
  ps.filter fun p => (tls p).memsz ≠ 0

theorem mem_tlsPrograms_self (hmemsz : (tls p).memsz ≠ 0) : p ∈ tlsPrograms tls (p :: ps) :=
  List.mem_filter.mpr ⟨List.mem_cons_self, decide_eq_true hmemsz⟩

theorem mem_tlsPrograms_of_mem {q : Nat} (hq : q ∈ tlsPrograms tls ps) :
    q ∈ tlsPrograms tls (p :: ps) := by
  have hq := List.mem_filter.mp hq
  exact List.mem_filter.mpr ⟨List.mem_cons_of_mem _ hq.1, hq.2⟩

def tlsRange (tls : Nat → TlsSegment) (s : TlsLayout) (p : Nat) : Nat × Nat :=
  ((s.offset p).toNat, (tls p).memsz.toNat)

/-- The ranges of the programs of a list stand one after another, from the size of the block before
them to the size after them. -/
structure ReservedAll (tls : Nat → TlsSegment) (ps : List Nat) (s s' : TlsLayout) : Prop where
  other : ∀ p, p ∉ ps → s'.offset p = s.offset p
  dvd : ∀ p ∈ tlsPrograms tls ps, (tls p).alignment.toNat ∣ (s'.offset p).toNat
  packed : Packed ((tlsPrograms tls ps).map (tlsRange tls s')) s.totalSize.toNat
    s'.totalSize.toNat
  limit : s.totalSize.toNat ≤ maxProcessTlsBytes → s'.totalSize.toNat ≤ maxProcessTlsBytes

theorem reserve_spec (hnodup : ps.Nodup) (h : ps.foldlM (reserveProgram tls) s = some s') :
    ReservedAll tls ps s s' := by
  induction ps generalizing s with
  | nil =>
    cases h
    exact ⟨fun _ _ => rfl, fun _ hp => absurd hp List.not_mem_nil, Nat.le_refl _, id⟩
  | cons p ps ih =>
    obtain ⟨s₁, hs₁, h⟩ := Option.bind_eq_some_iff.mp h
    obtain ⟨hp, hnodup⟩ := List.nodup_cons.mp hnodup
    obtain ⟨hrange, hsame⟩ := reserveProgram_eq_some hs₁
    have hrest := ih hnodup h
    have hother : ∀ q, q ∉ p :: ps → s'.offset q = s.offset q := by
      intro q hq
      rw [List.mem_cons, not_or] at hq
      rw [hrest.other q hq.2, hsame q hq.1]
    by_cases hmemsz : (tls p).memsz = 0
    · -- No range, and the block keeps its size.
      have hprograms : tlsPrograms tls (p :: ps) = tlsPrograms tls ps :=
        List.filter_cons_of_neg (by simp [hmemsz])
      have htotal : s₁.totalSize = s.totalSize := by
        rw [reserveProcessTlsRange, if_pos hmemsz] at hrange
        exact (congrArg Prod.fst (Option.some.inj hrange)).symm
      refine ⟨hother, ?_, ?_, htotal ▸ hrest.limit⟩
      · rw [hprograms]
        exact hrest.dvd
      · rw [hprograms, ← htotal]
        exact hrest.packed
    · have hprograms : tlsPrograms tls (p :: ps) = p :: tlsPrograms tls ps :=
        List.filter_cons_of_pos (decide_eq_true hmemsz)
      have hreserved := reserveProcessTlsRange_eq_some hmemsz hrange
      rw [← hrest.other p hp] at hreserved
      refine ⟨hother, ?_, ?_, fun _ => hrest.limit hreserved.limit⟩
      · rw [hprograms]
        exact List.forall_mem_cons.mpr ⟨hreserved.dvd, hrest.dvd⟩
      · rw [hprograms, List.map_cons]
        refine ⟨hreserved.le, ?_⟩
        show Packed _ ((s'.offset p).toNat + (tls p).memsz.toNat) _
        rw [← hreserved.total]
        exact hrest.packed

def RangesApart (r r' : Nat × Nat) : Prop := r.1 + r.2 ≤ r'.1 ∨ r'.1 + r'.2 ≤ r.1

theorem ReservedAll.apart (h : ReservedAll tls ps s s') {p q : Nat} (hp : p ∈ tlsPrograms tls ps)
    (hq : q ∈ tlsPrograms tls ps) (hne : p ≠ q) :
    RangesApart (tlsRange tls s' p) (tlsRange tls s' q) := by
  have hpairwise : (tlsPrograms tls ps).Pairwise fun p q =>
      RangesApart (tlsRange tls s' p) (tlsRange tls s' q) :=
    (List.pairwise_map.mp h.packed.pairwise).imp Or.inl
  have : Std.Symm fun p q => RangesApart (tlsRange tls s' p) (tlsRange tls s' q) :=
    ⟨fun _ _ => Or.symm⟩
  exact hpairwise.forall hp hq hne

theorem reserveProcessTlsTree_eq_foldlM {h : ProgramHeap} {walk : List DepRef}
    (hforest : h.Forest (h.depRefs 0) 1 h.programs.length walk) {budget : Nat}
    (hbudget : h.programs.length ≤ budget) (s : TlsLayout) :
    reserveProcessTlsTree h tls budget 0 s =
      (List.range h.programs.length).foldlM (reserveProgram tls) s := by
  have hsucc : ∀ budget p s, reserveProcessTlsTree h tls (budget + 1) p s =
      reserveProgram tls s p >>= fun s => (h.depRefs p).foldlM
        (fun s r =>
          if h.isShared r then pure s
          else reserveProcessTlsTree h tls budget (h.target r) s) s := by
    intro budget p s
    refine bind_congr fun s => ?_
    rw [ProgramHeap.ownedRefs_eq_filter, foldlM_filter_not]
  exact hforest.root_of_pre hsucc hbudget s

end

/-! ## Copies -/

section

variable {P : Process} {tls : Nat → TlsSegment} {s : TlsLayout} {mem : Memory}
  {block block' : TlsBlock} {p : Nat} {ps : List Nat}

def InFilePart (tls : Nat → TlsSegment) (s : TlsLayout) (p k : Nat) : Prop :=
  (s.offset p).toNat ≤ k ∧ k < (s.offset p).toNat + (tls p).filesz.toNat

def TlsPlaced (P : Process) (tls : Nat → TlsSegment) (s : TlsLayout) (mem : Memory)
    (block : TlsBlock) (p : Nat) : Prop :=
  ∃ imageOffset,
    (P.program p).image.elfVaddrToImageOffset (tls p).vaddr (tls p).filesz = some imageOffset ∧
    ∀ k < (tls p).filesz.toNat, block ((s.offset p).toNat + k) =
      mem ((P.program p).image.loadedImage + BitVec.ofNat 64 (imageOffset + k))

theorem copyProcessTlsImage_outside (h : copyProcessTlsImage P tls s mem block p = some block')
    {k : Nat} (hk : (tls p).memsz ≠ 0 → ¬ InFilePart tls s p k) : block' k = block k := by
  unfold copyProcessTlsImage at h
  dsimp only at h
  split at h
  · cases h
    rfl
  rename_i hmemsz
  split at h
  · cases h
  split at h
  · cases h
  cases h
  exact if_neg (hk hmemsz)

theorem copyProcessTlsImage_placed (hmemsz : (tls p).memsz ≠ 0)
    (h : copyProcessTlsImage P tls s mem block p = some block') :
    TlsPlaced P tls s mem block' p := by
  unfold copyProcessTlsImage at h
  rw [if_neg hmemsz] at h
  split at h
  · cases h
  rename_i imageOffset hoffset
  split at h
  · cases h
  cases h
  refine ⟨imageOffset, hoffset, fun k hk => ?_⟩
  dsimp only
  rw [if_pos ⟨Nat.le_add_right _ _, Nat.add_lt_add_left hk _⟩, Nat.add_sub_cancel_left]

theorem copyProcessTlsImage_returns (mem : Memory) (block : TlsBlock)
    (hfits : (tls p).memsz ≠ 0 →
      (s.offset p).toNat + (tls p).memsz.toNat ≤ s.totalSize.toNat)
    (himage : (tls p).memsz ≠ 0 →
      (P.program p).image.elfVaddrToImageOffset (tls p).vaddr (tls p).filesz ≠ none) :
    ∃ block', copyProcessTlsImage P tls s mem block p = some block' := by
  unfold copyProcessTlsImage
  dsimp only
  split
  · exact ⟨_, rfl⟩
  rename_i hmemsz
  have hle := (tls p).filesz_le
  have hfits := hfits hmemsz
  split
  · rename_i hnone
    exact absurd hnone (himage hmemsz)
  rw [if_neg (by omega)]
  exact ⟨_, rfl⟩

theorem copies_outside (h : ps.foldlM (copyProcessTlsImage P tls s mem) block = some block')
    {k : Nat} (hk : ∀ p ∈ tlsPrograms tls ps, ¬ InFilePart tls s p k) : block' k = block k := by
  induction ps generalizing block with
  | nil =>
    cases h
    rfl
  | cons p ps ih =>
    obtain ⟨block₁, hblock₁, h⟩ := Option.bind_eq_some_iff.mp h
    rw [ih h fun q hq => hk q (mem_tlsPrograms_of_mem hq),
      copyProcessTlsImage_outside hblock₁ fun hmemsz => hk p (mem_tlsPrograms_self hmemsz)]

theorem copies_placed (hnodup : ps.Nodup)
    (hapart : ∀ p ∈ tlsPrograms tls ps, ∀ q ∈ tlsPrograms tls ps, p ≠ q →
      RangesApart (tlsRange tls s p) (tlsRange tls s q))
    (h : ps.foldlM (copyProcessTlsImage P tls s mem) block = some block')
    (hp : p ∈ tlsPrograms tls ps) : TlsPlaced P tls s mem block' p := by
  induction ps generalizing block with
  | nil => exact absurd hp List.not_mem_nil
  | cons q ps ih =>
    obtain ⟨block₁, hblock₁, hrest⟩ := Option.bind_eq_some_iff.mp h
    obtain ⟨hq, hnodup⟩ := List.nodup_cons.mp hnodup
    rcases List.mem_cons.mp (List.mem_filter.mp hp).1 with rfl | hmem
    · -- The later copies are outside this range.
      obtain ⟨imageOffset, hoffset, hbytes⟩ :=
        copyProcessTlsImage_placed (of_decide_eq_true (List.mem_filter.mp hp).2) hblock₁
      refine ⟨imageOffset, hoffset, fun k hk => ?_⟩
      rw [copies_outside hrest fun p' hp' => ?_, hbytes k hk]
      have hne : p ≠ p' := by
        rintro rfl
        exact hq (List.mem_filter.mp hp').1
      have hap := hapart p hp p' (mem_tlsPrograms_of_mem hp') hne
      have hle := (tls p).filesz_le
      have hle' := (tls p').filesz_le
      simp only [RangesApart, tlsRange] at hap
      rw [InFilePart]
      omega
    · exact ih hnodup (fun p hp q hq =>
        hapart p (mem_tlsPrograms_of_mem hp) q (mem_tlsPrograms_of_mem hq)) hrest
        (List.mem_filter.mpr ⟨hmem, (List.mem_filter.mp hp).2⟩)

theorem copies_return
    (hfits : ∀ p ∈ tlsPrograms tls ps,
      (s.offset p).toNat + (tls p).memsz.toNat ≤ s.totalSize.toNat)
    (himage : ∀ p ∈ tlsPrograms tls ps,
      (P.program p).image.elfVaddrToImageOffset (tls p).vaddr (tls p).filesz ≠ none)
    (block : TlsBlock) :
    ∃ block', ps.foldlM (copyProcessTlsImage P tls s mem) block = some block' := by
  induction ps generalizing block with
  | nil => exact ⟨block, rfl⟩
  | cons p ps ih =>
    obtain ⟨block₁, hblock₁⟩ := copyProcessTlsImage_returns mem block
      (fun hmemsz => hfits p (mem_tlsPrograms_self hmemsz))
      fun hmemsz => himage p (mem_tlsPrograms_self hmemsz)
    obtain ⟨block', hblock'⟩ := ih (fun q hq => hfits q (mem_tlsPrograms_of_mem hq))
      (fun q hq => himage q (mem_tlsPrograms_of_mem hq)) block₁
    refine ⟨block', ?_⟩
    rw [List.foldlM_cons, hblock₁]
    exact hblock'

theorem copyProcessDependencyTlsImages_eq_foldlM {walk mapped : List DepRef}
    (hforest : P.heap.Forest (P.heap.depRefs 0) 1 P.heap.programs.length walk)
    (hmapped : ∀ {r d}, P.heap.dep r = some d → r ∈ mapped) {budget : Nat}
    (hbudget : P.heap.programs.length ≤ budget) (block : TlsBlock) :
    copyProcessDependencyTlsImages P tls s mem mapped budget 0 block =
      (P.modules walk).foldlM (copyProcessTlsImage P tls s mem) block := by
  have hsucc : ∀ budget p block,
      copyProcessDependencyTlsImages P tls s mem mapped (budget + 1) p block =
        (P.heap.depRefs p).foldlM
          (fun block r => do
            let block ← if P.heap.isShared r then pure block
              else copyProcessDependencyTlsImages P tls s mem mapped budget (P.heap.target r) block
            if P.heap.isShared r then pure block
            else copyProcessTlsImage P tls s mem block (P.heap.target r)) block := by
    intro budget p block
    refine foldlM_congr (fun block r hr => ?_) block
    obtain ⟨-, d, hd⟩ := ProgramHeap.mem_depRefs.mp hr
    rw [if_neg (not_not.mpr (hmapped hd)), ProgramHeap.isShared]
    cases P.heap.sharedFrom r <;> rfl
  rw [Process.modules, foldlM_nodes]
  exact hforest.root_of_post hsucc hbudget block

end

/-! ## The block of a process -/

def HasTls (P : Process) (tls : Nat → TlsSegment) (p : Nat) : Prop :=
  p < P.heap.programs.length ∧ (tls p).memsz ≠ 0

theorem mem_tlsPrograms {P : Process} {tls : Nat → TlsSegment} {ps : List Nat}
    (hps : ∀ p, p ∈ ps ↔ p < P.heap.programs.length) {p : Nat} :
    p ∈ tlsPrograms tls ps ↔ HasTls P tls p := by
  rw [tlsPrograms, List.mem_filter, hps, decide_eq_true_iff]
  rfl

/-- The ranges of the loaded programs do not overlap, start at multiples of the alignments and are
in the block of at most 64 KiB. The copies put the initial bytes of each program at its offset and
leave the rest zero; they fail only for bytes outside of an image. -/
theorem tls_layout {n : Nat} {files : ProcessFiles} {path : CString} {elf : ElfModule} (P : Process)
    (tls : Nat → TlsSegment) {budget : Nat} {s : TlsLayout}
    (hload : (loadProcessDependencies n files path elf).value = some (.ok P.heap))
    (hbudget : P.heap.programs.length ≤ budget)
    (hreserve : reserveProcessTlsTree P.heap tls budget 0 .empty = some s) :
    s.totalSize.toNat ≤ 64 * 1024 ∧
    (∀ p, HasTls P tls p → (tls p).alignment.toNat ∣ (s.offset p).toNat ∧
      (s.offset p).toNat + (tls p).memsz.toNat ≤ s.totalSize.toNat) ∧
    (∀ p q, HasTls P tls p → HasTls P tls q → p ≠ q →
      RangesApart (tlsRange tls s p) (tlsRange tls s q)) ∧
    ∀ G mem₀ s', (mapProcessDependencies P G budget 0 ⟨mem₀, []⟩).value = some s' → ∀ mem,
      (∀ block, copyProcessTlsImages P tls s mem s'.mapped budget = some block →
        ∀ p, HasTls P tls p → TlsPlaced P tls s mem block p ∧
          ∀ k, (tls p).filesz.toNat ≤ k → k < (tls p).memsz.toNat →
            block ((s.offset p).toNat + k) = 0) ∧
      ((∀ p, HasTls P tls p →
          (P.program p).image.elfVaddrToImageOffset (tls p).vaddr (tls p).filesz ≠ none) →
        ∃ block, copyProcessTlsImages P tls s mem s'.mapped budget = some block) := by
  obtain ⟨walk, hforest⟩ := load_forest hload
  rw [reserveProcessTlsTree_eq_foldlM hforest hbudget] at hreserve
  have hreserved := reserve_spec List.nodup_range hreserve
  have hrange : ∀ {p}, p ∈ tlsPrograms tls (List.range P.heap.programs.length) ↔ HasTls P tls p :=
    mem_tlsPrograms fun _ => List.mem_range
  have hinside : ∀ p, HasTls P tls p →
      (s.offset p).toNat + (tls p).memsz.toNat ≤ s.totalSize.toNat := fun p hp =>
    (hreserved.packed.inside _ (List.mem_map_of_mem (hrange.mpr hp))).2
  have hapart : ∀ p q, HasTls P tls p → HasTls P tls q → p ≠ q →
      RangesApart (tlsRange tls s p) (tlsRange tls s q) := fun p q hp hq =>
    hreserved.apart (hrange.mpr hp) (hrange.mpr hq)
  refine ⟨hreserved.limit (Nat.zero_le _), fun p hp =>
    ⟨hreserved.dvd p (hrange.mpr hp), hinside p hp⟩, hapart, fun G mem₀ s' hmap mem => ?_⟩
  -- The copies are a loop over all programs, the root first.
  have hle := hforest.le
  have hcopy : copyProcessTlsImages P tls s mem s'.mapped budget =
      if s.totalSize = 0 then some fun _ => 0
      else (0 :: P.modules walk).foldlM (copyProcessTlsImage P tls s mem) fun _ => 0 := by
    refine if_congr Iff.rfl rfl (bind_congr fun block => ?_)
    exact copyProcessDependencyTlsImages_eq_foldlM hforest (mem_mapped hforest hbudget hmap)
      hbudget block
  have hprograms : ∀ p, p ∈ 0 :: P.modules walk ↔ p < P.heap.programs.length := by
    intro p
    rw [List.mem_cons, hforest.mem_nodes]
    omega
  have hnodup : (0 :: P.modules walk).Nodup :=
    List.nodup_cons.mpr ⟨fun h0 => absurd (hforest.mem_nodes.mp h0).1 (by omega),
      hforest.nodup_nodes⟩
  have hmem : ∀ {p}, p ∈ tlsPrograms tls (0 :: P.modules walk) ↔ HasTls P tls p :=
    mem_tlsPrograms hprograms
  rw [hcopy]
  split
  · -- An empty block has no ranges.
    rename_i htotal
    refine ⟨fun block _ p hp => ?_, fun _ => ⟨_, rfl⟩⟩
    have hfits := hinside p hp
    rw [htotal] at hfits
    exact absurd (BitVec.eq_of_toNat_eq (Nat.le_zero.mp (Nat.le_trans (Nat.le_add_left _ _) hfits)))
      hp.2
  · refine ⟨fun block hblock p hp => ⟨?_, fun k hle hlt => ?_⟩, fun himage => ?_⟩
    · exact copies_placed hnodup (fun p hp q hq => hapart p q (hmem.mp hp) (hmem.mp hq)) hblock
        (hmem.mpr hp)
    · rw [copies_outside hblock fun q hq hin => ?_]
      rcases eq_or_ne p q with rfl | hne
      · have := hin.2
        omega
      · have hap := hapart p q hp (hmem.mp hq) hne
        have hle' := (tls q).filesz_le
        obtain ⟨hlo, hhi⟩ := hin
        simp only [RangesApart, tlsRange] at hap
        omega
    · exact copies_return (fun p hp => hinside p (hmem.mp hp)) (fun p hp => himage p (hmem.mp hp)) _

theorem smallTls_filesz_le : (4#64).toNat ≤ (8#64).toNat := by decide

def smallTls : TlsSegment := ⟨0x10, 4, 8, 8, smallTls_filesz_le⟩

/-- Three programs with eight bytes each, of which four are initialised. -/
theorem tls_layout_nested :
    let P := nestedProcess
    let tls := fun _ => smallTls
    let mem : Memory := fun a => a.setWidth 8
    ∃ s s' block, reserveProcessTlsTree P.heap tls 3 0 .empty = some s ∧ s.totalSize = 24 ∧
      (mapProcessDependencies P idleSteps 3 0 ⟨mem, []⟩).value = some s' ∧
      copyProcessTlsImages P tls s mem s'.mapped 3 = some block ∧
      RangesApart (tlsRange tls s 0) (tlsRange tls s 2) ∧ TlsPlaced P tls s mem block 2 ∧
      block ((s.offset 2).toNat + 4) = 0 := by
  intro P tls mem
  have hreserve : (reserveProcessTlsTree P.heap tls 3 0 .empty).map (·.totalSize) = some 24 := by
    decide +kernel
  obtain ⟨s, hs, htotal⟩ := Option.map_eq_some_iff.mp hreserve
  have hsome : (mapProcessDependencies P idleSteps 3 0 ⟨mem, []⟩).value.isSome = true := by
    decide +kernel
  obtain ⟨s', hs'⟩ := Option.isSome_iff_exists.mp hsome
  have hmemsz : smallTls.memsz ≠ 0 := by decide
  have htls : ∀ p < 3, HasTls P tls p := fun p hp => ⟨hp, hmemsz⟩
  have himage : ∀ p < 3, (P.program p).image.elfVaddrToImageOffset 0x10 4 ≠ none := by
    decide +kernel
  obtain ⟨-, -, hapart, hcopies⟩ := tls_layout P tls load_nested (Nat.le_refl 3) hs
  obtain ⟨hplaced, hcopy⟩ := hcopies idleSteps mem s' hs' mem
  obtain ⟨block, hblock⟩ := hcopy fun p hp => himage p hp.1
  obtain ⟨hinit, hzero⟩ := hplaced block hblock 2 (htls 2 (by decide))
  exact ⟨s, s', block, hs, htotal, hs', hblock,
    hapart 0 2 (htls 0 (by decide)) (htls 2 (by decide)) (by decide), hinit,
    hzero 4 (by decide) (by decide)⟩

end Poly.Polyexec
