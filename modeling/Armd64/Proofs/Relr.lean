import Armd64.Lib.Relr
import Armd64.Polycall.Relr
import Armd64.Proofs.RelocPatch

/-!
# Relocations in the `RELR` format

`polyexec` adds the load bias to the words of an `RELR` table in the image that the table is in.
`polycall` has its own loop over such a table, which records the words. Both decode every encoding
of a list of addresses.
-/

namespace Poly.Polyexec

open Hw (Traced Relr.Encodes Relr.decode)
open Hw.Traced

variable {p : RelocProgram}

/-! ## The pass over a table -/

theorem relrEntry_eq (s : CodeBytes × BitVec 64) (offset : Nat) :
    relrEntry p s offset = Hw.Relr.step (relrWord p) s ((p.image s.1).u64 offset) := by
  unfold relrEntry Hw.Relr.step Hw.Relr.targets Hw.Relr.next
  dsimp only
  split
  · rw [Hw.foldlM_singleton]
  · rw [List.foldlM_map, ← Hw.Relr.foldlM_bits]
    rfl

variable {bytes : CodeBytes}

theorem relrWord_ensures {P : RelocWrite → Prop} {I : CodeBytes → Prop} {a : BitVec 64}
    (h : ∀ offset, p.offsetOf a 8 = some offset →
      let data := Hw.toBytes 8 (p.loadBias + (p.image bytes).u64 offset)
      P ⟨offset, data⟩ ∧ I (patch bytes offset data)) :
    Ensures P I (relrWord p bytes a) := by
  refine (Ensures.ofOption (P := P) (I := fun offset => p.offsetOf a 8 = some offset)
    fun offset hoffset => hoffset).bind fun offset hoffset => ?_
  exact .emit (h offset hoffset).1 (h offset hoffset).2

def AwayFrom (p : RelocProgram) (a : BitVec 64) (target : Nat) : Prop :=
  ∀ offset, p.offsetOf a 8 = some offset → target + 8 ≤ offset ∨ offset + 8 ≤ target

variable {words : List (BitVec 64)} {W : Nat → BitVec 64} {offset : Nat}

theorem relrWords_ensures {targets : List Nat} (haway : ∀ a ∈ words, ∀ t ∈ targets, AwayFrom p a t)
    (hW : ∀ t ∈ targets, (p.image bytes).u64 t = W t) :
    Ensures (fun _ => True) (fun bytes => ∀ t ∈ targets, (p.image bytes).u64 t = W t)
      (words.foldlM (relrWord p) bytes) := by
  refine .foldlM (fun bytes a ha hbytes => ?_) hW
  refine relrWord_ensures fun offset hoffset => ⟨trivial, fun t ht => ?_⟩
  have hdisjoint := haway a ha t ht offset hoffset
  rw [u64_patch_outside (by rw [Hw.length_toBytes]; exact hdisjoint), hbytes t ht]

theorem relrEntries_eq {ns : List Nat} {ptr : BitVec 64}
    (haway : ∀ a ∈ Hw.Relr.decode ptr (ns.map fun n => W (offset + n * 8)), ∀ n ∈ ns,
      AwayFrom p a (offset + n * 8))
    (hW : ∀ n ∈ ns, (p.image bytes).u64 (offset + n * 8) = W (offset + n * 8)) :
    ns.foldlM (fun s n => relrEntry p s (offset + n * 8)) (bytes, ptr) >>= (fun s => pure s.1) =
      (Hw.Relr.decode ptr (ns.map fun n => W (offset + n * 8))).foldlM (relrWord p) bytes := by
  induction ns generalizing bytes ptr with
  | nil => rfl
  | cons n ns ih =>
    rw [List.map_cons, Hw.Relr.decode] at haway ⊢
    rw [List.foldlM_append, List.foldlM_cons, relrEntry_eq, hW n List.mem_cons_self, Hw.Relr.step,
      bind_assoc, bind_assoc]
    refine bind_congr_of_value fun bytes' hvalue => ?_
    have hkept : ∀ t ∈ ns.map (fun n => offset + n * 8), (p.image bytes').u64 t = W t := by
      refine (relrWords_ensures (fun a ha t ht => ?_) fun t ht => ?_).value hvalue
      · obtain ⟨k, hk, rfl⟩ := List.mem_map.mp ht
        exact haway a (List.mem_append_left _ ha) k (List.mem_cons_of_mem _ hk)
      · obtain ⟨k, hk, rfl⟩ := List.mem_map.mp ht
        exact hW k (List.mem_cons_of_mem _ hk)
    refine ih (fun a ha k hk => ?_) fun k hk => ?_
    · exact haway a (List.mem_append_right _ ha) k (List.mem_cons_of_mem _ hk)
    · exact hkept _ (List.mem_map_of_mem hk)

def relrTableWords (p : RelocProgram) (bytes : CodeBytes) (offset : Nat) (size : BitVec 64) :
    List (BitVec 64) :=
  (List.range (size.toNat / 8)).map fun n => (p.image bytes).u64 (offset + n * 8)

theorem relrTable_eq {vaddr size : BitVec 64} (hvaddr : vaddr ≠ 0)
    (hsize : size.toNat % 8 = 0) (hoffset : p.offsetOf vaddr size = some offset)
    (haway : ∀ a ∈ Hw.Relr.decode 0 (relrTableWords p bytes offset size),
      ∀ n < size.toNat / 8, AwayFrom p a (offset + n * 8)) : relrTable p vaddr size 8 bytes =
      (Hw.Relr.decode 0 (relrTableWords p bytes offset size)).foldlM (relrWord p) bytes := by
  unfold relrTable
  by_cases hzero : size = 0
  · subst hzero
    rw [if_pos (.inr rfl)]
    rfl
  have hnot : ¬ (vaddr = 0 ∨ size = 0) := by
    rintro (h | h)
    · exact hvaddr h
    · exact hzero h
  have hcheck : ¬ ((8 : BitVec 64) ≠ 8 ∨ size.toNat % 8 ≠ 0) := by
    rintro (h | h)
    · exact h rfl
    · exact h hsize
  rw [if_neg hnot, if_neg hcheck, RelocProgram.elfVaddrToImageOffset_eq, hoffset,
    ofOption_some, pure_bind]
  refine relrEntries_eq (W := fun t => (p.image bytes).u64 t) ?_ fun n _ => rfl
  intro a ha n hn
  exact haway a ha n (List.mem_range.mp hn)

/-! ## Words that do not overlap -/

theorem relrWords_value {off : BitVec 64 → Nat} (hat : ∀ a ∈ words, p.offsetOf a 8 = some (off a))
    (hdisjoint : words.Pairwise fun a b => off a + 8 ≤ off b ∨ off b + 8 ≤ off a)
    (bytes : CodeBytes) :
    ∃ bytes', (words.foldlM (relrWord p) bytes).value = some bytes' ∧
      (∀ a ∈ words, (p.image bytes').u64 (off a) = p.loadBias + (p.image bytes).u64 (off a)) ∧
      ∀ i, (∀ a ∈ words, i < off a ∨ off a + 8 ≤ i) → bytes' i = bytes i := by
  induction words generalizing bytes with
  | nil => exact ⟨bytes, rfl, by simp, fun i _ => rfl⟩
  | cons a words ih =>
    obtain ⟨haway, hdisjoint⟩ := List.pairwise_cons.mp hdisjoint
    have ha := hat a List.mem_cons_self
    generalize hdata : Hw.toBytes 8 (p.loadBias + (p.image bytes).u64 (off a)) = data
    have hlen : data.length = 8 := by rw [← hdata, Hw.length_toBytes]
    obtain ⟨bytes', hvalue, hwords, hframe⟩ :=
      ih (fun b hb => hat b (List.mem_cons_of_mem _ hb)) hdisjoint (patch bytes (off a) data)
    have hstep : (relrWord p bytes a).value = some (patch bytes (off a) data) := by
      rw [relrWord, RelocProgram.elfVaddrToImageOffset_eq, ha, ofOption_some, pure_bind,
        ← hdata]
      rfl
    refine ⟨bytes', ?_, ?_, ?_⟩
    · rw [List.foldlM_cons, value_bind]
      exact ⟨_, hstep, hvalue⟩
    · refine List.forall_mem_cons.mpr ⟨?_, fun b hb => ?_⟩
      · -- the later words do not touch this one
        have hkept : (p.image bytes').u64 (off a) =
            (p.image (patch bytes (off a) data)).u64 (off a) :=
          u64_congr fun k hk => hframe _ fun b hb => by have := haway b hb; omega
        rw [hkept, ← hdata, u64_patch]
      · rw [hwords b hb, u64_patch_outside (by have := haway b hb; omega)]
    · intro i hi
      obtain ⟨hia, hi⟩ := List.forall_mem_cons.mp hi
      rw [hframe i hi, patch_outside (by omega)]

end Poly.Polyexec

/-! ## The records of `polycall` -/

namespace Poly.Polycall

variable {realloc : Nat → Bool}

theorem relrEntry_eq_step (s : Program × BitVec 64) (entry : BitVec 64) :
    relrEntry realloc s entry = Hw.Relr.step (appendRelrRelocation realloc) s entry := by
  unfold relrEntry Hw.Relr.step Hw.Relr.targets Hw.Relr.next
  split
  · rw [Hw.foldlM_singleton]
  · rw [← Hw.Relr.foldlM_bits]
    simp only [BitVec.getLsbD_ushiftRight, Nat.add_comm 1]

def relrTableWords (p : Program) (offset : Nat) (size : BitVec 64) : List (BitVec 64) :=
  (List.range (size.toNat / 8)).map fun n => p.readLe64 (offset + n * 8)

variable {offset : Nat}

theorem processRelrTable_eq {p : Program} {vaddr size : BitVec 64} (hsize : size.toNat % 8 = 0)
    (hoffset : p.elfVaddrToImageOffset vaddr size = some offset) :
    processRelrTable realloc p vaddr size 8 =
      (Hw.Relr.decode 0 (relrTableWords p offset size)).foldlM
        (appendRelrRelocation realloc) p := by
  unfold processRelrTable
  split
  · rename_i hzero
    subst hzero
    rfl
  have hcheck : ¬ ((8 : BitVec 64) ≠ 8 ∨ size.toNat % 8 ≠ 0) := by
    rintro (h | h)
    · exact h rfl
    · exact h hsize
  have hstep : relrEntry realloc = Hw.Relr.step (appendRelrRelocation realloc) := by
    funext s entry
    exact relrEntry_eq_step s entry
  rw [if_neg hcheck, hoffset, ← Hw.Relr.foldlM_step, hstep]
  rfl

def relrRecord (p : Program) (offset : Nat) : DynamicReloc :=
  ⟨offset, 8, p.readLe64 offset, relocBaseLoadBias⟩

namespace Program

def addRelocs (p : Program) (relocs : List DynamicReloc) : Program :=
  { p with relocs := p.relocs ++ relocs }

variable (p : Program) (relocs : List DynamicReloc)

theorem addRelocs_nil : p.addRelocs [] = p := by
  rw [addRelocs, List.append_nil]

theorem addRelocs_addRelocs (more : List DynamicReloc) :
    (p.addRelocs relocs).addRelocs more = p.addRelocs (relocs ++ more) := by
  simp only [addRelocs, List.append_assoc]

theorem length_addRelocs : (p.addRelocs relocs).relocs.length = p.relocs.length + relocs.length :=
  List.length_append

theorem relrRecord_addRelocs : relrRecord (p.addRelocs relocs) = relrRecord p := rfl

end Program

theorem appendRelrRelocation_eq {p : Program} {a : BitVec 64}
    (hoffset : p.elfVaddrToImageOffset a 8 = some offset)
    (hroom : p.relocs.length < maxDynamicRelocs) (halloc : ∀ n, realloc n) :
    appendRelrRelocation realloc p a = some (p.addRelocs [relrRecord p offset]) := by
  rw [appendRelrRelocation, hoffset, Option.bind_eq_bind, Option.bind_some, appendDynamicReloc,
    if_neg (by omega), halloc]
  rfl

theorem appendRelrRelocations_eq {p : Program} {words : List (BitVec 64)} {off : BitVec 64 → Nat}
    (hoff : ∀ a ∈ words, p.elfVaddrToImageOffset a 8 = some (off a))
    (hroom : p.relocs.length + words.length ≤ maxDynamicRelocs) (halloc : ∀ n, realloc n) :
    words.foldlM (appendRelrRelocation realloc) p =
      some (p.addRelocs (words.map fun a => relrRecord p (off a))) := by
  induction words generalizing p with
  | nil => exact congrArg some p.addRelocs_nil.symm
  | cons a words ih =>
    obtain ⟨ha, hoff⟩ := List.forall_mem_cons.mp hoff
    rw [List.length_cons] at hroom
    rw [List.foldlM_cons, appendRelrRelocation_eq ha (by omega) halloc, Option.bind_eq_bind,
      Option.bind_some, ih, Program.addRelocs_addRelocs, Program.relrRecord_addRelocs]
    · rfl
    · exact hoff
    · rw [Program.length_addRelocs, List.length_singleton]
      omega

end Poly.Polycall

/-! ## Both passes -/

namespace Poly.Polyexec

def InImage (p : RelocProgram) (a size : Nat) : Prop :=
  p.baseVaddr.toNat ≤ a ∧ a + size ≤ p.baseVaddr.toNat + p.codeSize ∧ a + size < 2 ^ 64

instance (p : RelocProgram) (a size : Nat) : Decidable (InImage p a size) :=
  inferInstanceAs (Decidable (_ ∧ _ ∧ _))

variable {a : Nat}

theorem toNat_ofNat_of_inImage {p : RelocProgram} {size : Nat} (h : InImage p a size) :
    (BitVec.ofNat 64 a).toNat = a := by
  have htop := h.2.2
  exact Hw.toNat_ofNat_of_lt (by omega)

theorem offsetOf_of_inImage {p : RelocProgram} {size : BitVec 64} (h : InImage p a size.toNat) :
    p.offsetOf (BitVec.ofNat 64 a) size = some (a - p.baseVaddr.toNat) := by
  have ha := toNat_ofNat_of_inImage h
  obtain ⟨hbase, hend, htop⟩ := h
  rw [RelocProgram.offsetOf_of_le (by omega) (by omega) (by omega), ha]

/-- `polycall` has loaded the same file: its image is not smaller, and starts with the same
bytes. -/
structure SameFile (p : RelocProgram) (bytes : CodeBytes) (q : Polycall.Program) : Prop where
  baseVaddr : q.baseVaddr = p.baseVaddr
  imageSize : p.codeSize ≤ q.imageSize
  image : ∀ i < p.codeSize, q.image i = bytes i

namespace SameFile

variable {p : RelocProgram} {bytes : CodeBytes} {q : Polycall.Program}

variable {offset : Nat}

theorem elfVaddrToImageOffset_eq (h : SameFile p bytes q) {vaddr size : BitVec 64}
    (hoffset : p.offsetOf vaddr size = some offset) :
    q.elfVaddrToImageOffset vaddr size = some offset := by
  obtain ⟨hvaddr, hle⟩ := elfVaddrToImageOffset_eq_some hoffset
  have hbase : (p.image fun _ => 0).baseVaddr = p.baseVaddr := rfl
  have hcode : (p.image fun _ => 0).codeSize = p.codeSize := rfl
  have hsize := h.imageSize
  rw [hbase] at hvaddr
  rw [Polycall.Program.elfVaddrToImageOffset, Polycall.imageVaddrToOffset, h.baseVaddr,
    if_neg (by omega)]
  rw [if_neg (by omega)]
  congr 1
  omega

theorem readLe64_eq (h : SameFile p bytes q) (hle : offset + 8 ≤ p.codeSize) :
    q.readLe64 offset = (p.image bytes).u64 offset :=
  Hw.ofWords_congr fun i hi => h.image _ (by omega)

end SameFile

/-- The words are in the image, do not overlap, and do not overlap the table. -/
structure RelrWords (p : RelocProgram) (vaddr size : BitVec 64) (addresses : List Nat) : Prop where
  inImage : ∀ a ∈ addresses, InImage p a 8
  apart : addresses.Pairwise fun a b => a + 8 ≤ b ∨ b + 8 ≤ a
  awayFromTable : ∀ a ∈ addresses, a + 8 ≤ vaddr.toNat ∨ vaddr.toNat + size.toNat ≤ a

namespace RelrWords

variable {p : RelocProgram} {vaddr size : BitVec 64} {addresses : List Nat}

section

variable (h : RelrWords p vaddr size addresses)

include h

theorem offsetOf_eq :
    ∀ a ∈ addresses.map (BitVec.ofNat 64), p.offsetOf a 8 = some (a.toNat - p.baseVaddr.toNat) := by
  intro a ha
  obtain ⟨b, hb, rfl⟩ := List.mem_map.mp ha
  have hin := h.inImage b hb
  rw [offsetOf_of_inImage hin, toNat_ofNat_of_inImage hin]

theorem offsets_apart : (addresses.map (BitVec.ofNat 64)).Pairwise fun a b =>
      a.toNat - p.baseVaddr.toNat + 8 ≤ b.toNat - p.baseVaddr.toNat ∨
        b.toNat - p.baseVaddr.toNat + 8 ≤ a.toNat - p.baseVaddr.toNat := by
  rw [List.pairwise_map]
  refine h.apart.imp_of_mem fun {a b} ha hb hab => ?_
  have hina := h.inImage a ha
  have hinb := h.inImage b hb
  rw [toNat_ofNat_of_inImage hina, toNat_ofNat_of_inImage hinb]
  have hbelowa := hina.1
  have hbelowb := hinb.1
  omega

theorem awayFrom_table {offset : Nat} (hoffset : p.offsetOf vaddr size = some offset) :
    ∀ a ∈ addresses.map (BitVec.ofNat 64), ∀ n < size.toNat / 8, AwayFrom p a (offset + n * 8) := by
  intro a ha n hn target htarget
  have hbase : vaddr.toNat = p.baseVaddr.toNat + offset := (elfVaddrToImageOffset_eq_some hoffset).1
  obtain ⟨b, hb, rfl⟩ := List.mem_map.mp ha
  have hin := h.inImage b hb
  rw [offsetOf_of_inImage hin] at htarget
  cases htarget
  have hbelow := hin.1
  have htable := h.awayFromTable b hb
  omega

end

end RelrWords

/-- For every encoding of a list of words, the pass of `polyexec` adds the load bias to the words
and changes nothing else, and that of `polycall` records the words with what is in them. -/
theorem relr_passes_agree (p : RelocProgram) (bytes : CodeBytes) (q : Polycall.Program)
    (realloc : Nat → Bool) (vaddr size : BitVec 64) (offset : Nat) (addresses : List Nat)
    (hvaddr : vaddr ≠ 0) (hsize : size.toNat % 8 = 0)
    (hoffset : p.offsetOf vaddr size = some offset)
    (hencodes : Hw.Relr.Encodes none (relrTableWords p bytes offset size) addresses)
    (hwords : RelrWords p vaddr size addresses) (hfile : SameFile p bytes q) :
    let base := p.baseVaddr.toNat
    (∃ bytes', (relrTable p vaddr size 8 bytes).value = some bytes' ∧
      (∀ a ∈ addresses,
        (p.image bytes').u64 (a - base) = p.loadBias + (p.image bytes).u64 (a - base)) ∧
      ∀ i, (∀ a ∈ addresses, ¬ (a ≤ base + i ∧ base + i < a + 8)) → bytes' i = bytes i) ∧
    (q.relocs.length + addresses.length ≤ Polycall.maxDynamicRelocs → (∀ n, realloc n = true) →
      Polycall.processRelrTable realloc q vaddr size 8 =
        some { q with relocs := q.relocs ++ addresses.map fun a =>
          ⟨a - base, 8, (p.image bytes).u64 (a - base), Polycall.relocBaseLoadBias⟩ }) := by
  have hdecode : Hw.Relr.decode 0 (relrTableWords p bytes offset size) =
      addresses.map (BitVec.ofNat 64) := Hw.Relr.decode_of_encodes hencodes fun b hb => nomatch hb
  refine ⟨?_, fun hroom halloc => ?_⟩
  · obtain ⟨bytes', hvalue, hadded, hframe⟩ :=
      relrWords_value hwords.offsetOf_eq hwords.offsets_apart bytes
    refine ⟨bytes', ?_, fun a ha => ?_, fun i hi => hframe i fun a ha => ?_⟩
    · rw [relrTable_eq hvaddr hsize hoffset (hdecode ▸ hwords.awayFrom_table hoffset), hdecode,
        hvalue]
    · have hword := hadded _ (List.mem_map_of_mem ha)
      rwa [toNat_ofNat_of_inImage (hwords.inImage a ha)] at hword
    · obtain ⟨b, hb, rfl⟩ := List.mem_map.mp ha
      have hin := hwords.inImage b hb
      have hbelow := hin.1
      have hout := hi b hb
      rw [toNat_ofNat_of_inImage hin]
      omega
  · have htable : offset + size.toNat ≤ p.codeSize := RelocProgram.offsetOf_le hoffset
    have hsame : Polycall.relrTableWords q offset size = relrTableWords p bytes offset size := by
      refine List.map_congr_left fun n hn => hfile.readLe64_eq ?_
      have hlt := List.mem_range.mp hn
      omega
    rw [Polycall.processRelrTable_eq hsize (hfile.elfVaddrToImageOffset_eq hoffset), hsame, hdecode,
      Polycall.appendRelrRelocations_eq
        (fun a ha => hfile.elfVaddrToImageOffset_eq (hwords.offsetOf_eq a ha))
        (by rwa [List.length_map]) halloc,
      List.map_map]
    refine congrArg (fun relocs => some (q.addRelocs relocs)) (List.map_congr_left fun a ha => ?_)
    have hin := hwords.inImage a ha
    have hend := hin.2.1
    have hbelow := hin.1
    rw [Function.comp_apply, toNat_ofNat_of_inImage hin, Polycall.relrRecord,
      hfile.readLe64_eq (by omega)]

/-- An image with a table at `0x1010` of an address and a bitmap for the first and the third word
after it. -/
def relrImage : CodeBytes := wordImage [0, 0, 0x1030, 0xb, 0, 0, 0x11, 0x22, 0x33, 0x44]

/-- The image is at `0x400000`, so the bias is `0x3ff000`. -/
theorem relr_passes_agree_bitmap :
    let p := symbolProgram
    let q : Polycall.Program := ⟨0x1000, 220, relrImage, []⟩
    (∃ bytes', (relrTable p 0x1010 16 8 relrImage).value = some bytes' ∧
      (p.image bytes').u64 0x30 = 0x3ff011 ∧ (p.image bytes').u64 0x40 = 0x33) ∧
    (Polycall.processRelrTable (fun _ => true) q 0x1010 16 8).map (·.relocs) =
      some [⟨0x30, 8, 0x11, 1⟩, ⟨0x38, 8, 0x22, 1⟩, ⟨0x48, 8, 0x44, 1⟩] := by
  have hencodes : Hw.Relr.Encodes none [0x1030, 0xb] [0x1030, 0x1038, 0x1048] :=
    .address (by decide) (.bitmap (by decide) .nil)
  have h := relr_passes_agree symbolProgram relrImage ⟨0x1000, 220, relrImage, []⟩
    (fun _ => true) 0x1010 16 0x10 [0x1030, 0x1038, 0x1048] (by decide) (by decide)
    (by decide +kernel) hencodes
    ⟨by decide, by decide, by decide⟩ ⟨rfl, by decide, fun _ _ => rfl⟩
  obtain ⟨⟨bytes', hvalue, hadded, hframe⟩, hrecords⟩ := h
  refine ⟨⟨bytes', hvalue, hadded 0x1030 (by decide), ?_⟩, ?_⟩
  · refine (u64_congr fun k hk => hframe (0x40 + k) ?_).trans (by decide +kernel)
    simp only [List.forall_mem_cons, List.not_mem_nil, false_implies, implies_true, and_true]
    have hbase : symbolProgram.baseVaddr.toNat = 0x1000 := rfl
    omega
  · rw [hrecords (by decide) fun _ => rfl]
    decide +kernel

end Poly.Polyexec
