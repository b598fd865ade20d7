import Armd64.Lib.Codec
import Armd64.Mkpolyelf.Image
import Mathlib.Data.List.Pairwise

/-!
# Images that keep what was asked for

The text has 8 KiB before the data, and 16 KiB before symbols that are not loaded. A longer text is
overwritten, and in an image with data it also reaches into the addresses of the data. An image with
sections has 8.5 KiB, since its section `.rela.dyn` is always at the same place.
-/

namespace Poly.Mkpolyelf

open Hw (toBytes length_toBytes length_flatMap_of_length Memory Holds holds_append fetch
  fetch_of_holds)

/-! ## Ranges -/

/-- A part of the file, and its address if it is loaded. -/
structure Range where
  offset : Nat
  size : Nat
  vaddr : Option Nat

def Piece.range (p : Piece) : Range := ⟨p.offset, p.data.length, p.vaddr⟩

/-- A section is loaded if it has the flag `SHF_ALLOC`. -/
def Shdr.range (sh : Shdr) : Range :=
  ⟨sh.offset, sh.size, if sh.flags.testBit 1 then some sh.addr else none⟩

namespace Range

/-- The ranges have no byte in common, in the file and in memory. -/
def Apart (a b : Range) : Prop :=
  a.size = 0 ∨ b.size = 0 ∨ (a.offset + a.size ≤ b.offset ∨ b.offset + b.size ≤ a.offset) ∧
    ∀ v ∈ a.vaddr, ∀ w ∈ b.vaddr, v + a.size ≤ w ∨ w + b.size ≤ v

theorem Apart.symm {a b : Range} (h : a.Apart b) : b.Apart a := by
  rcases h with h | h | ⟨hfile, hmem⟩
  · exact .inr (.inl h)
  · exact .inl h
  · exact .inr (.inr ⟨hfile.symm, fun v hv w hw => (hmem w hw v hv).symm⟩)

/-- What is loaded keeps its distance from the text at offset 0x1000. -/
def Shifted (base : Nat) (r : Range) : Prop :=
  ∀ v ∈ r.vaddr, v + 0x1000 = base + r.offset

theorem Shifted.apart {base : Nat} {a b : Range} (ha : a.Shifted base) (hb : b.Shifted base)
    (h : a.size = 0 ∨ b.size = 0 ∨ a.offset + a.size ≤ b.offset) : a.Apart b := by
  refine h.imp_right (.imp_right fun h => ⟨.inl h, fun v hv w hw => .inl ?_⟩)
  have ha := ha v hv
  have hb := hb w hw
  omega

end Range

instance : Std.Symm fun a b : Piece => a.range.Apart b.range := ⟨fun _ _ h => h.symm⟩

theorem fileByte_of_apart {pieces : List Piece}
    (h : pieces.Pairwise fun a b => a.range.Apart b.range) {p : Piece} (hp : p ∈ pieces) {i : Nat}
    (hi : i < p.data.length) : fileByte pieces (p.offset + i) = p.data.getD i 0 := by
  unfold fileByte
  cases hfind : pieces.reverse.find? fun q =>
      q.offset ≤ p.offset + i ∧ p.offset + i < q.offset + q.data.length with
  | none =>
    have := List.find?_eq_none.mp hfind p (List.mem_reverse.mpr hp)
    simp [hi] at this
  | some q =>
    have hcovers := List.find?_some hfind
    have hq := List.mem_reverse.mp (List.mem_of_find?_eq_some hfind)
    -- Only one piece has the byte.
    have heq : q = p := by
      by_contra hne
      have := h.forall hq hp hne
      simp only [Range.Apart, Piece.range] at this
      simp at hcovers
      omega
    subst heq
    simp

/-- The file as a memory, for offsets below `2 ^ 64`. -/
def file (pieces : List Piece) : Memory := fun a => fileByte pieces a.toNat

theorem holds_file {pieces : List Piece} (h : pieces.Pairwise fun a b => a.range.Apart b.range)
    {p : Piece} (hp : p ∈ pieces) (hlt : p.offset + p.data.length < 2 ^ 64) :
    Holds (file pieces) (BitVec.ofNat 64 p.offset) p.data := by
  intro i b hb
  have hi := (List.getElem?_eq_some_iff.mp hb).1
  rw [file, BitVec.ofNat_add_ofNat, Hw.toNat_ofNat_of_lt (by omega), fileByte_of_apart h hp hi,
    List.getD_eq_getElem?_getD, hb]
  rfl

/-- The pieces stand one after the other between two offsets. -/
structure Spans (lo hi : Nat) (pieces : List Piece) : Prop where
  le : lo ≤ hi
  ordered : pieces.Pairwise fun a b => a.offset + a.data.length ≤ b.offset
  inside : ∀ p ∈ pieces, lo ≤ p.offset ∧ p.offset + p.data.length ≤ hi

namespace Spans

variable {lo mid hi : Nat} {ps qs : List Piece}

theorem nil (h : lo ≤ hi) : Spans lo hi [] := ⟨h, .nil, by simp⟩

theorem append (h : Spans lo mid ps) (h' : Spans mid hi qs) : Spans lo hi (ps ++ qs) := by
  refine ⟨Nat.le_trans h.le h'.le,
    List.pairwise_append.mpr ⟨h.ordered, h'.ordered, fun a ha b hb => ?_⟩, fun p hp => ?_⟩
  · exact Nat.le_trans (h.inside a ha).2 (h'.inside b hb).1
  · rcases List.mem_append.mp hp with hp | hp
    · exact ⟨(h.inside p hp).1, Nat.le_trans (h.inside p hp).2 h'.le⟩
    · exact ⟨Nat.le_trans h.le (h'.inside p hp).1, (h'.inside p hp).2⟩

theorem cons (mid : Nat) {offset : Nat} {vaddr : Option Nat} {data : List (BitVec 8)}
    (hlo : lo ≤ offset) (hlimit : offset + data.length ≤ mid) (h : Spans mid hi ps) :
    Spans lo hi (⟨offset, vaddr, data⟩ :: ps) := by
  have hfirst : Spans lo mid [⟨offset, vaddr, data⟩] :=
    ⟨by omega, List.pairwise_singleton _ _, by simpa using ⟨hlo, hlimit⟩⟩
  exact hfirst.append h

end Spans

/-! ## Segments -/

section

variable {mem : Memory} {a : BitVec 64}

theorem length_bytes (ph : Phdr) : ph.bytes.length = 56 := by
  simp [Phdr.bytes, u32, u64, length_toBytes]

theorem phdr_fields {ph : Phdr} (h : Holds mem a ph.bytes) :
    fetch 4 mem a = BitVec.ofNat 32 ph.type ∧ fetch 8 mem (a + 8) = BitVec.ofNat 64 ph.offset ∧
      fetch 8 mem (a + 16) = BitVec.ofNat 64 ph.vaddr ∧
      fetch 8 mem (a + 32) = BitVec.ofNat 64 ph.filesz := by
  simp only [Phdr.bytes, holds_append, u32, u64, List.length_append, length_toBytes] at h
  obtain ⟨⟨⟨⟨⟨⟨⟨htype, -⟩, hoffset⟩, hvaddr⟩, -⟩, hfilesz⟩, -⟩, -⟩ := h
  exact ⟨fetch_of_holds htype, fetch_of_holds hoffset, fetch_of_holds hvaddr,
    fetch_of_holds hfilesz⟩

/-- What a header of the file says about a segment. -/
def Phdr.segment (mem : Memory) (ph : Phdr) : BitVec 64 × List (BitVec 8) :=
  (BitVec.ofNat 64 ph.vaddr, (List.range (BitVec.ofNat 64 ph.filesz).toNat).map fun i =>
    mem (BitVec.ofNat 64 ph.offset + BitVec.ofNat 64 i))

theorem segmentsFrom_eq {phs : List Phdr} (h : Holds mem a (phs.flatMap Phdr.bytes)) :
    segmentsFrom mem phs.length a =
      (phs.filter fun ph => BitVec.ofNat 32 ph.type = 1).map (Phdr.segment mem) := by
  induction phs generalizing a with
  | nil => rfl
  | cons ph phs ih =>
    rw [List.flatMap_cons, holds_append, length_bytes] at h
    obtain ⟨htype, hoffset, hvaddr, hfilesz⟩ := phdr_fields h.1
    have htail : segmentsFrom mem phs.length (a + 56) = _ := ih h.2
    rw [List.length_cons, segmentsFrom, htype, hoffset, hvaddr, hfilesz, htail]
    by_cases hload : BitVec.ofNat 32 ph.type = 1
    · rw [if_pos hload, List.filter_cons_of_pos (by simpa using hload)]
      rfl
    · rw [if_neg hload, List.filter_cons_of_neg (by simpa using hload)]
      rfl

/-- The segment starts with the bytes that are there in the file. -/
theorem prefix_segment {ph : Phdr} {bytes : List (BitVec 8)}
    (h : Holds mem (BitVec.ofNat 64 ph.offset) bytes) (hle : bytes.length ≤ ph.filesz)
    (hlt : ph.filesz < 2 ^ 64) :
    bytes <+: (ph.segment mem).2 ∧ (ph.segment mem).2.length = ph.filesz := by
  rw [Phdr.segment, Hw.toNat_ofNat_of_lt hlt]
  refine ⟨List.prefix_iff_getElem?.mpr fun i hi => ?_, by simp⟩
  rw [List.getElem?_map, List.getElem?_range (by omega), Option.map_some]
  exact congrArg some (h i _ (List.getElem?_eq_getElem hi))

end

/-! ## The layout -/

namespace Command

variable (env : Env) (c : Command)

/-- The text ends before the data, the section `.rela.dyn` and the symbols start. -/
def Fits (textSize : Nat) : Prop :=
  (c.splitData → textSize ≤ 0x2000) ∧ (c.hasSections → textSize ≤ 0x2200) ∧
    (c.hasDynsym → ¬c.dynImage → textSize ≤ 0x4000)

theorem splitData_of_dynImage (h : c.dynImage = true) : c.splitData = true := by
  simp [dynImage, splitData] at h ⊢
  exact h.1

theorem hasDynsym_of_hasSections (h : c.hasSections = true) : c.hasDynsym = true := by
  obtain ⟨e, he, -⟩ := (Option.any_eq_true ..).mp h
  simp [hasDynsym, he]

theorem textVaddr_add : c.textVaddr + 0x2000 = c.dataVaddr := by
  unfold textVaddr dataVaddr
  split <;> rfl

theorem length_headers (n : Nat) :
    c.ehdr.length = 64 ∧ (c.phdrs n).length = c.phnum ∧ c.phnum ≤ 3 := by
  refine ⟨by simp [ehdr, u16, u32, u64, length_toBytes], ?_⟩
  cases hd : c.dynImage with
  | true => simp [phdrs, phnum, hd, c.splitData_of_dynImage hd]
  | false => cases hs : c.splitData <;> simp [phdrs, phnum, hd, hs]

theorem length_dataBytes : (c.dataBytes env).length ≤ 24 ∧
    (c.splitData = true → 0 < (c.dataBytes env).length) ∧
    (c.dataBytes env).length ≤ c.dataSize := by
  rw [dataBytes, ← Hw.wordBytes, Hw.length_wordBytes]
  cases hk : c.kind <;> simp [dataWords, splitData, dynImage, dataSize, hk] <;> split <;> omega

theorem length_dynamicBytes : c.dynamicBytes.length ≤ 144 := by
  have h : c.dynamicBytes.length = c.dynamic.length * 16 :=
    length_flatMap_of_length (by simp [u64, length_toBytes]) _
  have hle : c.dynamic.length ≤ 9 := by
    unfold dynamic
    split
    simp only [List.length_append, List.length_cons, List.length_nil]
    split <;> simp
  omega

theorem length_relocs : c.relocs.length ≤ 24 := by
  cases hk : c.kind <;> simp [relocs, hk, u64, length_toBytes]

theorem length_symbols (n : Nat) : (c.symbols env n).length = c.dynsymSize := by
  have h : ∀ name info shndx value size, (sym name info shndx value size).length = 24 := by
    simp [sym, u16, u32, u64, length_toBytes]
  unfold symbols dynsymSize dynsymCount
  split <;> split <;> simp [*]

theorem length_dynstr (h : c.hasDynsym = true) : c.dynstr.length = c.dynstrSize := by
  rw [dynstr, dynstrSize, if_pos h]
  cases c.exported <;> cases c.relocSymbolName <;> simp <;> omega

theorem length_dynhash (h : c.hasDynsym = true) : c.dynhash.length = c.dynhashSize := by
  have hlength : ∀ n, (u32 n).length = 4 := by simp [u32, length_toBytes]
  simp only [dynhash, dynhashSize, if_pos h, List.length_append, hlength,
    length_flatMap_of_length (fun _ => hlength _), List.length_range]
  omega

theorem le_dynhashOffset (h : c.hasDynsym = true) :
    c.dynstrOffset + c.dynstrSize ≤ c.dynhashOffset := by
  rw [dynhashOffset, if_pos h]
  exact Hw.le_alignUp (by decide) _

/-- The end of the pieces of the data segment that are not symbols. -/
def dataLimit (textSize : Nat) : Nat := if c.splitData then 0x3300 else 0x1000 + textSize

def symbolLimit (textSize : Nat) : Nat :=
  if c.hasDynsym then c.dynhashOffset + c.dynhashSize else c.dataLimit textSize

variable {c} {text : List (BitVec 8)}

section

variable (h : c.Fits text.length)

include h

theorem spans_dataPieces :
    Spans (0x1000 + text.length) (c.dataLimit text.length) (c.dataPieces env) := by
  unfold dataPieces dataLimit
  split
  · rename_i hs
    have htext := h.1 hs
    have hdata := (c.length_dataBytes env).1
    refine .cons 0x3100 (by omega) (by omega) ?_
    split
    · have hdynamic := c.length_dynamicBytes
      have hrelocs := c.length_relocs
      exact .cons 0x3200 (Nat.le_refl _) (by omega)
        (.cons 0x3300 (Nat.le_refl _) (by omega) (.nil (Nat.le_refl _)))
    · exact .nil (by decide)
  · exact .nil (Nat.le_refl _)

theorem spans_symbolPieces : Spans (c.dataLimit text.length) (c.symbolLimit text.length)
    (c.symbolPieces env text.length) := by
  unfold symbolPieces symbolLimit
  split
  · rename_i hy
    have hlo : c.dataLimit text.length ≤ c.dynsymOffset := by
      unfold dataLimit dynsymOffset
      cases hd : c.dynImage with
      | true => simp [c.splitData_of_dynImage hd, hy]
      | false =>
        have := h.2.2 hy (by simp [hd])
        simp only [Bool.false_and, Bool.false_eq_true, if_false]
        split <;> omega
    refine .cons c.dynstrOffset hlo (by rw [length_symbols]; exact Nat.le_refl _)
      (.cons c.dynhashOffset (Nat.le_refl _)
        (by rw [c.length_dynstr hy]; exact c.le_dynhashOffset hy) ?_)
    split
    · exact .cons _ (Nat.le_refl _) (by rw [c.length_dynhash hy]) (.nil (Nat.le_refl _))
    · exact .nil (Nat.le_add_right _ _)
  · exact .nil (Nat.le_refl _)

theorem ordered_pieces :
    (c.pieces env text).Pairwise fun a b => a.offset + a.data.length ≤ b.offset := by
  have hfront : Spans 0 (0x1000 + text.length)
      [⟨0, none, c.ehdr ++ (c.phdrs text.length).flatMap Phdr.bytes⟩,
        ⟨0x1000, some c.textVaddr, text⟩] := by
    obtain ⟨hehdr, hphdrs, hphnum⟩ := c.length_headers text.length
    refine .cons 0x1000 (Nat.le_refl _) ?_
      (.cons _ (Nat.le_refl _) (Nat.le_refl _) (.nil (Nat.le_refl _)))
    rw [List.length_append, length_flatMap_of_length length_bytes]
    omega
  have hsections : ∃ hi, Spans (c.symbolLimit text.length) hi (c.sectionPieces text.length) := by
    unfold sectionPieces
    split
    · rename_i hx
      have hy := c.hasDynsym_of_hasSections hx
      have hlo : c.symbolLimit text.length ≤ c.shstrOffset := by
        rw [symbolLimit, shstrOffset, if_pos hy, if_pos hy]
        exact Hw.le_alignUp (by decide) _
      exact ⟨_, .cons _ hlo (Hw.le_alignUp (by decide) _)
        (.cons _ (Nat.le_refl _) (Nat.le_refl _) (.nil (Nat.le_refl _)))⟩
    · exact ⟨_, .nil (Nat.le_refl _)⟩
  obtain ⟨hi, hsections⟩ := hsections
  exact (((hfront.append (spans_dataPieces env h)).append (spans_symbolPieces env h)).append
    hsections).ordered

end

/-! ## Addresses -/

theorem symbol_vaddrs (hd : c.dynImage = true) (hy : c.hasDynsym = true) :
    c.dynsymOffset = 0x3300 ∧ c.dynsymVaddr = c.dataVaddr + 0x300 ∧
      c.dynstrVaddr = c.dataVaddr + 0x300 + c.dynsymSize ∧
      c.dynhashVaddr = c.dynstrVaddr + (c.dynhashOffset - c.dynstrOffset) := by
  simp [dynsymOffset, dynsymVaddr, dynstrVaddr, dynhashVaddr, hd, hy]

theorem shifted_pieces {p : Piece} (hp : p ∈ c.pieces env text) :
    p.range.Shifted c.textVaddr := by
  have hbase := c.textVaddr_add
  intro v hv
  simp only [pieces, dataPieces, symbolPieces, sectionPieces, List.mem_append, List.mem_cons,
    List.not_mem_nil, or_false, List.mem_ite_nil_right] at hp
  rcases hp with (((rfl | rfl) | ⟨-, rfl | ⟨-, rfl | rfl⟩⟩) | ⟨hy, hp⟩) | ⟨-, rfl | rfl⟩
  · cases hv
  · cases hv
    simp [Piece.range]
  iterate 3
    · cases hv
      simp only [Piece.range]
      omega
  · cases hd : c.dynImage with
    | false =>
      simp only [hd, Bool.false_eq_true, false_and, or_false, if_false] at hp
      rcases hp with rfl | rfl <;> cases hv
    | true =>
      obtain ⟨hoffset, hsym, hstr, hhash⟩ := symbol_vaddrs hd hy
      have hstrOffset : c.dynstrOffset = c.dynsymOffset + c.dynsymSize := rfl
      have hle := c.le_dynhashOffset hy
      simp only [hd, true_and, if_true] at hp
      rcases hp with (rfl | rfl) | rfl <;> cases hv <;> simp only [Piece.range] <;> omega
  · cases hv
  · cases hv

theorem shifted_sections (hx : c.hasSections = true) {n : Nat} {sh : Shdr}
    (hsh : sh ∈ c.sectionHeaders n) : sh.range.Shifted c.textVaddr := by
  have hloaded : sh.flags.testBit 1 → sh.addr + 0x1000 = c.textVaddr + sh.offset := by
    have hbase := c.textVaddr_add
    have hy := c.hasDynsym_of_hasSections hx
    have hstrOffset : c.dynstrOffset = c.dynsymOffset + c.dynsymSize := rfl
    simp only [sectionHeaders, List.mem_cons, List.not_mem_nil, or_false] at hsh
    cases hd : c.dynImage with
    | false =>
      simp only [hd, Bool.false_eq_true, if_false] at hsh
      rcases hsh with rfl | rfl | rfl | rfl | rfl | rfl | rfl | rfl <;> simp <;> omega
    | true =>
      obtain ⟨hoffset, hsym, hstr, -⟩ := symbol_vaddrs hd hy
      simp only [hd, if_true] at hsh
      rcases hsh with rfl | rfl | rfl | rfl | rfl | rfl | rfl | rfl <;> simp <;> omega
  intro v hv
  simp only [Shdr.range] at hv ⊢
  split at hv
  · cases hv
    exact hloaded ‹_›
  · cases hv

theorem apart_pieces (h : c.Fits text.length) :
    (c.pieces env text).Pairwise fun a b => a.range.Apart b.range :=
  (ordered_pieces env h).imp_of_mem fun ha hb hab =>
    (shifted_pieces env ha).apart (shifted_pieces env hb) (.inr (.inr hab))

theorem apart_sections {n : Nat} (h : c.Fits n) (hx : c.hasSections = true) :
    ((c.sectionHeaders n).eraseIdx 2).Pairwise fun a b => a.range.Apart b.range := by
  have hy := c.hasDynsym_of_hasSections hx
  have htext := h.2.1 hx
  have hdynamic : c.dynamicCount = 0 ∧ 0x3218 ≤ c.dynsymOffset ∨
      c.dynamicCount ≤ 9 ∧ n ≤ 0x2000 ∧ 0x3218 ≤ c.dynsymOffset := by
    cases hd : c.dynImage with
    | false => simp [dynamicCount, dynsymOffset, hd]
    | true => simp [dynamicCount, dynsymOffset, hd, hy, h.1 (c.splitData_of_dynImage hd)]
  have hstr : c.dynstrOffset = c.dynsymOffset + c.dynsymSize := rfl
  have hhash := c.le_dynhashOffset hy
  have hshstr : c.dynhashOffset + c.dynhashSize ≤ c.shstrOffset := by
    rw [shstrOffset, if_pos hy]
    exact Hw.le_alignUp (by decide) _
  have hbefore : ((c.sectionHeaders n).eraseIdx 2).Pairwise fun a b =>
      a.range.size = 0 ∨ b.range.size = 0 ∨ a.range.offset + a.range.size ≤ b.range.offset := by
    have hentry : (if c.isRel = true then 16 else 24) ≤ 24 := by split <;> decide
    generalize hk : (if c.isRel = true then 16 else 24) = entry at hentry
    simp only [sectionHeaders, hk, List.eraseIdx_cons_succ, List.eraseIdx_cons_zero,
      List.pairwise_cons, List.mem_cons, List.not_mem_nil, forall_eq_or_imp, Shdr.range]
    simp
    and_intros <;> omega
  refine hbefore.imp_of_mem fun ha hb hab => ?_
  exact (shifted_sections hx (List.mem_of_mem_eraseIdx ha)).apart
    (shifted_sections hx (List.mem_of_mem_eraseIdx hb)) hab

/-! ## Reading back -/

theorem length_text (h : c.text env = some text) : text.length < 2 ^ 62 := by
  obtain ⟨insns, hinsns, rfl⟩ := Option.map_eq_some_iff.mp h
  have hlen : ∀ (tokens : List Text) insns, tokens.mapM (c.parseTextToken env) = some insns →
      (insns.flatMap fun i => (toBytes 4 i.1).take i.2).length ≤ 4 * tokens.length := by
    intro tokens
    induction tokens with
    | nil =>
      rintro insns ⟨⟩
      simp
    | cons token tokens ih =>
      intro insns h
      rw [List.mapM_cons] at h
      obtain ⟨i, -, h⟩ := Option.bind_eq_some_iff.mp h
      obtain ⟨rest, hrest, h⟩ := Option.bind_eq_some_iff.mp h
      cases h
      have := ih rest hrest
      simp only [List.flatMap_cons, List.length_append, List.length_take, length_toBytes,
        List.length_cons]
      omega
  have := hlen _ _ hinsns
  have := c.short
  omega

theorem dataSize_lt (c : Command) : c.dataSize < 2 ^ 62 := by
  have hnames : c.dynstrSize < 2 ^ 61 := by
    have hshort := c.short
    have hreloc : (c.relocSymbolName.map fun name => name.length + 1).getD 0 ≤
        c.argument.length + 11 := by
      unfold relocSymbolName
      split <;> simp
    unfold dynstrSize
    cases he : c.exported <;> simp only [he, Option.map_none, Option.map_some, Option.getD_none,
      Option.getD_some] at hshort ⊢ <;> split <;> omega
  have hcount : c.dynsymCount ≤ 3 := by
    unfold dynsymCount
    split <;> split <;> decide
  unfold dataSize
  split
  · split
    next hy =>
      have hpad : c.dynhashOffset < c.dynstrOffset + c.dynstrSize + 4 := by
        rw [dynhashOffset, if_pos hy]
        exact Hw.alignUp_lt (by decide) _
      rw [dynsymSize, dynhashSize, if_pos hy]
      omega
    next => split <;> decide
  · split <;> decide

theorem ehdr_fields {mem : Memory} (h : Holds mem 0 c.ehdr) :
    fetch 8 mem 32 = 64 ∧ fetch 2 mem 56 = BitVec.ofNat 16 c.phnum := by
  simp only [ehdr, holds_append, u16, u32, u64, List.length_append, length_toBytes,
    List.length_replicate] at h
  obtain ⟨⟨⟨⟨⟨⟨⟨⟨⟨-, hphoff⟩, -⟩, -⟩, -⟩, -⟩, hphnum⟩, -⟩, -⟩, -⟩ := h
  exact ⟨fetch_of_holds hphoff, fetch_of_holds hphnum⟩

theorem loads_phdrs (n : Nat) : (c.phdrs n).filter (fun ph => BitVec.ofNat 32 ph.type = 1) =
    ⟨1, 5, 0x1000, c.textVaddr, n, 0x1000⟩ ::
      if c.splitData then [⟨1, 6, 0x3000, c.dataVaddr, c.dataSize, 0x1000⟩] else [] := by
  unfold phdrs
  split <;> split <;> rfl

theorem segments_pieces (h : c.Fits text.length) (htext : text.length < 2 ^ 62) :
    ∃ data, segments (file (c.pieces env text)) =
      (BitVec.ofNat 64 c.textVaddr, text) ::
        (if c.splitData then [(BitVec.ofNat 64 c.dataVaddr, data)] else []) ∧
      data.length = c.dataSize ∧ c.dataBytes env <+: data := by
  have hapart := apart_pieces env h
  obtain ⟨hehdr, hlen, hphnum⟩ := c.length_headers text.length
  have hheaders : Holds (file (c.pieces env text)) 0
      (c.ehdr ++ (c.phdrs text.length).flatMap Phdr.bytes) := by
    refine holds_file hapart (p := ⟨0, none, _⟩) (by simp [pieces]) ?_
    rw [List.length_append, length_flatMap_of_length length_bytes]
    simp only
    omega
  rw [holds_append, hehdr] at hheaders
  obtain ⟨hphoff, hcount⟩ := ehdr_fields hheaders.1
  have hread : segments (file (c.pieces env text)) =
      ((c.phdrs text.length).filter fun ph => BitVec.ofNat 32 ph.type = 1).map
        (Phdr.segment (file (c.pieces env text))) := by
    rw [segments, hphoff, hcount, BitVec.toNat_ofNat, Nat.mod_eq_of_lt (by omega), ← hlen]
    exact segmentsFrom_eq hheaders.2
  have hsegment : ∀ ph : Phdr, ∀ bytes, (⟨ph.offset, some ph.vaddr, bytes⟩ : Piece) ∈
      c.pieces env text → ph.offset ≤ 0x3000 → bytes.length ≤ ph.filesz → ph.filesz < 2 ^ 62 →
      bytes <+: (ph.segment (file (c.pieces env text))).2 ∧
        (ph.segment (file (c.pieces env text))).2.length = ph.filesz := by
    intro ph bytes hmem hoffset hle hlt
    exact prefix_segment (holds_file hapart hmem (by simp only; omega)) hle (by omega)
  obtain ⟨htext', htextLen⟩ := hsegment ⟨1, 5, 0x1000, c.textVaddr, text.length, 0x1000⟩ text
    (by simp [pieces]) (by simp) (Nat.le_refl _) htext
  have htextEq := htext'.eq_of_length htextLen.symm
  rw [hread, loads_phdrs, List.map_cons]
  by_cases hs : c.splitData = true
  · obtain ⟨hdata, hdataLen⟩ := hsegment ⟨1, 6, 0x3000, c.dataVaddr, c.dataSize, 0x1000⟩
      (c.dataBytes env) (by simp [pieces, dataPieces, hs]) (by simp)
      (c.length_dataBytes env).2.2 c.dataSize_lt
    refine ⟨_, ?_, hdataLen, hdata⟩
    rw [if_pos hs, if_pos hs]
    exact congrArg (· :: _) (Prod.ext rfl htextEq.symm)
  · have hplain : c.kind = .plain := by simpa [splitData] using hs
    refine ⟨[], ?_, by simp [dataSize, dynImage, splitData, hplain],
      by simp [dataBytes, dataWords, hplain]⟩
    rw [if_neg hs, if_neg hs]
    exact congrArg (· :: _) (Prod.ext rfl htextEq.symm)

/-- No two pieces of the file and no two sections share a byte of the file or of memory (the section
`.data` is the whole data segment, with the tables in it), and the segments that a loader finds are
the instructions, and a data segment that starts with the data. -/
structure Faithful (c : Command) (env : Env) (text : List (BitVec 8)) (pieces : List Piece) :
    Prop where
  apart : pieces.Pairwise fun a b => a.range.Apart b.range
  sections : c.hasSections = true →
    ((c.sectionHeaders text.length).eraseIdx 2).Pairwise fun a b => a.range.Apart b.range
  addresses : c.splitData = true → c.textVaddr + text.length ≤ c.dataVaddr
  loads : ∃ data, segments (file pieces) =
    (BitVec.ofNat 64 c.textVaddr, text) ::
      (if c.splitData then [(BitVec.ofNat 64 c.dataVaddr, data)] else []) ∧
    data.length = c.dataSize ∧ c.dataBytes env <+: data

theorem faithful_iff (htext : text.length < 2 ^ 62) :
    Faithful c env text (c.pieces env text) ↔ c.Fits text.length := by
  have hbase := c.textVaddr_add
  constructor
  · intro h
    refine ⟨fun hs => ?_, fun hx => ?_, fun hy hd => ?_⟩
    · have := h.addresses hs
      omega
    · have hrela := (List.pairwise_cons.mp (List.pairwise_cons.mp (h.sections hx)).2).1 _
        (.tail _ (.head _))
      have hpos : 0 < if c.isRel = true then 16 else 24 := by split <;> decide
      simp only [Range.Apart, Shdr.range] at hrela
      omega
    · have hmem : (⟨0x1000, some c.textVaddr, text⟩ : Piece) ∈ c.pieces env text := by
        simp [pieces]
      have hsymbols : (⟨0x5000, none, c.symbols env text.length⟩ : Piece) ∈ c.pieces env text := by
        simp [pieces, symbolPieces, hy, dynsymOffset, hd]
      have hpos : 0 < c.dynsymSize := by
        unfold dynsymSize dynsymCount
        omega
      have := h.apart.forall hmem hsymbols (by simp)
      simp only [Range.Apart, Piece.range, length_symbols] at this
      omega
  · intro h
    refine ⟨apart_pieces env h, apart_sections h, fun hs => ?_, segments_pieces env h htext⟩
    have := h.1 hs
    omega

end Command

/-- Every halfword is 1, every word is 0 and every long word is 7. -/
def onesEnv : Env := ⟨fun _ => some 1, fun _ => some 0, fun _ => some 7⟩

/-- A RISC-V image with one compressed instruction, a data symbol and an exported one. -/
def symbolCommand : Command :=
  ⟨.riscv, .dynSymbol64, [0x37], some ⟨[0x66], none, true⟩, [[0x68, 0x3a, 0x31]], by decide⟩

/-- An AArch64 image with 2049 instructions and a data word. -/
def longCommand : Command :=
  ⟨.aarch64, .splitData64, [0x37], none, List.replicate 0x801 [],
    by rw [List.length_replicate]; decide⟩

theorem text_longCommand : longCommand.text onesEnv = some (List.replicate (0x801 * 4) 0) := by
  have hmap : ∀ (c : Command) n, (List.replicate n []).mapM (c.parseTextToken onesEnv) =
      some (List.replicate n (0, 4)) := by
    intro c n
    induction n with
    | zero => rfl
    | succ n ih =>
      rw [List.replicate_succ, List.mapM_cons, ih]
      rfl
  have hbytes : ∀ n, (List.replicate n ((0 : BitVec 32), 4)).flatMap
      (fun i => (toBytes 4 i.1).take i.2) = List.replicate (n * 4) 0 := by
    intro n
    induction n with
    | zero => rfl
    | succ n ih =>
      rw [List.replicate_succ, List.flatMap_cons, ih, Nat.succ_mul, Nat.add_comm,
        ← List.replicate_append_replicate]
      rfl
  exact (congrArg (Option.map _) (hmap _ _)).trans (congrArg some (hbytes _))

end Poly.Mkpolyelf
