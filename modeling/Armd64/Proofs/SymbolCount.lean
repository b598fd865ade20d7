import Mathlib.Order.Bounds.Basic
import Armd64.Polyexec.Walks
import Armd64.Proofs.ElfSymbols

/-!
# The number of symbols from a GNU hash table

The count of `dynamic_symbol_count_from_hash` comes from the buckets and chains of a table whose
contents are not checked. Its reads are in the image, there are not many, and the count is that of
the indices which the chains of the buckets reach.
-/

namespace Poly.Polyexec

open Hw (Traced TracedLoop)
open Hw.Traced

def ImageRead.InImage (img : Image) (r : ImageRead) : Prop := r.offset + r.size ≤ img.codeSize

/-! ## Reads -/

namespace Walk

section

variable {img : Image} {offset n : Nat} {α : Type}

theorem readU16_within {f : BitVec 16 → Traced ImageRead α} (h : offset + 2 ≤ img.codeSize)
    (hf : Within (·.InImage img) n (f (img.u16 offset))) :
    Within (·.InImage img) (n + 1) (readU16 img offset >>= f) := .emit_bind h hf

theorem readU32_within {f : BitVec 32 → Traced ImageRead α} (h : offset + 4 ≤ img.codeSize)
    (hf : Within (·.InImage img) n (f (img.u32 offset))) :
    Within (·.InImage img) (n + 1) (readU32 img offset >>= f) := .emit_bind h hf

end

section

variable (img : Image) (bucketsOffset chainsOffset symoffset maxSymbols : Nat)

theorem gnuChain_within (s : Nat × Nat) :
    Within (·.InImage img) (maxSymbols - s.1 + 1)
      ((gnuChain img chainsOffset symoffset maxSymbols).run s) := by
  rw [← Nat.one_mul (maxSymbols - s.1 + 1)]
  refine (gnuChain img chainsOffset symoffset maxSymbols).within (fun s => ?_) s
  show Within _ _ (gnuChainBody img chainsOffset symoffset maxSymbols s)
  unfold gnuChainBody
  dsimp only
  split
  · exact .fail
  refine readU32_within (by omega) ?_
  split
  · exact .pure
  split
  · exact .fail
  · exact .pure

theorem value_gnuChain (s : Nat × Nat) :
    ((gnuChain img chainsOffset symoffset maxSymbols).run s).value =
      (Polyexec.gnuChain img chainsOffset symoffset maxSymbols).exit s :=
  TracedLoop.value_run (value_gnuChainBody img chainsOffset symoffset maxSymbols) s

theorem value_gnuBuckets (ns : List Nat) (count : Nat) :
    (ns.foldlM (gnuBucket img bucketsOffset chainsOffset symoffset maxSymbols) count).value =
      gnuBuckets img bucketsOffset chainsOffset symoffset maxSymbols ns count := by
  induction ns generalizing count with
  | nil => rfl
  | cons n ns ih =>
    rw [List.foldlM_cons, value_bind_eq, gnuBuckets]
    have hbucket : (gnuBucket img bucketsOffset chainsOffset symoffset maxSymbols count n).value =
        let index := (img.u32 (bucketsOffset + n * 4)).toNat
        if index = 0 then some count
        else if index < symoffset ∨ maxSymbols ≤ index then none
        else (Polyexec.gnuChain img chainsOffset symoffset maxSymbols).exit (index, count) := by
      show (ite _ _ _ : Traced _ _).value = _
      dsimp only
      rw [← value_gnuChain]
      split
      · rfl
      split <;> rfl
    rw [hbucket]
    dsimp only
    split
    · exact ih count
    split
    · rfl
    · exact congrArg _ (funext ih)

theorem gnuBucket_within {n : Nat} (hn : bucketsOffset + n * 4 + 4 ≤ img.codeSize) (count : Nat) :
    Within (·.InImage img) (maxSymbols + 1)
      (gnuBucket img bucketsOffset chainsOffset symoffset maxSymbols count n) := by
  refine readU32_within hn ?_
  split
  · exact .pure
  split
  · exact .fail
  · exact (gnuChain_within img chainsOffset symoffset maxSymbols _).mono (by omega)

end

section

variable (img : Image) (info : SymbolInfo)

theorem value_gnuSymbolCount :
    (gnuSymbolCount img info).value = Polyexec.gnuSymbolCount img info := by
  unfold gnuSymbolCount Polyexec.gnuSymbolCount
  rw [value_bind_eq]
  refine congrArg _ (funext fun symtabOffset => ?_)
  rw [value_bind_eq]
  refine congrArg _ (funext fun hashOffset => ?_)
  show (ite _ _ _ : Traced _ _).value = _
  dsimp only
  split
  · rfl
  split
  · rfl
  split
  · rfl
  · exact value_gnuBuckets _ _ _ _ _ _ _

theorem value_checkedCount (count : Nat) :
    (checkedCount count).value = if count ≠ 0 ∧ count ≤ 4096 then some count else none := by
  unfold checkedCount
  split <;> rfl

theorem checkedCount_within (count : Nat) :
    Within (·.InImage img) 0 (checkedCount count) := by
  unfold checkedCount
  split
  · exact .pure
  · exact .fail

theorem value_dynamicSymbolCountFromHash :
    (dynamicSymbolCountFromHash img info).value =
      Polyexec.dynamicSymbolCountFromHash img info := by
  unfold dynamicSymbolCountFromHash Polyexec.dynamicSymbolCountFromHash
  split
  · rw [value_bind_eq]
    exact congrArg _ (funext fun hashOffset => value_checkedCount _)
  split
  · rfl
  · rw [value_bind_eq, value_gnuSymbolCount]
    exact congrArg _ (funext value_checkedCount)

theorem gnuSymbolCount_within (hsyment : symSize ≤ info.syment.toNat) :
    Within (·.InImage img) (img.codeSize / 4 * (img.codeSize / symSize + 1) + 3)
      (gnuSymbolCount img info) := by
  refine .ofOption_bind fun symtabOffset _ => .ofOption_bind fun hashOffset hhash => ?_
  replace hhash : hashOffset + 16 ≤ img.codeSize := (elfVaddrToImageOffset_eq_some hhash).2
  refine readU32_within (by omega) (readU32_within (by omega) (readU32_within (by omega) ?_))
  split
  · exact .fail
  dsimp only
  split
  · exact .fail
  split
  · exact .fail
  refine (Within.foldlM (fun count n hn => gnuBucket_within img _ _ _ _ ?_ count) _).mono ?_
  · have hlt := List.mem_range.mp hn
    omega
  · rw [List.length_range]
    refine Nat.mul_le_mul (by omega) (Nat.add_le_add_right ?_ 1)
    exact Nat.div_le_div (Nat.sub_le _ _) hsyment (by decide)

theorem dynamicSymbolCountFromHash_within (hsyment : symSize ≤ info.syment.toNat) :
    Within (·.InImage img) (img.codeSize / 4 * (img.codeSize / symSize + 1) + 3)
      (dynamicSymbolCountFromHash img info) := by
  unfold dynamicSymbolCountFromHash
  split
  · refine .ofOption_bind fun hashOffset hhash => ?_
    replace hhash : hashOffset + 8 ≤ img.codeSize := (elfVaddrToImageOffset_eq_some hhash).2
    exact (readU32_within (by omega) (checkedCount_within img _)).mono (by omega)
  split
  · exact .fail
  · exact (gnuSymbolCount_within img info hsyment).bind fun count _ => checkedCount_within img count

end

end Walk

/-! ## Chains -/

structure GnuHash where
  nbuckets : Nat
  symoffset : Nat
  bucketsOffset : Nat
  chainsOffset : Nat
  deriving DecidableEq, Repr

def Image.gnuHash (img : Image) (offset : Nat) : GnuHash :=
  let nbuckets := (img.u32 offset).toNat
  let bucketsOffset := offset + 16 + (img.u32 (offset + 8)).toNat * 8
  ⟨nbuckets, (img.u32 (offset + 4)).toNat, bucketsOffset, bucketsOffset + nbuckets * 4⟩

namespace GnuHash

variable (img : Image) (t : GnuHash)

def bucket (n : Nat) : Nat := (img.u32 (t.bucketsOffset + n * 4)).toNat

def chainWord (i : Nat) : BitVec 32 := img.u32 (t.chainsOffset + (i - t.symoffset) * 4)

inductive Chain : Nat → Nat → Prop
  | self (i : Nat) : Chain i i
  | next {i j : Nat} : t.chainWord img i &&& 1 = 0 → Chain (i + 1) j → Chain i j

def Reaches (i : Nat) : Prop :=
  ∃ n < t.nbuckets, t.bucket img n ≠ 0 ∧ t.Chain img (t.bucket img n) i

end GnuHash

theorem isGreatest_insert_trans {α : Type} [Preorder α] {a b c : α} {A B : Set α}
    (hb : IsGreatest (insert a A) b) (hc : IsGreatest (insert b B) c) :
    IsGreatest (insert a (A ∪ B)) c := by
  have hbc : b ≤ c := hc.2 (Set.mem_insert b B)
  refine ⟨?_, fun x hx => ?_⟩
  · rcases hc.1 with rfl | h
    · exact hb.1.imp id .inl
    · exact .inr (.inr h)
  · rcases hx with rfl | hx | hx
    · exact (hb.2 (Set.mem_insert _ A)).trans hbc
    · exact (hb.2 (.inr hx)).trans hbc
    · exact hc.2 (.inr hx)

section

variable {img : Image} {t : GnuHash} {maxSymbols : Nat}

def GnuHash.chainCounts (img : Image) (t : GnuHash) (i : Nat) : Set Nat :=
  {c | ∃ j, t.Chain img i j ∧ c = j + 1}

variable {i count found : Nat}

theorem chainCounts_of_end (h : t.chainWord img i &&& 1 ≠ 0) : t.chainCounts img i = {i + 1} := by
  refine Set.ext fun c => ⟨?_, ?_⟩
  · rintro ⟨j, hj, rfl⟩
    cases hj with
    | self => rfl
    | next hgoes _ => exact absurd hgoes h
  · rintro rfl
    exact ⟨i, .self i, rfl⟩

theorem chainCounts_of_next (h : t.chainWord img i &&& 1 = 0) :
    t.chainCounts img i = {i + 1} ∪ t.chainCounts img (i + 1) := by
  refine Set.ext fun c => ⟨?_, ?_⟩
  · rintro ⟨j, hj, rfl⟩
    cases hj with
    | self => exact .inl rfl
    | next _ hj => exact .inr ⟨j, hj, rfl⟩
  · rintro (rfl | ⟨j, hj, rfl⟩)
    · exact ⟨i, .self i, rfl⟩
    · exact ⟨j, .next h hj, rfl⟩

theorem gnuChainBody_cases (img : Image) (t : GnuHash) (maxSymbols i count : Nat) :
    let r := gnuChainBody img t.chainsOffset t.symoffset maxSymbols (i, count)
    r = .error none ∨
      (t.chainWord img i &&& 1 ≠ 0 ∧ r = .error (some (max count (i + 1)))) ∨
      (t.chainWord img i &&& 1 = 0 ∧ r = .ok (i + 1, max count (i + 1))) := by
  have hmax : (if count < i + 1 then i + 1 else count) = max count (i + 1) := by
    split <;> omega
  intro r
  simp only [r, gnuChainBody, hmax]
  split
  · exact .inl rfl
  split
  · rename_i hend
    exact .inr (.inl ⟨hend, rfl⟩)
  split
  · exact .inl rfl
  · rename_i hgoes _
    exact .inr (.inr ⟨not_not.mp hgoes, rfl⟩)

theorem gnuChain_isGreatest
    (h : (gnuChain img t.chainsOffset t.symoffset maxSymbols).exit (i, count) = some found) :
    IsGreatest (insert count (t.chainCounts img i)) found := by
  generalize hs : (i, count) = s at h
  induction s using (gnuChain img t.chainsOffset t.symoffset maxSymbols).induction
    generalizing i count with
  | exit s r hbody =>
    subst hs
    rw [Hw.Loop.exit_error hbody] at h
    subst h
    rcases gnuChainBody_cases img t maxSymbols i count with hr | ⟨hend, hr⟩ | ⟨-, hr⟩
    · cases hr.symm.trans hbody
    · cases hr.symm.trans hbody
      rw [chainCounts_of_end hend]
      exact isGreatest_pair
    · cases hr.symm.trans hbody
  | next s s' hbody ih =>
    subst hs
    rw [Hw.Loop.exit_ok hbody] at h
    rcases gnuChainBody_cases img t maxSymbols i count with hr | ⟨-, hr⟩ | ⟨hgoes, hr⟩
    · cases hr.symm.trans hbody
    · cases hr.symm.trans hbody
    · cases hr.symm.trans hbody
      rw [chainCounts_of_next hgoes]
      exact isGreatest_insert_trans isGreatest_pair (ih rfl h)

theorem gnuBuckets_isGreatest {ns : List Nat}
    (h : gnuBuckets img t.bucketsOffset t.chainsOffset t.symoffset maxSymbols ns count =
      some found) :
    IsGreatest (insert count
      {c | ∃ n ∈ ns, t.bucket img n ≠ 0 ∧ c ∈ t.chainCounts img (t.bucket img n)}) found := by
  induction ns generalizing count with
  | nil =>
    cases h
    refine ⟨.inl rfl, ?_⟩
    rintro c (rfl | ⟨n, hn, -⟩)
    · exact Nat.le_refl _
    · cases hn
  | cons n ns ih =>
    change (if t.bucket img n = 0 then _ else _) = _ at h
    split at h
    · rename_i hzero
      have hset : {c | ∃ m ∈ n :: ns, t.bucket img m ≠ 0 ∧ c ∈ t.chainCounts img (t.bucket img m)} =
          {c | ∃ m ∈ ns, t.bucket img m ≠ 0 ∧ c ∈ t.chainCounts img (t.bucket img m)} := by
        ext c
        simp [hzero]
      rw [hset]
      exact ih h
    split at h
    · cases h
    rename_i hzero _
    obtain ⟨next, hnext, h⟩ := Option.bind_eq_some_iff.mp h
    have hset : {c | ∃ m ∈ n :: ns, t.bucket img m ≠ 0 ∧ c ∈ t.chainCounts img (t.bucket img m)} =
        t.chainCounts img (t.bucket img n) ∪
          {c | ∃ m ∈ ns, t.bucket img m ≠ 0 ∧ c ∈ t.chainCounts img (t.bucket img m)} := by
      ext c
      simp [hzero]
    rw [hset]
    exact isGreatest_insert_trans (gnuChain_isGreatest hnext) (ih h)

end

theorem gnuSymbolCount_isGreatest {img : Image} {info : SymbolInfo} {count : Nat}
    (h : gnuSymbolCount img info = some count) :
    ∃ offset, img.elfVaddrToImageOffset info.gnuHashVaddr 16 = some offset ∧
      IsGreatest (insert (img.gnuHash offset).symoffset
        {c | ∃ i, (img.gnuHash offset).Reaches img i ∧ c = i + 1}) count := by
  simp only [gnuSymbolCount, Option.bind_eq_bind, Option.bind_eq_some_iff] at h
  obtain ⟨symtabOffset, -, offset, hoffset, h⟩ := h
  refine ⟨offset, hoffset, ?_⟩
  split at h
  · cases h
  split at h
  · cases h
  split at h
  · cases h
  have hgreatest := gnuBuckets_isGreatest (t := img.gnuHash offset) h
  have hset : {c | ∃ i, (img.gnuHash offset).Reaches img i ∧ c = i + 1} =
      {c | ∃ n ∈ List.range (img.gnuHash offset).nbuckets, (img.gnuHash offset).bucket img n ≠ 0 ∧
        c ∈ (img.gnuHash offset).chainCounts img ((img.gnuHash offset).bucket img n)} := by
    refine Set.ext fun c => ⟨?_, ?_⟩
    · rintro ⟨i, ⟨n, hn, hzero, hi⟩, rfl⟩
      exact ⟨n, List.mem_range.mpr hn, hzero, i, hi, rfl⟩
    · rintro ⟨n, hn, hzero, i, hi, rfl⟩
      exact ⟨i, ⟨n, List.mem_range.mp hn, hzero, hi⟩, rfl⟩
  rw [hset]
  exact hgreatest

/-- The number of symbols of an image with a GNU hash table. The loops end: the words that they read
are bounded by the size of the image. -/
theorem gnu_symbol_count (img : Image) (info : SymbolInfo) (hsyment : symSize ≤ info.syment.toNat) :
    let t := Walk.dynamicSymbolCountFromHash img info
    t.value = dynamicSymbolCountFromHash img info ∧
      t.All (·.InImage img) ∧
      t.log.length ≤ img.codeSize / 4 * (img.codeSize / symSize + 1) + 3 ∧
      (info.hashVaddr = 0 → ∀ count, t.value = some count →
        count ≠ 0 ∧ count ≤ 4096 ∧
        ∃ offset, img.elfVaddrToImageOffset info.gnuHashVaddr 16 = some offset ∧
          IsGreatest (insert (img.gnuHash offset).symoffset
            {c | ∃ i, (img.gnuHash offset).Reaches img i ∧ c = i + 1}) count) := by
  intro t
  have hvalue : t.value = dynamicSymbolCountFromHash img info :=
    Walk.value_dynamicSymbolCountFromHash img info
  have hreads := Walk.dynamicSymbolCountFromHash_within img info hsyment
  refine ⟨hvalue, hreads.all, hreads.length_le, fun hhash count hcount => ?_⟩
  rw [hvalue, dynamicSymbolCountFromHash, if_neg (not_not.mpr hhash)] at hcount
  split at hcount
  · cases hcount
  obtain ⟨found, hfound, hcount⟩ := Option.bind_eq_some_iff.mp hcount
  split at hcount
  · rename_i hrange
    cases hcount
    exact ⟨hrange.1, hrange.2, gnuSymbolCount_isGreatest hfound⟩
  · cases hcount

/-- An image of one page with a GNU hash table at `0x300`: one bucket, whose chain has the symbols 1
and 2. -/
def chainImage : Image := { strideImage with
  byte := fun offset => if offset ∈ [0x300, 0x304, 0x308, 0x318, 0x320] then 1 else 0
  dynamic := [(dtSymtab, 0x100), (dtGnuHash, 0x300)] }

theorem gnu_symbol_count_chain :
    let t := Walk.dynamicSymbolCountFromHash chainImage chainImage.info
    t.value = some 3 ∧ t.All (·.InImage chainImage) ∧
      IsGreatest (insert 1 {c | ∃ i, (chainImage.gnuHash 0x300).Reaches chainImage i ∧ c = i + 1})
        3 := by
  obtain ⟨-, hall, -, hcount⟩ := gnu_symbol_count chainImage chainImage.info (by decide)
  have hvalue : (Walk.dynamicSymbolCountFromHash chainImage chainImage.info).value = some 3 := by
    decide +kernel
  obtain ⟨-, -, offset, hoffset, hgreatest⟩ := hcount (by decide) 3 hvalue
  have heq : chainImage.elfVaddrToImageOffset chainImage.info.gnuHashVaddr 16 = some 0x300 := by
    decide +kernel
  cases heq.symm.trans hoffset
  exact ⟨hvalue, hall, hgreatest⟩

end Poly.Polyexec
