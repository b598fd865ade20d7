import Armd64.Polyexec.Protections
import Armd64.Proofs.ElfLoad

/-!
# Page protections of a loaded image

The protection of a page is that of the last range with a byte on it. A page that segments share
has the permissions of the last one only, and a page with a byte of `PT_GNU_RELRO` is read-only,
also outside of that range.
-/

namespace Poly.Polyexec

/-! ## Ranges and pages -/

def Touches (vaddr size : BitVec 64) (a : Nat) : Prop :=
  size ≠ 0 ∧ vaddr.toNat / 0x1000 ≤ a / 0x1000 ∧
    a / 0x1000 ≤ (vaddr.toNat + size.toNat - 1) / 0x1000

instance (vaddr size : BitVec 64) (a : Nat) : Decidable (Touches vaddr size a) :=
  inferInstanceAs (Decidable (_ ∧ _ ∧ _))

theorem touches_of_mem {vaddr size : BitVec 64} {a : Nat} (hlow : vaddr.toNat ≤ a)
    (hhigh : a < vaddr.toNat + size.toNat) : Touches vaddr size a := by
  refine ⟨fun hz => ?_, by omega, by omega⟩
  rw [hz] at hhigh
  exact absurd hhigh (Nat.not_lt.mpr hlow)

theorem touches_iff_of_onePage {vaddr size : BitVec 64} {n a : Nat} (hsize : size ≠ 0)
    (hfirst : vaddr.toNat / 0x1000 = n) (hlast : (vaddr.toNat + size.toNat - 1) / 0x1000 = n) :
    Touches vaddr size a ↔ a / 0x1000 = n := by
  rw [Touches, hfirst, hlast, and_iff_right hsize]
  omega

/-- The number of the page of the byte with the address `a` in the file. -/
def pageOf (p : ElfProgram) (image a : Nat) : Nat := (image + (a - p.baseVaddr.toNat)) / 0x1000

theorem toNat_alignDownU64 (v : BitVec 64) :
    (alignDownU64 v 0x1000).toNat = v.toNat / 0x1000 * 0x1000 :=
  Hw.toNat_and_not_mask (k := 12) (by decide) v

theorem toNat_alignUpU64 {v : BitVec 64} (h : v.toNat ≤ 2 ^ 64 - 0x1000) :
    (alignUpU64 v 0x1000).toNat = (v.toNat + 0xfff) / 0x1000 * 0x1000 := by
  have hsum : (v + 0x1000 - 1).toNat = v.toNat + 0xfff := by
    have heq : v + 0x1000 - 1 = v + 0xfff := by bv_omega
    rw [heq, BitVec.toNat_add, Nat.mod_eq_of_lt (by simp; omega)]
    rfl
  rw [alignUpU64, Hw.toNat_and_not_mask (k := 12) (by decide), hsum]
  rfl

/-! ## One range -/

section

variable {refuses : Nat → Nat → Prot → Bool} {p : ElfProgram} {image : Nat} {mem mem' : PageMap}
  {vaddr size : BitVec 64} {prot : Prot}

theorem protectImageRange_eq_some
    (h : protectImageRange refuses p image vaddr size prot mem = some mem') :
    (size ≠ 0 → p.baseVaddr.toNat ≤ vaddr.toNat) ∧
      ∀ a, p.baseVaddr.toNat ≤ a →
        mem' (pageOf p image a) =
          if Touches vaddr size a then prot else mem (pageOf p image a) := by
  unfold protectImageRange at h
  split at h
  · rename_i hzero
    cases h
    exact ⟨fun hne => absurd hzero hne, fun a _ => (if_neg fun ht => ht.1 hzero).symm⟩
  rename_i hsize
  split at h
  · cases h
  dsimp only at h
  split at h
  · cases h
  split at h
  · cases h
  rename_i hvaddr hlast hbounds
  have hpos : 0 < size.toNat := Nat.pos_of_ne_zero fun hz => hsize (BitVec.eq_of_toNat_eq hz)
  have hend : (vaddr + size).toNat = vaddr.toNat + size.toNat := by
    rw [BitVec.toNat_add, Nat.mod_eq_of_lt (by omega)]
  rw [toNat_alignUpU64 (by omega), toNat_alignDownU64, hend] at hbounds
  have hstart : (alignDownU64 vaddr 0x1000 - p.baseVaddr).toNat =
      vaddr.toNat / 0x1000 * 0x1000 - p.baseVaddr.toNat := by
    rw [BitVec.toNat_sub_of_le (by rw [BitVec.le_def, toNat_alignDownU64]; omega),
      toNat_alignDownU64]
  have hlength : (alignUpU64 (vaddr + size) 0x1000 - alignDownU64 vaddr 0x1000).toNat =
      (vaddr.toNat + size.toNat + 0xfff) / 0x1000 * 0x1000 - vaddr.toNat / 0x1000 * 0x1000 := by
    rw [BitVec.toNat_sub_of_le, toNat_alignUpU64 (by omega), toNat_alignDownU64, hend]
    rw [BitVec.le_def, toNat_alignUpU64 (by omega), toNat_alignDownU64, hend]
    omega
  rw [hstart, hlength] at h
  unfold mprotect at h
  split at h
  · cases h
  rename_i haligned
  cases h
  refine ⟨fun _ => by omega, fun a ha => if_congr ?_ rfl rfl⟩
  rw [not_or, not_not] at haligned
  have hpage := haligned.1
  unfold pageOf Touches
  constructor
  · rintro ⟨hlow, hhigh⟩
    exact ⟨hsize, by omega, by omega⟩
  · rintro ⟨-, hlow, hhigh⟩
    exact ⟨by omega, by omega⟩

end

/-! ## All ranges -/

namespace LoadSegment

variable (seg : LoadSegment) (a : Nat)

def prot : Prot := loadSegmentProt seg.flags

def HasByte : Prop := seg.vaddr.toNat ≤ a ∧ a < seg.vaddr.toNat + seg.memsz.toNat

def touches : Bool := Touches seg.vaddr seg.memsz a

variable {seg a}

theorem HasByte.touches (h : seg.HasByte a) : seg.touches a :=
  decide_eq_true (touches_of_mem h.1 h.2)

end LoadSegment

def lastTouching (segs : List LoadSegment) (a : Nat) : Option LoadSegment :=
  segs.reverse.find? (·.touches a)

theorem exists_lastTouching {segs : List LoadSegment} {seg : LoadSegment} {a : Nat}
    (hseg : seg ∈ segs) (h : seg.touches a) : ∃ last, lastTouching segs a = some last := by
  cases hlast : lastTouching segs a with
  | some last => exact ⟨last, rfl⟩
  | none =>
    have hno := List.find?_eq_none.mp hlast seg (List.mem_reverse.mpr hseg)
    exact absurd h hno

section

variable {refuses : Nat → Nat → Prot → Bool} {p : ElfProgram} {image : Nat} {mem mem' : PageMap}

theorem protectSegments_page {segs : List LoadSegment}
    (h : segs.foldlM (fun mem seg =>
      protectImageRange refuses p image seg.vaddr seg.memsz (loadSegmentProt seg.flags) mem) mem =
        some mem') :
    (∀ seg ∈ segs, seg.memsz ≠ 0 → p.baseVaddr.toNat ≤ seg.vaddr.toNat) ∧
      ∀ a, p.baseVaddr.toNat ≤ a →
        mem' (pageOf p image a) =
          (lastTouching segs a).elim (mem (pageOf p image a)) LoadSegment.prot := by
  induction segs generalizing mem with
  | nil =>
    cases h
    exact ⟨fun _ hseg => absurd hseg List.not_mem_nil, fun a _ => rfl⟩
  | cons seg segs ih =>
    obtain ⟨mem₁, hfirst, hrest⟩ := Option.bind_eq_some_iff.mp h
    obtain ⟨hbase, hpage⟩ := protectImageRange_eq_some hfirst
    obtain ⟨hbases, hpages⟩ := ih hrest
    refine ⟨List.forall_mem_cons.mpr ⟨hbase, hbases⟩, fun a ha => ?_⟩
    rw [hpages a ha, hpage a ha, lastTouching, lastTouching, List.reverse_cons, List.find?_append]
    cases segs.reverse.find? (·.touches a) with
    | some last => rfl
    | none =>
      rw [Option.none_or, List.find?_cons]
      unfold LoadSegment.touches
      by_cases ht : Touches seg.vaddr seg.memsz a
      · rw [if_pos ht, decide_eq_true ht]
        rfl
      · rw [if_neg ht, decide_eq_false ht]
        rfl

theorem protectImage_page (h : protectImage refuses p image mem = some mem') :
    (∀ seg ∈ p.scan.loadSegments, seg.memsz ≠ 0 → p.baseVaddr.toNat ≤ seg.vaddr.toNat) ∧
      ∀ a, p.baseVaddr.toNat ≤ a →
        mem' (pageOf p image a) =
          if Touches p.scan.relroVaddr p.scan.relroSize a then protRead
          else (lastTouching p.scan.loadSegments a).elim (mem (pageOf p image a))
            LoadSegment.prot := by
  obtain ⟨mem₁, hsegs, hrelro⟩ := Option.bind_eq_some_iff.mp h
  obtain ⟨hbases, hpages⟩ := protectSegments_page hsegs
  obtain ⟨-, hpage⟩ := protectImageRange_eq_some hrelro
  exact ⟨hbases, fun a ha => by rw [hpage a ha, hpages a ha]⟩

end

/-! ## Permissions of segments -/

def HeaderScan.InRelro (s : HeaderScan) (a : Nat) : Prop :=
  s.relroVaddr.toNat ≤ a ∧ a < s.relroVaddr.toNat + s.relroSize.toNat

/-- Each byte of a segment has all permissions of the segments with a byte on its page, up to that
for writes in `PT_GNU_RELRO`. -/
def ProtectionsRespected (p : ElfProgram) (image : Nat) (mem : PageMap) : Prop :=
  ∀ seg ∈ p.scan.loadSegments, ∀ a, seg.HasByte a →
    ∀ other ∈ p.scan.loadSegments, other.touches a = true → ∀ q, other.prot.has q = true →
      (q = .write → ¬ p.scan.InRelro a) → (mem (pageOf p image a)).has q = true

/-- The last segment on a page has the permissions of the others on it, and a page with a byte of
`PT_GNU_RELRO` has no code, and nothing writable outside of that range. -/
structure PagesCompatible (s : HeaderScan) : Prop where
  shared : ∀ seg ∈ s.loadSegments, ∀ a, seg.HasByte a → ¬ Touches s.relroVaddr s.relroSize a →
    ∀ last, lastTouching s.loadSegments a = some last →
      ∀ other ∈ s.loadSegments, other.touches a = true → ∀ q, other.prot.has q = true →
        last.prot.has q = true
  relro : ∀ seg ∈ s.loadSegments, ∀ a, seg.HasByte a → Touches s.relroVaddr s.relroSize a →
    ∀ other ∈ s.loadSegments, other.touches a = true →
      other.prot.exec = false ∧ (¬ s.InRelro a → other.prot.write = false)

/-- After a protection that succeeds, the segments have their permissions if and only if the program
headers are compatible. -/
theorem protections_respected_iff (refuses : Nat → Nat → Prot → Bool) (p : ElfProgram)
    (image : Nat) (mem mem' : PageMap) (h : protectImage refuses p image mem = some mem') :
    ProtectionsRespected p image mem' ↔ PagesCompatible p.scan := by
  obtain ⟨hbases, hpages⟩ := protectImage_page h
  have hbase : ∀ seg ∈ p.scan.loadSegments, ∀ a, seg.HasByte a → p.baseVaddr.toNat ≤ a := by
    intro seg hseg a ha
    have htouches : Touches seg.vaddr seg.memsz a := of_decide_eq_true ha.touches
    exact Nat.le_trans (hbases seg hseg htouches.1) ha.1
  constructor
  · intro hkept
    refine ⟨fun seg hseg a ha hrelro last hlast other hother ht q hq => ?_,
      fun seg hseg a ha hrelro other hother ht => ⟨?_, fun hout => ?_⟩⟩
    · have hperm := hkept seg hseg a ha other hother ht q hq fun _ hin =>
        hrelro (touches_of_mem hin.1 hin.2)
      rwa [hpages a (hbase seg hseg a ha), if_neg hrelro, hlast, Option.elim_some] at hperm
    · have hperm := fun hq => hkept seg hseg a ha other hother ht .exec hq (by simp)
      rw [hpages a (hbase seg hseg a ha), if_pos hrelro] at hperm
      exact Bool.eq_false_iff.mpr fun hq => Bool.false_ne_true (hperm hq)
    · have hperm := fun hq => hkept seg hseg a ha other hother ht .write hq (fun _ => hout)
      rw [hpages a (hbase seg hseg a ha), if_pos hrelro] at hperm
      exact Bool.eq_false_iff.mpr fun hq => Bool.false_ne_true (hperm hq)
  · intro hc seg hseg a ha other hother ht q hq hwrite
    rw [hpages a (hbase seg hseg a ha)]
    split
    · rename_i hrelro
      obtain ⟨hexec, hout⟩ := hc.relro seg hseg a ha hrelro other hother ht
      cases q with
      | read => rfl
      | write => exact absurd hq (by simp [Prot.has, hout (hwrite rfl)])
      | exec => exact absurd hq (by simp [Prot.has, hexec])
    · rename_i hrelro
      obtain ⟨last, hlast⟩ := exists_lastTouching hother ht
      rw [hlast, Option.elim_some]
      exact hc.shared seg hseg a ha hrelro last hlast other hother ht q hq

def mappedPages : PageMap := fun _ => ⟨true, true, true⟩

/-- The segments of `layeredElf`, each on one page. -/
def layeredSegments : List LoadSegment :=
  [⟨0x400000, 0, 288, 288, 5⟩, ⟨0x400080, 0, 8, 0x200, 7⟩, ⟨0x401000, 0, 0, 0x100, 6⟩]

theorem layered_touches {seg : LoadSegment} (hseg : seg ∈ layeredSegments) (a : Nat) :
    seg.touches a = decide (a / 0x1000 = seg.vaddr.toNat / 0x1000) := by
  have hone : ∀ seg ∈ layeredSegments, seg.memsz ≠ 0 ∧
      (seg.vaddr.toNat + seg.memsz.toNat - 1) / 0x1000 = seg.vaddr.toNat / 0x1000 := by decide
  exact decide_eq_decide.mpr (touches_iff_of_onePage (hone seg hseg).1 rfl (hone seg hseg).2)

/-- The second segment has all permissions of the first one, and the third one is in
`PT_GNU_RELRO`. -/
theorem layered_compatible {s : HeaderScan} (hsegs : s.loadSegments = layeredSegments)
    (hvaddr : s.relroVaddr = 0x401000) (hsize : s.relroSize = 0x100) : PagesCompatible s := by
  have hrelro : ∀ a, Touches s.relroVaddr s.relroSize a ↔ a / 0x1000 = 0x401 := by
    rw [hvaddr, hsize]
    exact fun a => touches_iff_of_onePage (by decide) (by decide) (by decide)
  constructor
  all_goals rw [hsegs]
  · intro seg _ a _ hno last hlast other hother ht q _
    rw [hrelro] at hno
    rw [layered_touches hother, decide_eq_true_iff] at ht
    have hpage : a / 0x1000 = 0x400 := by
      have hpages : ∀ seg ∈ layeredSegments, seg.vaddr.toNat / 0x1000 = 0x400 ∨
          seg.vaddr.toNat / 0x1000 = 0x401 := by decide
      exact ht.trans ((hpages other hother).resolve_right fun h => hno (ht.trans h))
    have hfound : lastTouching layeredSegments a = some ⟨0x400080, 0, 8, 0x200, 7⟩ := by
      refine (List.find?_cons_of_neg ?_).trans (List.find?_cons_of_pos ?_) <;>
        rw [layered_touches (by decide), hpage] <;> decide
    cases hfound.symm.trans hlast
    cases q <;> decide
  · intro seg hseg a ha hin other hother ht
    rw [hrelro] at hin
    have hthird : ∀ seg ∈ layeredSegments, seg.vaddr.toNat / 0x1000 = 0x401 →
        seg = ⟨0x401000, 0, 0, 0x100, 6⟩ := by decide
    have honly : ∀ seg ∈ layeredSegments, seg.touches a = true →
        seg = ⟨0x401000, 0, 0, 0x100, 6⟩ := fun seg hseg ht => hthird seg hseg <| by
      rw [layered_touches hseg, hin, decide_eq_true_iff] at ht
      exact ht.symm
    obtain rfl := honly seg hseg ha.touches
    obtain rfl := honly other hother ht
    refine ⟨by decide, fun hout => absurd ?_ hout⟩
    rw [HeaderScan.InRelro, hvaddr, hsize]
    exact ha

theorem protections_respected_iff_layeredElf :
    ∃ p mem, loadElfProgram layeredElf [] = .ok p ∧
      protectImage (fun _ _ _ => false) p 0x400000 mappedPages = some mem ∧
      ProtectionsRespected p 0x400000 mem := by
  have hload : (loadElfProgram layeredElf []).map (fun p =>
      (p.scan.loadSegments, p.scan.relroVaddr, p.scan.relroSize,
        (protectImage (fun _ _ _ => false) p 0x400000 mappedPages).isSome)) =
        .ok (layeredSegments, 0x401000, 0x100, true) := by
    decide +kernel
  obtain ⟨p, hp, hload⟩ := Hw.exists_of_except_map hload
  obtain ⟨hsegs, hrest⟩ := Prod.mk.inj hload
  obtain ⟨hvaddr, hrest⟩ := Prod.mk.inj hrest
  obtain ⟨hsize, hsome⟩ := Prod.mk.inj hrest
  obtain ⟨mem, hmem⟩ := Option.isSome_iff_exists.mp hsome
  exact ⟨p, mem, hp, hmem, (protections_respected_iff _ p _ _ mem hmem).mpr
    (layered_compatible hsegs hvaddr hsize)⟩

/-- A file with code from `0x400000` on, data from `0x400800` on, and `PT_GNU_RELRO` from `0x401000`
to `0x401100`, in the data. -/
def sharedPagesElf : ElfFile where
  size := 232
  byte i := (List.getD
    [0x00010102464c457f, 0, 0x0000000100b70003, 0x400000, 64, 0, 0x0038004000000000, 3,
      0x0000000500000001, 0, 0x400000, 0x400000, 232, 232, 0x1000,
      0x0000000600000001, 0, 0x400800, 0x400800, 0, 0x1000, 0x1000,
      0x000000046474e552, 0, 0x401000, 0x401000, 0, 0x100, 1] (i / 8) (0 : BitVec 64)).extractLsb'
        (8 * (i % 8)) 8

/-- The code may not be executed, and the data behind `PT_GNU_RELRO` may not be written. -/
theorem protections_of_shared_pages :
    ∃ p mem, loadElfProgram sharedPagesElf [] = .ok p ∧
      protectImage (fun _ _ _ => false) p 0x400000 mappedPages = some mem ∧
      p.scan.loadSegments = [⟨0x400000, 0, 232, 232, 5⟩, ⟨0x400800, 0, 0, 0x1000, 6⟩] ∧
      p.scan.relroVaddr = 0x401000 ∧ p.scan.relroSize = 0x100 ∧
      mem (pageOf p 0x400000 0x400000) = ⟨true, true, false⟩ ∧
      mem (pageOf p 0x400000 0x401200) = ⟨true, false, false⟩ ∧
      ¬ ProtectionsRespected p 0x400000 mem := by
  have hload : (loadElfProgram sharedPagesElf []).map (fun p =>
      (p.scan.loadSegments, p.scan.relroVaddr, p.scan.relroSize,
        (protectImage (fun _ _ _ => false) p 0x400000 mappedPages).map fun mem =>
          (mem (pageOf p 0x400000 0x400000), mem (pageOf p 0x400000 0x401200)))) =
        .ok ([⟨0x400000, 0, 232, 232, 5⟩, ⟨0x400800, 0, 0, 0x1000, 6⟩], 0x401000, 0x100,
          some (⟨true, true, false⟩, ⟨true, false, false⟩)) := by
    decide +kernel
  obtain ⟨p, hp, hload⟩ := Hw.exists_of_except_map hload
  obtain ⟨hsegs, hrest⟩ := Prod.mk.inj hload
  obtain ⟨hvaddr, hrest⟩ := Prod.mk.inj hrest
  obtain ⟨hsize, hpages⟩ := Prod.mk.inj hrest
  obtain ⟨mem, hmem, hprots⟩ := Option.map_eq_some_iff.mp hpages
  obtain ⟨hcode, hdata⟩ := Prod.mk.inj hprots
  refine ⟨p, mem, hp, hmem, hsegs, hvaddr, hsize, hcode, hdata, fun hkept => ?_⟩
  -- the first byte of the code
  have hseg : (⟨0x400000, 0, 232, 232, 5⟩ : LoadSegment) ∈ p.scan.loadSegments := by simp [hsegs]
  have hexec := hkept _ hseg 0x400000 ⟨by decide, by decide⟩ _ hseg (by decide) .exec (by decide)
    (fun h => by cases h)
  rw [hcode] at hexec
  cases hexec

end Poly.Polyexec
