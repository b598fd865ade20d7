import Armd64.Proofs.LoadedLibraries

/-!
# Libraries without cycles

A needed name can stand for the file at its path and for a loaded file with this soname. If the
graph of these edges has no cycle, no reuse of the load closes one.
-/

namespace Poly.Polyexec

open ProgramHeap
open Relation (ReflTransGen TransGen)

/-- The edges that a load can follow from a file: to the file at the path of a needed name, to a file
that the soname search for a needed name can find, and from the root to the preloaded files. -/
inductive Library.Leads (files : ProcessFiles) (root : Library) : Library → Library → Prop
  | needs {a b : Library} (h : a.Needs files b) : Leads files root a b
  | finds {a b : Library} (h : a.Finds b) (reached : b.Reached files root)
    (file : files.elf b.path = some b.elf) : Leads files root a b
  | preload {b : Library} (h : b.Preloaded files) : Leads files root root b

variable {files : ProcessFiles} {root : Library} {h : ProgramHeap}

namespace FromFiles

theorem leads (hfrom : FromFiles files root h) {p q : Nat} (hpq : h.Needs p q) :
    Library.Leads files root (h.library p) (h.library q) := by
  have hpos := pos_of_needs hpq
  obtain ⟨r, d, hd, rfl, rfl⟩ := hpq
  have hlt := hfrom.closed r d hd
  by_cases hshared : d.sharedFrom = none
  · rcases hfrom.owned hd hshared with hneeds | ⟨hzero, hpreloaded⟩
    · exact .needs hneeds
    · rw [hzero, hfrom.rootLibrary]
      exact .preload hpreloaded
  · exact .finds (hfrom.shared hd hshared) (hfrom.reached hlt) (hfrom.file hpos hlt)

/-- A reuse that closes a cycle of programs closes one of files. -/
theorem not_closesCycle (hfrom : FromFiles files root h) {n p : Nat} {needed : CString}
    {source : DepRef} (hstep : SharesFor n h p needed source)
    (hacyclic : ∀ a : Library, a.Reached files root → ¬TransGen (Library.Leads files root) a a) :
    ¬(⟨h, p, source⟩ : Reuse).ClosesCycle := by
  intro hcycle
  obtain ⟨d, hd, -⟩ := findShared_found hstep.found
  have hneeds : h.Needs source.program d.program := ⟨source, d, hd, rfl, rfl⟩
  rw [Reuse.ClosesCycle, target_eq hd] at hcycle
  have hback : ReflTransGen (Library.Leads files root) (h.library d.program) (h.library p) :=
    hcycle.lift h.library fun _ _ => hfrom.leads
  have hlt := hfrom.closed source d hd
  refine hacyclic _ (hfrom.reached hstep.lt) (TransGen.head' (.finds ?_ ?_ ?_) hback)
  · exact finds_of_sharesFor hstep hd
  · exact hfrom.reached hlt
  · exact hfrom.file (pos_of_needs hneeds) hlt

theorem loadInvariant
    (hacyclic : ∀ a : Library, a.Reached files root → ¬TransGen (Library.Leads files root) a a) :
    LoadInvariant files (fun e => ¬ e.ClosesCycle) (FromFiles files root) where
  share := by
    intro n h p needed source hfrom hp hneeded hfound
    have hstep : SharesFor n h p needed source := ⟨hp, hneeded, hfound⟩
    exact ⟨hfrom.not_closesCycle hstep hacyclic, hfrom.share hstep⟩
  adopt := by
    intro h p needed path elf hfrom hp hneeded hpath helf
    exact hfrom.adopt (b := ⟨path, elf⟩) hp helf (.inl ⟨needed, hneeded, hpath, helf⟩)
  preload := by
    intro h token path elf hfrom hp htoken helf
    exact hfrom.adopt (b := ⟨path, elf⟩) hp helf (.inr ⟨rfl, ⟨token, htoken⟩, helf⟩)

end FromFiles

theorem loadAndWalksReturn_of_noLeads
    (hacyclic : ∀ a : Library, a.Reached files root → ¬TransGen (Library.Leads files root) a a) :
    LoadAndWalksReturn files root.path root.elf :=
  loadAndWalksReturn_of_noCycle
    (load_sound (FromFiles.loadInvariant hacyclic) (.init files root.path root.elf)).all

/-! ## Ranks -/

/-- A rank that gets smaller from a module to the files that a name it needs can stand for: that at
the path of the name, and those with this soname. -/
structure Ranked (files : ProcessFiles) (root : ElfModule) (rank : ElfModule → Nat) : Prop where
  file : ∀ {elf owner name path elf'}, elf.Names name → files.neededPath owner name = some path →
    files.elf path = some elf' → rank elf' < rank elf
  soname : ∀ {elf path elf'}, elf.Names elf'.soname → files.elf path = some elf' →
    rank elf' < rank elf
  preload : ∀ {token path elf}, (token, some path) ∈ files.preload → files.elf path = some elf →
    rank elf < rank root

theorem Ranked.lt_of_leads {rank : ElfModule → Nat} (hr : Ranked files root.elf rank)
    {a b : Library} (hab : TransGen (Library.Leads files root) a b) : rank b.elf < rank a.elf := by
  have hstep : ∀ {a b : Library}, Library.Leads files root a b → rank b.elf < rank a.elf := by
    rintro a b (⟨name, hb⟩ | ⟨hfinds, -, hfile⟩ | ⟨⟨token, hmem⟩, hfile⟩)
    · exact hr.file hb.names hb.path hb.file
    · exact hr.soname hfinds.names hfile
    · exact hr.preload hmem hfile
  induction hab with
  | single hab => exact hstep hab
  | tail _ hbc ih => exact Nat.lt_trans (hstep hbc) ih

/-- `A` needs `C`, which is preloaded too. -/
def preloadedFiles : ProcessFiles := { nestedFiles libC with preload := [(libC, some libC)] }

theorem preloaded_file {path : CString} {elf : ElfModule}
    (h : preloadedFiles.elf path = some elf) :
    path = libA ∧ elf = ⟨1, libA, 0, .needed [some libC]⟩ ∨
      path = libC ∧ elf = ⟨1, libC, 0, .absent⟩ := by
  simp only [preloadedFiles, nestedFiles] at h
  split at h
  · exact .inl ⟨‹_›, (Option.some.inj h).symm⟩
  split at h
  · exact .inr ⟨‹_›, (Option.some.inj h).symm⟩
  · cases h

def preloadedRank (elf : ElfModule) : Nat :=
  if some libA ∈ elf.neededNames then 2 else if some libC ∈ elf.neededNames then 1 else 0

theorem preloaded_ranked : Ranked preloadedFiles nestedRoot preloadedRank := by
  have hlt : ∀ {elf elf' : ElfModule} {path}, elf.Names path →
      preloadedFiles.elf path = some elf' → preloadedRank elf' < preloadedRank elf := by
    intro elf elf' path hnames he
    have hmem := ElfModule.names_iff.mp hnames
    unfold preloadedRank
    rcases preloaded_file he with ⟨rfl, rfl⟩ | ⟨rfl, rfl⟩
    · rw [if_pos hmem]
      decide
    · have hzero : preloadedRank ⟨1, libC, 0, .absent⟩ = 0 := by decide
      refine Nat.lt_of_le_of_lt (Nat.le_of_eq hzero) ?_
      rw [if_pos hmem]
      split <;> decide
  refine ⟨fun hnames hpath he => ?_, fun {elf path elf'} hnames he => ?_, fun hmem he => ?_⟩
  · cases hpath
    exact hlt hnames he
  · rcases preloaded_file he with ⟨rfl, rfl⟩ | ⟨rfl, rfl⟩ <;> exact hlt hnames he
  · cases List.mem_singleton.mp hmem
    rcases preloaded_file he with ⟨hpath, -⟩ | ⟨-, rfl⟩
    · exact absurd hpath (by decide)
    · decide

theorem loadAndWalksReturn_of_ranked {root : ElfModule} {rank : ElfModule → Nat}
    (hr : Ranked files root rank) (path : CString) : LoadAndWalksReturn files path root := by
  have hnone : ∀ a : Library, a.Reached files ⟨path, root⟩ →
      ¬TransGen (Library.Leads files ⟨path, root⟩) a a :=
    fun _ _ haa => Nat.lt_irrefl _ (hr.lt_of_leads haa)
  exact loadAndWalksReturn_of_noLeads hnone

theorem loadAndWalksReturn_of_ranked_preloaded :
    LoadAndWalksReturn preloadedFiles libB nestedRoot :=
  loadAndWalksReturn_of_ranked preloaded_ranked libB

end Poly.Polyexec
