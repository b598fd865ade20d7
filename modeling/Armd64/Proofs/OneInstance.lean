import Armd64.Proofs.LoadedLibraries

/-!
# One instance of each library

The loader finds a library that it has loaded by the soname, for the architecture of the program
that needs it. A file without a soname, one that a name with a slash stands for, and the root are
never found, and the preload list is compared only with the dependencies of the root itself.
-/

namespace Poly.Polyexec

open ProgramHeap

/-! ## Paths -/

def ProgramHeap.paths (h : ProgramHeap) : List CString := h.programs.map (·.path)

variable {n : Nat} {files : ProcessFiles} {Q : ProgramHeap → LoadRequest → Prop} {p : Nat}
  {path : CString} {elf : ElfModule} {h h' : ProgramHeap}

theorem paths_addDep (programs : List Program) (p : Nat) (dep : ProcessDependency) :
    (addDep programs p dep).map (·.path) = programs.map (·.path) := by
  refine List.ext_getElem? fun i => ?_
  rw [addDep, List.getElem?_map, List.getElem?_modify, List.getElem?_map]
  cases programs[i]? with
  | none => rfl
  | some q => by_cases hp : p = i <;> simp [hp]

theorem paths_share {source : DepRef} {d : ProcessDependency} (hd : h.dep source = some d)
    (hnone : d.sharedFrom = none) : (h.share p source).paths = h.paths := by
  rw [paths, share_programs hd hnone]
  exact paths_addDep _ _ _

theorem paths_adopt : (h.adopt p path elf).paths = h.paths ++ [path] := by
  show ((addDep _ _ _) ++ [_]).map _ = _
  rw [List.map_append, paths_addDep]
  rfl

theorem getElem?_paths {q : Nat} (hq : q < h.programs.length) :
    h.paths[q]? = some (h.library q).path := by
  rw [paths, List.getElem?_map, library, ProgramHeap.get, List.getD_eq_getElem?_getD,
    List.getElem?_eq_getElem hq]
  rfl

theorem LoadRun.keeps_paths {names : List (Option CString)}
    (hrun : LoadRun n files Q p names h h') : h.paths <+: h'.paths := by
  induction hrun with
  | done => exact List.prefix_refl _
  | reuse _ hfound _ ih =>
    obtain ⟨d, hd, hnone⟩ := findShared_found hfound
    rwa [paths_share hd hnone] at ih
  | load _ _ _ _ _ _ ihbelow ihrest =>
    rw [paths_adopt] at ihbelow
    exact ((List.prefix_append _ _).trans ihbelow).trans ihrest

theorem PreloadRun.keeps_paths {rest : List (CString × Option CString)}
    (hrun : PreloadRun n files Q rest h h') : h.paths <+: h'.paths := by
  induction hrun with
  | done => exact List.prefix_refl _
  | skip _ _ _ ih => exact ih
  | load _ _ _ hbelow _ ih =>
    have hbelow := hbelow.keeps_paths
    rw [paths_adopt] at hbelow
    exact ((List.prefix_append _ _).trans hbelow).trans ih

/-! ## Requests for a file that is loaded -/

/-- If the request is for a file that is loaded, then the name is the soname of a loaded library
of the right architecture, or the path is that of a dependency of the root. -/
def FoundAgain (files : ProcessFiles) (h : ProgramHeap) : LoadRequest → Prop
  | .needed p name => ∀ path, files.neededPath (h.get p).path name = some path → path ∈ h.paths →
    0x2f#8 ∉ name ∧ name ≠ [] ∧ ∃ q, 0 < q ∧ q < h.programs.length ∧
      (h.get q).elf.soname = name ∧ (h.get q).elf.arch = (h.get p).elf.arch
  | .preload path => path ∈ h.paths → path ∈ (h.get 0).deps.map (·.path)

theorem not_mem_of_adopt (hpaths : (h.adopt p path elf).paths <+: h'.paths)
    (hnodup : h'.paths.Nodup) : path ∉ h.paths := by
  rw [paths_adopt] at hpaths
  have hnodup := hnodup.sublist hpaths.sublist
  rw [List.nodup_append_comm, List.singleton_append, List.nodup_cons] at hnodup
  exact hnodup.1

/-- In a load without duplicates every request for a loaded file found it. -/
theorem LoadRun.foundAgain {names : List (Option CString)} (hrun : LoadRun n files Q p names h h')
    (hclosed : h.Closed) (hnodup : h'.paths.Nodup) :
    LoadRun n files (FoundAgain files) p names h h' := by
  induction hrun with
  | done => exact .done
  | reuse _ hfound _ ih =>
    obtain ⟨d, hd, hnone⟩ := findShared_found hfound
    refine .reuse (fun _ _ _ => ?_) hfound (ih (closed_share hd hnone hclosed) hnodup)
    have hspec := findShared_spec hfound
    rw [target_eq hd] at hspec
    exact ⟨hspec.1, hspec.2.1, d.program, Nat.zero_lt_of_lt (ProgramHeap.owned _ hd hnone),
      hclosed _ d hd, hspec.2.2⟩
  | load _ hnone hpath helf hbelow hrest ihbelow ihrest =>
    have hnodup₁ := hnodup.sublist hrest.keeps_paths.sublist
    refine .load (fun path' hpath' hmem => ?_) hnone hpath helf
      (ihbelow (closed_adopt hclosed) hnodup₁)
      (ihrest (hbelow.closed (closed_adopt hclosed)) hnodup)
    cases hpath.symm.trans hpath'
    exact absurd hmem (not_mem_of_adopt hbelow.keeps_paths hnodup₁)

theorem PreloadRun.foundAgain {rest : List (CString × Option CString)}
    (hrun : PreloadRun n files Q rest h h') (hclosed : h.Closed) (hnodup : h'.paths.Nodup) :
    PreloadRun n files (FoundAgain files) rest h h' := by
  induction hrun with
  | done => exact .done
  | skip _ hmem _ ih => exact .skip (fun _ => hmem) hmem (ih hclosed hnodup)
  | load _ hmem helf hbelow hrest ih =>
    have hnodup₁ := hnodup.sublist hrest.keeps_paths.sublist
    refine .load (fun hloaded => ?_) hmem helf (hbelow.foundAgain (closed_adopt hclosed) hnodup₁)
      (ih (hbelow.closed (closed_adopt hclosed)) hnodup)
    exact absurd hloaded (not_mem_of_adopt hbelow.keeps_paths hnodup₁)

theorem nodup_adopt (hnodup : h.paths.Nodup) (hfresh : path ∉ h.paths) :
    (h.adopt p path elf).paths.Nodup := by
  rw [paths_adopt, List.nodup_append_comm, List.singleton_append, List.nodup_cons]
  exact ⟨hfresh, hnodup⟩

theorem nodup_of_foundAgain {h₀ : ProgramHeap}
    (hpreloads : PreloadRun n files (FoundAgain files) files.preload (.init path elf) h₀)
    (hneeded : LoadRun n files (FoundAgain files) 0 (h₀.get 0).elf.neededNames h₀ h) :
    h.paths.Nodup := by
  refine (hpreloads.load_keeps (I := fun h => FromFiles files ⟨path, elf⟩ h ∧ h.paths.Nodup)
    ?_ ?_ ?_ hneeded ⟨.init files path elf, List.nodup_singleton _⟩).2
  · rintro h p needed source hstep ⟨hfrom, hnodup⟩
    obtain ⟨d, hd, hnone⟩ := findShared_found hstep.found
    exact ⟨hfrom.share hstep, paths_share hd hnone ▸ hnodup⟩
  · rintro h p needed path elf hstep hagain ⟨hfrom, hnodup⟩
    refine ⟨hfrom.adopt hstep.lt hstep.file (.inl (FromFiles.needs_of_loadsFor hstep)),
      nodup_adopt hnodup fun hmem => ?_⟩
    obtain ⟨hslash, hne, q, h0, hq, hsoname, harch⟩ := hagain path hstep.resolves hmem
    exact hfrom.not_named_of_findShared hstep.none hslash hne h0 hq harch hsoname
  · rintro h path elf hstep hagain ⟨hfrom, hnodup⟩
    exact ⟨hfrom.adopt hstep.nonempty hstep.file
        (.inr ⟨rfl, FromFiles.preloaded_of_preloadsFor hstep⟩),
      nodup_adopt hnodup fun hmem => hstep.fresh (hagain hmem)⟩

/-! ## Instances -/

/-- No two dependencies that are not shared have the same path, and none has the root's. -/
def OneInstance (h : ProgramHeap) (path : CString) : Prop :=
  (∀ r r' d d', h.dep r = some d → d.sharedFrom = none → h.dep r' = some d' →
    d'.sharedFrom = none → d.path = d'.path → r = r') ∧
  ∀ r d, h.dep r = some d → d.sharedFrom = none → d.path ≠ path

theorem oneInstance_iff (hload : (loadProcessDependencies n files path elf).value = some (.ok h)) :
    OneInstance h path ↔ h.paths.Nodup := by
  have hfrom := load_fromFiles hload
  obtain ⟨walk, hforest⟩ := load_forest hload
  have hroot : h.paths[0]? = some path := by
    rw [getElem?_paths hfrom.nonempty, hfrom.rootLibrary]
  have hpath : ∀ {r d}, h.dep r = some d → h.paths[d.program]? = some d.path := fun hd => by
    rw [getElem?_paths (hfrom.closed _ _ hd), hfrom.path hd]
  rw [List.nodup_iff_getElem?_ne_getElem?]
  constructor
  · intro ⟨hone, hne⟩ i j hij hj heq
    rw [paths, List.length_map] at hj
    obtain ⟨r, d, hd, hnone, rfl⟩ := hfrom.parent (Nat.zero_lt_of_lt hij) hj
    rw [hpath hd] at heq
    rcases Nat.eq_zero_or_pos i with rfl | h0
    · exact hne r d hd hnone (Option.some.inj (heq.symm.trans hroot))
    · obtain ⟨r', d', hd', hnone', rfl⟩ := hfrom.parent h0 (Nat.lt_trans hij hj)
      rw [hpath hd'] at heq
      cases hone r r' d d' hd hnone hd' hnone' (Option.some.inj heq.symm)
      rw [hd] at hd'
      cases hd'
      exact Nat.lt_irrefl _ hij
  · intro hnodup
    have hinj : ∀ {i j : Nat} {x : CString}, h.paths[i]? = some x → h.paths[j]? = some x →
        i = j := by
      intro i j x hi hj
      have hi' := (List.getElem?_eq_some_iff.mp hi).1
      have hj' := (List.getElem?_eq_some_iff.mp hj).1
      rcases Nat.lt_trichotomy i j with hlt | heq | hlt
      · exact absurd (hi.trans hj.symm) (hnodup i j hlt hj')
      · exact heq
      · exact absurd (hj.trans hi.symm) (hnodup j i hlt hi')
    refine ⟨fun r r' d d' hd hnone hd' hnone' heq => ?_, fun r d hd hnone heq => ?_⟩
    · exact eq_of_program_eq hforest hd hnone hd' hnone' (hinj (hpath hd) (heq ▸ hpath hd'))
    · exact Nat.ne_of_gt (Nat.zero_lt_of_lt (h.owned hd hnone)) (hinj (heq ▸ hpath hd) hroot)

/-- A load has one instance of each library if and only if each of its requests for a file that was
loaded found it. -/
theorem one_instance_iff
    (hload : (loadProcessDependencies n files path elf).value = some (.ok h)) :
    OneInstance h path ↔
      ∃ h₀, PreloadRun n files (FoundAgain files) files.preload (.init path elf) h₀ ∧
        LoadRun n files (FoundAgain files) 0 (h₀.get 0).elf.neededNames h₀ h := by
  rw [oneInstance_iff hload]
  refine ⟨fun hnodup => ?_, fun ⟨h₀, hpreloads, hneeded⟩ => nodup_of_foundAgain hpreloads hneeded⟩
  obtain ⟨h₀, hpreloads, hneeded⟩ := load_run hload
  have hclosed := (FromFiles.init files path elf).closed
  exact ⟨h₀, hpreloads.foundAgain hclosed (hnodup.sublist hneeded.keeps_paths.sublist),
    hneeded.foundAgain (hpreloads.closed hclosed) hnodup⟩

/-- The root needs `A` and `C`, and `A` needs `C`, which is found by its soname. -/
theorem one_instance_iff_nested : OneInstance nestedHeap [] ∧
    ∃ h₀, PreloadRun 4 (nestedFiles libC) (FoundAgain (nestedFiles libC)) []
        (.init [] nestedRoot) h₀ ∧
      LoadRun 4 (nestedFiles libC) (FoundAgain (nestedFiles libC)) 0
        (h₀.get 0).elf.neededNames h₀ nestedHeap := by
  have hone : OneInstance nestedHeap [] := (oneInstance_iff load_nested).mpr (by decide)
  exact ⟨hone, (one_instance_iff load_nested).mp hone⟩

/-- The library `C` is loaded for `A` and again for the root, as it has no soname. -/
theorem library_loaded_twice :
    ∃ h, (loadProcessDependencies 4 (nestedFiles []) [] nestedRoot).value = some (.ok h) ∧
      h.dep ⟨1, 0⟩ = some ⟨libC, 2, none⟩ ∧ h.dep ⟨0, 1⟩ = some ⟨libC, 3, none⟩ :=
  ⟨(nestedLoaded []).adopt 0 libC ⟨1, [], 0, .absent⟩, by with_unfolding_all rfl, rfl, rfl⟩

end Poly.Polyexec
