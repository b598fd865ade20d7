import Armd64.Proofs.LoadForest

/-!
# The libraries of loaded programs

The files that a program can need are a graph: a file leads to those that its needed names stand
for. A load goes through this graph from the root and from the preloaded libraries.
-/

namespace Poly.Polyexec

open ProgramHeap

open Relation (ReflTransGen TransGen)

/-! ## The graph of files -/

namespace Library

variable (files : ProcessFiles)

structure Resolves (a : Library) (name : CString) (b : Library) : Prop where
  names : a.elf.Names name
  path : files.neededPath a.path name = some b.path
  file : files.elf b.path = some b.elf

def Needs (a b : Library) : Prop := ∃ name, a.Resolves files name b

def Preloaded (a : Library) : Prop :=
  (∃ token, (token, some a.path) ∈ files.preload) ∧ files.elf a.path = some a.elf

/-- A name that `a` needs is the soname of `b`, so that the soname search for it can find `b`. -/
structure Finds (a b : Library) : Prop where
  names : a.elf.Names b.elf.soname
  slash : 0x2f#8 ∉ b.elf.soname
  ne_nil : b.elf.soname ≠ []
  arch : b.elf.arch = a.elf.arch

def Reached (a root : Library) : Prop :=
  ∃ b, (b = root ∨ b.Preloaded files) ∧ ReflTransGen (Needs files) b a

variable {files} {root a b : Library}

theorem Reached.tail (ha : a.Reached files root) (hab : a.Needs files b) :
    b.Reached files root := by
  obtain ⟨c, hc, hca⟩ := ha
  exact ⟨c, hc, hca.tail hab⟩

theorem eq_of_path_eq (ha : files.elf a.path = some a.elf) (hb : files.elf b.path = some b.elf)
    (hpath : a.path = b.path) : a = b := by
  obtain ⟨path', elf'⟩ := b
  cases hpath
  rw [hb] at ha
  cases ha
  rfl

end Library

/-! ## Loaded programs -/

/-- The loaded programs are files that the root or a preloaded file leads to. -/
structure FromFiles (files : ProcessFiles) (root : Library) (h : ProgramHeap) : Prop where
  nonempty : 0 < h.programs.length
  rootLibrary : h.library 0 = root
  closed : h.Closed
  reached : ∀ {p}, p < h.programs.length → (h.library p).Reached files root
  file : ∀ {p}, 0 < p → p < h.programs.length →
    files.elf (h.library p).path = some (h.library p).elf
  path : ∀ {r d}, h.dep r = some d → d.path = (h.library d.program).path
  /-- A dependency that is not shared loaded a file for a name, or is preloaded. -/
  owned : ∀ {r d}, h.dep r = some d → d.sharedFrom = none →
    (h.library r.program).Needs files (h.library d.program) ∨
      (r.program = 0 ∧ (h.library d.program).Preloaded files)
  /-- A shared dependency leads to a file with the needed name as its soname. -/
  shared : ∀ {r d}, h.dep r = some d → d.sharedFrom ≠ none →
    (h.library r.program).Finds (h.library d.program)
  parent : ∀ {p}, 0 < p → p < h.programs.length →
    ∃ r d, h.dep r = some d ∧ d.sharedFrom = none ∧ d.program = p

namespace ProgramHeap

variable {h : ProgramHeap} {p : Nat}

theorem pos_of_needs {q : Nat} (hpq : h.Needs p q) : 0 < q := by
  obtain ⟨r, d, hd, -, rfl⟩ := hpq
  cases hs : d.sharedFrom with
  | none => exact Nat.zero_lt_of_lt (h.owned hd hs)
  | some s =>
    obtain ⟨d', hd', hnone, hprogram⟩ := h.shared hd hs
    rw [← hprogram]
    exact Nat.zero_lt_of_lt (h.owned hd' hnone)

theorem library_adopt_new {path : CString} {elf : ElfModule} :
    (h.adopt p path elf).library h.programs.length = ⟨path, elf⟩ := by
  rw [library, get_adopt_new]

end ProgramHeap

namespace FromFiles

variable {files : ProcessFiles} {root : Library} {h : ProgramHeap} {n p : Nat}

theorem init (files : ProcessFiles) (path : CString) (elf : ElfModule) :
    FromFiles files ⟨path, elf⟩ (.init path elf) := by
  have hdep : ∀ {r d}, (ProgramHeap.init path elf).dep r ≠ some d := ProgramHeap.dep_init_ne
  refine ⟨Nat.one_pos, rfl, fun r d hd => absurd hd hdep, fun {p} hp => ?_, fun {p} h0 hp => ?_,
    fun hd => absurd hd hdep, fun hd => absurd hd hdep, fun hd => absurd hd hdep,
    fun {p} h0 hp => ?_⟩
  · obtain rfl : p = 0 := Nat.lt_one_iff.mp hp
    exact ⟨_, .inl rfl, .refl⟩
  · exact absurd (Nat.lt_one_iff.mp hp) (Nat.ne_of_gt h0)
  · exact absurd (Nat.lt_one_iff.mp hp) (Nat.ne_of_gt h0)

theorem finds_of_sharesFor {needed : CString} {source : DepRef}
    (hstep : SharesFor n h p needed source) {d : ProcessDependency} (hd : h.dep source = some d) :
    (h.library p).Finds (h.library d.program) := by
  have hspec := findShared_spec hstep.found
  rw [target_eq hd] at hspec
  obtain ⟨hslash, hne, rfl, harch⟩ := hspec
  exact ⟨hstep.names, hslash, hne, harch⟩

theorem share (hfrom : FromFiles files root h) {needed : CString} {source : DepRef}
    (hstep : SharesFor n h p needed source) : FromFiles files root (h.share p source) := by
  obtain ⟨d, hd, hnone⟩ := findShared_found hstep.found
  have hext : ProgramHeap.Extends p h _ := extends_share hd hnone
  have hlength : (h.share p source).programs.length = h.programs.length :=
    length_share
  refine ⟨hlength ▸ hfrom.nonempty, ?_, closed_share hd hnone hfrom.closed,
    fun {q} hq => ?_, fun {q} h0 hq => ?_, fun {r d'} hr => ?_, fun {r d'} hr hown => ?_,
    fun {r d'} hr hsh => ?_, fun {q} h0 hq => ?_⟩
  · rw [hext.library hfrom.nonempty, hfrom.rootLibrary]
  · rw [hlength] at hq
    rw [hext.library hq]
    exact hfrom.reached hq
  · rw [hlength] at hq
    rw [hext.library hq]
    exact hfrom.file h0 hq
  · rcases (dep_share hd hnone).mp hr with hr | ⟨rfl, -, rfl⟩
    · rw [hext.library_target hfrom.closed hr]
      exact hfrom.path hr
    · rw [hext.library_target hfrom.closed hd]
      exact hfrom.path (d := d) hd
  · rcases (dep_share hd hnone).mp hr with hr | ⟨rfl, -, rfl⟩
    · rw [hext.library_source hr, hext.library_target hfrom.closed hr]
      exact hfrom.owned hr hown
    · cases hown
  · rcases (dep_share hd hnone).mp hr with hr | ⟨rfl, -, rfl⟩
    · rw [hext.library_source hr, hext.library_target hfrom.closed hr]
      exact hfrom.shared hr hsh
    · -- The search found a program with this soname.
      rw [hext.library hstep.lt, hext.library_target hfrom.closed hd]
      exact finds_of_sharesFor hstep hd
  · rw [hlength] at hq
    obtain ⟨r, d', hr, hrest⟩ := hfrom.parent h0 hq
    exact ⟨r, d', hext.dep hr, hrest⟩

theorem adopt (hfrom : FromFiles files root h) {b : Library} (hp : p < h.programs.length)
    (hfile : files.elf b.path = some b.elf)
    (horigin : (h.library p).Needs files b ∨ (p = 0 ∧ b.Preloaded files)) :
    FromFiles files root (h.adopt p b.path b.elf) := by
  have hext : ProgramHeap.Extends p h (h.adopt p b.path b.elf) := extends_adopt
  have hnew : (h.adopt p b.path b.elf).library h.programs.length = b :=
    library_adopt_new
  refine ⟨Nat.lt_of_lt_of_le hfrom.nonempty hext.length, ?_,
    closed_adopt hfrom.closed, fun {q} hq => ?_, fun {q} h0 hq => ?_,
    fun {r d'} hr => ?_, fun {r d'} hr hown => ?_, fun {r d'} hr hsh => ?_, fun {q} h0 hq => ?_⟩
  · rw [hext.library hfrom.nonempty, hfrom.rootLibrary]
  · rcases lt_or_eq_of_lt_adopt hq with hq | rfl
    · rw [hext.library hq]
      exact hfrom.reached hq
    · rw [hnew]
      rcases horigin with hneeds | ⟨-, hpreloaded⟩
      · exact (hfrom.reached hp).tail hneeds
      · exact ⟨b, .inr hpreloaded, .refl⟩
  · rcases lt_or_eq_of_lt_adopt hq with hq | rfl
    · rw [hext.library hq]
      exact hfrom.file h0 hq
    · rw [hnew]
      exact hfile
  · rcases dep_adopt.mp hr with hr | ⟨rfl, -, rfl⟩
    · rw [hext.library_target hfrom.closed hr]
      exact hfrom.path hr
    · rw [hnew]
  · rcases dep_adopt.mp hr with hr | ⟨rfl, -, rfl⟩
    · rw [hext.library_source hr, hext.library_target hfrom.closed hr]
      exact hfrom.owned hr hown
    · rw [hext.library hp, hnew]
      exact horigin
  · rcases dep_adopt.mp hr with hr | ⟨rfl, -, rfl⟩
    · rw [hext.library_source hr, hext.library_target hfrom.closed hr]
      exact hfrom.shared hr hsh
    · exact absurd rfl hsh
  · rcases lt_or_eq_of_lt_adopt hq with hq | rfl
    · obtain ⟨r, d', hr, hrest⟩ := hfrom.parent h0 hq
      exact ⟨r, d', hext.dep hr, hrest⟩
    · exact ⟨_, _, dep_adopt.mpr (.inr ⟨rfl, hp, rfl⟩), rfl, rfl⟩

theorem needs_of_loadsFor {needed path : CString} {elf : ElfModule}
    (hstep : LoadsFor n files h p needed path elf) : (h.library p).Needs files ⟨path, elf⟩ :=
  ⟨needed, hstep.names, hstep.resolves, hstep.file⟩

theorem preloaded_of_preloadsFor {path : CString} {elf : ElfModule}
    (hstep : PreloadsFor files h path elf) : Library.Preloaded files ⟨path, elf⟩ := by
  obtain ⟨before, token, after, hlist, -⟩ := hstep.mem
  refine ⟨⟨token, ?_⟩, hstep.file⟩
  rw [hlist]
  exact List.mem_append_right _ List.mem_cons_self

end FromFiles

section

variable {files : ProcessFiles} {root : Library} {n p : Nat} {path : CString} {elf : ElfModule}
  {h : ProgramHeap}

theorem load_fromFiles
    (hload : (loadProcessDependencies n files path elf).value = some (.ok h)) :
    FromFiles files ⟨path, elf⟩ h :=
  load_keeps (fun hstep hfrom => hfrom.share hstep)
    (fun hstep hfrom => hfrom.adopt hstep.lt hstep.file (.inl (FromFiles.needs_of_loadsFor hstep)))
    (fun hstep hfrom => hfrom.adopt hstep.nonempty hstep.file
      (.inr ⟨rfl, FromFiles.preloaded_of_preloadsFor hstep⟩))
    hload (.init files path elf)

/-! ## One program for a file -/

/-- Every needed name is the soname of its file, and no preloaded file is needed by one that is
preloaded before it. -/
structure NamedBySoname (files : ProcessFiles) (root : Library) : Prop where
  named : ∀ {a b : Library} {name}, a.Reached files root → a.Resolves files name b →
    0x2f#8 ∉ name ∧ name ≠ [] ∧ b.elf.soname = name ∧ b.elf.arch = a.elf.arch
  preload : ∀ {before token path after}, files.preload = before ++ (token, some path) :: after →
    ∀ {token'} {a b : Library}, (token', some a.path) ∈ before → files.elf a.path = some a.elf →
      TransGen (Library.Needs files) a b → b.path ≠ path

def ProgramHeap.DistinctFiles (h : ProgramHeap) : Prop :=
  ∀ {p q}, 0 < p → p < h.programs.length → 0 < q → q < h.programs.length →
    (h.library p).path = (h.library q).path → p = q

namespace FromFiles

variable (hfrom : FromFiles files root h)

include hfrom

theorem reaches (hp : p < h.programs.length) : h.Reaches 0 p := by
  induction p using Nat.strongRecOn with
  | ind p ih =>
    rcases Nat.eq_zero_or_pos p with rfl | h0
    · exact .refl
    · obtain ⟨r, d, hd, hnone, rfl⟩ := hfrom.parent h0 hp
      have hlt := h.owned hd hnone
      exact (ih _ hlt (Nat.lt_trans hlt hp)).tail ⟨r, d, hd, rfl, rfl⟩

theorem stem (h0 : 0 < p) (hp : p < h.programs.length) :
    ∃ d ∈ (h.get 0).deps, ∃ a : Library, a.path = d.path ∧ files.elf a.path = some a.elf ∧
      ReflTransGen (Library.Needs files) a (h.library p) := by
  induction p using Nat.strongRecOn with
  | ind p ih =>
    obtain ⟨r, d, hd, hnone, rfl⟩ := hfrom.parent h0 hp
    have hlt := h.owned hd hnone
    rcases Nat.eq_zero_or_pos r.program with hr | hr
    · refine ⟨d, ?_, h.library d.program, (hfrom.path hd).symm, hfrom.file h0 hp, .refl⟩
      rw [ProgramHeap.dep, depAt, hr] at hd
      exact List.mem_of_getElem? hd
    · obtain ⟨d', hd', a, hpath, hfile, hreach⟩ := ih _ hlt hr (Nat.lt_trans hlt hp)
      refine ⟨d', hd', a, hpath, hfile, hreach.tail ?_⟩
      rcases hfrom.owned hd hnone with hneeds | ⟨hzero, -⟩
      · exact hneeds
      · exact absurd hzero (Nat.ne_of_gt hr)

/-- A soname search that finds nothing has seen all loaded libraries. -/
theorem not_named_of_findShared {arch q : Nat} {needed : CString}
    (hnone : findShared n h arch needed = some none) (hslash : 0x2f#8 ∉ needed)
    (hne : needed ≠ []) (h0 : 0 < q) (hq : q < h.programs.length)
    (harch : (h.get q).elf.arch = arch) : (h.get q).elf.soname ≠ needed := by
  intro hsoname
  unfold findShared findProcessDependencySoname at hnone
  rw [if_neg hslash, if_neg hne] at hnone
  -- The last edge of a path to `q` is a hit.
  rcases ReflTransGen.cases_tail (hfrom.reaches hq) with heq | ⟨v, hv, hedge⟩
  · omega
  rw [← edge_canonicalRefs] at hv hedge
  obtain ⟨r, hr, rfl⟩ := hedge
  have hmiss := Hw.not_hit_of_search hnone hv r hr
  simp [hsoname, harch, hne] at hmiss

variable (hnamed : NamedBySoname files root)

include hnamed

theorem fresh_of_loadsFor {needed : CString} (hstep : LoadsFor n files h p needed path elf)
    {q : Nat} (h0 : 0 < q) (hq : q < h.programs.length) : (h.library q).path ≠ path := by
  intro hpath
  obtain ⟨hslash, hne, hsoname, harch⟩ := hnamed.named (hfrom.reached hstep.lt)
    (b := ⟨path, elf⟩) ⟨hstep.names, hstep.resolves, hstep.file⟩
  have hlibrary : h.library q = ⟨path, elf⟩ :=
    Library.eq_of_path_eq (hfrom.file h0 hq) hstep.file hpath
  have helf : (h.get q).elf = elf := congrArg Library.elf hlibrary
  exact hfrom.not_named_of_findShared hstep.none hslash hne h0 hq (helf ▸ harch) (helf ▸ hsoname)

theorem fresh_of_preloadsFor (hstep : PreloadsFor files h path elf) {q : Nat} (h0 : 0 < q)
    (hq : q < h.programs.length) : (h.library q).path ≠ path := by
  intro hpath
  obtain ⟨before, token, after, hlist, hbefore⟩ := hstep.mem
  obtain ⟨d, hd, a, ha, hfile, hreach⟩ := hfrom.stem h0 hq
  rcases Relation.reflTransGen_iff_eq_or_transGen.mp hreach with heq | htrans
  · refine hstep.fresh ?_
    rw [← hpath, heq, ha]
    exact List.mem_map_of_mem hd
  · obtain ⟨token', hmem⟩ := hbefore d hd
    exact hnamed.preload hlist (ha ▸ hmem) hfile htrans hpath

end FromFiles

theorem distinctFiles_adopt (hdistinct : h.DistinctFiles)
    (hfresh : ∀ {q}, 0 < q → q < h.programs.length → (h.library q).path ≠ path) :
    (h.adopt p path elf).DistinctFiles := by
  have hext : ProgramHeap.Extends p h (h.adopt p path elf) := extends_adopt
  intro q q' h0 hq h0' hq' heq
  rcases lt_or_eq_of_lt_adopt hq with hq | rfl <;>
    rcases lt_or_eq_of_lt_adopt hq' with hq' | rfl
  · rw [hext.library hq, hext.library hq'] at heq
    exact hdistinct h0 hq h0' hq' heq
  · rw [hext.library hq, library_adopt_new] at heq
    exact absurd heq (hfresh h0 hq)
  · rw [hext.library hq', library_adopt_new] at heq
    exact absurd heq.symm (hfresh h0' hq')
  · rfl

theorem load_distinctFiles (hnamed : NamedBySoname files ⟨path, elf⟩)
    (hload : (loadProcessDependencies n files path elf).value = some (.ok h)) :
    h.DistinctFiles := by
  refine (load_keeps (I := fun h => FromFiles files ⟨path, elf⟩ h ∧ h.DistinctFiles) ?_ ?_ ?_ hload
    ⟨.init files path elf, ?_⟩).2
  · rintro h p needed source hstep ⟨hfrom, hdistinct⟩
    obtain ⟨d, hd, hnone⟩ := findShared_found hstep.found
    refine ⟨hfrom.share hstep, fun h0 hq h0' hq' heq => ?_⟩
    rw [length_share] at hq hq'
    rw [library_share hd hnone, library_share hd hnone] at heq
    exact hdistinct h0 hq h0' hq' heq
  · rintro h p needed path elf hstep ⟨hfrom, hdistinct⟩
    exact ⟨hfrom.adopt hstep.lt hstep.file (.inl (FromFiles.needs_of_loadsFor hstep)),
      distinctFiles_adopt hdistinct (hfrom.fresh_of_loadsFor hnamed hstep)⟩
  · rintro h path elf hstep ⟨hfrom, hdistinct⟩
    exact ⟨hfrom.adopt hstep.nonempty hstep.file
        (.inr ⟨rfl, FromFiles.preloaded_of_preloadsFor hstep⟩),
      distinctFiles_adopt hdistinct (hfrom.fresh_of_preloadsFor hnamed hstep)⟩
  · intro q q' h0 hq
    exact absurd (Nat.lt_one_iff.mp hq) (Nat.ne_of_gt h0)

end

/-! ## Two libraries -/

/-- A system in which each name is the path of a file: `A` needs `C`, which needs nothing. -/
def nestedFiles (sonameC : CString) : ProcessFiles where
  neededPath _ name := some name
  elf path :=
    if path = libA then some ⟨1, libA, 0, .needed [some libC]⟩
    else if path = libC then some ⟨1, sonameC, 0, .absent⟩
    else none
  preload := []

def nestedRoot : ElfModule := ⟨1, [], 0, .needed [some libA, some libC]⟩

def nestedLoaded (sonameC : CString) : ProgramHeap :=
  ((ProgramHeap.init [] nestedRoot).adopt 0 libA ⟨1, libA, 0, .needed [some libC]⟩).adopt 1 libC
    ⟨1, sonameC, 0, .absent⟩

def nestedHeap : ProgramHeap := (nestedLoaded libC).share 0 ⟨1, 0⟩

theorem load_nested :
    (loadProcessDependencies 4 (nestedFiles libC) [] nestedRoot).value = some (.ok nestedHeap) := by
  with_unfolding_all rfl

theorem nested_resolves {a b : Library} {name : CString}
    (hb : a.Resolves (nestedFiles libC) name b) :
    (name = libA ∧ b = ⟨libA, ⟨1, libA, 0, .needed [some libC]⟩⟩) ∨
      (name = libC ∧ b = ⟨libC, ⟨1, libC, 0, .absent⟩⟩) := by
  obtain ⟨path, elf⟩ := b
  have hfile := hb.file
  cases hb.path
  simp only [nestedFiles] at hfile
  split at hfile
  · rename_i hname
    cases hfile
    exact .inl ⟨hname, by rw [hname]⟩
  split at hfile
  · rename_i hname
    cases hfile
    exact .inr ⟨hname, by rw [hname]⟩
  · cases hfile

theorem nested_arch {a : Library} (ha : a.Reached (nestedFiles libC) ⟨[], nestedRoot⟩) :
    a.elf.arch = 1 := by
  obtain ⟨b, hb, hreach⟩ := ha
  rcases ReflTransGen.cases_tail hreach with rfl | ⟨c, -, name, hname⟩
  · rcases hb with rfl | ⟨⟨_, hmem⟩, -⟩
    · rfl
    · cases hmem
  · rcases nested_resolves hname with ⟨-, rfl⟩ | ⟨-, rfl⟩ <;> rfl

end Poly.Polyexec
