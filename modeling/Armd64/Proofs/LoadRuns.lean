import Armd64.Lib.Forest
import Armd64.Proofs.Dependencies

/-!
# What a load did

A load that succeeded took each needed name in turn: it shared a program that the soname search
found, or it loaded a file and then what the file needs. `LoadRun` is the record of such a load,
without its budgets, limits and errors, in which every request satisfies `Q` in the state before it;
what a load does to the programs is proved by induction on it.
-/

namespace Poly.Polyexec

open Hw (Traced)
open ProgramHeap ElfModule

/-! ## Libraries -/

def ElfModule.neededNames (elf : ElfModule) : List (Option CString) :=
  match elf.dynamic with
  | .needed names => names
  | _ => []

theorem ElfModule.names_iff {elf : ElfModule} {name : CString} :
    elf.Names name ↔ some name ∈ elf.neededNames := by
  unfold ElfModule.Names neededNames
  cases elf.dynamic <;> simp

/-! ## Records -/

/-- A name that program `p` needs, or a path of the preload list. -/
inductive LoadRequest
  | needed (p : Nat) (name : CString)
  | preload (path : CString)

section

variable (n : Nat) (files : ProcessFiles) (Q : ProgramHeap → LoadRequest → Prop)

inductive LoadRun : Nat → List (Option CString) → ProgramHeap → ProgramHeap → Prop
  | done {p : Nat} {h : ProgramHeap} : LoadRun p [] h h
  | reuse {p : Nat} {needed : CString} {names : List (Option CString)} {h h' : ProgramHeap}
    {source : DepRef} (hQ : Q h (.needed p needed))
    (hfound : findShared n h (h.get p).elf.arch needed = some (some source))
    (hrest : LoadRun p names (h.share p source) h') : LoadRun p (some needed :: names) h h'
  | load {p : Nat} {needed path : CString} {names : List (Option CString)} {elf : ElfModule}
    {h h₁ h' : ProgramHeap} (hQ : Q h (.needed p needed))
    (hnone : findShared n h (h.get p).elf.arch needed = some none)
    (hpath : files.neededPath (h.get p).path needed = some path)
    (helf : files.elf path = some elf)
    (hbelow : LoadRun h.programs.length elf.neededNames (h.adopt p path elf) h₁)
    (hrest : LoadRun p names h₁ h') : LoadRun p (some needed :: names) h h'

inductive PreloadRun : List (CString × Option CString) → ProgramHeap → ProgramHeap → Prop
  | done {h : ProgramHeap} : PreloadRun [] h h
  | skip {token path : CString} {rest : List (CString × Option CString)} {h h' : ProgramHeap}
    (hQ : Q h (.preload path)) (hmem : path ∈ (h.get 0).deps.map (·.path))
    (hrest : PreloadRun rest h h') :
    PreloadRun ((token, some path) :: rest) h h'
  | load {token path : CString} {elf : ElfModule} {rest : List (CString × Option CString)}
    {h h₁ h' : ProgramHeap} (hQ : Q h (.preload path))
    (hmem : path ∉ (h.get 0).deps.map (·.path)) (helf : files.elf path = some elf)
    (hbelow : LoadRun n files Q h.programs.length elf.neededNames (h.adopt 0 path elf) h₁)
    (hrest : PreloadRun rest h₁ h') : PreloadRun ((token, some path) :: rest) h h'

end

section

variable {n : Nat} {files : ProcessFiles} {p : Nat} {h h' : ProgramHeap}

theorem Load.value_andThen {t : Load} {f : ProgramHeap → Load}
    (hvalue : (t.andThen f).value = some (.ok h')) :
    ∃ h₁, t.value = some (.ok h₁) ∧ (f h₁).value = some (.ok h') := by
  obtain ⟨r, hr, hrest⟩ := Traced.value_bind.mp hvalue
  cases r with
  | error e => cases hrest
  | ok h₁ => exact ⟨h₁, hr, hrest⟩

def RunsNeeds (n : Nat) (files : ProcessFiles) (sub : Nat → ProgramHeap → Load) : Prop :=
  ∀ {p h h'}, (sub p h).value = some (.ok h') →
    LoadRun n files (fun _ _ => True) p (h.get p).elf.neededNames h h'

variable {sub : Nat → ProgramHeap → Load} (hsub : RunsNeeds n files sub)

include hsub

theorem loadDependency_run {path : CString}
    (hvalue : (loadDependency files sub p path h).value = some (.ok h')) :
    ∃ elf, files.elf path = some elf ∧
      LoadRun n files (fun _ _ => True) h.programs.length elf.neededNames (h.adopt p path elf)
        h' := by
  unfold loadDependency at hvalue
  split at hvalue
  · cases hvalue
  · rename_i elf helf
    have hrun := hsub hvalue
    rw [elf_adopt_new] at hrun
    exact ⟨elf, helf, hrun⟩

theorem loadNeeded_run {names : List (Option CString)}
    (hvalue : (loadNeeded n files sub p names h).value = some (.ok h')) :
    LoadRun n files (fun _ _ => True) p names h h' := by
  induction names generalizing h with
  | nil =>
    cases hvalue
    exact .done
  | cons name names ih =>
    cases name with
    | none => cases hvalue
    | some needed =>
      unfold loadNeeded at hvalue
      split at hvalue
      · cases hvalue
      obtain ⟨found, hfound, hvalue⟩ := Traced.value_bind.mp hvalue
      cases found with
      | some source =>
        exact .reuse trivial hfound (ih hvalue)
      | none =>
        unfold loadFound at hvalue
        dsimp only at hvalue
        split at hvalue
        · cases hvalue
        · rename_i path hpath
          obtain ⟨h₁, hbelow, hrest⟩ := Load.value_andThen hvalue
          obtain ⟨elf, helf, hrun⟩ := loadDependency_run hsub hbelow
          exact .load trivial hfound hpath helf hrun (ih hrest)

omit hsub

theorem loadAtDepth_run (left : Nat) :
    RunsNeeds n files (loadProcessDependenciesAtDepth n files left) := by
  induction left with
  | zero =>
    intro p h h' hvalue
    unfold loadProcessDependenciesAtDepth at hvalue
    split at hvalue
    · rename_i hdynamic
      cases hvalue
      rw [neededNames, hdynamic]
      exact .done
    · cases hvalue
  | succ left ih =>
    intro p h h' hvalue
    unfold loadProcessDependenciesAtDepth at hvalue
    split at hvalue
    all_goals rename_i hdynamic
    · cases hvalue
      rw [neededNames, hdynamic]
      exact .done
    · cases hvalue
      rw [neededNames, hdynamic]
      exact .done
    · cases hvalue
    · cases hvalue
    · rw [neededNames, hdynamic]
      exact loadNeeded_run ih hvalue

theorem loadPreloads_run {preload : List (CString × Option CString)}
    (hvalue : (loadPreloads n files preload h).value = some (.ok h')) :
    PreloadRun n files (fun _ _ => True) preload h h' := by
  induction preload generalizing h with
  | nil =>
    cases hvalue
    exact .done
  | cons token rest ih =>
    obtain ⟨token, path⟩ := token
    cases path with
    | none => cases hvalue
    | some path =>
      unfold loadPreloads at hvalue
      split at hvalue
      · rename_i hmem
        exact .skip trivial hmem (ih hvalue)
      rename_i hmem
      split at hvalue
      · cases hvalue
      obtain ⟨h₁, hbelow, hrest⟩ := Load.value_andThen hvalue
      obtain ⟨elf, helf, hrun⟩ := loadDependency_run (loadAtDepth_run _) hbelow
      exact .load trivial hmem helf hrun (ih hrest)

theorem load_run {path : CString} {elf : ElfModule}
    (hload : (loadProcessDependencies n files path elf).value = some (.ok h)) :
    ∃ h₀, PreloadRun n files (fun _ _ => True) files.preload (.init path elf) h₀ ∧
      LoadRun n files (fun _ _ => True) 0 (h₀.get 0).elf.neededNames h₀ h := by
  obtain ⟨h₀, hpreload, hneeded⟩ := Load.value_andThen hload
  exact ⟨h₀, loadPreloads_run hpreload, loadAtDepth_run _ hneeded⟩

end

/-! ## The programs after a load -/

variable {programs : List Program} {dep : ProcessDependency}

theorem getD_addDep_of_ne {p q : Nat} (hne : q ≠ p) :
    (addDep programs p dep).getD q default = programs.getD q default := by
  rw [addDep, List.getD_eq_getElem?_getD, List.getElem?_modify, List.getD_eq_getElem?_getD]
  simp [Ne.symm hne]

theorem getD_addDep_self {p : Nat} (hp : p < programs.length) :
    (addDep programs p dep).getD p default =
      { programs.getD p default with deps := (programs.getD p default).deps ++ [dep] } := by
  rw [addDep, List.getD_eq_getElem?_getD, List.getElem?_modify, List.getD_eq_getElem?_getD,
    List.getElem?_eq_getElem hp]
  simp

namespace ProgramHeap

structure Extends (p : Nat) (h h' : ProgramHeap) : Prop extends Grows h h' where
  other : ∀ {q}, q < h.programs.length → q ≠ p → h'.get q = h.get q

variable {h h₁ h' : ProgramHeap} {p : Nat}

theorem Extends.refl (p : Nat) (h : ProgramHeap) : Extends p h h := ⟨.refl h, fun _ _ => rfl⟩

theorem Extends.trans (h₀₁ : Extends p h h₁) (h₁₂ : Extends p h₁ h') : Extends p h h' := by
  refine ⟨h₀₁.toGrows.trans h₁₂.toGrows, fun hq hne => ?_⟩
  rw [h₁₂.other (Nat.lt_of_lt_of_le hq h₀₁.length) hne, h₀₁.other hq hne]

theorem depCount_le_of_dep (hdep : ∀ {r d}, h.dep r = some d → h'.dep r = some d) (p : Nat) :
    h.depCount p ≤ h'.depCount p := by
  by_contra hlt
  have hd : h.dep ⟨p, h'.depCount p⟩ = some _ := List.getElem?_eq_getElem (Nat.lt_of_not_le hlt)
  exact Nat.lt_irrefl _ (List.getElem?_eq_some_iff.mp (hdep hd)).1

section

variable {source : DepRef} {d : ProcessDependency} (hd : h.dep source = some d)
  (hnone : d.sharedFrom = none) (hp : p < h.programs.length)

include hd hnone

theorem get_share_of_ne {q : Nat} (hne : q ≠ p) : (h.share p source).get q = h.get q := by
  rw [get, share_programs hd hnone]
  exact getD_addDep_of_ne hne

theorem extends_share : Extends p h (h.share p source) :=
  ⟨grows_share hd hnone, fun _ => get_share_of_ne hd hnone⟩

include hp

theorem get_share_self : (h.share p source).get p =
    { h.get p with deps := (h.get p).deps ++ [⟨d.path, d.program, some source⟩] } := by
  rw [get, share_programs hd hnone]
  exact getD_addDep_self hp

theorem depCount_share : (h.share p source).depCount p = h.depCount p + 1 := by
  rw [depCount, get_share_self hd hnone hp]
  simp [depCount]

end

section

variable {path : CString} {elf : ElfModule}

theorem get_adopt_of_ne {q : Nat} (hq : q < h.programs.length) (hne : q ≠ p) :
    (h.adopt p path elf).get q = h.get q := by
  rw [get_adopt_of_lt hq, getD_addDep_of_ne hne]
  rfl

theorem extends_adopt : Extends p h (h.adopt p path elf) := ⟨grows_adopt, get_adopt_of_ne⟩

theorem Extends.adopt (hbelow : Extends h.programs.length (h.adopt p path elf) h') :
    Extends p h h' := by
  refine ⟨grows_adopt.trans hbelow.toGrows, fun hq hne => ?_⟩
  rw [hbelow.other (Nat.lt_trans hq lt_length_adopt) (Nat.ne_of_lt hq), get_adopt_of_ne hq hne]

variable (hp : p < h.programs.length)

include hp

theorem get_adopt_self : (h.adopt p path elf).get p =
    { h.get p with deps := (h.get p).deps ++ [⟨path, h.programs.length, none⟩] } := by
  rw [get_adopt_of_lt hp, getD_addDep_self hp]
  rfl

theorem depCount_adopt : (h.adopt p path elf).depCount p = h.depCount p + 1 := by
  rw [depCount, get_adopt_self hp]
  simp [depCount]

end

end ProgramHeap

section

variable {n : Nat} {files : ProcessFiles} {Q : ProgramHeap → LoadRequest → Prop} {p : Nat}
  {names : List (Option CString)} {h h' : ProgramHeap}

theorem LoadRun.extends (hrun : LoadRun n files Q p names h h') (hp : p < h.programs.length) :
    Extends p h h' := by
  induction hrun with
  | done => exact .refl _ _
  | reuse _ hfound _ ih =>
    obtain ⟨d, hd, hnone⟩ := findShared_found hfound
    exact (extends_share hd hnone).trans (ih (by rwa [length_share]))
  | load _ _ _ _ _ _ ihbelow ihrest =>
    have hbelow := Extends.adopt (ihbelow lt_length_adopt)
    exact hbelow.trans (ihrest (Nat.lt_of_lt_of_le hp hbelow.length))

theorem PreloadRun.extends {rest : List (CString × Option CString)}
    (hrun : PreloadRun n files Q rest h h') (hp : 0 < h.programs.length) :
    Extends 0 h h' := by
  induction hrun with
  | done => exact .refl _ _
  | skip _ _ _ ih => exact ih hp
  | load _ _ _ hbelow _ ih =>
    have hbelow := Extends.adopt (hbelow.extends lt_length_adopt)
    exact hbelow.trans (ih (Nat.lt_of_lt_of_le hp hbelow.length))

/-! ## Steps of a load -/

/-- Program `p` gets a dependency shared from `source`, for a name that it needs. -/
structure SharesFor (n : Nat) (h : ProgramHeap) (p : Nat) (needed : CString) (source : DepRef) :
    Prop where
  lt : p < h.programs.length
  names : (h.get p).elf.Names needed
  found : findShared n h (h.get p).elf.arch needed = some (some source)

/-- Program `p` gets a dependency on a new program, for a name that it needs. -/
structure LoadsFor (n : Nat) (files : ProcessFiles) (h : ProgramHeap) (p : Nat)
    (needed path : CString) (elf : ElfModule) : Prop where
  lt : p < h.programs.length
  names : (h.get p).elf.Names needed
  none : findShared n h (h.get p).elf.arch needed = some none
  resolves : files.neededPath (h.get p).path needed = some path
  file : files.elf path = some elf

/-- The root gets a dependency on a new program for a path of the preload list. It has dependencies
only for the paths before it. -/
structure PreloadsFor (files : ProcessFiles) (h : ProgramHeap) (path : CString) (elf : ElfModule) :
    Prop where
  nonempty : 0 < h.programs.length
  mem : ∃ before token after, files.preload = before ++ (token, some path) :: after ∧
    ∀ d ∈ (h.get 0).deps, ∃ token, (token, some d.path) ∈ before
  fresh : path ∉ (h.get 0).deps.map (·.path)
  file : files.elf path = some elf

section

variable {I : ProgramHeap → Prop}
  (hshare : ∀ {h p needed source}, SharesFor n h p needed source → I h → I (h.share p source))
  (hadopt : ∀ {h p needed path elf}, LoadsFor n files h p needed path elf →
    Q h (.needed p needed) → I h → I (h.adopt p path elf))

include hshare hadopt

theorem LoadRun.keeps (hrun : LoadRun n files Q p names h h') (hp : p < h.programs.length)
    (hnames : ∀ name, some name ∈ names → (h.get p).elf.Names name) (hI : I h) : I h' := by
  induction hrun with
  | done => exact hI
  | reuse _ hfound hrest ih =>
    obtain ⟨d, hd, hnone⟩ := findShared_found hfound
    refine ih (by rwa [length_share]) (fun name hname => ?_)
      (hshare ⟨hp, hnames _ List.mem_cons_self, hfound⟩ hI)
    rw [elf_share hd hnone]
    exact hnames name (List.mem_cons_of_mem _ hname)
  | load hQ hnone hpath helf hbelow hrest ihbelow ihrest =>
    rename_i p needed path names elf h h₁ h'
    have hnew : h.programs.length < (h.adopt p path elf).programs.length :=
      lt_length_adopt
    have hext := Extends.adopt (hbelow.extends hnew)
    refine ihrest (Nat.lt_of_lt_of_le hp hext.length) (fun name hname => ?_)
      (ihbelow hnew (fun name hname => ?_) ?_)
    · rw [hext.elf hp]
      exact hnames name (List.mem_cons_of_mem _ hname)
    · rw [elf_adopt_new]
      exact names_iff.mpr hname
    · exact hadopt ⟨hp, hnames _ List.mem_cons_self, hnone, hpath, helf⟩ hQ hI

variable (hpreload : ∀ {h path elf}, PreloadsFor files h path elf → Q h (.preload path) → I h →
  I (h.adopt 0 path elf))

include hpreload

theorem PreloadRun.keeps (before : List (CString × Option CString))
    {rest : List (CString × Option CString)} (hrun : PreloadRun n files Q rest h h')
    (hlist : files.preload = before ++ rest) (hp : 0 < h.programs.length)
    (hdeps : ∀ d ∈ (h.get 0).deps, ∃ token, (token, some d.path) ∈ before) (hI : I h) : I h' := by
  induction hrun generalizing before with
  | done => exact hI
  | skip _ _ _ ih =>
    refine ih (before ++ [_]) (hlist.trans (List.append_cons ..)) hp (fun d hd => ?_) hI
    obtain ⟨token, hmem⟩ := hdeps d hd
    exact ⟨token, List.mem_append_left _ hmem⟩
  | load hQ hfresh hfile hbelow hrest ih =>
    rename_i token path elf rest h h₁ h'
    have hnew : h.programs.length < (h.adopt 0 path elf).programs.length :=
      lt_length_adopt
    have hext := hbelow.extends hnew
    have hdeps₁ : (h₁.get 0).deps = (h.get 0).deps ++ [⟨path, h.programs.length, none⟩] := by
      rw [hext.other (Nat.lt_trans hp hnew) (Nat.ne_of_lt hp), get_adopt_self hp]
    have hI₁ : I h₁ := by
      refine hbelow.keeps hshare hadopt hnew (fun name hname => ?_)
        (hpreload ⟨hp, ⟨before, token, rest, hlist, hdeps⟩, hfresh, hfile⟩ hQ hI)
      rw [elf_adopt_new]
      exact names_iff.mpr hname
    refine ih (before ++ [(token, some path)]) (hlist.trans (List.append_cons ..))
      (Nat.lt_of_lt_of_le (Nat.lt_trans hp hnew) hext.length) ?_ hI₁
    rw [hdeps₁, List.forall_mem_append, List.forall_mem_singleton]
    refine ⟨fun d hd => ?_, token, List.mem_append_right _ List.mem_cons_self⟩
    obtain ⟨token', hmem⟩ := hdeps d hd
    exact ⟨token', List.mem_append_left _ hmem⟩

theorem PreloadRun.load_keeps {path : CString} {elf : ElfModule} {h₀ : ProgramHeap}
    (hpreloads : PreloadRun n files Q files.preload (.init path elf) h₀)
    (hneeded : LoadRun n files Q 0 (h₀.get 0).elf.neededNames h₀ h) (hinit : I (.init path elf)) :
    I h := by
  have hlength := Nat.lt_of_lt_of_le Nat.one_pos (hpreloads.extends Nat.one_pos).length
  refine hneeded.keeps hshare hadopt hlength (fun name => names_iff.mpr) ?_
  refine hpreloads.keeps hshare hadopt hpreload [] rfl Nat.one_pos (fun d hd => ?_) hinit
  cases hd

end

theorem load_keeps {I : ProgramHeap → Prop}
    (hshare : ∀ {h p needed source}, SharesFor n h p needed source → I h → I (h.share p source))
    (hadopt : ∀ {h p needed path elf}, LoadsFor n files h p needed path elf → I h →
      I (h.adopt p path elf))
    (hpreload : ∀ {h path elf}, PreloadsFor files h path elf → I h → I (h.adopt 0 path elf))
    {path : CString} {elf : ElfModule}
    (hload : (loadProcessDependencies n files path elf).value = some (.ok h))
    (hinit : I (.init path elf)) : I h := by
  obtain ⟨h₀, hpreloads, hneeded⟩ := load_run hload
  exact hpreloads.load_keeps hshare (fun hstep _ => hadopt hstep) (fun hstep _ => hpreload hstep)
    hneeded hinit

end

end Poly.Polyexec
