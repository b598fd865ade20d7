import Armd64.Proofs.DependencyGraph

/-!
# When dependency loading returns

The load and the later walks go through the graph of loaded programs without a visited set. They
return as long as no reuse of a loaded program closes a cycle.
-/

namespace Poly.Polyexec

open Hw
open ProgramHeap

/-! ## Budgets -/

theorem findShared_mono {n m : Nat} (hnm : n ≤ m) {h : ProgramHeap} {arch : Nat} {needed : CString}
    {r : Option DepRef} (hr : findShared n h arch needed = some r) :
    findShared m h arch needed = some r := by
  unfold findShared findProcessDependencySoname at hr ⊢
  split at hr
  · rename_i hslash
    rw [if_pos hslash, hr]
  rename_i hslash
  rw [if_neg hslash]
  split at hr
  · rename_i hempty
    rw [if_pos hempty, hr]
  · rename_i hempty
    rw [if_neg hempty]
    exact search_mono hnm hr

theorem findShared_returns {h : ProgramHeap} (hacyclic : h.Acyclic) (arch : Nat)
    (needed : CString) : ∃ n r, findShared n h arch needed = some r := by
  unfold findShared findProcessDependencySoname
  split
  · exact ⟨0, _, rfl⟩
  split
  · exact ⟨0, _, rfl⟩
  · refine exists_search_of_acc ?_
    rw [edge_canonicalRefs]
    exact hacyclic 0

theorem findShared_spec {n arch : Nat} {h : ProgramHeap} {needed : CString} {source : DepRef}
    (hfound : findShared n h arch needed = some (some source)) :
    0x2f#8 ∉ needed ∧ needed ≠ [] ∧ (h.get (h.target source)).elf.soname = needed ∧
      (h.get (h.target source)).elf.arch = arch := by
  unfold findShared findProcessDependencySoname at hfound
  split at hfound
  · cases hfound
  rename_i hslash
  split at hfound
  · cases hfound
  rename_i hne
  have hhit := (Hw.search_found hfound).2
  simp only [Bool.and_eq_true, beq_iff_eq] at hhit
  exact ⟨hslash, hne, hhit.2, hhit.1.1⟩

/-! ## What a load does -/

def ElfModule.Names (elf : ElfModule) (name : CString) : Prop :=
  ∃ names, elf.dynamic = .needed names ∧ some name ∈ names

/-- Every step of a load keeps `I`, and its reuses satisfy `E`. -/
structure LoadInvariant (files : ProcessFiles) (E : Reuse → Prop) (I : ProgramHeap → Prop) :
    Prop where
  share : ∀ {n h p needed source}, I h → p < h.programs.length → (h.get p).elf.Names needed →
    findShared n h (h.get p).elf.arch needed = some (some source) →
    E ⟨h, p, source⟩ ∧ I (h.share p source)
  adopt : ∀ {h p needed path elf}, I h → p < h.programs.length → (h.get p).elf.Names needed →
    files.neededPath (h.get p).path needed = some path → files.elf path = some elf →
    I (h.adopt p path elf)
  preload : ∀ {h token path elf}, I h → 0 < h.programs.length →
    (token, some path) ∈ files.preload → files.elf path = some elf → I (h.adopt 0 path elf)

/-- Some budget is enough for the load, if no reuse closes a cycle. -/
abbrev Load.Returns (F : Nat → Load) : Prop := Traced.Returns (fun e => ¬ e.ClosesCycle) F

/-- A part of the load: it grows with the budget, does what `Loaded` says and keeps `I`, and returns
if no reuse closes a cycle. -/
structure Load.Sound (E : Reuse → Prop) (I : ProgramHeap → Prop) (h : ProgramHeap)
    (F : Nat → Load) : Prop where
  growing : Traced.Growing F
  all : ∀ n, (F n).All E
  loaded : ∀ {n h'}, (F n).value = some (.ok h') → Loaded h (F n).log h' ∧ I h'
  returns : h.Acyclic → Load.Returns F

section

variable {E : Reuse → Prop} {I : ProgramHeap → Prop} {p : Nat} {h : ProgramHeap} {F : Nat → Load}

namespace Load.Sound

theorem ok (hI : I h) : Load.Sound E I h fun _ => pure (.ok h) := by
  refine ⟨fun _ => .refl _, fun _ => Traced.all_pure, fun hvalue => ?_,
    fun _ => .of_value (n := 0) rfl⟩
  cases hvalue
  exact ⟨.refl _, hI⟩

theorem error {e : LoadError} : Load.Sound E I h fun _ => pure (.error e) :=
  ⟨fun _ => .refl _, fun _ => Traced.all_pure, (fun hvalue => by cases hvalue),
    fun _ => .of_value (n := 0) rfl⟩

theorem andThen {f : Nat → ProgramHeap → Load} (hF : Load.Sound E I h F)
    (hf : ∀ {h₁}, h.Grows h₁ → I h₁ → Load.Sound E I h₁ (f · h₁)) :
    Load.Sound E I h fun n => (F n).andThen (f n) := by
  have hrest : ∀ {n h₁}, (F n).value = some (.ok h₁) → Load.Sound E I h₁ (f · h₁) :=
    fun hr => hf (hF.loaded hr).1.grows (hF.loaded hr).2
  refine ⟨fun hnm => (hF.growing hnm).bind fun r hr => ?_,
    fun n => Traced.all_bind.mpr ⟨hF.all n, fun r hr => ?_⟩, fun {n h'} hvalue => ?_,
    fun hacyclic => Traced.Returns.bind hF.growing (hF.returns hacyclic) (fun n r hr => ?_)
      fun n r hr hall => ?_⟩
  · cases r with
    | error e => exact .refl _
    | ok h₁ => exact (hrest hr).growing hnm
  · cases r with
    | error e => exact Traced.all_pure
    | ok h₁ => exact (hrest hr).all n
  · obtain ⟨r, hr, hvalue⟩ := Traced.value_bind.mp hvalue
    rw [Load.andThen, Traced.bind_some hr]
    cases r with
    | error e => cases hvalue
    | ok h₁ =>
      obtain ⟨hloaded, hI⟩ := (hrest hr).loaded hvalue
      exact ⟨(hF.loaded hr).1.trans hloaded, hI⟩
  · cases r with
    | error e => exact fun _ => .refl _
    | ok h₁ => exact (hrest hr).growing
  · cases r with
    | error e => exact .of_value (n := 0) rfl
    | ok h₁ => exact (hrest hr).returns ((hF.loaded hr).1.acyclic hacyclic hall)

theorem search {arch : Nat} {needed : CString} {G : Nat → Option DepRef → Load}
    (hG : ∀ n found, findShared n h arch needed = some found → Load.Sound E I h (G · found)) :
    Load.Sound E I h fun n => Traced.ofOption (findShared n h arch needed) >>= G n := by
  have hgrow : Traced.Growing fun n => (Traced.ofOption (findShared n h arch needed) :
      Traced Reuse (Option DepRef)) := fun hnm => .ofOption fun r => findShared_mono hnm
  refine ⟨fun {n m} hnm => (hgrow hnm).bind fun found hfound => (hG n found hfound).growing hnm,
    fun n => Traced.all_bind.mpr ⟨Traced.all_ofOption, fun found hfound => ?_⟩,
    fun {n h'} hvalue => ?_, fun hacyclic => ?_⟩
  · exact (hG n found hfound).all n
  · obtain ⟨found, hfound, hvalue⟩ := Traced.value_bind.mp hvalue
    rw [Traced.bind_some hfound]
    exact (hG n found hfound).loaded hvalue
  · exact Traced.Returns.bind hgrow (fun _ => findShared_returns hacyclic _ _)
      (fun n found hfound => (hG n found hfound).growing)
      fun n found hfound _ => (hG n found hfound).returns hacyclic

theorem reuse {source : DepRef} {d : ProcessDependency} (hd : h.dep source = some d)
    (hnone : d.sharedFrom = none) (hE : E ⟨h, p, source⟩)
    (hF : Load.Sound E I (h.share p source) F) :
    Load.Sound E I h fun n => Traced.emit ⟨h, p, source⟩ () >>= fun _ => F n := by
  have hreuse := Loaded.reuse (p := p) hd hnone
  refine ⟨fun hnm => Traced.Le.bind (.refl _) fun _ _ => hF.growing hnm,
    fun n => Traced.all_bind.mpr ⟨Traced.all_emit.mpr hE, fun _ _ => hF.all n⟩,
    fun hvalue => ⟨hreuse.trans (hF.loaded hvalue).1, (hF.loaded hvalue).2⟩, fun hacyclic => ?_⟩
  exact Traced.Returns.bind (fun _ => .refl _) (.of_value (n := 0) rfl) (fun _ _ _ => hF.growing)
    fun n _ _ hall => hF.returns (hreuse.acyclic hacyclic hall)

theorem adopt {path : CString} {elf : ElfModule} (hp : p < h.programs.length)
    (hF : Load.Sound E I (h.adopt p path elf) F) : Load.Sound E I h F :=
  ⟨hF.growing, hF.all, fun hvalue => ⟨.adopt hp (hF.loaded hvalue).1, (hF.loaded hvalue).2⟩,
    fun hacyclic => hF.returns (acyclic_adopt hacyclic hp path elf)⟩

end Load.Sound

variable {files : ProcessFiles} {sub : Nat → Nat → ProgramHeap → Load}

theorem loadDependency_sound
    (hsub : ∀ {p h}, p < h.programs.length → I h → Load.Sound E I h (sub · p h))
    (hp : p < h.programs.length) {path : CString}
    (hI : ∀ elf, files.elf path = some elf → I (h.adopt p path elf)) :
    Load.Sound E I h fun n => loadDependency files (sub n) p path h := by
  unfold loadDependency
  split
  · exact .error
  · rename_i elf helf
    exact .adopt hp (hsub lt_length_adopt (hI elf helf))

variable (hinv : LoadInvariant files E I)

include hinv

theorem loadFound_sound
    (hsub : ∀ {p h}, p < h.programs.length → I h → Load.Sound E I h (sub · p h))
    (hp : p < h.programs.length) (hI : I h) {needed : CString}
    (hneeded : (h.get p).elf.Names needed) {rest : Nat → ProgramHeap → Load}
    (hrest : ∀ {h₁}, h.Grows h₁ → I h₁ → Load.Sound E I h₁ (rest · h₁)) {n : Nat}
    {found : Option DepRef} (hfound : findShared n h (h.get p).elf.arch needed = some found) :
    Load.Sound E I h fun n => loadFound files (sub n) p needed (rest n) h found := by
  cases found with
  | some source =>
    obtain ⟨d, hd, hnone⟩ := findShared_found hfound
    obtain ⟨hE, hshared⟩ := hinv.share hI hp hneeded hfound
    exact .reuse hd hnone hE (hrest (grows_share hd hnone) hshared)
  | none =>
    unfold loadFound
    dsimp only
    split
    · exact .error
    · rename_i path hpath
      exact .andThen
        (loadDependency_sound hsub hp fun elf helf => hinv.adopt hI hp hneeded hpath helf) hrest

theorem loadNeeded_sound
    (hsub : ∀ {p h}, p < h.programs.length → I h → Load.Sound E I h (sub · p h))
    (hp : p < h.programs.length) (hI : I h) {names : List (Option CString)}
    (hnames : ∀ name, some name ∈ names → (h.get p).elf.Names name) :
    Load.Sound E I h fun n => loadNeeded n files (sub n) p names h := by
  induction names generalizing h with
  | nil => exact .ok hI
  | cons name rest ih =>
    cases name with
    | none => exact .error
    | some needed =>
      unfold loadNeeded
      split
      · exact .error
      refine .search fun n found hfound => loadFound_sound hinv hsub hp hI
        (hnames needed List.mem_cons_self) (fun hg hI₁ => ?_) hfound
      refine ih (Nat.lt_of_lt_of_le hp hg.length) hI₁ fun name hname => ?_
      rw [hg.elf hp]
      exact hnames name (List.mem_cons_of_mem _ hname)

theorem loadAtDepth_sound (left : Nat) (hp : p < h.programs.length) (hI : I h) :
    Load.Sound E I h fun n => loadProcessDependenciesAtDepth n files left p h := by
  induction left generalizing p h with
  | zero =>
    unfold loadProcessDependenciesAtDepth
    split
    · exact .ok hI
    · exact .error
  | succ left ih =>
    unfold loadProcessDependenciesAtDepth
    split
    · exact .ok hI
    · exact .ok hI
    · exact .error
    · exact .error
    · rename_i names hnames
      exact loadNeeded_sound hinv ih hp hI fun name hname => ⟨names, hnames, hname⟩

theorem loadPreloads_sound {preload : List (CString × Option CString)}
    (hpreload : ∀ token ∈ preload, token ∈ files.preload) (hp : 0 < h.programs.length)
    (hI : I h) : Load.Sound E I h fun n => loadPreloads n files preload h := by
  induction preload generalizing h with
  | nil => exact .ok hI
  | cons token rest ih =>
    obtain ⟨token, path⟩ := token
    obtain ⟨htoken, hrest⟩ := List.forall_mem_cons.mp hpreload
    cases path with
    | none => exact .error
    | some path =>
      unfold loadPreloads
      split
      · exact ih hrest hp hI
      split
      · exact .error
      · exact .andThen (loadDependency_sound (loadAtDepth_sound hinv _) hp
          fun elf helf => hinv.preload hI hp htoken helf)
          fun hg hI₁ => ih hrest (Nat.lt_of_lt_of_le hp hg.length) hI₁

theorem load_sound {path : CString} {elf : ElfModule} (hI : I (.init path elf)) :
    Load.Sound E I (.init path elf) fun n => loadProcessDependencies n files path elf :=
  .andThen (loadPreloads_sound hinv (fun _ => id) Nat.one_pos hI)
    fun hg hI₁ => loadAtDepth_sound hinv _ (Nat.lt_of_lt_of_le Nat.one_pos hg.length) hI₁

omit hinv

theorem load_sound_trivial (files : ProcessFiles) (path : CString) (elf : ElfModule) :
    Load.Sound (fun _ => True) (fun _ => True) (.init path elf)
      fun n => loadProcessDependencies n files path elf :=
  load_sound ⟨fun _ _ _ _ => ⟨trivial, trivial⟩, fun _ _ _ _ _ => trivial, fun _ _ _ _ => trivial⟩
    trivial

end

/-! ## Walks that return -/

namespace ProgramHeap

variable {h : ProgramHeap}

/-- The walks from the root return, for every architecture and whatever step of theirs fails. -/
structure WalksReturn (h : ProgramHeap) : Prop where
  tls : ∀ arch, ∃ n b, h.processTreeHasArchTls n 0 arch = some b
  owned : ∀ fails, ∃ n r, h.ownedWalk fails n 0 = some r

theorem ownedWalk_returns (h : ProgramHeap) (fails : DepRef → Bool) (p : Nat) :
    ∃ n r, h.ownedWalk fails n p = some r := by
  refine exists_search_of_acc ?_
  -- By induction on how many programs are younger than `p`.
  induction hk : h.programs.length - p using Nat.strongRecOn generalizing p with
  | _ k ih =>
    refine ⟨p, fun q hpq => ih _ ?_ q rfl⟩
    have hlt := lt_of_edge_ownedRefs hpq
    have hp : p < h.programs.length := by
      obtain ⟨r, hr, -⟩ := hpq
      obtain ⟨rfl, d, hd⟩ := mem_depRefs.mp (List.mem_filter.mp hr).1
      exact lt_of_dep hd
    omega

theorem walksReturn_of_acyclic (hacyclic : h.Acyclic) : h.WalksReturn := by
  refine ⟨fun arch => ?_, fun fails => h.ownedWalk_returns fails 0⟩
  unfold processTreeHasArchTls
  split
  · exact ⟨0, _, rfl⟩
  · have hacc : Acc (flip (Edge h.depRefs h.target)) 0 := edge_depRefs ▸ hacyclic 0
    obtain ⟨n, r, hr⟩ := exists_search_of_acc hacc
    exact ⟨n, _, by rw [hr]; rfl⟩

theorem search_eq_none_of_cycle (hcycle : h.CycleBelowRoot) {next : Nat → List DepRef}
    (hnext : Edge next h.target = h.Needs) {hit : DepRef → Bool} (hhit : ∀ r, hit r = false)
    (n : Nat) : search next h.target hit n 0 = none := by
  cases hr : search next h.target hit n 0 with
  | none => rfl
  | some r =>
    obtain ⟨p, q, hp, hpq, hqp⟩ := hcycle
    cases r with
    | none =>
      have hacc := acc_of_search hr
      rw [hnext] at hacc
      exact absurd (acc_of_reflTransGen hp hacc) (not_acc_of_cycle hpq hqp)
    | some r =>
      have hfound := (search_found hr).2
      rw [hhit] at hfound
      cases hfound

theorem processTreeHasArchTls_eq_none (hcycle : h.CycleBelowRoot) {arch : Nat}
    (harch : ∀ p, h.hasArchTls arch p = false) (n : Nat) :
    h.processTreeHasArchTls n 0 arch = none := by
  rw [processTreeHasArchTls, if_neg (by simp [harch]),
    search_eq_none_of_cycle hcycle edge_depRefs fun r => harch _]
  rfl

end ProgramHeap

/-! ## The result -/

/-- The load returns, and so do the walks after a load without an error. -/
def LoadAndWalksReturn (files : ProcessFiles) (path : CString) (elf : ElfModule) : Prop :=
  ∃ n r, (loadProcessDependencies n files path elf).value = some r ∧
    ∀ h, r = .ok h → h.WalksReturn

theorem loadAndWalksReturn_of_noCycle {files : ProcessFiles} {path : CString} {elf : ElfModule}
    (hno : ∀ n, (loadProcessDependencies n files path elf).All fun e => ¬ e.ClosesCycle) :
    LoadAndWalksReturn files path elf := by
  have hsound := load_sound_trivial files path elf
  obtain ⟨n, r, hr⟩ := hsound.returns (acyclic_init path elf) hno
  refine ⟨n, r, hr, ?_⟩
  rintro h rfl
  exact walksReturn_of_acyclic ((hsound.loaded hr).1.acyclic (acyclic_init path elf) (hno n))

/-! ## Libraries that need each other -/

section

section

variable {n p : Nat} {h : ProgramHeap} (hcount : h.depCount p < maxProcessDeps)

include hcount

theorem loadNeeded_cons {files : ProcessFiles} {sub : Nat → ProgramHeap → Load} {needed : CString}
    {rest : List (Option CString)} {found : Option DepRef}
    (hfound : findShared n h (h.get p).elf.arch needed = some found) :
    (loadNeeded n files sub p (some needed :: rest) h).value =
      (loadFound files sub p needed (loadNeeded n files sub p rest) h found).value := by
  rw [loadNeeded, if_neg (by omega), Traced.bind_some hfound]

theorem loadNeeded_last {files : ProcessFiles} {sub : Nat → ProgramHeap → Load}
    {needed path : CString} {elf : ElfModule}
    (hfound : findShared n h (h.get p).elf.arch needed = some none)
    (hpath : files.neededPath (h.get p).path needed = some path)
    (helf : files.elf path = some elf) :
    (loadNeeded n files sub p [some needed] h).value =
      (sub h.programs.length (h.adopt p path elf)).value := by
  rw [loadNeeded_cons hcount hfound, loadFound, hpath]
  dsimp only
  rw [loadDependency, helf, Load.andThen]
  dsimp only
  generalize sub h.programs.length (h.adopt p path elf) = t
  obtain ⟨log, value⟩ := t
  rcases value with _ | _ | h' <;> rfl

end

def libA : CString := [0x41#8]

def libB : CString := [0x42#8]

def libC : CString := [0x43#8]

def elfA : ElfModule := ⟨1, libA, 0, .needed [some libB]⟩

def needsAfterA (more : Bool) : List (Option CString) := if more then [some libC] else []

def elfB (more : Bool) : ElfModule := ⟨1, libB, 0, .needed (some libA :: needsAfterA more)⟩

def cyclicFiles (more : Bool) : ProcessFiles where
  neededPath _ name := some name
  elf path := if path = libA then some elfA else if path = libB then some (elfB more) else none
  preload := []

/-- An AArch64 program with thread-local storage that needs `libA`. -/
def cyclicRoot : ElfModule := ⟨1, [], 8, .needed [some libA]⟩

def beforeReuse (more : Bool) : ProgramHeap :=
  ((init [] cyclicRoot).adopt 0 libA elfA).adopt 1 libB (elfB more)

def afterReuse (more : Bool) : ProgramHeap := (beforeReuse more).share 2 ⟨0, 0⟩

theorem cycle_afterReuse (more : Bool) : (afterReuse more).CycleBelowRoot := by
  have hneeds : ∀ r d, depAt (afterReuse more).programs r = some d →
      (afterReuse more).Needs r.program d.program := fun r d hd => ⟨r, d, hd, rfl, rfl⟩
  exact ⟨1, 2, .single (hneeds ⟨0, 0⟩ ⟨libA, 1, none⟩ rfl), hneeds ⟨1, 0⟩ ⟨libB, 2, none⟩ rfl,
    .single (hneeds ⟨2, 0⟩ ⟨libA, 1, some ⟨0, 0⟩⟩ rfl)⟩

theorem value_load_cyclic (more : Bool) (n : Nat) :
    (loadProcessDependencies (n + 3) (cyclicFiles more) [] cyclicRoot).value =
      (loadNeeded (n + 3) (cyclicFiles more)
        (loadProcessDependenciesAtDepth (n + 3) (cyclicFiles more) 1) 2 (needsAfterA more)
        (afterReuse more)).value := by
  have hbudget : ∀ {h : ProgramHeap} {arch needed r}, findShared 3 h arch needed = some r →
      findShared (n + 3) h arch needed = some r := findShared_mono (Nat.le_add_left 3 n)
  refine (loadNeeded_last (h := .init [] cyclicRoot) (n := n + 3) (p := 0) ?_ (hbudget ?_) rfl
    rfl).trans ?_
  · decide
  · decide +kernel
  refine (loadNeeded_last (n := n + 3) (p := 1) ?_ (hbudget ?_) rfl rfl).trans ?_
  · decide
  · decide +kernel
  refine (loadNeeded_cons (h := beforeReuse more) (n := n + 3) (p := 2) ?_
    (hbudget (r := some ⟨0, 0⟩) ?_)).trans rfl
  · cases more <;> decide
  · cases more <;> decide +kernel

end

end Poly.Polyexec
