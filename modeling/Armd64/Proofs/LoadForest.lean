import Armd64.Proofs.LoadRuns

/-!
# The forest of loaded programs

A load goes depth first: it numbers the programs in the order in which it finds them, and a
dependency that it shares leads to a program that it has numbered before.
-/

namespace Poly.Polyexec

open ProgramHeap

namespace ProgramHeap

def isShared (h : ProgramHeap) (r : DepRef) : Bool := (h.sharedFrom r).isSome

abbrev Forest (h : ProgramHeap) : List DepRef → Nat → Nat → List DepRef → Prop :=
  Hw.Forest h.depRefs h.target h.isShared

def Closed (h : ProgramHeap) : Prop := ∀ r d, h.dep r = some d → d.program < h.programs.length

def slots (p k m : Nat) : List DepRef := (List.range' k (m - k)).map (DepRef.mk p)

variable {k m : Nat}

theorem slots_self {p : Nat} : slots p k k = [] := by
  rw [slots, Nat.sub_self]
  rfl

theorem slots_cons {p : Nat} (hkm : k < m) : slots p k m = ⟨p, k⟩ :: slots p (k + 1) m := by
  rw [slots, show m - k = m - (k + 1) + 1 by omega, List.range'_succ, List.map_cons]
  rfl

theorem slots_append {p l : Nat} (hkl : k ≤ l) (hlm : l ≤ m) :
    slots p k l ++ slots p l m = slots p k m := by
  have happend := List.range'_append_1 (s := k) (m := l - k) (n := m - l)
  rw [show k + (l - k) = l by omega, show l - k + (m - l) = m - k by omega] at happend
  rw [slots, slots, slots, ← List.map_append, happend]

variable {h h' : ProgramHeap} {p : Nat}

theorem depRefs_eq_slots : h.depRefs p = slots p 0 (h.depCount p) := by
  rw [depRefs, slots, List.range_eq_range']
  rfl

theorem ownedRefs_eq_filter : h.ownedRefs p = (h.depRefs p).filter fun r => !h.isShared r := by
  rw [ownedRefs]
  congr 1
  funext r
  rw [isShared]
  cases h.sharedFrom r <;> rfl

theorem lt_depCount {d : ProcessDependency} (hd : h.dep ⟨p, k⟩ = some d) :
    k < h.depCount p := (List.getElem?_eq_some_iff.mp hd).1

theorem closed_share {source : DepRef} {d : ProcessDependency} (hd : h.dep source = some d)
    (hnone : d.sharedFrom = none) (hclosed : h.Closed) : (h.share p source).Closed := by
  intro r d' hr
  rw [length_share]
  rcases (dep_share hd hnone).mp hr with hr | ⟨-, -, rfl⟩
  · exact hclosed r d' hr
  · exact hclosed source d hd

theorem closed_adopt {path : CString} {elf : ElfModule} (hclosed : h.Closed) :
    (h.adopt p path elf).Closed := by
  intro r d hr
  rw [length_adopt]
  rcases dep_adopt.mp hr with hr | ⟨-, -, rfl⟩
  · exact Nat.lt_succ_of_lt (hclosed r d hr)
  · exact Nat.lt_succ_self _

section

variable (hext : Extends p h h') {r : DepRef} {d : ProcessDependency}

include hext

theorem Extends.library_source (hd : h.dep r = some d) :
    h'.library r.program = h.library r.program := hext.library (lt_of_dep hd)

theorem Extends.library_target (hclosed : h.Closed) (hd : h.dep r = some d) :
    h'.library d.program = h.library d.program := hext.library (hclosed r d hd)

end

end ProgramHeap

variable {n : Nat} {files : ProcessFiles} {Q : ProgramHeap → LoadRequest → Prop} {p : Nat}
  {names : List (Option CString)} {h h' H : ProgramHeap}

theorem LoadRun.closed (hrun : LoadRun n files Q p names h h') (hclosed : h.Closed) :
    h'.Closed := by
  induction hrun with
  | done => exact hclosed
  | reuse _ hfound _ ih =>
    obtain ⟨d, hd, hnone⟩ := findShared_found hfound
    exact ih (closed_share hd hnone hclosed)
  | load _ _ _ _ _ _ ihbelow ihrest => exact ihrest (ihbelow (closed_adopt hclosed))

/-- `H` has the programs of `h'` from number `c` on, and all its dependencies. -/
structure ProgramHeap.Keeps (H h' : ProgramHeap) (c : Nat) : Prop where
  get : ∀ {q}, c ≤ q → q < h'.programs.length → H.get q = h'.get q
  dep : ∀ {r d}, h'.dep r = some d → H.dep r = some d

variable {h₁ : ProgramHeap} {c : Nat} {path : CString} {elf : ElfModule}
  {rest : List (CString × Option CString)}

theorem ProgramHeap.Keeps.before (hkeeps : H.Keeps h' c) (hext : Extends p h₁ h') (hp : p < c) :
    H.Keeps h₁ c := by
  refine ⟨fun hle hlt => ?_, fun hd => hkeeps.dep (hext.dep hd)⟩
  rw [hkeeps.get hle (Nat.lt_of_lt_of_le hlt hext.length), hext.other hlt (by omega)]

theorem ProgramHeap.Keeps.mono {c' : Nat} (hkeeps : H.Keeps h' c) (hle : c ≤ c') : H.Keeps h' c' :=
  ⟨fun hle' => hkeeps.get (Nat.le_trans hle hle'), hkeeps.dep⟩

theorem forest_adopt {below walk : List DepRef} (hp : p < h.programs.length)
    (hext : Extends h.programs.length (h.adopt p path elf) h₁)
    (hext' : Extends p h₁ h') (hkeeps : H.Keeps h' h.programs.length)
    (hbelow : H.Forest (slots h.programs.length
      ((h.adopt p path elf).depCount h.programs.length) (h₁.depCount h.programs.length))
      (h.adopt p path elf).programs.length h₁.programs.length below)
    (hrest : H.Forest (slots p (h₁.depCount p) (h'.depCount p)) h₁.programs.length
      h'.programs.length walk) :
    H.Forest (slots p (h.depCount p) (h'.depCount p)) h.programs.length
      h'.programs.length (below ++ ⟨p, h.depCount p⟩ :: walk) := by
  have hnew : h.programs.length < (h.adopt p path elf).programs.length :=
    lt_length_adopt
  -- The dependencies of the new program are complete, and those of `p` are one more.
  have hnewRefs : H.depRefs h.programs.length =
      slots h.programs.length ((h.adopt p path elf).depCount h.programs.length)
        (h₁.depCount h.programs.length) := by
    rw [depRefs_eq_slots, depCount, depCount,
      (hkeeps.before hext' hp).get (Nat.le_refl _) (Nat.lt_of_lt_of_le hnew hext.length),
      get_adopt_new]
    rfl
  have hcount : h₁.depCount p = h.depCount p + 1 := by
    rw [depCount, hext.other (Nat.lt_trans hp hnew) (Nat.ne_of_lt hp)]
    exact depCount_adopt hp
  have hdep := hext'.dep (hext.dep (dep_adopt.mpr (.inr ⟨rfl, hp, rfl⟩)))
  rw [hcount] at hrest
  rw [length_adopt, ← hnewRefs] at hbelow
  rw [slots_cons (lt_depCount hdep)]
  refine .node ?_ ?_ hbelow hrest
  · simp [isShared, sharedFrom, hkeeps.dep hdep]
  · rw [target_eq (hkeeps.dep hdep)]

theorem exists_forest_load (hp : p < h.programs.length) (hclosed : h.Closed)
    (hkeeps : H.Keeps h' h.programs.length)
    (hrun : LoadRun n files Q h.programs.length elf.neededNames (h.adopt p path elf) h₁)
    (hext : p < h₁.programs.length → Extends p h₁ h')
    (hbelow : H.Keeps h₁ (h.adopt p path elf).programs.length →
      ∃ below, H.Forest (slots h.programs.length
        ((h.adopt p path elf).depCount h.programs.length) (h₁.depCount h.programs.length))
        (h.adopt p path elf).programs.length h₁.programs.length below)
    (hrest : p < h₁.programs.length → h₁.Closed → H.Keeps h' h₁.programs.length →
      ∃ walk, H.Forest (slots p (h₁.depCount p) (h'.depCount p)) h₁.programs.length
        h'.programs.length walk) :
    ∃ walk, H.Forest (slots p (h.depCount p) (h'.depCount p)) h.programs.length
      h'.programs.length walk := by
  have hnew : h.programs.length < (h.adopt p path elf).programs.length :=
    lt_length_adopt
  have hext₁ := hrun.extends hnew
  have hle : h.programs.length ≤ h₁.programs.length :=
    Nat.le_trans (Nat.le_of_lt hnew) hext₁.length
  have hp₁ : p < h₁.programs.length := Nat.lt_of_lt_of_le hp hle
  have hclosed₁ : h₁.Closed := hrun.closed (closed_adopt hclosed)
  obtain ⟨below, hforest⟩ := hbelow ((hkeeps.before (hext hp₁) hp).mono (Nat.le_of_lt hnew))
  obtain ⟨walk, hwalk⟩ := hrest hp₁ hclosed₁ (hkeeps.mono hle)
  exact ⟨_, forest_adopt hp hext₁ (hext hp₁) hkeeps hforest hwalk⟩

theorem LoadRun.forest (hrun : LoadRun n files Q p names h h') (hp : p < h.programs.length)
    (hclosed : h.Closed) (hkeeps : H.Keeps h' h.programs.length) :
    ∃ walk, H.Forest (slots p (h.depCount p) (h'.depCount p)) h.programs.length
      h'.programs.length walk := by
  induction hrun with
  | done =>
    rw [slots_self]
    exact ⟨[], .nil⟩
  | reuse _ hfound hrest ih =>
    rename_i p needed names h h' source _
    obtain ⟨d, hd, hnone⟩ := findShared_found hfound
    have hext := extends_share (p := p) hd hnone
    obtain ⟨walk, hwalk⟩ := ih (Nat.lt_of_lt_of_le hp hext.length)
      (closed_share hd hnone hclosed) (hkeeps.mono hext.length)
    rw [length_share, depCount_share hd hnone hp] at hwalk
    have hdep := (hrest.extends (Nat.lt_of_lt_of_le hp hext.length)).dep
      ((dep_share hd hnone).mpr (.inr ⟨rfl, hp, rfl⟩))
    rw [slots_cons (lt_depCount hdep)]
    refine ⟨_, .skip ?_ ?_ hwalk⟩
    · simp [isShared, sharedFrom, hkeeps.dep hdep]
    · rw [target_eq (hkeeps.dep hdep)]
      exact hclosed source d hd
  | load _ hnone hpath helf hbelow hrest ihbelow ihrest =>
    exact exists_forest_load hp hclosed hkeeps hbelow hrest.extends
      (ihbelow lt_length_adopt (closed_adopt hclosed)) ihrest

theorem PreloadRun.closed (hrun : PreloadRun n files Q rest h h') (hclosed : h.Closed) :
    h'.Closed := by
  induction hrun with
  | done => exact hclosed
  | skip _ _ _ ih => exact ih hclosed
  | load _ _ _ hbelow _ ih => exact ih (hbelow.closed (closed_adopt hclosed))

theorem PreloadRun.forest (hrun : PreloadRun n files Q rest h h') (hp : 0 < h.programs.length)
    (hclosed : h.Closed) (hkeeps : H.Keeps h' h.programs.length) :
    ∃ walk, H.Forest (slots 0 (h.depCount 0) (h'.depCount 0)) h.programs.length
      h'.programs.length walk := by
  induction hrun with
  | done =>
    rw [slots_self]
    exact ⟨[], .nil⟩
  | skip _ _ _ ih => exact ih hp hclosed hkeeps
  | load _ hfresh hfile hbelow hrest ih =>
    exact exists_forest_load hp hclosed hkeeps hbelow hrest.extends
      (hbelow.forest lt_length_adopt (closed_adopt hclosed)) ih

theorem load_forest (hload : (loadProcessDependencies n files path elf).value = some (.ok h)) :
    ∃ walk, h.Forest (h.depRefs 0) 1 h.programs.length walk := by
  obtain ⟨h₀, hpreloads, hneeded⟩ := load_run hload
  have hclosed : (init path elf).Closed := fun r d hd =>
    absurd hd dep_init_ne
  have hext₀ := hpreloads.extends Nat.one_pos
  have hlength : 0 < h₀.programs.length := Nat.lt_of_lt_of_le Nat.one_pos hext₀.length
  have hext := hneeded.extends hlength
  have hkeeps : h.Keeps h 1 := ⟨fun _ _ => rfl, fun hd => hd⟩
  obtain ⟨walk₀, hwalk₀⟩ := hpreloads.forest Nat.one_pos hclosed (hkeeps.before hext Nat.one_pos)
  obtain ⟨walk, hwalk⟩ := hneeded.forest hlength (hpreloads.closed hclosed)
    (hkeeps.mono hlength)
  refine ⟨walk₀ ++ walk, ?_⟩
  rw [depRefs_eq_slots, ← slots_append (Nat.zero_le _)
    (depCount_le_of_dep hext.dep 0)]
  exact hwalk₀.append hwalk

/-! ## The dependencies of a forest -/

namespace ProgramHeap

variable {walk : List DepRef} {r r' : DepRef} {d d' : ProcessDependency}

theorem isShared_eq_false (hd : h.dep r = some d) : h.isShared r = false ↔ d.sharedFrom = none := by
  simp [isShared, sharedFrom, hd]

variable (hforest : h.Forest (h.depRefs 0) 1 h.programs.length walk)

include hforest

theorem dep_of_mem_walk (hr : r ∈ walk) : ∃ d, h.dep r = some d := by
  obtain ⟨p, hp⟩ := hforest.mem_next (fun e he => ⟨0, he⟩) hr
  exact (mem_depRefs.mp hp).2

theorem mem_walk (hd : h.dep r = some d) : r ∈ walk := by
  have hr : r ∈ h.depRefs r.program := mem_depRefs.mpr ⟨rfl, d, hd⟩
  rcases Nat.eq_zero_or_pos r.program with h0 | h0
  · exact hforest.subset (h0 ▸ hr)
  · exact hforest.next_subset h0 (lt_of_dep hd) hr

theorem eq_of_program_eq (hd : h.dep r = some d) (hnone : d.sharedFrom = none)
    (hd' : h.dep r' = some d') (hnone' : d'.sharedFrom = none) (heq : d.program = d'.program) :
    r = r' := by
  refine hforest.eq_of_dst_eq (mem_walk hforest hd) (mem_walk hforest hd')
    ((isShared_eq_false hd).mpr hnone) ((isShared_eq_false hd').mpr hnone') ?_
  rw [target_eq hd, target_eq hd', heq]

end ProgramHeap

/-! ## Needed names -/

/-- Program `p` has a dependency for the name: a program with this soname, or with the file that the
name stands for. -/
def ProgramHeap.Answers (files : ProcessFiles) (h : ProgramHeap) (p : Nat) (name : CString) :
    Prop :=
  ∃ q, h.Needs p q ∧ ((h.library q).elf.soname = name ∨
    files.neededPath (h.library p).path name = some (h.library q).path)

theorem ProgramHeap.Answers.extends {q : Nat} {name : CString} (hanswers : h.Answers files q name)
    (hclosed : h.Closed) (hext : Extends p h h') : h'.Answers files q name := by
  obtain ⟨q', ⟨r, d, hd, rfl, rfl⟩, hname⟩ := hanswers
  refine ⟨d.program, ⟨r, d, hext.dep hd, rfl, rfl⟩, ?_⟩
  rwa [hext.library_target hclosed hd, hext.library_source hd]

theorem LoadRun.answers (hrun : LoadRun n files Q p names h h') (hp : p < h.programs.length)
    (hclosed : h.Closed) : (∀ name, some name ∈ names → h'.Answers files p name) ∧
      ∀ q, h.programs.length ≤ q → q < h'.programs.length → ∀ name,
        (h'.library q).elf.Names name → h'.Answers files q name := by
  induction hrun with
  | done => exact ⟨fun name hname => absurd hname List.not_mem_nil, fun q hle hlt => by omega⟩
  | reuse _ hfound hrest ih =>
    rename_i p needed names h h' source _
    obtain ⟨d, hd, hnone⟩ := findShared_found hfound
    have hext := extends_share (p := p) hd hnone
    have hclosed₁ := closed_share (p := p) hd hnone hclosed
    have hp₁ := Nat.lt_of_lt_of_le hp hext.length
    obtain ⟨hnames, hnew⟩ := ih hp₁ hclosed₁
    rw [length_share] at hnew
    refine ⟨fun name hname => ?_, hnew⟩
    rcases List.mem_cons.mp hname with heq | hname
    · cases heq
      refine Answers.extends ⟨_, needs_share hd hnone hp, .inl ?_⟩ hclosed₁
        (hrest.extends hp₁)
      rw [target_eq hd, hext.library_target hclosed hd, ← target_eq hd]
      exact (findShared_spec hfound).2.2.1
    · exact hnames name hname
  | load _ hnone hpath helf hbelow hrest ihbelow ihrest =>
    rename_i p needed path names elf h h₁ h' _
    have hnew : h.programs.length < (h.adopt p path elf).programs.length :=
      lt_length_adopt
    have hclosed₁ : (h.adopt p path elf).Closed := closed_adopt hclosed
    have hclosed₂ := hbelow.closed hclosed₁
    have hadopt : Extends p h (h.adopt p path elf) := extends_adopt
    have hext := hbelow.extends hnew
    have hp₁ : p < h₁.programs.length := by
      have := hext.length
      omega
    have hext' := hrest.extends hp₁
    obtain ⟨hnames₁, hnew₁⟩ := ihbelow hnew hclosed₁
    obtain ⟨hnames₂, hnew₂⟩ := ihrest hp₁ hclosed₂
    refine ⟨fun name hname => ?_, fun q hle hlt name hname => ?_⟩
    · rcases List.mem_cons.mp hname with heq | hname
      · cases heq
        refine Answers.extends (Answers.extends
          ⟨_, needs_adopt hp, .inr ?_⟩ hclosed₁ hext) hclosed₂ hext'
        rw [hadopt.library hp, library, library, get_adopt_new]
        exact hpath
      · exact hnames₂ name hname
    · rcases Nat.lt_or_ge q h₁.programs.length with hq | hq
      · rw [hext'.library hq] at hname
        refine Answers.extends ?_ hclosed₂ hext'
        rcases Nat.eq_or_lt_of_le hle with rfl | hle
        · refine hnames₁ name (ElfModule.names_iff.mp ?_)
          rw [hext.library hnew, library, get_adopt_new] at hname
          exact hname
        · exact hnew₁ q (by rw [length_adopt]; omega) hq name hname
      · exact hnew₂ q hq hlt name hname

end Poly.Polyexec
