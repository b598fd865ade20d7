import Mathlib.Data.List.GetD
import Armd64.Polyexec.Dependencies

/-!
# The graph of loaded programs

The walks over the loaded programs follow the dependencies, shared or not. A load only adds programs
and dependencies, and a reuse of a loaded program is the only step that can close a cycle.
-/

namespace Poly.Polyexec

open ProgramHeap

open Hw (Traced)
open Relation (ReflTransGen)

/-- A file that was loaded, and where it was found. -/
structure Library where
  path : CString
  elf : ElfModule

namespace ProgramHeap

variable {h h' : ProgramHeap}

def library (h : ProgramHeap) (p : Nat) : Library := ⟨(h.get p).path, (h.get p).elf⟩

/-! ## The graph -/

/-- A dependency of `p`, owned or shared, is the program `q`. -/
def Needs (h : ProgramHeap) (p q : Nat) : Prop :=
  ∃ r d, h.dep r = some d ∧ r.program = p ∧ d.program = q

def Reaches (h : ProgramHeap) : Nat → Nat → Prop := ReflTransGen h.Needs

/-- The walks along the dependencies end. -/
def Acyclic (h : ProgramHeap) : Prop := ∀ p, Acc (flip h.Needs) p

/-- A program that the root leads to leads to itself. -/
def CycleBelowRoot (h : ProgramHeap) : Prop :=
  ∃ p q, h.Reaches 0 p ∧ h.Needs p q ∧ h.Reaches q p

variable {r : DepRef} {d : ProcessDependency} {q : Nat}

theorem target_eq (hd : h.dep r = some d) : h.target r = d.program := by
  simp [target, hd]

variable {p : Nat}

theorem mem_depRefs : r ∈ h.depRefs p ↔ r.program = p ∧ ∃ d, h.dep r = some d := by
  obtain ⟨q, i⟩ := r
  simp only [depRefs, List.mem_map, List.mem_range, DepRef.mk.injEq, dep, depAt]
  constructor
  · rintro ⟨j, hj, rfl, rfl⟩
    exact ⟨rfl, _, List.getElem?_eq_getElem hj⟩
  · rintro ⟨rfl, d, hd⟩
    exact ⟨i, (List.getElem?_eq_some_iff.mp hd).1, rfl, rfl⟩

/-- A shared dependency leads in one step to the one that owns its program. -/
theorem canonical_spec (hd : h.dep r = some d) :
    ∃ d', h.dep (h.canonicalProcessDependency r) = some d' ∧ d'.sharedFrom = none ∧
      d'.program = d.program := by
  have hend : ∀ {s d}, h.dep s = some d → d.sharedFrom = none →
      h.canonicalLoop.body s = .error s := by
    intro s d hs hnone
    simp [canonicalLoop, sharedFrom, hs, hnone]
  cases hs : d.sharedFrom with
  | none =>
    refine ⟨d, ?_, hs, rfl⟩
    rw [canonicalProcessDependency, Hw.Loop.exit_error (hend hd hs), hd]
  | some s =>
    obtain ⟨d', hd', hnone, hprogram⟩ := h.shared hd hs
    have hstep : h.canonicalLoop.body r = .ok s := by
      simp [canonicalLoop, sharedFrom, hd, hs]
    refine ⟨d', ?_, hnone, hprogram⟩
    rw [canonicalProcessDependency, Hw.Loop.exit_ok hstep, Hw.Loop.exit_error (hend hd' hnone)]
    exact hd'

theorem edge_depRefs : Hw.Edge h.depRefs h.target = h.Needs := by
  funext p q
  apply propext
  constructor
  · rintro ⟨r, hr, rfl⟩
    obtain ⟨hp, d, hd⟩ := mem_depRefs.mp hr
    exact ⟨r, d, hd, hp, (target_eq hd).symm⟩
  · rintro ⟨r, d, hd, hp, rfl⟩
    exact ⟨r, mem_depRefs.mpr ⟨hp, d, hd⟩, target_eq hd⟩

theorem edge_canonicalRefs : Hw.Edge h.canonicalRefs h.target = h.Needs := by
  have htarget : ∀ {r d}, h.dep r = some d →
      h.target (h.canonicalProcessDependency r) = d.program := by
    intro r d hd
    obtain ⟨d', hd', -, hprogram⟩ := canonical_spec hd
    rw [target_eq hd', hprogram]
  funext p q
  apply propext
  constructor
  · rintro ⟨s, hs, rfl⟩
    obtain ⟨r, hr, rfl⟩ := List.mem_map.mp hs
    obtain ⟨hp, d, hd⟩ := mem_depRefs.mp hr
    exact ⟨r, d, hd, hp, (htarget hd).symm⟩
  · rintro ⟨r, d, hd, hp, rfl⟩
    exact ⟨_, List.mem_map_of_mem (mem_depRefs.mpr ⟨hp, d, hd⟩), htarget hd⟩

/-- A program is newer than the one that owns it, so the owned dependencies have no cycle. -/
theorem lt_of_edge_ownedRefs (hpq : Hw.Edge h.ownedRefs h.target p q) : p < q := by
  obtain ⟨r, hr, rfl⟩ := hpq
  obtain ⟨hr, hnone⟩ := List.mem_filter.mp hr
  obtain ⟨rfl, d, hd⟩ := mem_depRefs.mp hr
  rw [target_eq hd]
  exact h.owned hd (by simpa [sharedFrom, hd] using hnone)

/-- A dependency that a search finds owns its program. -/
theorem findShared_found {n arch : Nat} {needed : CString} {s : DepRef}
    (hs : findShared n h arch needed = some (some s)) :
    ∃ d, h.dep s = some d ∧ d.sharedFrom = none := by
  unfold findShared findProcessDependencySoname at hs
  split at hs
  · cases hs
  split at hs
  · cases hs
  obtain ⟨⟨p, hp⟩, -⟩ := Hw.search_found hs
  obtain ⟨r, hr, rfl⟩ := List.mem_map.mp hp
  obtain ⟨-, d, hd⟩ := mem_depRefs.mp hr
  obtain ⟨d', hd', hnone, -⟩ := canonical_spec hd
  exact ⟨d', hd', hnone⟩

/-! ## Growth -/

/-- Programs and dependencies are added, and none changes. -/
structure Grows (h h' : ProgramHeap) : Prop where
  length : h.programs.length ≤ h'.programs.length
  library : ∀ {p}, p < h.programs.length → h'.library p = h.library p
  dep : ∀ {r d}, h.dep r = some d → h'.dep r = some d

theorem Grows.elf (hg : h.Grows h') {p : Nat} (hp : p < h.programs.length) :
    (h'.get p).elf = (h.get p).elf := congrArg Library.elf (hg.library hp)

theorem Grows.refl (h : ProgramHeap) : h.Grows h := ⟨Nat.le_refl _, fun _ => rfl, fun hd => hd⟩

theorem Grows.trans {h₁ h₂ h₃ : ProgramHeap} (h₁₂ : h₁.Grows h₂) (h₂₃ : h₂.Grows h₃) :
    h₁.Grows h₃ := by
  refine ⟨Nat.le_trans h₁₂.length h₂₃.length, fun hp => ?_, fun hd => h₂₃.dep (h₁₂.dep hd)⟩
  rw [h₂₃.library (Nat.lt_of_lt_of_le hp h₁₂.length), h₁₂.library hp]

section

variable {source : DepRef}

theorem share_programs (hd : h.dep source = some d) (hnone : d.sharedFrom = none) :
    (h.share p source).programs = addDep h.programs p ⟨d.path, d.program, some source⟩ := by
  unfold share
  split
  · rename_i hsource
    rw [hsource] at hd
    cases hd
  · rename_i d' hsource
    rw [hsource] at hd
    cases hd
    rw [dif_pos hnone]

theorem length_share : (h.share p source).programs.length = h.programs.length := by
  unfold share
  split
  · rfl
  · split
    · exact List.length_modify ..
    · rfl

section

variable (hd : h.dep source = some d)

include hd

/-- A reuse adds one dependency. -/
theorem dep_share (hnone : d.sharedFrom = none) {r : DepRef}
    {d' : ProcessDependency} : (h.share p source).dep r = some d' ↔ h.dep r = some d' ∨
      (r = ⟨p, h.depCount p⟩ ∧ p < h.programs.length ∧
        d' = ⟨d.path, d.program, some source⟩) := by
  rw [dep, share_programs hd hnone]
  exact depAt_addDep

theorem library_share (hnone : d.sharedFrom = none) (q : Nat) :
    (h.share p source).library q = h.library q := by
  obtain ⟨deps, hget⟩ := getD_addDep h.programs p q _
  rw [library, get, share_programs hd hnone, hget]
  rfl

theorem elf_share (hnone : d.sharedFrom = none) (q : Nat) :
    ((h.share p source).get q).elf = (h.get q).elf :=
  congrArg Library.elf (library_share hd hnone q)

theorem grows_share (hnone : d.sharedFrom = none) : h.Grows (h.share p source) :=
  ⟨Nat.le_of_eq length_share.symm, fun _ => library_share hd hnone _,
    fun hr => (dep_share hd hnone).mpr (.inl hr)⟩

theorem needs_of_share (hnone : d.sharedFrom = none) {v w : Nat}
    (hvw : (h.share p source).Needs v w) : h.Needs v w ∨ v = p ∧ w = h.target source := by
  obtain ⟨r, d', hr, rfl, rfl⟩ := hvw
  rcases (dep_share hd hnone).mp hr with hr | ⟨rfl, -, rfl⟩
  · exact .inl ⟨r, d', hr, rfl, rfl⟩
  · exact .inr ⟨rfl, (target_eq hd).symm⟩

theorem needs_share (hnone : d.sharedFrom = none)
    (hp : p < h.programs.length) : (h.share p source).Needs p (h.target source) :=
  ⟨_, _, (dep_share hd hnone).mpr (.inr ⟨rfl, hp, rfl⟩), rfl, (target_eq hd).symm⟩

end

end

section

variable {path : CString} {elf : ElfModule}

theorem length_adopt : (h.adopt p path elf).programs.length = h.programs.length + 1 := by
  simp [adopt, addDep]

theorem lt_length_adopt : h.programs.length < (h.adopt p path elf).programs.length := by
  rw [length_adopt]
  exact Nat.lt_succ_self _

theorem lt_or_eq_of_lt_adopt {q : Nat} (hq : q < (h.adopt p path elf).programs.length) :
    q < h.programs.length ∨ q = h.programs.length := by
  rw [length_adopt] at hq
  omega

/-- An adoption adds one dependency, on the new program. -/
theorem dep_adopt {r : DepRef} :
    (h.adopt p path elf).dep r = some d ↔ h.dep r = some d ∨
      (r = ⟨p, h.depCount p⟩ ∧ p < h.programs.length ∧ d = ⟨path, h.programs.length, none⟩) := by
  rw [dep, adopt, depAt_append]
  exact depAt_addDep

theorem get_adopt_of_lt {q : Nat} (hq : q < h.programs.length) : (h.adopt p path elf).get q =
    (addDep h.programs p ⟨path, h.programs.length, none⟩).getD q default := by
  have hlength : (addDep h.programs p ⟨path, h.programs.length, none⟩).length =
      h.programs.length := List.length_modify ..
  rw [get, adopt, List.getD_append _ _ _ _ (by omega)]

theorem get_adopt_new : (h.adopt p path elf).get h.programs.length = ⟨path, elf, []⟩ := by
  have hlength : (addDep h.programs p ⟨path, h.programs.length, none⟩).length =
      h.programs.length := List.length_modify ..
  rw [get, adopt, List.getD_append_right _ _ _ _ (by omega), hlength]
  simp

theorem elf_adopt_new : ((h.adopt p path elf).get h.programs.length).elf = elf := by
  rw [get_adopt_new]

theorem grows_adopt : h.Grows (h.adopt p path elf) := by
  refine ⟨Nat.le_of_lt lt_length_adopt, fun {q} hq => ?_, fun hr => dep_adopt.mpr (.inl hr)⟩
  obtain ⟨deps, hget⟩ := getD_addDep h.programs p q _
  rw [library, get_adopt_of_lt hq, hget]
  rfl

theorem needs_of_adopt {v w : Nat} (hvw : (h.adopt p path elf).Needs v w) :
    h.Needs v w ∨ v = p ∧ w = h.programs.length := by
  obtain ⟨r, d, hr, rfl, rfl⟩ := hvw
  rcases dep_adopt.mp hr with hr | ⟨rfl, -, rfl⟩
  · exact .inl ⟨r, d, hr, rfl, rfl⟩
  · exact .inr ⟨rfl, rfl⟩

theorem needs_adopt (hp : p < h.programs.length) :
    (h.adopt p path elf).Needs p h.programs.length :=
  ⟨_, _, dep_adopt.mpr (.inr ⟨rfl, hp, rfl⟩), rfl, rfl⟩

end

theorem lt_of_dep (hd : h.dep r = some d) :
    r.program < h.programs.length := by
  by_contra hlt
  have hget : h.programs.getD r.program default = default := by
    rw [List.getD_eq_getElem?_getD, List.getElem?_eq_none (Nat.le_of_not_lt hlt)]
    rfl
  rw [dep, depAt, hget] at hd
  cases hd

theorem lt_of_needs {p : Nat} (hpq : h.Needs p q) : p < h.programs.length := by
  obtain ⟨r, d, hd, rfl, -⟩ := hpq
  exact lt_of_dep hd

/-- A new program closes no cycle. -/
theorem acyclic_adopt (hacyclic : h.Acyclic) {p : Nat} (hp : p < h.programs.length)
    (path : CString) (elf : ElfModule) : (h.adopt p path elf).Acyclic := by
  refine Hw.acc_insert_edge (fun v w => needs_of_adopt) (fun hreach => ?_) hacyclic
  -- The new program has no dependencies, so it leads only to itself.
  rcases ReflTransGen.cases_head hreach with heq | ⟨q, hq, -⟩
  · omega
  · exact Nat.lt_irrefl _ (lt_of_needs hq)

theorem dep_init_ne {path : CString} {elf : ElfModule} :
    (init path elf).dep r ≠ some d := by
  intro hd
  rw [dep, init, depAt_singleton] at hd
  cases hd

theorem acyclic_init (path : CString) (elf : ElfModule) : (init path elf).Acyclic := by
  refine fun p => ⟨p, fun q hpq => ?_⟩
  obtain ⟨r, d, hd, -⟩ := hpq
  exact absurd hd dep_init_ne

end ProgramHeap

/-! ## What a load does -/

/-- The reused program leads to the one that reuses it. -/
def Reuse.ClosesCycle (e : Reuse) : Prop := e.heap.Reaches (e.heap.target e.source) e.program

/-- A load with the reuses `log` adds to the heap, and closes a cycle only by one of them. -/
structure Loaded (h : ProgramHeap) (log : List Reuse) (h' : ProgramHeap) : Prop where
  grows : h.Grows h'
  acyclic : h.Acyclic → (∀ e ∈ log, ¬ e.ClosesCycle) → h'.Acyclic

namespace Loaded

variable {p : Nat} {h h₁ h₂ : ProgramHeap} {log log₁ log₂ : List Reuse}

theorem refl (h : ProgramHeap) : Loaded h [] h := ⟨.refl h, fun hacyclic _ => hacyclic⟩

theorem trans (h₀₁ : Loaded h log₁ h₁) (h₁₂ : Loaded h₁ log₂ h₂) : Loaded h (log₁ ++ log₂) h₂ := by
  refine ⟨h₀₁.grows.trans h₁₂.grows, fun hacyclic hlog => ?_⟩
  rw [List.forall_mem_append] at hlog
  exact h₁₂.acyclic (h₀₁.acyclic hacyclic hlog.1) hlog.2

theorem reuse {source : DepRef} {d : ProcessDependency} (hd : h.dep source = some d)
    (hnone : d.sharedFrom = none) : Loaded h [⟨h, p, source⟩] (h.share p source) := by
  refine ⟨grows_share hd hnone, fun hacyclic hlog => ?_⟩
  exact Hw.acc_insert_edge (fun v w => needs_of_share hd hnone)
    (hlog _ (List.mem_singleton.mpr rfl)) hacyclic

theorem adopt {path : CString} {elf : ElfModule} (hp : p < h.programs.length)
    (hsub : Loaded (h.adopt p path elf) log h₁) : Loaded h log h₁ :=
  ⟨grows_adopt.trans hsub.grows, fun hacyclic => hsub.acyclic (acyclic_adopt hacyclic hp path elf)⟩

end Loaded

end Poly.Polyexec
