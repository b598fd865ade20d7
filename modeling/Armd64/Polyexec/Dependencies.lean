import Armd64.Lib.Loop
import Armd64.Lib.Search
import Armd64.Lib.Traced

/-!
# Process dependencies (`polyexec.c`)

The runtime loads the libraries that a program needs, and those that they need in turn. A library
whose soname is already loaded is not loaded again: the new dependency shares the program of the
loaded one, so the programs are the nodes of a graph and not of a tree.

The recursive walks over the graph have a budget for their depth; a load or walk that has no value
for any budget does not return.
-/

namespace Poly.Polyexec

open Hw (Traced)

def maxProcessDeps : Nat := 8

def maxProcessDepDepth : Nat := 4

abbrev CString := List (BitVec 8)

/-! ## Files -/

/-- What `load_process_dependencies_at_depth` finds in the dynamic table of a program. -/
inductive DynamicNeeds
  | absent
  | noStrings
  | stringsOutside
  /-- The `DT_RUNPATH` (or else `DT_RPATH`) string is not in the string table. -/
  | badSearchPath (runpath : Bool)
  /-- The `DT_NEEDED` strings in order, `none` for one that is not in the string table. -/
  | needed (names : List (Option CString))
deriving DecidableEq, Inhabited

/-- The fields of `struct poly_program` that `load_elf_program` reads from a file. -/
structure ElfModule where
  arch : Nat
  soname : CString
  tlsMemsz : Nat
  dynamic : DynamicNeeds
deriving DecidableEq, Inhabited

structure ProcessFiles where
  /-- `find_process_needed_path`: the path for a name that the program at a path needs. -/
  neededPath : CString → CString → Option CString
  elf : CString → Option ElfModule
  /-- The tokens of `POLY_LD_PRELOAD`, with the path that `build_process_preload_path` gives. -/
  preload : List (CString × Option CString)

/-! ## Programs -/

/-- A pointer to a dependency: its program, and its place among the program's dependencies. -/
structure DepRef where
  program : Nat
  slot : Nat
deriving DecidableEq

structure ProcessDependency where
  path : CString
  program : Nat
  sharedFrom : Option DepRef
deriving DecidableEq

structure Program where
  path : CString
  elf : ElfModule
  deps : List ProcessDependency
deriving DecidableEq, Inhabited

def depAt (programs : List Program) (r : DepRef) : Option ProcessDependency :=
  (programs.getD r.program default).deps[r.slot]?

def addDep (programs : List Program) (p : Nat) (dep : ProcessDependency) : List Program :=
  programs.modify p fun q => { q with deps := q.deps ++ [dep] }

variable {programs : List Program} {p : Nat} {r : DepRef} {path : CString} {elf : ElfModule}

theorem depAt_addDep {dep d : ProcessDependency} :
    depAt (addDep programs p dep) r = some d ↔ depAt programs r = some d ∨
      (r = ⟨p, (programs.getD p default).deps.length⟩ ∧ p < programs.length ∧ d = dep) := by
  obtain ⟨q, i⟩ := r
  simp only [depAt, addDep, List.getD_eq_getElem?_getD, List.getElem?_modify, DepRef.mk.injEq]
  by_cases hqp : p = q
  · subst hqp
    cases hp : programs[p]? with
    | none =>
      have := List.getElem?_eq_none_iff.mp hp
      simp [default]
      omega
    | some prog =>
      have := (List.getElem?_eq_some_iff.mp hp).1
      simp only [Option.map_eq_map, Option.map_some, Option.getD_some, if_true]
      rw [List.getElem?_append]
      split
      · simp
        omega
      · rw [List.getElem?_eq_none (by omega : prog.deps.length ≤ i)]
        by_cases hi : i = prog.deps.length
        · subst hi
          simp [this, eq_comm]
        · rw [List.getElem?_eq_none (by simp; omega)]
          simp [hi]
  · simp [hqp, Ne.symm hqp]

theorem getD_addDep (programs : List Program) (p q : Nat) (dep : ProcessDependency) :
    ∃ deps, (addDep programs p dep).getD q default = { programs.getD q default with deps } := by
  rw [addDep, List.getD_eq_getElem?_getD, List.getElem?_modify, List.getD_eq_getElem?_getD]
  cases programs[q]? with
  | none => exact ⟨_, rfl⟩
  | some prog => by_cases hpq : p = q <;> exact ⟨_, by simp [hpq]; rfl⟩

theorem depAt_append : depAt (programs ++ [⟨path, elf, []⟩]) r = depAt programs r := by
  have hdefault : (default : Program).deps = [] := rfl
  simp only [depAt, List.getD_eq_getElem?_getD, List.getElem?_append]
  split
  · rfl
  · rw [List.getElem?_eq_none (by omega : programs.length ≤ r.program)]
    cases r.program - programs.length <;> simp [hdefault]

theorem depAt_singleton : depAt [⟨path, elf, []⟩] r = none := by
  rw [← List.nil_append [_], depAt_append]
  rfl

structure ProgramHeap where
  programs : List Program
  /-- A shared dependency points to one that is not shared, and has its program. -/
  shared : ∀ {r dep s}, depAt programs r = some dep → dep.sharedFrom = some s →
    ∃ d, depAt programs s = some d ∧ d.sharedFrom = none ∧ d.program = dep.program
  /-- A program that a dependency loaded is younger than the program that needed it. -/
  owned : ∀ {r dep}, depAt programs r = some dep → dep.sharedFrom = none → r.program < dep.program

namespace ProgramHeap

variable (h : ProgramHeap)

def init (path : CString) (elf : ElfModule) : ProgramHeap where
  programs := [⟨path, elf, []⟩]
  shared := by
    intro r dep s hdep
    rw [depAt_singleton] at hdep
    cases hdep
  owned := by
    intro r dep hdep
    rw [depAt_singleton] at hdep
    cases hdep

def get (p : Nat) : Program := h.programs.getD p default

def depCount (p : Nat) : Nat := (h.get p).deps.length

def dep (r : DepRef) : Option ProcessDependency := depAt h.programs r

def target (r : DepRef) : Nat := ((h.dep r).map (·.program)).getD 0

def sharedFrom (r : DepRef) : Option DepRef := (h.dep r).bind (·.sharedFrom)

def share (p : Nat) (source : DepRef) : ProgramHeap :=
  match hsource : h.dep source with
  | none => h
  | some d =>
    if hd : d.sharedFrom = none then
      { programs := addDep h.programs p ⟨d.path, d.program, some source⟩
        shared := by
          intro r dep s hdep hs
          rcases depAt_addDep.mp hdep with hold | ⟨-, -, rfl⟩
          · obtain ⟨d', hd', hrest⟩ := h.shared hold hs
            exact ⟨d', depAt_addDep.mpr (.inl hd'), hrest⟩
          · cases hs
            exact ⟨d, depAt_addDep.mpr (.inl hsource), hd, rfl⟩
        owned := by
          intro r dep hdep hs
          rcases depAt_addDep.mp hdep with hold | ⟨-, -, rfl⟩
          · exact h.owned hold hs
          · cases hs }
    else h

def adopt (p : Nat) (path : CString) (elf : ElfModule) : ProgramHeap where
  programs := addDep h.programs p ⟨path, h.programs.length, none⟩ ++ [⟨path, elf, []⟩]
  shared := by
    intro r dep s hdep hs
    rw [depAt_append] at hdep
    rcases depAt_addDep.mp hdep with hold | ⟨-, -, rfl⟩
    · obtain ⟨d, hd, hrest⟩ := h.shared hold hs
      exact ⟨d, depAt_append.trans (depAt_addDep.mpr (.inl hd)), hrest⟩
    · cases hs
  owned := by
    intro r dep hdep hs
    rw [depAt_append] at hdep
    rcases depAt_addDep.mp hdep with hold | ⟨rfl, hp, rfl⟩
    · exact h.owned hold hs
    · exact hp

/-! ## Walks -/

def depRefs (p : Nat) : List DepRef := (List.range (h.depCount p)).map fun i => ⟨p, i⟩

def canonicalLoop : Hw.Loop DepRef DepRef where
  body r :=
    match h.sharedFrom r with
    | none => .error r
    | some s => .ok s
  measure r := if h.sharedFrom r = none then 0 else 1
  decreases := by
    intro r s hrs
    cases hr : h.sharedFrom r with
    | none => simp [hr] at hrs
    | some s' =>
      obtain ⟨dep, hdep, hs⟩ := Option.bind_eq_some_iff.mp hr
      obtain ⟨d, hd, hnone, -⟩ := h.shared hdep hs
      have hs' : h.sharedFrom s' = none := by simp [sharedFrom, ProgramHeap.dep, hd, hnone]
      rw [hr] at hrs
      cases hrs
      simp [hs']

/-- `canonical_process_dependency`: follows `shared_from` to its end. -/
def canonicalProcessDependency (r : DepRef) : DepRef := h.canonicalLoop.exit r

/-- The dependencies of a program, each followed to the one it is shared from. -/
def canonicalRefs (p : Nat) : List DepRef := (h.depRefs p).map h.canonicalProcessDependency

def ownedRefs (p : Nat) : List DepRef := (h.depRefs p).filter fun r => h.sharedFrom r = none

/-- `find_process_dependency_soname`: no answer within the budget, no program with this soname, or
the dependency that loaded it. -/
def findProcessDependencySoname (budget : Nat) (program arch : Nat) (soname : CString) :
    Option (Option DepRef) :=
  if soname = [] then some none
  else
    Hw.search h.canonicalRefs h.target
      (fun r =>
        let elf := (h.get (h.target r)).elf
        elf.arch == arch && elf.soname != [] && elf.soname == soname)
      budget program

def hasArchTls (arch program : Nat) : Bool :=
  (h.get program).elf.arch == arch && (h.get program).elf.tlsMemsz != 0

/-- `process_tree_has_arch_tls`. It follows shared dependencies too. -/
def processTreeHasArchTls (budget : Nat) (program arch : Nat) : Option Bool :=
  if h.hasArchTls arch program then some true
  else
    (Hw.search h.depRefs h.target (fun r => h.hasArchTls arch (h.target r)) budget program).map
      Option.isSome

/-- The walks that skip shared dependencies (`unmap_process_dependencies`,
`set_process_dependency_root_scope`, `reserve_process_tls_tree`,
`copy_process_dependency_tls_images`, `map_process_dependencies`,
`run_process_dependency_finalizers`). They end where a step `fails`. -/
def ownedWalk (fails : DepRef → Bool) (budget : Nat) (program : Nat) : Option (Option DepRef) :=
  Hw.search h.ownedRefs h.target fails budget program

end ProgramHeap

/-! ## The load -/

inductive LoadError
  | depthExceeded (path : CString)
  | stringsOutside
  | badSearchPath (runpath : Bool) (path : CString)
  | badNeeded (path : CString)
  | tooManyNeeded (path : CString)
  | badNeededPath (path needed : CString)
  | notLoaded (path : CString)
  | badPreloadPath (token : CString)
  | tooManyPreload (path : CString)
deriving DecidableEq

/-- A reuse of a loaded program: in `heap`, `program` gets a dependency shared from `source`. -/
structure Reuse where
  heap : ProgramHeap
  program : Nat
  source : DepRef

/-- A load logs its reuses and ends with an error or the programs; it has no value if a search runs
out of budget. -/
abbrev Load := Traced Reuse (Except LoadError ProgramHeap)

def Load.andThen (t : Load) (f : ProgramHeap → Load) : Load := do
  match ← t with
  | .error e => return .error e
  | .ok h => f h

section

variable (budget : Nat) (files : ProcessFiles)

/-- The soname search for a needed name; a name with a slash is a path. -/
def findShared (h : ProgramHeap) (arch : Nat) (needed : CString) : Option (Option DepRef) :=
  if 0x2f#8 ∈ needed then some none else h.findProcessDependencySoname budget 0 arch needed

/-- Loads the file at `path` as a dependency of program `p`, and then with `sub` what it needs. -/
def loadDependency (sub : Nat → ProgramHeap → Load) (p : Nat) (path : CString) (h : ProgramHeap) :
    Load :=
  match files.elf path with
  | none => return .error (.notLoaded path)
  | some elf => sub h.programs.length (h.adopt p path elf)

/-- A needed name after the soname search: a dependency that was found is shared, otherwise a file
is loaded; then `rest` goes on. -/
def loadFound (sub : Nat → ProgramHeap → Load) (p : Nat) (needed : CString)
    (rest : ProgramHeap → Load) (h : ProgramHeap) : Option DepRef → Load
  | some source => do
    Traced.emit ⟨h, p, source⟩ ()
    rest (h.share p source)
  | none =>
    match files.neededPath (h.get p).path needed with
    | none => return .error (.badNeededPath (h.get p).path needed)
    | some path => (loadDependency files sub p path h).andThen rest

def loadNeeded (sub : Nat → ProgramHeap → Load) (p : Nat) :
    List (Option CString) → ProgramHeap → Load
  | [], h => return .ok h
  | none :: _, h => return .error (.badNeeded (h.get p).path)
  | some needed :: rest, h =>
    if maxProcessDeps ≤ h.depCount p then return .error (.tooManyNeeded (h.get p).path)
    else do
      let found ← Traced.ofOption (findShared budget h (h.get p).elf.arch needed)
      loadFound files sub p needed (loadNeeded sub p rest) h found

/-- `load_process_dependencies_at_depth`, with the depth counted down from the limit. -/
def loadProcessDependenciesAtDepth : Nat → Nat → ProgramHeap → Load
  | 0, p, h =>
    match (h.get p).elf.dynamic with
    | .absent => return .ok h
    | _ => return .error (.depthExceeded (h.get p).path)
  | left + 1, p, h =>
    match (h.get p).elf.dynamic with
    | .absent => return .ok h
    | .noStrings => return .ok h
    | .stringsOutside => return .error .stringsOutside
    | .badSearchPath runpath => return .error (.badSearchPath runpath (h.get p).path)
    | .needed names =>
      loadNeeded budget files (loadProcessDependenciesAtDepth left) p names h

/-- The loop over the preloaded libraries, which become dependencies of the root. -/
def loadPreloads : List (CString × Option CString) → ProgramHeap → Load
  | [], h => return .ok h
  | (token, none) :: _, _ => return .error (.badPreloadPath token)
  | (_, some path) :: rest, h =>
    -- `process_dependency_path_already_loaded`
    if path ∈ (h.get 0).deps.map (·.path) then loadPreloads rest h
    else if maxProcessDeps ≤ h.depCount 0 then return .error (.tooManyPreload (h.get 0).path)
    else
      (loadDependency files
        (loadProcessDependenciesAtDepth budget files (maxProcessDepDepth - 1)) 0 path h).andThen
        (loadPreloads rest)

def loadProcessDependencies (path : CString) (elf : ElfModule) : Load :=
  (loadPreloads budget files files.preload (.init path elf)).andThen
    (loadProcessDependenciesAtDepth budget files maxProcessDepDepth 0)

end

end Poly.Polyexec
