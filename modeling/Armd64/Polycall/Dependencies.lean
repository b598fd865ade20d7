import Armd64.Polyexec.ElfSymbols

/-!
# Dependencies of the static caller (`polycall.c`)

`polycall` keeps all libraries of a program in one table. A library that is needed goes into the
table before the libraries that it needs itself, and it is relocated when these are loaded, against
the table as it is then. The rank of a library says when a lookup prefers it: those that the program
itself needs come first, in their order, and then the others, in the order of the table.
-/

namespace Poly.Polycall

open Hw Polyexec

/-! ## The table -/

abbrev Text := List (BitVec 8)

abbrev Rpath := Text × Text

structure SymbolTable where
  symbols : List ElfSym
  strings : Text
  versym : List (BitVec 16)
  exportVersion : Nat → Option Text

/-- What `load_dependency_object` takes from the file of a library. -/
structure DepFile where
  arch : Nat
  soname : Text
  dynsym : SymbolTable
  bridgeKind : Text → Nat
  needed : List Text
  runpath : Option Text
  rpath : Option Text

/-- `struct poly_dependency`. The file is read after the entry is in the table. -/
structure Dependency where
  path : Text
  neededDepth : Nat
  lookupRank : Nat
  file : Option DepFile

def Dependency.soname (d : Dependency) : Text := (d.file.map (·.soname)).getD []

/-- The fields `deps`, `dep_count` and `direct_dep_count` of `struct poly_program`. -/
structure DepTable where
  deps : List Dependency
  directDepCount : Nat

def maxNeededDeps : Nat := 32

namespace DepTable

variable (t : DepTable)

def push (path : Text) (neededDepth : Nat) : DepTable :=
  if neededDepth = 0 then
    ⟨t.deps ++ [⟨path, neededDepth, t.directDepCount, none⟩], t.directDepCount + 1⟩
  else ⟨t.deps ++ [⟨path, neededDepth, maxNeededDeps + t.deps.length, none⟩], t.directDepCount⟩

/-- Entry `n` gets the next rank of a direct dependency, unless it has one. -/
def promote (n : Nat) : DepTable :=
  if maxNeededDeps ≤ (t.deps[n]?.map (·.lookupRank)).getD 0 then
    ⟨t.deps.modify n fun d => { d with lookupRank := t.directDepCount }, t.directDepCount + 1⟩
  else t

def setFile (n : Nat) (file : DepFile) : DepTable :=
  { t with deps := t.deps.modify n fun d => { d with file := some file } }

end DepTable

/-- The entry is the needed library: it has its path or, for a name without a slash, its soname. -/
def Dependency.isNeeded (path needed : Text) (d : Dependency) : Bool :=
  d.path == path || (!needed.contains 0x2f#8 && d.soname == needed)

/-- `dependency_identity_already_loaded`: the table after it, if the library is there. -/
def dependencyIdentityAlreadyLoaded (t : DepTable) (path needed : Text)
    (neededDepth : Nat) : Option DepTable :=
  (t.deps.findIdx? (Dependency.isNeeded path needed)).map fun n =>
    if neededDepth = 0 then t.promote n else t

/-! ## The load -/

structure DepHost where
  path : Text
  arch : Nat
  root : DepFile
  preload : List (Option Text)
  /-- The file at a path, if it passes the checks of `load_dependency_object`. -/
  read : Text → Option DepFile
  /-- `reserve_tls_range`, after the storage of the libraries in the table. -/
  reserveTlsRange : List Dependency → Text → Bool
  /-- The expanded name and the path of a needed library, from the file that needs it and the search
  path it inherits. -/
  neededPath : Text → DepFile → Option Rpath → Text → Option (Text × Text)
  loadDynamicRelocs : Text → List Dependency → Bool

/-- The moments of a load: the table has changed, or a file is relocated against the table. -/
inductive LoadEvent
  | table (t : DepTable)
  | relocate (path : Text) (t : DepTable)
  | budget

/-- The search path that the libraries inherit from a file: `DT_RPATH` with its origin. -/
def childInheritedRpath (file : DepFile) (origin : Text)
    (inherited : Option Rpath) : Option Rpath :=
  if file.runpath.isSome then none
  else
    match file.rpath with
    | none => inherited
    | some rpath => if rpath = [] then inherited else some (rpath, origin)

def logTable (t : DepTable) : Traced LoadEvent DepTable := .emit (.table t) t

/-- Loads what a file needs: its path, what was read, the depth and the inherited search path. -/
abbrev LoadNeeded :=
  Text → DepFile → Nat → Option Rpath → DepTable → Traced LoadEvent DepTable

section

variable (host : DepHost)

def loadDependencyObject (sub : LoadNeeded) (path : Text) (expectedArch neededDepth : Nat)
    (inherited : Option Rpath) (t : DepTable) :
    Traced LoadEvent DepTable := do
  let index := t.deps.length
  let t ← logTable (t.push path neededDepth)
  let file ← .ofOption (host.read path)
  if (expectedArch ≠ 0 ∧ file.arch ≠ expectedArch) ∨ host.reserveTlsRange t.deps path = false then
    .fail
  else do
    let t ← logTable (t.setFile index file)
    let t ← sub path file (neededDepth + 1) inherited t
    let t ← Traced.emit (.relocate path t) t
    if host.loadDynamicRelocs path t.deps then return t else .fail

def loadNeededDependency (sub : LoadNeeded) (origin : Text) (file : DepFile)
    (neededDepth : Nat) (inherited : Option Rpath) (t : DepTable)
    (needed : Text) : Traced LoadEvent DepTable := do
  let found ← Traced.ofOption (host.neededPath origin file inherited needed)
  match dependencyIdentityAlreadyLoaded t found.2 found.1 neededDepth with
  | some t => logTable t
  | none =>
    if maxNeededDeps ≤ t.deps.length then .fail
    else
      loadDependencyObject host sub found.2 0 neededDepth
        (childInheritedRpath file origin inherited) t

/-- `load_needed_dependencies_from_dynamic`, with a budget for its depth. -/
def loadNeededDependenciesFromDynamic : Nat → LoadNeeded
  | 0, _, _, _, _, t => do
    let _ ← Traced.emit .budget t
    .fail
  | budget + 1, origin, file, neededDepth, inherited, t =>
    file.needed.foldlM (loadNeededDependency host (loadNeededDependenciesFromDynamic budget) origin
      file neededDepth inherited) t

def promotePreloadDependencyScope (t : DepTable) (firstDep : Nat) : Traced LoadEvent DepTable :=
  (List.range' firstDep (t.deps.length - firstDep)).foldlM (fun t d => logTable (t.promote d)) t

local instance : LawfulBEq Text := List.instLawfulBEq

def loadPreloadDependency (sub : LoadNeeded) (t : DepTable) (found : Option Text) :
    Traced LoadEvent DepTable := do
  let path ← Traced.ofOption found
  if path ∈ t.deps.map (·.path) then return t
  else if maxNeededDeps ≤ t.deps.length then .fail
  else do
    let index := t.deps.length
    let t ← loadDependencyObject host sub path host.arch 0 none t
    promotePreloadDependencyScope t index

def loadDependencies (budget : Nat) : Traced LoadEvent DepTable := do
  let sub := loadNeededDependenciesFromDynamic host budget
  let t ← host.preload.foldlM (loadPreloadDependency host sub) ⟨[], 0⟩
  let t ← sub host.path host.root 0 none t
  Traced.emit (.relocate host.path t) t

end

/-! ## Lookups -/

structure VersionRequirement where
  name : Option Text
  filename : Option Text

def symbolIsDependencyExport (sym : ElfSym) : Bool :=
  -- `STB_GLOBAL`, `STB_WEAK`, `STB_GNU_UNIQUE`; `STV_DEFAULT`, `STV_PROTECTED`
  (sym.bind == 1#8 || sym.bind == 2#8 || sym.bind == 10#8) &&
    (sym.visibility == 0#8 || sym.visibility == 3#8)

def symbolExportVersionMatches (table : SymbolTable) (s : Nat)
    (required : Option Text) : Bool :=
  match required with
  | none =>
    match table.versym[s]? with
    | none => true
    | some raw => (raw &&& 0x7fff#16).ule 1#16 || raw &&& 0x8000#16 == 0#16
  | some version => table.exportVersion s == some version

def pathBasename (path : Text) : Text :=
  (path.reverse.takeWhile (· != 0x2f#8)).reverse

def dependencyMatchesVersionFile (d : Dependency) (filename : Option Text) : Bool :=
  match filename with
  | none => true
  | some name => d.soname == name || pathBasename d.path == name

/-- The checks of `resolve_dependency_symbol` on symbol `s` of a table. -/
def symbolMatches (table : SymbolTable) (name : Text)
    (required : Option VersionRequirement) (s : Nat) (sym : ElfSym) : Bool :=
  decide (sym.stName.toNat < table.strings.length) && sym.stShndx != 0#16 &&
    symbolIsDependencyExport sym &&
    -- `STT_FUNC`, `STT_NOTYPE`, `STT_OBJECT`, `STT_GNU_IFUNC`
    (sym.type == 2#8 || sym.type == 0#8 || sym.type == 1#8 || sym.type == 10#8) &&
    (table.strings.drop sym.stName.toNat).takeWhile (· != 0#8) == name &&
    symbolExportVersionMatches table s (required.bind (·.name))

structure Best where
  best : Option Nat
  rank : Nat
  value : BitVec 64
  type : BitVec 8

/-- The inner loop, over the symbols of entry `n` from number `s` on. -/
def resolveInTable (name : Text) (required : Option VersionRequirement) (n rank : Nat)
    (table : SymbolTable) : List ElfSym → Nat → Best → Best
  | [], _, b => b
  | sym :: syms, s, b =>
    resolveInTable name required n rank table syms (s + 1)
      (if !symbolMatches table name required s sym then b
      else if b.rank ≤ rank then b
      else ⟨some n, rank, sym.stValue, sym.type⟩)

def resolveInDeps (name : Text) (required : Option VersionRequirement) :
    List Dependency → Nat → Best → Best
  | [], _, b => b
  | d :: deps, n, b =>
    resolveInDeps name required deps (n + 1)
      (if !dependencyMatchesVersionFile d (required.bind (·.filename)) then b
      else
        match d.file with
        | none => b
        | some file =>
          resolveInTable name required n d.lookupRank file.dynsym file.dynsym.symbols 0 b)

inductive DepBase
  | loadBias (dep : Nat)
  | ifunc (dep : Nat)
  | crossStub (dep bridgeKind : Nat)
  | crossIfunc (dep bridgeKind : Nat)
  deriving DecidableEq

/-- The base kind for entry `best`, for a program of architecture `arch`. -/
def depBaseKind (arch : Nat) (deps : List Dependency) (name : Text) (best : Nat)
    (type : BitVec 8) : DepBase :=
  match deps[best]?.bind (·.file) with
  | none => .loadBias best
  | some file =>
    if file.arch ≠ arch ∧ (type = 2#8 ∨ type = 0#8) then .crossStub best (file.bridgeKind name)
    else if file.arch ≠ arch ∧ type = 10#8 then .crossIfunc best (file.bridgeKind name)
    else if type = 10#8 then .ifunc best
    else .loadBias best

def resolveDependencySymbol (arch : Nat) (deps : List Dependency) (name : Text)
    (required : Option VersionRequirement) : Option (BitVec 64 × DepBase) :=
  let b := resolveInDeps name required deps 0 ⟨none, 2 ^ 64 - 1, 0, 0⟩
  b.best.map fun best => (b.value, depBaseKind arch deps name best b.type)

end Poly.Polycall
