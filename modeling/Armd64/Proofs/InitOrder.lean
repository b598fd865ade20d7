import Armd64.Proofs.Lifecycle
import Armd64.Proofs.LoadedLibraries

/-!
# The order of initializers and finalizers

The walks that map the dependencies and that call the finalizers are loops over one list of
programs. The map walk also checks that the program of a shared dependency is mapped already.
-/

namespace Poly.Polyexec

open Hw
open Traced
open ProgramHeap
open Relation (ReflTransGen TransGen)

section

variable (P : Process) (G : ProcessSteps)

/-- A program is mapped and its initializers run; only the root has preinitializers. -/
def startModule (mem : Memory) (p : Nat) : Traced LifecycleCall Memory := do
  let mem ← ofOption (G.load p mem)
  let mem ← if p = 0 then runProcessPreinitializers P G p mem else pure mem
  runProcessInitializers P G p mem

def finishModule (mem : Memory) (p : Nat) : Traced LifecycleCall Memory :=
  runProcessFinalizers P G p mem

/-- `mapProcessDependency` that goes on with `missing` if a shared dependency is not mapped. -/
def mapProcessDependencyOr (missing : LifecycleState → DepRef → Traced LifecycleCall LifecycleState)
    (sub : Nat → LifecycleState → Traced LifecycleCall LifecycleState)
    (s : LifecycleState) (r : DepRef) : Traced LifecycleCall LifecycleState :=
  if P.heap.sharedFrom r ≠ none then
    if P.heap.canonicalProcessDependency r ∈ s.mapped then return { s with mapped := r :: s.mapped }
    else missing s r
  else do
    let p := P.heap.target r
    let s ← sub p s
    let mem ← ofOption (G.load p s.mem)
    let mem ← runProcessInitializers P G p mem
    return ⟨mem, r :: s.mapped⟩

/-- `mapProcessDependencies` that goes on with `missing` if a shared dependency is not mapped. -/
def mapProcessDependenciesOr
    (missing : LifecycleState → DepRef → Traced LifecycleCall LifecycleState) :
    Nat → Nat → LifecycleState → Traced LifecycleCall LifecycleState
  | 0, _, _ => fail
  | budget + 1, p, s =>
    (P.heap.depRefs p).foldlM
      (mapProcessDependencyOr P G missing (mapProcessDependenciesOr missing budget)) s

theorem mapProcessDependenciesOr_fail :
    mapProcessDependenciesOr P G (fun _ _ => fail) = mapProcessDependencies P G := by
  funext budget
  induction budget with
  | zero => rfl
  | succ budget ih =>
    funext p s
    rw [mapProcessDependenciesOr, ih]
    rfl

/-- What the walk does with a dependency after those of its program. -/
def mapVisit (missing : LifecycleState → DepRef → Traced LifecycleCall LifecycleState)
    (s : LifecycleState) (r : DepRef) : Traced LifecycleCall LifecycleState :=
  mapProcessDependencyOr P G missing (fun _ s => pure s) s r

end

section

variable {P : Process} {G : ProcessSteps}
  {missing : LifecycleState → DepRef → Traced LifecycleCall LifecycleState} {walk : List DepRef}

variable {s : LifecycleState} {r : DepRef} {c budget : Nat}

theorem mapVisit_shared (hr : P.heap.isShared r) :
    mapVisit P G missing s r =
      if P.heap.canonicalProcessDependency r ∈ s.mapped then
        return { s with mapped := r :: s.mapped }
      else missing s r := by
  have hne : P.heap.sharedFrom r ≠ none := Option.isSome_iff_ne_none.mp hr
  rw [mapVisit, mapProcessDependencyOr, if_pos hne]

theorem mapVisit_owned (hr : P.heap.isShared r = false) (htarget : P.heap.target r ≠ 0) :
    mapVisit P G missing s r = do
      let mem ← startModule P G s.mem (P.heap.target r)
      return ⟨mem, r :: s.mapped⟩ := by
  have hnone : P.heap.sharedFrom r = none := by simpa [isShared] using hr
  rw [mapVisit, mapProcessDependencyOr, if_neg (not_not.mpr hnone), startModule]
  simp only [if_neg htarget, pure_bind, bind_assoc]

theorem mapProcessDependenciesOr_succ (budget p : Nat) (s : LifecycleState) :
    mapProcessDependenciesOr P G missing (budget + 1) p s = (P.heap.depRefs p).foldlM
      (fun s r => do
        mapVisit P G missing (← if P.heap.isShared r then pure s
          else mapProcessDependenciesOr P G missing budget (P.heap.target r) s) r) s := by
  rw [mapProcessDependenciesOr]
  congr 1
  funext s r
  cases hr : P.heap.isShared r with
  | true =>
    have hne : P.heap.sharedFrom r ≠ none := Option.isSome_iff_ne_none.mp hr
    show _ = mapVisit P G missing s r
    rw [mapVisit_shared hr, mapProcessDependencyOr, if_pos hne]
  | false =>
    have hnone : P.heap.sharedFrom r = none := by simpa [isShared] using hr
    simp only [mapVisit, mapProcessDependencyOr, hnone, ne_eq, not_true_eq_false, if_false,
      pure_bind, Bool.false_eq_true]

theorem mapProcessDependenciesOr_eq_foldlM (hforest : P.heap.Forest (P.heap.depRefs 0) 1 c walk)
    (hbudget : c ≤ budget) (s : LifecycleState) : mapProcessDependenciesOr P G missing budget 0 s =
      walk.foldlM (mapVisit P G missing) s :=
  hforest.root_of_post mapProcessDependenciesOr_succ hbudget s

/-- The programs that the dependencies of a list loaded, in its order. -/
abbrev Process.modules (P : Process) : List DepRef → List Nat :=
  nodes P.heap.target P.heap.isShared

abbrev Process.Shares (P : Process) : List DepRef → List DepRef → Prop :=
  Along fun before r =>
    P.heap.isShared r = true → P.heap.canonicalProcessDependency r ∈ before

section

variable (hrefs : ∀ r ∈ walk, ∃ d, P.heap.dep r = some d)

include hrefs

theorem target_ne_zero (hr : r ∈ walk)
    (howned : P.heap.isShared r = false) : P.heap.target r ≠ 0 := by
  obtain ⟨d, hd⟩ := hrefs r hr
  rw [target_eq hd]
  exact Nat.ne_zero_of_lt (P.heap.owned hd ((isShared_eq_false hd).mp howned))

theorem mapDependencies_of_shares
    (before : List DepRef) (hshares : P.Shares before walk) (mem : Memory) :
    walk.foldlM (mapVisit P G missing) ⟨mem, before.reverse⟩ = do
      let mem ← (P.modules walk).foldlM (startModule P G) mem
      return ⟨mem, walk.reverse ++ before.reverse⟩ := by
  induction walk generalizing before mem with
  | nil => simp [Process.modules, nodes_nil]
  | cons r walk ih =>
    obtain ⟨hr, hrest⟩ := hshares
    have ih := ih (fun r hr => hrefs r (List.mem_cons_of_mem _ hr)) (before ++ [r]) hrest
    rw [List.reverse_append, List.reverse_singleton, List.singleton_append] at ih
    rw [List.foldlM_cons, List.reverse_cons, List.append_assoc, List.singleton_append]
    cases howned : P.heap.isShared r with
    | true =>
      rw [mapVisit_shared howned, if_pos (List.mem_reverse.mpr (hr howned)), pure_bind,
        Process.modules, nodes_cons_skip howned]
      exact ih mem
    | false =>
      rw [mapVisit_owned howned (target_ne_zero hrefs List.mem_cons_self howned), Process.modules,
        nodes_cons_node howned, List.foldlM_cons, bind_assoc, bind_assoc]
      refine bind_congr fun mem => ?_
      exact ih mem

theorem mapDependencies_of_value {s' : LifecycleState}
    (hvalue : (walk.foldlM (mapVisit P G fun _ _ => fail) s).value = some s') :
    walk.foldlM (mapVisit P G fun _ _ => fail) s = do
      let mem ← (P.modules walk).foldlM (startModule P G) s.mem
      return ⟨mem, walk.reverse ++ s.mapped⟩ := by
  induction walk generalizing s with
  | nil => simp [Process.modules, nodes_nil]
  | cons r walk ih =>
    have ih := fun {s} => ih (s := s) fun r hr => hrefs r (List.mem_cons_of_mem _ hr)
    rw [List.foldlM_cons] at hvalue ⊢
    rw [List.reverse_cons, List.append_assoc, List.singleton_append]
    cases howned : P.heap.isShared r with
    | true =>
      rw [mapVisit_shared howned] at hvalue ⊢
      split at hvalue
      · rename_i hmapped
        rw [if_pos hmapped, pure_bind, Process.modules, nodes_cons_skip howned]
        exact ih hvalue
      · obtain ⟨s, hs, -⟩ := value_bind.mp hvalue
        cases hs
    | false =>
      rw [mapVisit_owned howned (target_ne_zero hrefs List.mem_cons_self howned), bind_assoc]
        at hvalue ⊢
      rw [Process.modules, nodes_cons_node howned, List.foldlM_cons, bind_assoc]
      obtain ⟨mem, hmem, hvalue⟩ := value_bind.mp hvalue
      rw [bind_some hmem, bind_some hmem, pure_bind, ih hvalue]

end

theorem mem_mapped {mem : Memory}
    (hforest : P.heap.Forest (P.heap.depRefs 0) 1 P.heap.programs.length walk)
    (hbudget : P.heap.programs.length ≤ budget)
    (hvalue : (mapProcessDependencies P G budget 0 ⟨mem, []⟩).value = some s)
    {d : ProcessDependency} (hd : P.heap.dep r = some d) : r ∈ s.mapped := by
  rw [← mapProcessDependenciesOr_fail, mapProcessDependenciesOr_eq_foldlM hforest hbudget] at hvalue
  rw [mapDependencies_of_value (fun r => dep_of_mem_walk hforest) hvalue] at hvalue
  obtain ⟨mem', -, hvalue⟩ := value_bind.mp hvalue
  cases hvalue
  exact List.mem_append_left _ (List.mem_reverse.mpr (mem_walk hforest hd))

theorem runProcessDependencyFinalizers_eq_foldlM
    (hforest : P.heap.Forest (P.heap.depRefs 0) 1 c walk) (hbudget : c ≤ budget) (mem : Memory) :
    runProcessDependencyFinalizers P G budget 0 mem =
      (P.modules walk).reverse.foldlM (finishModule P G) mem := by
  have hsucc : ∀ budget p mem, runProcessDependencyFinalizers P G (budget + 1) p mem =
      (P.heap.depRefs p).reverse.foldlM
        (fun mem r => if P.heap.isShared r then pure mem else do
          runProcessDependencyFinalizers P G budget (P.heap.target r)
            (← finishModule P G mem (P.heap.target r))) mem := by
    intro budget p mem
    rw [runProcessDependencyFinalizers, ownedRefs_eq_filter, ← List.filter_reverse,
      foldlM_filter_not]
    rfl
  exact hforest.root_of_reverse hsucc hbudget mem

end

/-! ## The calls of one program -/

/-- Where a program has the address of a function: at a virtual address itself, or in an entry of an
array at an offset of its image. -/
inductive CallSite
  | function (vaddr : BitVec 64)
  | entry (arrayOffset n : Nat)

namespace LifecycleProgram

variable (prog : LifecycleProgram)

/-- The function of a site, if there is one. An entry is read when its turn comes. -/
def siteTarget (mem : Memory) : CallSite → Option (BitVec 64)
  | .function vaddr =>
    if vaddr = 0 then none else some (prog.image.loadedImage - prog.image.baseVaddr + vaddr)
  | .entry arrayOffset n =>
    let target := fetch 8 mem (prog.image.loadedImage + BitVec.ofNat 64 (arrayOffset + n * 8))
    if target = 0 then none else some target

def arraySites (array : TargetArray) : List CallSite :=
  (List.range (array.size.toNat / 8)).map
    (.entry ((prog.image.elfVaddrToImageOffset array.vaddr array.size).getD 0))

/-- `DT_INIT`, and then the array by its indices. -/
def initSites : List CallSite := .function prog.initVaddr :: prog.arraySites prog.initArray

/-- The array from its last index on, and then `DT_FINI`. -/
def finiSites : List CallSite :=
  (prog.arraySites prog.finiArray).reverse ++ [.function prog.finiVaddr]

end LifecycleProgram

section

variable (P : Process) (G : ProcessSteps) (p : Nat)

/-- The function of a site is called once, with the trampoline written for it. -/
def CallsSite (site : CallSite) (mem : Memory) (log : List LifecycleCall) (mem' : Memory) : Prop :=
  match (P.program p).siteTarget mem site with
  | none => log = [] ∧ mem' = mem
  | some target => log = [⟨p, target, mem⟩] ∧ ∃ bytes,
      emitPolyTrampoline (P.program p).arch P.code (BitVec.ofNat 64 P.root.prefixSize)
        P.lifecycleReturnPc target false = some bytes ∧
      mem' = G.call p target (store mem P.code bytes)

/-- A program is mapped and its initializers are called; the root has preinitializers before. -/
def Starts (mem : Memory) (log : List LifecycleCall) (mem' : Memory) : Prop :=
  ∃ m, G.load p mem = some m ∧
    Acts (CallsSite P G p)
      ((if p = 0 then (P.program p).arraySites (P.program p).preinitArray else []) ++
        (P.program p).initSites) m log mem'

def Finishes (mem : Memory) (log : List LifecycleCall) (mem' : Memory) : Prop :=
  Acts (CallsSite P G p) (P.program p).finiSites mem log mem'

variable {P G p} {mem mem' : Memory}

theorem callsSite_none {site : CallSite} (h : (P.program p).siteTarget mem site = none) :
    CallsSite P G p site mem [] mem := by
  rw [CallsSite, h]
  exact ⟨rfl, rfl⟩

theorem callProcessInitializer_calls {site : CallSite} {target : BitVec 64}
    (htarget : (P.program p).siteTarget mem site = some target)
    (h : (callProcessInitializer P G p target mem).value = some mem') :
    CallsSite P G p site mem (callProcessInitializer P G p target mem).log mem' := by
  rw [CallsSite, htarget]
  rw [callProcessInitializer] at h ⊢
  obtain ⟨_, -, h, hlog⟩ := value_log_bind h
  rw [hlog]
  split at h
  · cases h
  · rename_i bytes hbytes
    cases h
    exact ⟨rfl, bytes, hbytes, rfl⟩

theorem callVaddr_calls {vaddr : BitVec 64}
    (h : (callVaddr P G p vaddr mem).value = some mem') :
    CallsSite P G p (.function vaddr) mem (callVaddr P G p vaddr mem).log mem' := by
  rw [callVaddr] at h ⊢
  split at h
  · rename_i hzero
    cases h
    rw [if_pos hzero]
    exact callsSite_none (if_pos hzero)
  · rename_i hne
    rw [if_neg hne]
    exact callProcessInitializer_calls (if_neg hne) h

theorem callTargets_acts {arrayOffset : Nat} {indices : List Nat}
    (h : (callTargets P G p arrayOffset indices mem).value = some mem') :
    Acts (CallsSite P G p) (indices.map (.entry arrayOffset)) mem
      (callTargets P G p arrayOffset indices mem).log mem' := by
  refine .map (acts_foldlM (fun {n mem mem'} h => ?_) h)
  dsimp only at h ⊢
  split at h
  · rename_i hzero
    cases h
    rw [if_pos hzero]
    exact callsSite_none (if_pos hzero)
  · rename_i hne
    rw [if_neg hne]
    exact callProcessInitializer_calls (if_neg hne) h

theorem runProcessArray_acts {order : List Nat → List Nat} (horder : order [] = [])
    {array : TargetArray} (h : (runProcessArray P G order p array mem).value = some mem') :
    Acts (CallsSite P G p) ((order (List.range (array.size.toNat / 8))).map
        (.entry (((P.program p).image.elfVaddrToImageOffset array.vaddr array.size).getD 0))) mem
      (runProcessArray P G order p array mem).log mem' := by
  rw [runProcessArray] at h ⊢
  split at h
  · rename_i hsize
    cases h
    rw [if_pos hsize, hsize]
    show Acts _ ((order []).map _) _ _ _
    rw [horder]
    exact .nil
  rename_i hsize
  split at h
  · cases h
  rename_i hchecks
  split at h
  · cases h
  rename_i arrayOffset hoffset
  rw [if_neg hsize, if_neg hchecks, hoffset]
  exact callTargets_acts h

theorem runProcessInitializers_acts (h : (runProcessInitializers P G p mem).value = some mem') :
    Acts (CallsSite P G p) (P.program p).initSites mem (runProcessInitializers P G p mem).log
      mem' := by
  obtain ⟨m, hfunction, harray, hlog⟩ := value_log_bind h
  rw [runProcessInitializers, hlog]
  exact .cons (callVaddr_calls hfunction) (runProcessArray_acts rfl harray)

theorem runProcessFinalizers_acts (h : (runProcessFinalizers P G p mem).value = some mem') :
    Finishes P G p mem (runProcessFinalizers P G p mem).log mem' := by
  obtain ⟨m, harray, hfunction, hlog⟩ := value_log_bind h
  rw [runProcessFinalizers, hlog, Finishes, LifecycleProgram.finiSites,
    LifecycleProgram.arraySites, ← List.map_reverse]
  exact (runProcessArray_acts rfl harray).append (.single (callVaddr_calls hfunction))

theorem startModule_starts (h : (startModule P G mem p).value = some mem') :
    Starts P G p mem (startModule P G mem p).log mem' := by
  rw [startModule] at h ⊢
  obtain ⟨m, hload, h, hlog⟩ := value_log_bind h
  rw [hlog]
  refine ⟨m, hload, ?_⟩
  split at h
  · rename_i hp
    rw [if_pos hp, if_pos hp]
    obtain ⟨m', hpre, h, hlog⟩ := value_log_bind h
    show Acts _ _ _ ([] ++ _) _
    rw [hlog]
    exact (runProcessArray_acts rfl hpre).append (runProcessInitializers_acts h)
  · rename_i hp
    rw [if_neg hp, if_neg hp]
    rw [pure_bind] at h ⊢
    exact runProcessInitializers_acts h

/-- All calls are those of one program. -/
abbrev CallsOnly (p : Nat) (t : Traced LifecycleCall Memory) : Prop :=
  t.Ensures (fun c => c.program = p) fun _ => True

theorem callProcessInitializer_only {target : BitVec 64} :
    CallsOnly p (callProcessInitializer P G p target mem) := by
  refine Ensures.emit_bind rfl ?_
  split
  · exact .fail
  · exact .pure trivial

theorem callVaddr_only {vaddr : BitVec 64} : CallsOnly p (callVaddr P G p vaddr mem) := by
  rw [callVaddr]
  split
  · exact .pure trivial
  · exact callProcessInitializer_only

theorem runProcessArray_only {order : List Nat → List Nat} {array : TargetArray} :
    CallsOnly p (runProcessArray P G order p array mem) := by
  rw [runProcessArray]
  split
  · exact .pure trivial
  split
  · exact .fail
  split
  · exact .fail
  refine Ensures.foldlM (fun mem n _ _ => ?_) trivial
  dsimp only
  split
  · exact .pure trivial
  · exact callProcessInitializer_only

theorem startModule_only : CallsOnly p (startModule P G mem p) := by
  have hinit (mem : Memory) : CallsOnly p (runProcessInitializers P G p mem) :=
    callVaddr_only.bind fun _ _ => runProcessArray_only
  refine (Ensures.ofOption (I := fun _ => True) fun _ _ => trivial).bind fun mem _ => ?_
  split
  · exact runProcessArray_only.bind fun mem _ => hinit mem
  · exact hinit mem

end

/-! ## The whole lifecycle -/

section

variable {P : Process} {G : ProcessSteps} {walk : List DepRef} {budget : Nat} {mem mem' : Memory}

theorem processLifecycle_eq
    (hforest : P.heap.Forest (P.heap.depRefs 0) 1 P.heap.programs.length walk)
    (hbudget : P.heap.programs.length ≤ budget)
    (hvalue : (processLifecycle P G budget mem).value = some mem') :
    processLifecycle P G budget mem = (do
      let mem ← (P.modules walk ++ [0]).foldlM (startModule P G) (P.setup mem)
      let mem ← ofOption (G.main mem)
      (P.modules walk ++ [0]).reverse.foldlM (finishModule P G) mem) := by
  obtain ⟨s, hs, -⟩ := value_bind.mp hvalue
  rw [processLifecycle, ← mapProcessDependenciesOr_fail,
    mapProcessDependenciesOr_eq_foldlM hforest hbudget]
  rw [← mapProcessDependenciesOr_fail, mapProcessDependenciesOr_eq_foldlM hforest hbudget] at hs
  rw [mapDependencies_of_value (fun r => dep_of_mem_walk hforest) hs, bind_assoc,
    List.foldlM_append, bind_assoc]
  refine bind_congr fun mem => ?_
  rw [pure_bind, foldlM_singleton, startModule, bind_assoc]
  refine bind_congr fun mem => ?_
  rw [if_pos rfl, bind_assoc]
  refine bind_congr fun mem => bind_congr fun mem => bind_congr fun mem => ?_
  rw [runProcessExitFinalizers, List.reverse_append, List.reverse_singleton,
    List.singleton_append, List.foldlM_cons]
  refine bind_congr fun mem => ?_
  exact runProcessDependencyFinalizers_eq_foldlM hforest hbudget mem

/-- The calls of a lifecycle that returns: those of the programs that start, then the root runs,
then those of the programs that finish. -/
theorem processLifecycle_acts
    (hforest : P.heap.Forest (P.heap.depRefs 0) 1 P.heap.programs.length walk)
    (hbudget : P.heap.programs.length ≤ budget)
    (hvalue : (processLifecycle P G budget mem).value = some mem') :
    ∃ started m m' finished, (processLifecycle P G budget mem).log = started ++ finished ∧
      Acts (Starts P G) (P.modules walk ++ [0]) (P.setup mem) started m ∧ G.main m = some m' ∧
      Acts (Finishes P G) (P.modules walk ++ [0]).reverse m' finished mem' := by
  have heq := processLifecycle_eq hforest hbudget hvalue
  rw [heq] at hvalue ⊢
  obtain ⟨m, hstart, hvalue, hlog⟩ := value_log_bind hvalue
  obtain ⟨m', hmain, hfinish, hlog'⟩ := value_log_bind hvalue
  rw [hlog, hlog']
  exact ⟨_, m, m', _, rfl, acts_foldlM startModule_starts hstart, hmain,
    acts_foldlM runProcessFinalizers_acts hfinish⟩

end

/-- The programs of a process start in an order in which each comes once and the root last, and
finish in the reverse order. The calls of the lifecycle are those of the functions of their sites,
in the order of the sites. -/
theorem finalizers_mirror_initializers {n : Nat} {files : ProcessFiles} {path : CString}
    {elf : ElfModule} (P : Process)
    (hload : (loadProcessDependencies n files path elf).value = some (.ok P.heap)) :
    ∃ order : List Nat, (order ++ [0]).Nodup ∧
      (∀ p, p ∈ order ++ [0] ↔ p < P.heap.programs.length) ∧
      ∀ G budget mem mem', P.heap.programs.length ≤ budget →
        (processLifecycle P G budget mem).value = some mem' →
        ∃ started m m' finished, (processLifecycle P G budget mem).log = started ++ finished ∧
          Acts (Starts P G) (order ++ [0]) (P.setup mem) started m ∧ G.main m = some m' ∧
          Acts (Finishes P G) (order ++ [0]).reverse m' finished mem' := by
  obtain ⟨walk, hforest⟩ := load_forest hload
  have hle := hforest.le
  have hmem : ∀ p, p ∈ P.modules walk ++ [0] ↔ p < P.heap.programs.length := by
    intro p
    rw [List.mem_append, List.mem_singleton, hforest.mem_nodes]
    omega
  refine ⟨P.modules walk, ?_, hmem, fun G budget mem mem' => processLifecycle_acts hforest⟩
  rw [List.nodup_append]
  refine ⟨hforest.nodup_nodes, List.nodup_singleton 0, fun p hp q hq => ?_⟩
  have := (hforest.mem_nodes.mp hp).1
  rw [List.mem_singleton.mp hq]
  omega

/-- The programs of `nestedHeap`: each library has a `DT_INIT` and a `DT_FINI` function. -/
def nestedProcess : Process :=
  { libraryProcess .riscv .riscv with
    heap := nestedHeap
    program := fun p =>
      if p = 0 then smallProgram .riscv 0x7f0000001000 0
      else { smallProgram .riscv (BitVec.ofNat 64 (0x7f0000100000 * p)) 0x40 with
        finiVaddr := 0x80 } }

theorem finalizers_mirror_initializers_nested :
    let P := nestedProcess
    let t := processLifecycle P idleSteps 3 fun _ => 0
    t.log.map (fun c => (c.program, c.targetPc)) =
        [(2, 0xfe0000200040), (1, 0x7f0000100040), (1, 0x7f0000100080), (2, 0xfe0000200080)] ∧
      ∃ order started m finished, (∀ p, p ∈ order ++ [0] ↔ p < 3) ∧ t.log = started ++ finished ∧
        Acts (Starts P idleSteps) (order ++ [0]) (P.setup fun _ => 0) started m ∧
        ∃ mem', Acts (Finishes P idleSteps) (order ++ [0]).reverse m finished mem' := by
  intro P t
  obtain ⟨order, -, hmem, hruns⟩ := finalizers_mirror_initializers nestedProcess load_nested
  have hsome : t.value.isSome = true := by decide +kernel
  obtain ⟨mem', hvalue⟩ := Option.isSome_iff_exists.mp hsome
  obtain ⟨started, m, m', finished, hlog, hstart, hmain, hfinish⟩ :=
    hruns idleSteps 3 _ mem' (by decide) hvalue
  cases hmain
  exact ⟨by decide +kernel, order, started, m, finished, hmem, hlog, hstart, mem', hfinish⟩

/-! ## Libraries without cycles -/

/-- The root leads to libraries of one architecture without a cycle, nothing is preloaded, and every
needed name is the soname of its library only. -/
structure PlainLibraries (files : ProcessFiles) (root : Library) : Prop where
  preload : files.preload = []
  named : ∀ {a : Library} {name}, ReflTransGen (Library.Needs files) root a → a.elf.Names name →
    0x2f#8 ∉ name ∧ name ≠ [] ∧ ∃ b, a.Resolves files name b ∧ b.elf.soname = name
  arch : ∀ {a : Library}, ReflTransGen (Library.Needs files) root a → a.elf.arch = root.elf.arch
  distinct : ∀ {a b : Library}, TransGen (Library.Needs files) root a →
    TransGen (Library.Needs files) root b → a.elf.soname = b.elf.soname → a.path = b.path
  acyclic : ∀ {a}, ReflTransGen (Library.Needs files) root a → ¬ TransGen (Library.Needs files) a a

namespace PlainLibraries

variable {files : ProcessFiles} {root a b : Library} (hplain : PlainLibraries files root)

include hplain

theorem not_preloaded : ¬ a.Preloaded files := by
  rintro ⟨⟨token, hmem⟩, -⟩
  rw [hplain.preload] at hmem
  cases hmem

theorem reflTransGen_of_reached (ha : a.Reached files root) :
    ReflTransGen (Library.Needs files) root a := by
  obtain ⟨b, rfl | hb, hba⟩ := ha
  · exact hba
  · exact absurd hb hplain.not_preloaded

theorem soname_of_resolves {name : CString} (ha : ReflTransGen (Library.Needs files) root a)
    (hb : a.Resolves files name b) : b.elf.soname = name := by
  obtain ⟨-, -, b', hb', hsoname⟩ := hplain.named ha hb.names
  have hpath : b.path = b'.path := Option.some.inj (hb.path.symm.trans hb'.path)
  rw [Library.eq_of_path_eq hb.file hb'.file hpath, hsoname]

theorem namedBySoname : NamedBySoname files root := by
  refine ⟨fun {a b name} ha hb => ?_, fun {before} _ _ _ hlist => ?_⟩
  · have ha := hplain.reflTransGen_of_reached ha
    obtain ⟨hslash, hne, -⟩ := hplain.named ha hb.names
    refine ⟨hslash, hne, hplain.soname_of_resolves ha hb, ?_⟩
    rw [hplain.arch ha, hplain.arch (ha.tail ⟨name, hb⟩)]
  · rw [hplain.preload] at hlist
    cases before <;> cases hlist

variable {h : ProgramHeap} {p q : Nat} (hfrom : FromFiles files root h)

include hfrom

theorem transGen_library (h0 : 0 < p) (hp : p < h.programs.length) :
    TransGen (Library.Needs files) root (h.library p) := by
  induction p using Nat.strongRecOn with
  | ind p ih =>
    obtain ⟨r, d, hd, hnone, rfl⟩ := hfrom.parent h0 hp
    have hlt := h.owned hd hnone
    rcases hfrom.owned hd hnone with hneeds | ⟨-, hpreloaded⟩
    · rcases Nat.eq_zero_or_pos r.program with hr | hr
      · rw [hr, hfrom.rootLibrary] at hneeds
        exact .single hneeds
      · exact (ih _ hlt hr (Nat.lt_trans hlt hp)).tail hneeds
    · exact absurd hpreloaded hplain.not_preloaded

theorem reflTransGen_library (hp : p < h.programs.length) :
    ReflTransGen (Library.Needs files) root (h.library p) :=
  hplain.reflTransGen_of_reached (hfrom.reached hp)

theorem eq_library (hpa : (h.library p).Needs files a) (hp : p < h.programs.length) (h0 : 0 < q)
    (hq : q < h.programs.length) (hsoname : (h.library q).elf.soname = a.elf.soname) :
    h.library q = a := by
  obtain ⟨name, ha⟩ := hpa
  refine Library.eq_of_path_eq (hfrom.file h0 hq) ha.file ?_
  exact hplain.distinct (hplain.transGen_library hfrom h0 hq)
    (TransGen.tail' (hplain.reflTransGen_library hfrom hp) ⟨name, ha⟩) hsoname

theorem needs_library (hpq : h.Needs p q) : (h.library p).Needs files (h.library q) := by
  obtain ⟨r, d, hd, rfl, rfl⟩ := hpq
  have hlt := lt_of_dep hd
  by_cases hshared : d.sharedFrom = none
  · rcases hfrom.owned hd hshared with hneeds | ⟨-, hpreloaded⟩
    · exact hneeds
    · exact absurd hpreloaded hplain.not_preloaded
  · obtain ⟨-, -, b, hb, hsoname⟩ := hplain.named (hplain.reflTransGen_library hfrom hlt)
      (hfrom.shared hd hshared).names
    rw [hplain.eq_library hfrom ⟨_, hb⟩ hlt (pos_of_needs ⟨r, d, hd, rfl, rfl⟩)
      (hfrom.closed r d hd) hsoname.symm]
    exact ⟨_, hb⟩

theorem acyclic_heap (hpq : h.Needs p q) : ¬ h.Reaches q p := by
  intro hqp
  have hlift : ReflTransGen (Library.Needs files) (h.library q) (h.library p) :=
    hqp.lift h.library fun _ _ => hplain.needs_library hfrom
  exact hplain.acyclic (hplain.reflTransGen_library hfrom (lt_of_needs hpq))
    (TransGen.head' (hplain.needs_library hfrom hpq) hlift)

theorem exists_needs (hanswers : ∀ p, p < h.programs.length → ∀ name,
      (h.library p).elf.Names name → h.Answers files p name)
    (hp : p < h.programs.length) (hpa : (h.library p).Needs files a) :
    ∃ q, h.Needs p q ∧ h.library q = a := by
  obtain ⟨name, ha⟩ := hpa
  obtain ⟨q, hpq, hname⟩ := hanswers p hp name ha.names
  have h0 := pos_of_needs hpq
  have hq : q < h.programs.length := by
    obtain ⟨r, d, hd, -, rfl⟩ := hpq
    exact hfrom.closed r d hd
  refine ⟨q, hpq, ?_⟩
  rcases hname with hsoname | hpath
  · refine hplain.eq_library hfrom ⟨name, ha⟩ hp h0 hq ?_
    rw [hsoname, hplain.soname_of_resolves (hplain.reflTransGen_library hfrom hp) ha]
  · exact Library.eq_of_path_eq (hfrom.file h0 hq) ha.file
      (Option.some.inj (hpath.symm.trans ha.path))

theorem exists_program (hanswers : ∀ p, p < h.programs.length → ∀ name,
      (h.library p).elf.Names name → h.Answers files p name)
    (ha : TransGen (Library.Needs files) root a) :
    ∃ p, 0 < p ∧ p < h.programs.length ∧ h.library p = a := by
  have hstep : ∀ {p a}, p < h.programs.length → (h.library p).Needs files a →
      ∃ q, 0 < q ∧ q < h.programs.length ∧ h.library q = a := by
    intro p a hp hpa
    obtain ⟨q, hpq, rfl⟩ := hplain.exists_needs hfrom hanswers hp hpa
    have h0 := pos_of_needs hpq
    obtain ⟨r, d, hd, -, rfl⟩ := hpq
    exact ⟨d.program, h0, hfrom.closed r d hd, rfl⟩
  induction ha with
  | single hneeds =>
    rw [← hfrom.rootLibrary] at hneeds
    exact hstep hfrom.nonempty hneeds
  | tail _ hneeds ih =>
    obtain ⟨p, -, hp, rfl⟩ := ih
    exact hstep hp hneeds

end PlainLibraries

section

variable {n : Nat} {files : ProcessFiles} {path : CString} {elf : ElfModule} {h : ProgramHeap}

theorem load_answers (hpreload : files.preload = [])
    (hload : (loadProcessDependencies n files path elf).value = some (.ok h)) {p : Nat}
    (hp : p < h.programs.length) {name : CString} (hname : (h.library p).elf.Names name) :
    h.Answers files p name := by
  obtain ⟨h₀, hpreloads, hneeded⟩ := load_run hload
  rw [hpreload] at hpreloads
  cases hpreloads
  have hclosed : (init path elf).Closed := (FromFiles.init files path elf).closed
  obtain ⟨hnames, hnew⟩ := hneeded.answers Nat.one_pos hclosed
  rcases Nat.eq_zero_or_pos p with rfl | h0
  · rw [(hneeded.extends Nat.one_pos).library Nat.one_pos] at hname
    exact hnames name (ElfModule.names_iff.mp hname)
  · exact hnew p h0 hp name hname

theorem shares_of_acyclic {P : Process} {walk : List DepRef}
    (hacyclic : ∀ {p q}, P.heap.Needs p q → ¬ P.heap.Reaches q p)
    (hforest : P.heap.Forest (P.heap.depRefs 0) 1 P.heap.programs.length walk) :
    P.Shares [] walk := by
  have hmet := hforest.met_of_root (by rw [edge_depRefs]; exact hacyclic)
  rw [along_iff_split] at hmet
  refine along_iff_split.mpr fun l₁ r l₂ hwalk hshared => ?_
  have hfound := hmet l₁ r l₂ hwalk
  rw [Forest.Met, if_pos hshared] at hfound
  -- The walk met the dependency that loaded the program, and there is only one.
  obtain ⟨r', hr', htarget⟩ := List.mem_map.mp hfound
  obtain ⟨hr', howned⟩ := List.mem_filter.mp hr'
  obtain ⟨d, hd⟩ := dep_of_mem_walk hforest
    (hwalk ▸ List.mem_append_right _ List.mem_cons_self)
  obtain ⟨d', hd'⟩ := dep_of_mem_walk hforest
    (hwalk ▸ List.mem_append_left _ hr')
  obtain ⟨d'', hd'', hnone, hprogram⟩ := canonical_spec hd
  rw [target_eq hd, target_eq hd'] at htarget
  rw [eq_of_program_eq hforest hd'' hnone hd'
    ((isShared_eq_false hd').mp (by simpa using howned)) (hprogram.trans htarget.symm)]
  exact hr'

theorem nested_cases {a : Library}
    (ha : ReflTransGen (Library.Needs (nestedFiles libC)) ⟨[], nestedRoot⟩ a) :
    a = ⟨[], nestedRoot⟩ ∨ a = ⟨libA, ⟨1, libA, 0, .needed [some libC]⟩⟩ ∨
      a = ⟨libC, ⟨1, libC, 0, .absent⟩⟩ := by
  rcases ReflTransGen.cases_tail ha with heq | ⟨c, -, name, hname⟩
  · exact .inl heq
  · rcases nested_resolves hname with ⟨-, rfl⟩ | ⟨-, rfl⟩
    · exact .inr (.inl rfl)
    · exact .inr (.inr rfl)

theorem nested_needs_lt {a b : Library}
    (ha : ReflTransGen (Library.Needs (nestedFiles libC)) ⟨[], nestedRoot⟩ a)
    (hab : TransGen (Library.Needs (nestedFiles libC)) a b) :
    b.elf.neededNames.length < a.elf.neededNames.length := by
  have hstep : ∀ {a b},
      ReflTransGen (Library.Needs (nestedFiles libC)) ⟨[], nestedRoot⟩ a →
        a.Needs (nestedFiles libC) b → b.elf.neededNames.length < a.elf.neededNames.length := by
    rintro a b ha ⟨name, hb⟩
    have hname := ElfModule.names_iff.mp hb.names
    rcases nested_cases ha with rfl | rfl | rfl
    · rcases nested_resolves hb with ⟨-, rfl⟩ | ⟨-, rfl⟩ <;> decide
    · rcases nested_resolves hb with ⟨rfl, -⟩ | ⟨-, rfl⟩
      · exact absurd hname (by decide)
      · decide
    · cases hname
  induction hab with
  | single hab => exact hstep ha hab
  | tail hab hbc ih => exact Nat.lt_trans (hstep (ha.trans hab.to_reflTransGen) hbc) ih

theorem nested_plain : PlainLibraries (nestedFiles libC) ⟨[], nestedRoot⟩ := by
  refine ⟨rfl, fun ha hname => ?_, fun ha => ?_, fun ha hb heq => ?_, fun ha haa => ?_⟩
  · rename_i a name
    have hmem := ElfModule.names_iff.mp hname
    have hcases : name = libA ∨ name = libC := by
      rcases nested_cases ha with rfl | rfl | rfl
      · simpa [ElfModule.neededNames, nestedRoot] using hmem
      · exact .inr (by simpa [ElfModule.neededNames] using hmem)
      · cases hmem
    rcases hcases with rfl | rfl
    · exact ⟨by decide, by decide, ⟨libA, ⟨1, libA, 0, .needed [some libC]⟩⟩, ⟨hname, rfl, rfl⟩,
        rfl⟩
    · exact ⟨by decide, by decide, ⟨libC, ⟨1, libC, 0, .absent⟩⟩, ⟨hname, rfl, rfl⟩, rfl⟩
  · exact nested_arch ⟨_, .inl rfl, ha⟩
  · rcases TransGen.tail'_iff.mp ha with ⟨_, -, _, ha⟩
    rcases TransGen.tail'_iff.mp hb with ⟨_, -, _, hb⟩
    rcases nested_resolves ha with ⟨-, rfl⟩ | ⟨-, rfl⟩ <;>
      rcases nested_resolves hb with ⟨-, rfl⟩ | ⟨-, rfl⟩
    · rfl
    · exact heq
    · exact heq
    · rfl
  · exact Nat.lt_irrefl _ (nested_needs_lt ha haa)

end

end Poly.Polyexec
