import Armd64.Polyexec.Dependencies
import Armd64.Polyexec.Trampoline

/-!
# Initializers and finalizers of a process (`polyexec.c`)

The runtime maps the root of a process with room for a trampoline and with two pages of code that
returns to it. It then maps the dependencies of the root, calls the initializers of every program,
enters the root, and calls the finalizers when the root exits. Every call goes through the one
trampoline, which is written anew for the program that is called.
-/

namespace Poly.Polyexec

open Hw
open Traced

/-! ## Programs -/

structure TargetArray where
  vaddr : BitVec 64
  size : BitVec 64

/-- The fields of `struct poly_program` and of its dependency that the lifecycle uses. -/
structure LifecycleProgram where
  arch : Abi.Arch
  image : Image
  isEtExec : Bool
  initVaddr : BitVec 64
  finiVaddr : BitVec 64
  preinitArray : TargetArray
  initArray : TargetArray
  finiArray : TargetArray

/-! ## The mapping of the root -/

def aarch64CtrlEncoding (subop : BitVec 32) : BitVec 32 := 0xd503201f ||| ((subop &&& 0x7f) <<< 5)

def riscvCtrlEncoding (subop : BitVec 32) : BitVec 32 := 0x0000700b ||| ((subop &&& 0x7f) <<< 25)

def polyAarch64CtrlX86Escape : BitVec 32 := aarch64CtrlEncoding 0x70

def polyRiscvCtrlX86Escape : BitVec 32 := riscvCtrlEncoding 0

def escapeWord (arch : Abi.Arch) : BitVec 32 :=
  if arch = .aarch64 then polyAarch64CtrlX86Escape else polyRiscvCtrlX86Escape

def escapeReturn (arch : Abi.Arch) : List (BitVec 8) :=
  (if arch ≠ .x86 then emitU32 (escapeWord arch) else []) ++ [0xc3]

namespace LifecycleProgram

variable (root : LifecycleProgram)

def prefixSize : Nat := polyTrampolinePrefixSize root.arch

def escapeReturnSize : Nat := if root.arch = .x86 then 1 else 5

def imageMappingSize : Nat :=
  alignUp 0x1000 (root.image.codeSize + if root.isEtExec then 0 else root.escapeReturnSize)

def imageOffset : Nat := if root.isEtExec then 0 else 4096

/-- `control_offset`: an image at a fixed address has the trampoline behind it, another one has it
in front. -/
def controlOffset : Nat := if root.isEtExec then root.imageMappingSize else 4096 - root.prefixSize

def lifecycleReturnPageOffset : Nat :=
  if root.isEtExec then root.imageMappingSize + 4096 else 4096 + root.imageMappingSize

def processReturnPageOffset : Nat := root.lifecycleReturnPageOffset + 4096

end LifecycleProgram

structure Process where
  heap : ProgramHeap
  program : Nat → LifecycleProgram
  mapping : BitVec 64
  loaded : (program 0).image.loadedImage =
    mapping + BitVec.ofNat 64 (program 0).imageOffset
  codeBytes : List (BitVec 8)
  length_codeBytes : codeBytes.length = (program 0).image.codeSize
  /-- The code for the exit of the process and for thread-local storage, in its page. -/
  exitCode : List (BitVec 8)
  length_exitCode : exitCode.length ≤ 4096

namespace Process

variable (P : Process)

def root : LifecycleProgram := P.program 0

def code : BitVec 64 := P.mapping + BitVec.ofNat 64 P.root.controlOffset

def lifecycleReturnPc : BitVec 64 := P.mapping + BitVec.ofNat 64 P.root.lifecycleReturnPageOffset

def processReturnPc : BitVec 64 := P.mapping + BitVec.ofNat 64 P.root.processReturnPageOffset

/-- The memory after the writes of `emit_and_run_process`, before the first call. -/
def setup (mem : Memory) : Memory :=
  let image := P.codeBytes ++ if P.root.isEtExec then [] else escapeReturn P.root.arch
  let mem := store mem P.root.image.loadedImage image
  let mem := store mem P.lifecycleReturnPc (escapeReturn P.root.arch)
  store mem P.processReturnPc P.exitCode

/-- What `emit_poly_trampoline` writes at `code` for a call of `arch` code, also when it then
refuses the call. -/
def trampolineWrites (arch : Abi.Arch) (targetPc : BitVec 64) : List (BitVec 8) :=
  let bytes := trampolineCode arch P.code P.lifecycleReturnPc targetPc false
  bytes ++ List.replicate (P.root.prefixSize - bytes.length) 0x90

end Process

/-! ## Calls -/

/-- A call of a function of a program, and the memory before its trampoline is written. -/
structure LifecycleCall where
  program : Nat
  targetPc : BitVec 64
  mem : Memory

structure ProcessSteps where
  /-- A program is mapped, relocated and protected, or the process fails. -/
  load : Nat → Memory → Option Memory
  /-- A function of a program runs, after its trampoline is written. -/
  call : Nat → BitVec 64 → Memory → Memory
  main : Memory → Option Memory

structure LifecycleState where
  mem : Memory
  mapped : List DepRef

section

variable (P : Process) (G : ProcessSteps)

def callProcessInitializer (p : Nat) (targetPc : BitVec 64) (mem : Memory) :
    Traced LifecycleCall Memory := do
  emit ⟨p, targetPc, mem⟩ ()
  match emitPolyTrampoline (P.program p).arch P.code (BitVec.ofNat 64 P.root.prefixSize)
      P.lifecycleReturnPc targetPc false with
  | none => fail
  | some bytes => return G.call p targetPc (store mem P.code bytes)

/-- The loops of `run_process_initializer_array` and `run_process_finalizer_array` over the indices
of an array. -/
def callTargets (p : Nat) (arrayOffset : Nat) (indices : List Nat) (mem : Memory) :
    Traced LifecycleCall Memory :=
  indices.foldlM
    (fun mem n =>
      let target :=
        fetch 8 mem ((P.program p).image.loadedImage + BitVec.ofNat 64 (arrayOffset + n * 8))
      if target = 0 then return mem else callProcessInitializer P G p target mem)
    mem

/-- `run_process_initializer_array` and `run_process_finalizer_array`, which differ in the `order`
of the indices. -/
def runProcessArray (order : List Nat → List Nat) (p : Nat) (array : TargetArray)
    (mem : Memory) : Traced LifecycleCall Memory :=
  if array.size = 0 then return mem
  else if array.vaddr = 0 ∨ array.size.toNat % 8 ≠ 0 then fail
  else
    match (P.program p).image.elfVaddrToImageOffset array.vaddr array.size with
    | none => fail
    | some arrayOffset =>
      callTargets P G p arrayOffset (order (List.range (array.size.toNat / 8))) mem

def runProcessInitializerArray := runProcessArray P G id

def runProcessFinalizerArray := runProcessArray P G List.reverse

/-- The call of the function at a virtual address of a program, if it has one. -/
def callVaddr (p : Nat) (vaddr : BitVec 64) (mem : Memory) : Traced LifecycleCall Memory :=
  let image := (P.program p).image
  if vaddr = 0 then return mem
  else callProcessInitializer P G p (image.loadedImage - image.baseVaddr + vaddr) mem

def runProcessPreinitializers (p : Nat) (mem : Memory) : Traced LifecycleCall Memory :=
  runProcessInitializerArray P G p (P.program p).preinitArray mem

def runProcessInitializers (p : Nat) (mem : Memory) : Traced LifecycleCall Memory := do
  let mem ← callVaddr P G p (P.program p).initVaddr mem
  runProcessInitializerArray P G p (P.program p).initArray mem

def runProcessFinalizers (p : Nat) (mem : Memory) : Traced LifecycleCall Memory := do
  let mem ← runProcessFinalizerArray P G p (P.program p).finiArray mem
  callVaddr P G p (P.program p).finiVaddr mem

/-! ## The dependencies -/

/-- One dependency in `map_process_dependencies`, where `sub` maps the dependencies of its
program. -/
def mapProcessDependency (sub : Nat → LifecycleState → Traced LifecycleCall LifecycleState)
    (s : LifecycleState) (r : DepRef) : Traced LifecycleCall LifecycleState :=
  if P.heap.sharedFrom r ≠ none then
    if P.heap.canonicalProcessDependency r ∈ s.mapped then return { s with mapped := r :: s.mapped }
    else fail
  else do
    let p := P.heap.target r
    let s ← sub p s
    let mem ← ofOption (G.load p s.mem)
    let mem ← runProcessInitializers P G p mem
    return ⟨mem, r :: s.mapped⟩

def mapProcessDependencies : Nat → Nat → LifecycleState → Traced LifecycleCall LifecycleState
  | 0, _, _ => fail
  | budget + 1, p, s =>
    (P.heap.depRefs p).foldlM (mapProcessDependency P G (mapProcessDependencies budget)) s

def runProcessDependencyFinalizers : Nat → Nat → Memory → Traced LifecycleCall Memory
  | 0, _, _ => fail
  | budget + 1, p, mem =>
    (P.heap.ownedRefs p).reverse.foldlM
      (fun mem r => do
        let mem ← runProcessFinalizers P G (P.heap.target r) mem
        runProcessDependencyFinalizers budget (P.heap.target r) mem)
      mem

def runProcessExitFinalizers (budget : Nat) (mem : Memory) :
    Traced LifecycleCall Memory := do
  let mem ← runProcessFinalizers P G 0 mem
  runProcessDependencyFinalizers P G budget 0 mem

def processLifecycle (budget : Nat) (mem : Memory) : Traced LifecycleCall Memory := do
  let s ← mapProcessDependencies P G budget 0 ⟨P.setup mem, []⟩
  let mem ← ofOption (G.load 0 s.mem)
  let mem ← runProcessPreinitializers P G 0 mem
  let mem ← runProcessInitializers P G 0 mem
  let mem ← ofOption (G.main mem)
  runProcessExitFinalizers P G budget mem

end

end Poly.Polyexec
