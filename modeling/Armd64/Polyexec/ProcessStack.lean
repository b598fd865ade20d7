import Armd64.Lib.Stacked
import Armd64.Polyexec.Dependencies
import Armd64.Polyexec.Relocations

/-!
# The initial stack of a process (`polyexec.c`)

The runtime maps a stack and fills it from the top: the name of the platform, random bytes, the
arguments, the environment and the path of the program. Below them, at the initial stack pointer, is
a table of words: the number of arguments, the pointers to them, those to the environment, and the
auxiliary vector.
-/

namespace Poly.Polyexec

/-! ## Texts and answers of the system -/

structure CText where
  bytes : CString
  noNul : 0 ∉ bytes
  deriving DecidableEq

theorem noNul_cString (bytes : List (BitVec 8)) : 0 ∉ cString bytes := by
  intro h
  have hne := List.all_eq_true.mp List.all_takeWhile _ h
  exact of_decide_eq_true hne rfl

def CText.literal (s : String) : CText := ⟨cString (textBytes s), noNul_cString _⟩

def CText.stored (s : CText) : List (BitVec 8) := s.bytes ++ [0]

def stackSize : Nat := 1024 * 1024

structure StackMapping where
  addr : Nat
  fits : addr + stackSize ≤ 2 ^ 64

structure StackHost where
  mem : CodeBytes
  mapping : Option StackMapping
  allocates : Bool
  getrandom : Option (Vector (BitVec 8) 16)
  getpid : BitVec 32
  clockTick : BitVec 64
  getuid : BitVec 32
  geteuid : BitVec 32
  getgid : BitVec 32
  getegid : BitVec 32
  environ : List CText
  /-- `strtoull` with base 0, if the whole text is a number that fits. -/
  strtoull : CString → Option (BitVec 64)

/-- The texts of `struct poly_request`; `argv0` is empty if it is not given. -/
structure StackRequest where
  path : CText
  argv0 : CText

structure StackArgs where
  program : ElfProgram
  request : StackRequest
  loadedImage : BitVec 64
  atBase : BitVec 64
  atSysinfoEhdr : BitVec 64
  extraArgv : List CText

inductive StackError
  | mmapFailed
  | outOfMemory
  | platformDoesNotFit
  | randomBytesDoNotFit
  | argv0DoesNotFit
  | argvDoesNotFit
  | envDoesNotFit
  | execfnDoesNotFit
  | invalidEnv (name value : CString)
  | tableOverflow
  deriving DecidableEq, Repr

/-! ## Texts on the stack -/

/-- The memory of the process, and the end of the free part of the stack. -/
structure StackCursor where
  mem : CodeBytes
  cursor : Nat

def copyStackString (stack : Nat) (value : CText) (s : StackCursor) :
    Option (BitVec 64 × StackCursor) :=
  let len := value.bytes.length + 1
  if s.cursor - stack < len then none
  else
    let cursor := s.cursor - len
    some (BitVec.ofNat 64 cursor, ⟨patch s.mem cursor value.stored, cursor⟩)

def placeString (stack : Nat) (e : StackError) (value : CText) (s : StackCursor) :
    Except StackError (BitVec 64 × StackCursor) :=
  match copyStackString stack value s with
  | none => .error e
  | some r => .ok r

def placeStrings (stack : Nat) (e : StackError) :
    List CText → StackCursor → Except StackError (List (BitVec 64) × StackCursor)
  | [], s => .ok ([], s)
  | value :: values, s => do
    let (ptr, s) ← placeString stack e value s
    let (ptrs, s) ← placeStrings stack e values s
    pure (ptr :: ptrs, s)

/-- The bytes for `AT_RANDOM`, with the ones that are used if the system has none. -/
def randomBytes (host : StackHost) : List (BitVec 8) :=
  match host.getrandom with
  | some bytes => bytes.toList
  | none => (List.range 16).map fun n => 0xa5 ^^^ BitVec.ofNat 8 n ^^^ host.getpid.setWidth 8

def placeRandom (stack : Nat) (host : StackHost) (s : StackCursor) :
    Except StackError (BitVec 64 × StackCursor) :=
  if s.cursor - stack < 16 then .error .randomBytesDoNotFit
  else
    let cursor := s.cursor - 16
    .ok (BitVec.ofNat 64 cursor, ⟨patch s.mem cursor (randomBytes host), cursor⟩)

def platformName : Abi.Arch → CText
  | .aarch64 => .literal "aarch64"
  | .riscv => .literal "riscv64"
  | .x86 => .literal "x86_64"

def guestArgv0 (r : StackRequest) : CText := if r.argv0.bytes ≠ [] then r.argv0 else r.path

def StackArgs.argv (args : StackArgs) : List CText := guestArgv0 args.request :: args.extraArgv

structure StackPointers where
  platform : BitVec 64
  random : BitVec 64
  argv0 : BitVec 64
  extraArgv : List (BitVec 64)
  env : List (BitVec 64)
  execfn : BitVec 64

def StackPointers.argv (p : StackPointers) : List (BitVec 64) := p.argv0 :: p.extraArgv

/-- The path of the program, which is the first argument if the two are equal. -/
def placeExecfn (stack : Nat) (r : StackRequest) (argv0 : BitVec 64) (s : StackCursor) :
    Except StackError (BitVec 64 × StackCursor) :=
  if guestArgv0 r = r.path then .ok (argv0, s)
  else placeString stack .execfnDoesNotFit r.path s

def copyProcessStrings (host : StackHost) (args : StackArgs) (stack : Nat) (s : StackCursor) :
    Except StackError (StackPointers × StackCursor) := do
  let (platform, s) ← placeString stack .platformDoesNotFit (platformName args.program.arch) s
  let (random, s) ← placeRandom stack host s
  let (argv0, s) ← placeString stack .argv0DoesNotFit (guestArgv0 args.request) s
  let (extraArgv, s) ← placeStrings stack .argvDoesNotFit args.extraArgv s
  let (env, s) ← placeStrings stack .envDoesNotFit host.environ s
  let (execfn, s) ← placeExecfn stack args.request argv0 s
  pure (⟨platform, random, argv0, extraArgv, env, execfn⟩, s)

/-! ## The auxiliary vector -/

def getenv (environ : List CText) (name : CString) : Option CString :=
  environ.findSome? fun s =>
    if (name ++ textBytes "=").isPrefixOf s.bytes then some (s.bytes.drop (name.length + 1))
    else none

/-- `parse_u64_env`. The value stays if the variable is empty or not set. -/
def parseU64Env (host : StackHost) (name : CString) (value : BitVec 64) :
    Except StackError (BitVec 64) :=
  match getenv host.environ name with
  | none => .ok value
  | some text =>
    if text = [] then .ok value
    else match host.strtoull text with
      | none => .error (.invalidEnv name text)
      | some parsed => .ok parsed

def processHwcap (host : StackHost) : Abi.Arch → Except StackError (BitVec 64)
  -- `FP`, `ASIMD`, `ATOMICS` and `CPUID`
  | .aarch64 => parseU64Env host (textBytes "POLYEXEC_AARCH64_HWCAP")
      (1 <<< 0 ||| 1 <<< 1 ||| 1 <<< 8 ||| 1 <<< 11)
  -- the letters A, C, D, F, I and M
  | .riscv => .ok (1 <<< 0 ||| 1 <<< 2 ||| 1 <<< 3 ||| 1 <<< 5 ||| 1 <<< 8 ||| 1 <<< 12)
  | .x86 => .ok 0

def auxvEntries (host : StackHost) (args : StackArgs) (hwcap : BitVec 64) (p : StackPointers) :
    List (BitVec 64 × BitVec 64) :=
  let program := args.program
  let loadBias := args.loadedImage - program.baseVaddr
  let phdrAddr := if program.scan.phdrVaddr ≠ 0 then loadBias + program.scan.phdrVaddr else 0
  let entryAddr := loadBias + program.baseVaddr + BitVec.ofNat 64 program.entryOffset
  let clockTick := if host.clockTick.toInt ≤ 0 then 100 else host.clockTick
  [(3, phdrAddr),                        -- `AT_PHDR`
    (4, program.phent.setWidth 64),      -- `AT_PHENT`
    (5, program.phnum.setWidth 64),      -- `AT_PHNUM`
    (6, 4096),                           -- `AT_PAGESZ`
    (7, args.atBase),                    -- `AT_BASE`
    (8, 0),                              -- `AT_FLAGS`
    (9, entryAddr),                      -- `AT_ENTRY`
    (17, clockTick),                     -- `AT_CLKTCK`
    (16, hwcap),                         -- `AT_HWCAP`
    (26, 0),                             -- `AT_HWCAP2`
    (11, host.getuid.setWidth 64),       -- `AT_UID`
    (12, host.geteuid.setWidth 64),      -- `AT_EUID`
    (13, host.getgid.setWidth 64),       -- `AT_GID`
    (14, host.getegid.setWidth 64),      -- `AT_EGID`
    (23, 0),                             -- `AT_SECURE`
    (25, p.random),                      -- `AT_RANDOM`
    (31, p.execfn),                      -- `AT_EXECFN`
    (15, p.platform),                    -- `AT_PLATFORM`
    (33, args.atSysinfoEhdr)]            -- `AT_SYSINFO_EHDR`

def auxv (host : StackHost) (args : StackArgs) (hwcap : BitVec 64) (p : StackPointers) :
    List (BitVec 64 × BitVec 64) :=
  auxvEntries host args hwcap p ++ [(0, 0)]

/-! ## The stack -/

def stackTable (argv env : List (BitVec 64)) (auxv : List (BitVec 64 × BitVec 64)) :
    List (BitVec 64) :=
  [BitVec.ofNat 64 argv.length] ++ (argv ++ [0]) ++ (env ++ [0]) ++ auxv.flatMap fun e => [e.1, e.2]

def tableBytes (argc envc : Nat) : Nat := (1 + argc + 1 + envc + 1 + 20 * 2) * 8

structure ProcessStack where
  stack : StackMapping
  initialSp : BitVec 64
  mem : CodeBytes

/-- The table, at the highest address below the texts that is a multiple of 16. -/
def writeStackTable (host : StackHost) (args : StackArgs) (stack : StackMapping)
    (hwcap : BitVec 64) (p : StackPointers) (s : StackCursor) : Except StackError ProcessStack :=
  let size := tableBytes args.argv.length host.environ.length
  let sp := (BitVec.ofNat 64 s.cursor - BitVec.ofNat 64 size) &&& ~~~15
  if sp.toNat < stack.addr then .error .tableOverflow
  else
    .ok ⟨stack, sp, patch s.mem sp.toNat
      (Hw.wordBytes (stackTable p.argv p.env (auxv host args hwcap p)))⟩

def zeroRange (mem : CodeBytes) (addr size : Nat) : CodeBytes := fun i =>
  if addr ≤ i ∧ i < addr + size then 0 else mem i

def buildProcessStack (host : StackHost) (args : StackArgs) : Except StackError ProcessStack :=
  match host.mapping with
  | none => .error .mmapFailed
  | some stack =>
    if !host.allocates then .error .outOfMemory
    else do
      let top := stack.addr + stackSize
      let (p, s) ← copyProcessStrings host args stack.addr
        ⟨zeroRange host.mem stack.addr stackSize, top⟩
      let hwcap ← processHwcap host args.program.arch
      writeStackTable host args stack hwcap p s

end Poly.Polyexec
