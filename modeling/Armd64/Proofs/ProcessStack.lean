import Armd64.Lib.Lists
import Armd64.Polyexec.ProcessStack
import Armd64.Proofs.RelocPatch

/-!
# The initial stack as the new process reads it

From its initial stack pointer on, a process reads the arguments, the environment and the auxiliary
vector that it was given. `Filled` is the invariant of the loops that copy the texts: the stack
above the cursor is the texts so far, one below the other.
-/

namespace Poly.Polyexec

open Hw

/-! ## The reader -/

/-- What a process finds on its stack: texts with the pointers to them, and the auxiliary vector. -/
structure InitialStack where
  argc : BitVec 64
  argv : List (BitVec 64 × CString)
  env : List (BitVec 64 × CString)
  auxv : List (BitVec 64 × BitVec 64)
  deriving DecidableEq, Repr

def readText (fuel : Nat) (mem : CodeBytes) (ptr : BitVec 64) : Option (BitVec 64 × CString) :=
  (readUntil mem (· == 0) 1 fuel ptr.toNat).map fun r => (ptr, r.1)

/-- The number of arguments, the pointers up to `NULL`, those to the environment up to `NULL`, and
the pairs up to `AT_NULL`. -/
def readInitialStack (fuel : Nat) (mem : CodeBytes) (sp : Nat) : Option InitialStack := do
  let (argv, a) ← readUntil (wordAt mem) (· == 0) 8 fuel (sp + 8)
  let (env, a) ← readUntil (wordAt mem) (· == 0) 8 fuel a
  let (auxv, _) ← readUntil (pairAt mem) (·.1 == 0) 16 fuel a
  let argv ← argv.mapM (readText fuel mem)
  let env ← env.mapM (readText fuel mem)
  return ⟨wordAt mem sp, argv, env, auxv⟩

/-! ## Blocks on the stack -/

variable {a : Nat} {data : List (BitVec 8)} {mem : CodeBytes}

theorem reads_patch : Reads (patch mem a data) 1 a data := by
  intro i b hb
  rw [Nat.one_mul, patch_inside hb]

theorem stacked_patch {top : Nat} {blocks : List (Block (BitVec 8))}
    (h : Stacked mem top blocks (a + data.length)) :
    Stacked (patch mem a data) top (blocks ++ [⟨a, data⟩]) a :=
  .push (b := ⟨a, data⟩) (h.congr fun _ hi _ => patch_outside (.inr hi)) reads_patch

structure Filled (stack : StackMapping) (s : StackCursor) (blocks : List (Block (BitVec 8))) :
    Prop where
  stacked : Stacked s.mem (stack.addr + stackSize) blocks s.cursor
  le : stack.addr ≤ s.cursor

def textBlock (ptr : BitVec 64) (value : CText) : Block (BitVec 8) := ⟨ptr.toNat, value.stored⟩

section

variable {stack : StackMapping} {s s' : StackCursor} {blocks : List (Block (BitVec 8))}
  {ptr : BitVec 64}

theorem length_stored (value : CText) : value.stored.length = value.bytes.length + 1 :=
  List.length_append

theorem length_randomBytes (host : StackHost) : (randomBytes host).length = 16 := by
  unfold randomBytes
  split
  · exact Vector.length_toList
  · rw [List.length_map, List.length_range]

theorem Filled.push (h : Filled stack s blocks) {data : List (BitVec 8)} (hpos : 0 < data.length)
    (hfit : data.length ≤ s.cursor - stack.addr) :
    Filled stack ⟨patch s.mem (s.cursor - data.length) data, s.cursor - data.length⟩
      (blocks ++ [⟨(BitVec.ofNat 64 (s.cursor - data.length)).toNat, data⟩]) := by
  have hle := h.stacked.inside.1
  have hfits := stack.fits
  have htop : s.cursor - data.length < 2 ^ 64 := by omega
  rw [toNat_ofNat_of_lt htop]
  refine ⟨stacked_patch ?_, ?_⟩
  · rw [Nat.sub_add_cancel (by omega)]
    exact h.stacked
  · dsimp only
    omega

variable {e : StackError}

theorem placeString_filled {value : CText} (h : Filled stack s blocks)
    (hok : placeString stack.addr e value s = .ok (ptr, s')) :
    Filled stack s' (blocks ++ [textBlock ptr value]) := by
  unfold placeString copyStackString at hok
  rw [← length_stored] at hok
  by_cases hlt : s.cursor - stack.addr < value.stored.length
  · simp [hlt] at hok
  · have hpos : 0 < value.stored.length := by rw [length_stored]; omega
    simp only [hlt, ite_false, Except.ok.injEq, Prod.mk.injEq] at hok
    obtain ⟨rfl, rfl⟩ := hok
    exact h.push hpos (Nat.le_of_not_lt hlt)

theorem placeRandom_filled {host : StackHost} (h : Filled stack s blocks)
    (hok : placeRandom stack.addr host s = .ok (ptr, s')) :
    Filled stack s' (blocks ++ [⟨ptr.toNat, randomBytes host⟩]) := by
  unfold placeRandom at hok
  rw [← length_randomBytes host] at hok
  by_cases hlt : s.cursor - stack.addr < (randomBytes host).length
  · simp [hlt] at hok
  · simp only [hlt, ite_false, Except.ok.injEq, Prod.mk.injEq] at hok
    obtain ⟨rfl, rfl⟩ := hok
    exact h.push (by rw [length_randomBytes]; decide) (Nat.le_of_not_lt hlt)

theorem placeStrings_filled {values : List CText} {ptrs : List (BitVec 64)}
    (h : Filled stack s blocks) (hok : placeStrings stack.addr e values s = .ok (ptrs, s')) :
    ptrs.length = values.length ∧
      Filled stack s' (blocks ++ List.zipWith textBlock ptrs values) := by
  induction values generalizing s blocks ptrs with
  | nil =>
    cases hok
    rw [List.zipWith_nil_left, List.append_nil]
    exact ⟨rfl, h⟩
  | cons value values ih =>
    obtain ⟨⟨ptr, s₁⟩, hvalue, hok⟩ := except_bind_eq_ok.mp hok
    obtain ⟨⟨ptrs, s₂⟩, hvalues, hok⟩ := except_bind_eq_ok.mp hok
    cases hok
    obtain ⟨hlen, hfilled⟩ := ih (placeString_filled h hvalue) hvalues
    rw [List.append_assoc] at hfilled
    exact ⟨congrArg (· + 1) hlen, hfilled⟩

end

/-- What is copied to the stack, in the order of the copies. The path of the program is not copied
if it is the first argument. -/
def StackPointers.blocks (p : StackPointers) (host : StackHost) (args : StackArgs) :
    List (Block (BitVec 8)) :=
  [textBlock p.platform (platformName args.program.arch), ⟨p.random.toNat, randomBytes host⟩] ++
    List.zipWith textBlock p.argv args.argv ++ List.zipWith textBlock p.env host.environ ++
    if guestArgv0 args.request = args.request.path then []
    else [textBlock p.execfn args.request.path]

structure Copied (host : StackHost) (args : StackArgs) (stack : StackMapping) (p : StackPointers)
    (s : StackCursor) : Prop where
  filled : Filled stack s (p.blocks host args)
  length_argv : p.argv.length = args.argv.length
  length_env : p.env.length = host.environ.length
  execfn : guestArgv0 args.request = args.request.path → p.execfn = p.argv0

theorem copyProcessStrings_filled {host : StackHost} {args : StackArgs} {stack : StackMapping}
    {p : StackPointers} {s : StackCursor}
    (hok : copyProcessStrings host args stack.addr ⟨mem, stack.addr + stackSize⟩ = .ok (p, s)) :
    Copied host args stack p s := by
  obtain ⟨⟨platform, s₁⟩, hplatform, hok⟩ := except_bind_eq_ok.mp hok
  obtain ⟨⟨random, s₂⟩, hrandom, hok⟩ := except_bind_eq_ok.mp hok
  obtain ⟨⟨argv0, s₃⟩, hargv0, hok⟩ := except_bind_eq_ok.mp hok
  obtain ⟨⟨extraArgv, s₄⟩, hargv, hok⟩ := except_bind_eq_ok.mp hok
  obtain ⟨⟨env, s₅⟩, henv, hok⟩ := except_bind_eq_ok.mp hok
  obtain ⟨⟨execfn, s₆⟩, hexecfn, hok⟩ := except_bind_eq_ok.mp hok
  cases hok
  have h₀ : Filled stack ⟨mem, stack.addr + stackSize⟩ [] := ⟨.nil, Nat.le_add_right _ _⟩
  have h₃ := placeString_filled (placeRandom_filled (placeString_filled h₀ hplatform) hrandom)
    hargv0
  obtain ⟨hlenArgv, h₄⟩ := placeStrings_filled h₃ hargv
  obtain ⟨hlenEnv, h₅⟩ := placeStrings_filled h₄ henv
  unfold placeExecfn at hexecfn
  by_cases hpath : guestArgv0 args.request = args.request.path
  · rw [if_pos hpath] at hexecfn
    cases hexecfn
    refine ⟨?_, congrArg (· + 1) hlenArgv, hlenEnv, fun _ => rfl⟩
    simpa [StackPointers.blocks, StackPointers.argv, StackArgs.argv, hpath] using h₅
  · rw [if_neg hpath] at hexecfn
    have h₆ := placeString_filled h₅ hexecfn
    refine ⟨?_, congrArg (· + 1) hlenArgv, hlenEnv, fun h => absurd h hpath⟩
    simpa [StackPointers.blocks, StackPointers.argv, StackArgs.argv, hpath] using h₆

/-! ## The table -/

section

variable {host : StackHost} {args : StackArgs} {stack : StackMapping} {p : StackPointers}
  {s : StackCursor} {hwcap : BitVec 64} {r : ProcessStack}

def StackArgs.tableBytes (args : StackArgs) (host : StackHost) : Nat :=
  Polyexec.tableBytes args.argv.length host.environ.length

theorem length_stackTable (argv env : List (BitVec 64)) (vector : List (BitVec 64 × BitVec 64)) :
    (stackTable argv env vector).length =
      1 + (argv.length + 1) + (env.length + 1) + 2 * vector.length := by
  have hpairs : (vector.flatMap fun e => [e.1, e.2]).length = 2 * vector.length := by
    induction vector with
    | nil => rfl
    | cons e vector ih =>
      rw [List.flatMap_cons, List.length_append, ih]
      exact Nat.add_comm _ _
  simp only [stackTable, List.length_append, List.length_singleton, hpairs]

theorem Copied.length_table (h : Copied host args stack p s) :
    (wordBytes (stackTable p.argv p.env (auxv host args hwcap p))).length =
      args.tableBytes host := by
  have hauxv : (auxv host args hwcap p).length = 20 := rfl
  rw [length_wordBytes, length_stackTable, hauxv, h.length_argv, h.length_env,
    StackArgs.tableBytes, tableBytes]
  omega

theorem Copied.cursor_lt (h : Copied host args stack p s) :
    s.cursor < stack.addr + stackSize := by
  have hmem : textBlock p.platform (platformName args.program.arch) ∈ p.blocks host args :=
    List.mem_append_left _ (List.mem_append_left _ (List.mem_append_left _ List.mem_cons_self))
  obtain ⟨hlo, hhi⟩ := h.filled.stacked.inside.2 _ hmem
  have hlen := length_stored (platformName args.program.arch)
  simp only [Block.limit, textBlock] at hlo hhi
  omega

/-- The table is at the highest aligned address at which it ends below the texts. -/
structure TableWritten (host : StackHost) (args : StackArgs) (stack : StackMapping)
    (hwcap : BitVec 64) (p : StackPointers) (s : StackCursor) (r : ProcessStack) : Prop where
  stack_eq : r.stack = stack
  aligned : r.initialSp.toNat % 16 = 0
  le : stack.addr ≤ r.initialSp.toNat
  below : r.initialSp.toNat + args.tableBytes host ≤ s.cursor
  mem_eq : r.mem = patch s.mem r.initialSp.toNat
    (wordBytes (stackTable p.argv p.env (auxv host args hwcap p)))

theorem writeStackTable_eq_ok (hok : writeStackTable host args stack hwcap p s = .ok r) :
    r.stack = stack ∧ stack.addr ≤ r.initialSp.toNat ∧
      r.initialSp =
        (BitVec.ofNat 64 s.cursor - BitVec.ofNat 64 (args.tableBytes host)) &&& ~~~15 ∧
      r.mem = patch s.mem r.initialSp.toNat
        (wordBytes (stackTable p.argv p.env (auxv host args hwcap p))) := by
  change (if _ < stack.addr then _ else _) = _ at hok
  split at hok
  · cases hok
  · rename_i hge
    cases hok
    exact ⟨rfl, Nat.le_of_not_lt hge, rfl, rfl⟩

theorem tableWritten_of_copied (h : Copied host args stack p s)
    (habove : args.tableBytes host ≤ stack.addr)
    (hok : writeStackTable host args stack hwcap p s = .ok r) :
    TableWritten host args stack hwcap p s r := by
  obtain ⟨hstack, hge, hsp, hmem⟩ := writeStackTable_eq_ok hok
  have hfits := stack.fits
  have hlt := h.cursor_lt
  have hle := h.filled.le
  have hcursor : (BitVec.ofNat 64 s.cursor).toNat = s.cursor :=
    toNat_ofNat_of_lt (by omega)
  have hsize : (BitVec.ofNat 64 (args.tableBytes host)).toNat = args.tableBytes host :=
    toNat_ofNat_of_lt (by omega)
  -- the table ends at or above address 0, so the subtraction does not wrap
  have hround : r.initialSp.toNat = (s.cursor - args.tableBytes host) / 16 * 16 := by
    rw [hsp, toNat_and_not_mask (k := 4) (by decide), BitVec.toNat_sub_of_le, hcursor, hsize]
    · rfl
    · rw [BitVec.le_def, hcursor, hsize]
      omega
  refine ⟨hstack, ?_, hge, ?_, hmem⟩
  · rw [hround, Nat.mul_mod_left]
  · omega

theorem TableWritten.stacked (ht : TableWritten host args stack hwcap p s r)
    (h : Copied host args stack p s) :
    Stacked r.mem (stack.addr + stackSize) (p.blocks host args) s.cursor := by
  refine h.filled.stacked.congr fun i hi _ => ?_
  have hbelow := ht.below
  rw [ht.mem_eq, patch_outside]
  right
  rw [h.length_table]
  omega

theorem TableWritten.reads (ht : TableWritten host args stack hwcap p s r) :
    Reads (wordAt r.mem) 8 r.initialSp.toNat
      (stackTable p.argv p.env (auxv host args hwcap p)) := by
  rw [ht.mem_eq]
  exact reads_words reads_patch

end

/-! ## Reading it back -/

section

variable {mem : CodeBytes} {fuel : Nat}

theorem readText_eq {ptr : BitVec 64} {value : CText} (h : Reads mem 1 ptr.toNat value.stored)
    (hfuel : value.bytes.length < fuel) : readText fuel mem ptr = some (ptr, value.bytes) := by
  have hnul : ∀ b ∈ value.bytes, (b == 0) = false := by
    intro b hb
    refine beq_false_of_ne ?_
    rintro rfl
    exact value.noNul hb
  rw [readText, readUntil_eq _ h hnul rfl hfuel, Option.map_some]

theorem mapM_readText {ptrs : List (BitVec 64)} {values : List CText}
    (hlen : ptrs.length = values.length)
    (h : ∀ b ∈ List.zipWith textBlock ptrs values,
      Reads mem 1 b.addr b.data ∧ b.data.length ≤ fuel) :
    ptrs.mapM (readText fuel mem) = some (ptrs.zip (values.map (·.bytes))) := by
  induction ptrs generalizing values with
  | nil => rfl
  | cons ptr ptrs ih =>
    cases values with
    | nil => cases hlen
    | cons value values =>
      obtain ⟨hvalue, hfuel⟩ := h (textBlock ptr value) List.mem_cons_self
      change value.stored.length ≤ fuel at hfuel
      rw [length_stored] at hfuel
      have hrest := ih (Nat.succ.inj hlen) fun b hb => h b (List.mem_cons_of_mem _ hb)
      rw [List.mapM_cons, readText_eq hvalue hfuel, hrest]
      rfl

variable {sp : Nat} {argv env : List (BitVec 64)} {entries : List (BitVec 64 × BitVec 64)}
  {argvTexts envTexts : List (BitVec 64 × CString)}

theorem readInitialStack_eq
    (h : Reads (wordAt mem) 8 sp (stackTable argv env (entries ++ [(0, 0)])))
    (hargv : ∀ ptr ∈ argv, ptr ≠ 0) (henv : ∀ ptr ∈ env, ptr ≠ 0)
    (hentries : ∀ e ∈ entries, e.1 ≠ 0)
    (hfuel : argv.length < fuel ∧ env.length < fuel ∧ entries.length < fuel)
    (hargvTexts : argv.mapM (readText fuel mem) = some argvTexts)
    (henvTexts : env.mapM (readText fuel mem) = some envTexts) :
    readInitialStack fuel mem sp =
      some ⟨BitVec.ofNat 64 argv.length, argvTexts, envTexts, entries⟩ := by
  obtain ⟨h, hauxv⟩ := reads_append.mp h
  obtain ⟨h, henvTable⟩ := reads_append.mp h
  obtain ⟨hargc, hargvTable⟩ := reads_append.mp h
  -- each part of the table starts where the reader is after the part before it
  have henvStart : sp + 8 * ([BitVec.ofNat 64 argv.length] ++ (argv ++ [0])).length =
      sp + 8 + 8 * (argv ++ [0]).length := by
    rw [List.length_append, List.length_singleton]
    omega
  have hauxvStart :
      sp + 8 * ([BitVec.ofNat 64 argv.length] ++ (argv ++ [0]) ++ (env ++ [0])).length =
        sp + 8 + 8 * (argv ++ [0]).length + 8 * (env ++ [0]).length := by
    rw [List.length_append, Nat.mul_add, ← Nat.add_assoc, henvStart]
  rw [henvStart] at henvTable
  rw [hauxvStart] at hauxv
  have hreadArgv := readUntil_eq (· == 0) hargvTable
    (fun ptr hptr => beq_false_of_ne (hargv ptr hptr)) rfl hfuel.1
  have hreadEnv := readUntil_eq (· == 0) henvTable
    (fun ptr hptr => beq_false_of_ne (henv ptr hptr)) rfl hfuel.2.1
  have hreadAuxv := readUntil_eq (·.1 == 0) (reads_pairs hauxv)
    (fun e he => beq_false_of_ne (hentries e he)) rfl hfuel.2.2
  have hstart : sp + 8 * [BitVec.ofNat 64 argv.length].length = sp + 8 := rfl
  rw [hstart] at hreadArgv
  simp only [readInitialStack, Option.bind_eq_bind, hreadArgv, Option.bind_some, hreadEnv,
    hreadAuxv,
    hargvTexts, henvTexts, reads_singleton.mp hargc]
  rfl

end

/-! ## The round trip -/

section

variable {host : StackHost} {args : StackArgs} {stack : StackMapping} {p : StackPointers}
  {s : StackCursor} {hwcap : BitVec 64} {r : ProcessStack}

theorem buildProcessStack_eq_ok (h : buildProcessStack host args = .ok r)
    (habove : args.tableBytes host ≤ r.stack.addr) :
    ∃ hwcap p s, processHwcap host args.program.arch = .ok hwcap ∧
      Copied host args r.stack p s ∧ TableWritten host args r.stack hwcap p s r := by
  unfold buildProcessStack at h
  split at h
  · cases h
  · split at h
    · cases h
    · obtain ⟨⟨p, s⟩, hcopy, h⟩ := except_bind_eq_ok.mp h
      obtain ⟨hwcap, hhwcap, hok⟩ := except_bind_eq_ok.mp h
      have hstack := (writeStackTable_eq_ok hok).1
      rw [hstack] at habove ⊢
      have hcopied := copyProcessStrings_filled hcopy
      exact ⟨hwcap, p, s, hhwcap, hcopied, tableWritten_of_copied hcopied habove hok⟩

/-- The stack as the new process sees it: what it reads, and where the copies are. -/
structure StackImage (host : StackHost) (args : StackArgs) (r : ProcessStack) (hwcap : BitVec 64)
    (p : StackPointers) (image : InitialStack) : Prop where
  aligned : r.initialSp.toNat % 16 = 0
  inside : r.stack.addr ≤ r.initialSp.toNat ∧
    r.initialSp.toNat + args.tableBytes host ≤ r.stack.addr + stackSize
  argc : image.argc.toNat = args.argv.length
  argv : image.argv = p.argv.zip (args.argv.map (·.bytes))
  env : image.env = p.env.zip (host.environ.map (·.bytes))
  lengths : p.argv.length = args.argv.length ∧ p.env.length = host.environ.length
  auxv : image.auxv = auxvEntries host args hwcap p
  /-- The path of the program is the first argument, or it has a copy of its own. -/
  execfn : guestArgv0 args.request = args.request.path → p.execfn = p.argv0
  blocks : ∀ b ∈ p.blocks host args, Reads r.mem 1 b.addr b.data ∧
    r.initialSp.toNat + args.tableBytes host ≤ b.addr ∧ b.limit ≤ r.stack.addr + stackSize
  apart : (p.blocks host args).Pairwise fun b c => c.limit ≤ b.addr

variable {b : Block (BitVec 8)}

theorem mem_blocks_argv (h : b ∈ List.zipWith textBlock p.argv args.argv) :
    b ∈ p.blocks host args :=
  List.mem_append_left _ (List.mem_append_left _ (List.mem_append_right _ h))

theorem mem_blocks_env (h : b ∈ List.zipWith textBlock p.env host.environ) :
    b ∈ p.blocks host args :=
  List.mem_append_left _ (List.mem_append_right _ h)

theorem auxvEntries_ne_null : ∀ e ∈ auxvEntries host args hwcap p, e.1 ≠ 0 := by
  intro e he
  have hmem : e.1 ∈ (auxvEntries host args hwcap p).map (·.1) := List.mem_map_of_mem he
  have htypes : (auxvEntries host args hwcap p).map (·.1) =
      [3, 4, 5, 6, 7, 8, 9, 17, 16, 26, 11, 12, 13, 14, 23, 25, 31, 15, 33] := rfl
  rw [htypes] at hmem
  intro hnull
  rw [hnull] at hmem
  exact absurd hmem (by decide)

theorem ne_zero_of_blocks {ptrs : List (BitVec 64)} {values : List CText}
    (hlen : ptrs.length = values.length)
    (h : ∀ b ∈ List.zipWith textBlock ptrs values, 0 < b.addr) : ∀ ptr ∈ ptrs, ptr ≠ 0 := by
  intro ptr hptr hzero
  obtain ⟨i, hi, hget⟩ := List.getElem_of_mem hptr
  have hmem : textBlock ptrs[i] values[i] ∈ List.zipWith textBlock ptrs values :=
    List.mem_iff_getElem.mpr ⟨i, by simp [← hlen, hi], List.getElem_zipWith⟩
  have hpos := h _ hmem
  rw [hget, hzero] at hpos
  exact Nat.lt_irrefl 0 hpos

theorem process_stack_round_trip (h : buildProcessStack host args = .ok r)
    (habove : args.tableBytes host ≤ r.stack.addr) :
    ∃ hwcap p image, processHwcap host args.program.arch = .ok hwcap ∧
      readInitialStack stackSize r.mem r.initialSp.toNat = some image ∧
      StackImage host args r hwcap p image := by
  obtain ⟨hwcap, p, s, hhwcap, hcopied, htable⟩ := buildProcessStack_eq_ok h habove
  have hstacked := htable.stacked hcopied
  have hbelow := htable.below
  have hle := htable.le
  have hcursor := hstacked.inside.1
  have hbytes : args.tableBytes host =
      (1 + args.argv.length + 1 + host.environ.length + 1 + 40) * 8 :=
    rfl
  have hblocks : ∀ b ∈ p.blocks host args, Reads r.mem 1 b.addr b.data ∧
      r.initialSp.toNat + args.tableBytes host ≤ b.addr ∧ b.limit ≤ r.stack.addr + stackSize := by
    intro b hb
    have hinside := hstacked.inside.2 b hb
    exact ⟨hstacked.holds b hb, Nat.le_trans hbelow hinside.1, hinside.2⟩
  have hpos : ∀ b ∈ p.blocks host args, 0 < b.addr := by
    intro b hb
    have := (hblocks b hb).2.1
    omega
  have hread : ∀ b ∈ p.blocks host args,
      Reads r.mem 1 b.addr b.data ∧ b.data.length ≤ stackSize := by
    intro b hb
    obtain ⟨hreads, hlo, hhi⟩ := hblocks b hb
    unfold Block.limit at hhi
    exact ⟨hreads, by omega⟩
  have hargv := mapM_readText hcopied.length_argv fun b hb => hread b (mem_blocks_argv hb)
  have henv := mapM_readText hcopied.length_env fun b hb => hread b (mem_blocks_env hb)
  refine ⟨hwcap, p, _, hhwcap, readInitialStack_eq htable.reads ?_ ?_ auxvEntries_ne_null ?_
      hargv henv,
    ?_⟩
  · exact ne_zero_of_blocks hcopied.length_argv fun b hb => hpos b (mem_blocks_argv hb)
  · exact ne_zero_of_blocks hcopied.length_env fun b hb => hpos b (mem_blocks_env hb)
  · have hlen : (auxvEntries host args hwcap p).length = 19 := rfl
    have hlenArgv := hcopied.length_argv
    have hlenEnv := hcopied.length_env
    omega
  · have hargc : (BitVec.ofNat 64 p.argv.length).toNat = args.argv.length := by
      rw [BitVec.toNat_ofNat, hcopied.length_argv, Nat.mod_eq_of_lt]
      omega
    exact ⟨htable.aligned, ⟨hle, Nat.le_trans hbelow hcursor⟩, hargc, rfl, rfl,
      ⟨hcopied.length_argv, hcopied.length_env⟩, rfl, hcopied.execfn, hblocks, hstacked.apart⟩

end

theorem shMapping_fits : 0x7f0000000000 + stackSize ≤ 2 ^ 64 := by decide

/-- A system with a variable for the capabilities of the processor. -/
def shHost : StackHost where
  mem _ := 0
  mapping := some ⟨0x7f0000000000, shMapping_fits⟩
  allocates := true
  getrandom := none
  getpid := 7
  clockTick := 0
  getuid := 1000
  geteuid := 1000
  getgid := 1000
  getegid := 1000
  environ := [.literal "HOME=/", .literal "POLYEXEC_AARCH64_HWCAP=3"]
  strtoull text := if text = textBytes "3" then some 3 else none

def shArgs : StackArgs where
  program :=
    { arch := .aarch64, isEtExec := false, baseVaddr := 0, codeSize := 0x2000,
      codeBytes := fun _ => 0, entryOffset := 0x1000, phent := 56, phnum := 3,
      scan := { phdrVaddr := 0x40 }, dynamic := {} }
  request := ⟨.literal "/bin/sh", .literal "sh"⟩
  loadedImage := 0x400000
  atBase := 0
  atSysinfoEhdr := 0
  extraArgv := [.literal "-c", .literal "ls"]

theorem process_stack_round_trip_sh :
    ∃ r hwcap p image, buildProcessStack shHost shArgs = .ok r ∧
      processHwcap shHost shArgs.program.arch = .ok hwcap ∧
      readInitialStack stackSize r.mem r.initialSp.toNat = some image ∧
      StackImage shHost shArgs r hwcap p image := by
  have hmap : (buildProcessStack shHost shArgs).map (fun r => r.stack.addr) =
      .ok 0x7f0000000000 := by
    decide +kernel
  obtain ⟨r, hr, haddr⟩ := exists_of_except_map hmap
  have habove : shArgs.tableBytes shHost ≤ r.stack.addr := by
    rw [haddr]
    decide
  obtain ⟨hwcap, p, image, himage⟩ := process_stack_round_trip hr habove
  exact ⟨r, hwcap, p, image, hr, himage⟩

end Poly.Polyexec
