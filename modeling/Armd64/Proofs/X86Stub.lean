import Armd64.Isa.X86
import Armd64.Proofs.CrossStubs

/-!
# The stub of an x86 caller runs as an x86 program

The stub saves `rbx` and `r15` below the return address, and `r12` too for nine arguments on the
stack. So the stack that the callee gets is aligned for all kinds but that one. A result of doubles
is stored through `rax` before the saved words are popped, so it must be apart from them.
-/

namespace Poly.Polyexec

open Hw
open Isa Isa.X86

/-! ## Words on the stack -/

section

variable {mem : Memory} {a b : BitVec 64} {xs : List (BitVec 8)} {ws : List (BitVec 64)}

theorem holds_fetch (mem : Memory) (a : BitVec 64) :
    Holds mem a (toBytes 8 (fetch 8 mem a)) := by
  intro i x hx
  have hi : i < 8 := by simpa [length_toBytes] using (List.getElem?_eq_some_iff.mp hx).1
  rw [getElem?_toBytes _ hi] at hx
  refine Eq.trans ?_ (Option.some.inj hx)
  have hlen : 0 + 8 ≤ 8 := Nat.le_refl _
  have h := extract_ofWords_sub (fun i => mem (a + BitVec.ofNat 64 i)) hi hlen
  simpa [fetch] using h.symm

theorem holds_store_below (h : Holds mem a xs) (v : BitVec 64) (hlo : 8 ≤ (a - b).toNat)
    (hhi : (a - b).toNat + xs.length ≤ 2 ^ 64) :
    Holds (store mem b (toBytes 8 v)) a xs := by
  refine h.store fun i hi => ?_
  rw [length_toBytes]
  bv_omega

theorem holds_push (h : Holds mem a (wordBytes ws)) (v : BitVec 64) (hlen : ws.length ≤ 4) :
    Holds (store mem (a - 8) (toBytes 8 v)) (a - 8) (wordBytes (v :: ws)) := by
  rw [wordBytes, List.flatMap_cons, holds_append]
  refine ⟨holds_store (by rw [length_toBytes]; decide), ?_⟩
  have hnext : a - 8 + BitVec.ofNat 64 (toBytes 8 v).length = a := by
    rw [length_toBytes]
    bv_omega
  have hsub : a - (a - 8) = 8 := by bv_omega
  rw [hnext]
  refine holds_store_below h v (by rw [hsub]; decide) ?_
  rw [hsub, length_wordBytes]
  show 8 + _ ≤ _
  omega

theorem holds_pop {w : BitVec 64} : Holds mem a (wordBytes (w :: ws)) ↔
    fetch 8 mem a = w ∧ Holds mem (a + 8) (wordBytes ws) := by
  rw [wordBytes, List.flatMap_cons, holds_append, length_toBytes]
  refine and_congr_left fun _ => ⟨fetch_of_holds, ?_⟩
  rintro rfl
  exact holds_fetch mem a

end

/-! ## Instructions -/

theorem immediate_toBytes (n : Nat) (v : BitVec (8 * n)) (rest : List (BitVec 8)) :
    immediate n (toBytes n v ++ rest) = v ∧ (toBytes n v ++ rest).drop n = rest := by
  refine ⟨ofWords_eq (by decide) fun i hi => ?_, List.drop_left' (length_toBytes n v)⟩
  rw [List.getD_eq_getElem?_getD, List.getElem?_append_left (by rwa [length_toBytes]),
    getElem?_toBytes v hi, Option.getD_some]

/-- An instruction that ends with a constant of `n` bytes. -/
def withImm {n : Nat} (v : BitVec (8 * n)) (pre : List (BitVec 8)) (op : BitVec (8 * n) → Op)
    (hlen : pre.length + n ≤ maxInstrBytes)
    (h : ∀ rest, decode (pre ++ rest) = some (op (immediate n rest), rest.drop n)) : Instr where
  bytes := pre ++ toBytes n v
  op := op v
  length_le := by rwa [List.length_append, length_toBytes]
  decode_eq rest := by
    obtain ⟨himm, hdrop⟩ := immediate_toBytes n v rest
    rw [List.append_assoc, h, himm, hdrop]

def movImm64 (v : BitVec 64) (pre : List (BitVec 8)) (r : Reg) :=
  withImm (n := 8) v pre (.movImm r)

/-- A move of a 32-bit constant, which clears the upper half. -/
def movImm32 (v : BitVec 32) (pre : List (BitVec 8)) (r : Reg) :=
  withImm (n := 4) v pre fun v => .movImm r (v.setWidth 64)

def pushRax : Instr := ⟨[0x50], .push rax, by decide, fun _ => rfl⟩

def popRax : Instr := ⟨[0x58], .pop rax, by decide, fun _ => rfl⟩

def movRaxRdi : Instr := ⟨[0x48, 0x89, 0xf8], .mov rax rdi, by decide, fun _ => rfl⟩

def stack9Lea : Instr :=
  withImm (n := 4) 0xffffc000 [0x4c, 0x8d, 0x9c, 0x24] (fun v => .lea r11 rsp (v.signExtend 64))
    (by decide) fun _ => rfl

def stack9Moves : List Instr :=
  [⟨[0x4c, 0x8b, 0x64, 0x24, 0x38], .load r12 rsp 0x38, by decide, fun _ => rfl⟩, stack9Lea,
    ⟨[0x49, 0x83, 0xe3, 0xf0], .and r11 (-16), by decide, fun _ => rfl⟩,
    ⟨[0x4d, 0x89, 0x23], .store r11 0 r12, by decide, fun _ => rfl⟩,
    ⟨[0x49, 0x89, 0xcb], .mov r11 rcx, by decide, fun _ => rfl⟩,
    ⟨[0x49, 0x89, 0xd4], .mov r12 rdx, by decide, fun _ => rfl⟩, movRaxRdi,
    ⟨[0x48, 0x89, 0xf2], .mov rdx rsi, by decide, fun _ => rfl⟩,
    ⟨[0x4c, 0x89, 0xe1], .mov rcx r12, by decide, fun _ => rfl⟩,
    ⟨[0x4c, 0x89, 0xdf], .mov rdi r11, by decide, fun _ => rfl⟩,
    ⟨[0x4c, 0x89, 0xc6], .mov rsi 8, by decide, fun _ => rfl⟩,
    ⟨[0x4d, 0x89, 0xc8], .mov 8 9, by decide, fun _ => rfl⟩,
    ⟨[0x4c, 0x8b, 0x4c, 0x24, 0x28], .load 9 rsp 0x28, by decide, fun _ => rfl⟩,
    ⟨[0x4c, 0x8b, 0x54, 0x24, 0x30], .load 10 rsp 0x30, by decide, fun _ => rfl⟩]

/-- The pushes of the stub, with room to align the stack. -/
def pushes (stack9 : Bool) : List Instr :=
  [⟨[0x53], .push rbx, by decide, fun _ => rfl⟩] ++
    (if stack9 then [⟨[0x41, 0x54], .push r12, by decide, fun _ => rfl⟩] else []) ++
    [⟨[0x41, 0x57], .push r15, by decide, fun _ => rfl⟩,
      ⟨[0x48, 0x83, 0xec, 0x08], .sub rsp 8, by decide, fun _ => rfl⟩]

def prologue (stack9 : Bool) : List Instr :=
  pushes stack9 ++ [pushRax, popRax] ++ if stack9 then stack9Moves else []

def signatureSet (slot kind : BitVec 32) : List Instr :=
  [pushRax, ⟨[0x52], .push rdx, by decide, fun _ => rfl⟩,
    movImm32 slot [0xb8] rax (by decide) fun _ => rfl,
    movImm64 (abiSignatureControlValue kind) [0x48, 0xba] rdx (by decide) fun _ => rfl,
    ⟨emitX86PolyControl 0x69, .control 0x69, by decide, fun _ => rfl⟩,
    ⟨[0x5a], .pop rdx, by decide, fun _ => rfl⟩, popRax]

def loadDouble (n : Fin 4) : Instr where
  bytes :=
    [0xf2, 0x0f, 0x10, BitVec.ofNat 8 (0x44 + n.val <<< 3), 0x24, BitVec.ofNat 8 (32 + n * 8)]
  op := .loadDouble (BitVec.ofNat 3 n) rsp (BitVec.ofNat 64 (32 + n * 8))
  length_le := Nat.le_of_ble_eq_true rfl
  decode_eq rest := by
    match n with
    | 0 | 1 | 2 | 3 => rfl

def storeDouble (n : Fin 4) : Instr where
  bytes := [0xf2, 0x0f, 0x11, BitVec.ofNat 8 (0x40 + n.val <<< 3), BitVec.ofNat 8 (n * 8)]
  op := .storeDouble rax (BitVec.ofNat 64 (n * 8)) (BitVec.ofNat 3 n)
  length_le := Nat.le_of_ble_eq_true rfl
  decode_eq rest := by
    match n with
    | 0 | 1 | 2 | 3 => rfl

theorem bytesOf_prologue (stack9 : Bool) : bytesOf (prologue stack9) =
    [0x53] ++ (if stack9 then [0x41, 0x54] else []) ++
      [0x41, 0x57, 0x48, 0x83, 0xec, 0x08, 0x50, 0x58] ++
      if stack9 then x86Stack9Arguments else [] := by
  cases stack9 <;> rfl

/-- The arguments of a homogeneous aggregate of doubles, which the caller has on its stack. -/
def loadDoubles (count : Nat) : List Instr :=
  if count = 4 then
    ⟨[0xf2, 0x0f, 0x10, 0xe0], .movsd 4 0, by decide, fun _ => rfl⟩ ::
      [loadDouble 0, loadDouble 1, loadDouble 2, loadDouble 3]
  else
    [⟨[0xf2, 0x0f, 0x10, 0xd8], .movsd 3 0, by decide, fun _ => rfl⟩, loadDouble 0, loadDouble 1,
      loadDouble 2]

def storeDoubles (count : Nat) : List Instr :=
  (if count = 4 then [0, 1, 2, 3] else [0, 1, 2]).map storeDouble

theorem bytesOf_loadDoubles (kind : ProcessBridge) :
    bytesOf (loadDoubles kind.aarch64Hfa64ArgCount) =
      emitX86LoadHfa64ArgFromStack kind.aarch64Hfa64ArgCount := by
  unfold ProcessBridge.aarch64Hfa64ArgCount
  split <;> decide

theorem bytesOf_storeDoubles (kind : ProcessBridge) :
    bytesOf (storeDoubles kind.aarch64Hfa64RetCount) =
      emitX86StoreHfa64ReturnToSret kind.aarch64Hfa64RetCount := by
  unfold ProcessBridge.aarch64Hfa64RetCount
  split <;> decide

/-! ## The stub -/

section

variable (kind : ProcessBridge) (slot : BitVec 32) (target ret : BitVec 64) (frontend : BitVec 32)

def signatureCode : List Instr :=
  if kind.isX86SourceSignature then signatureSet slot (kind.signatureKind.getD 0) else []

def moves : List Instr :=
  (if kind.isAarch64Hfa64Arg then loadDoubles kind.aarch64Hfa64ArgCount else []) ++
    (if kind.isAarch64Hfa64Ret then [movRaxRdi] else []) ++
    [movImm64 target [0x48, 0xbb] rbx (by decide) fun _ => rfl]

def isStack9 : Bool := kind = .u64Stack9

/-- From the prologue to the call. -/
def setup : List Instr :=
  signatureCode kind slot ++ moves kind target ++
    [movImm64 ret [0x49, 0xbb] r11 (by decide) fun _ => rfl,
      movImm32 frontend [0x41, 0xbf] r15 (by decide) fun _ => rfl]

/-- What is stored after the call. -/
def results : List Instr :=
  if kind.isAarch64Hfa64Ret then storeDoubles kind.aarch64Hfa64RetCount else []

/-- The pops of the stub. -/
def pops (stack9 : Bool) : List Instr :=
  [⟨[0x48, 0x83, 0xc4, 0x08], .add rsp 8, by decide, fun _ => rfl⟩,
    ⟨[0x41, 0x5f], .pop r15, by decide, fun _ => rfl⟩] ++
    (if stack9 then [⟨[0x41, 0x5c], .pop r12, by decide, fun _ => rfl⟩] else []) ++
    [⟨[0x5b], .pop rbx, by decide, fun _ => rfl⟩]

/-- From the call to the return. -/
def epilogue : List Instr :=
  results kind ++ pops (isStack9 kind)

def pcall : Instr :=
  ⟨emitX86PolyControl ((0x30 + slot).setWidth 8), .control ((0x30 + slot).setWidth 8),
    Nat.le_of_ble_eq_true rfl, fun _ => rfl⟩

def retInstr : Instr := ⟨[0xc3], .ret, by decide, fun _ => rfl⟩

end

/-! ## What the parts keep -/

def Saved (s : X86.State) (ws : List (BitVec 64)) : Prop :=
  Holds s.mem (s.gpr rsp + 8) (wordBytes ws)

structure Keeps (s t : X86.State) : Prop where
  rsp : t.gpr rsp = s.gpr rsp
  r12 : t.gpr r12 = s.gpr r12
  saved : ∀ {ws}, ws.length ≤ 4 → Saved s ws → Saved t ws

theorem Keeps.append {is js : List Instr} (hi : ∀ s, Keeps s (run is s))
    (hj : ∀ s, Keeps s (run js s)) (s : X86.State) : Keeps s (run (is ++ js) s) := by
  rw [run_append]
  have h := hi s
  have h' := hj (run is s)
  exact ⟨h'.rsp.trans h.rsp, h'.r12.trans h.r12, fun hlen hs => h'.saved hlen (h.saved hlen hs)⟩

theorem Keeps.ite {c : Prop} [Decidable c] {is : List Instr} (hi : ∀ s, Keeps s (run is s))
    (s : X86.State) : Keeps s (run (if c then is else []) s) := by
  split
  · exact hi s
  · exact ⟨rfl, rfl, fun _ hs => hs⟩

variable {s : X86.State} {ws : List (BitVec 64)}

theorem Saved.store {b : BitVec 64} (h : Saved s ws)
    (hlen : ws.length ≤ 4) (v : BitVec 64) (hlo : 8 ≤ (s.gpr rsp + 8 - b).toNat)
    (hhi : (s.gpr rsp + 8 - b).toNat ≤ 0x8000) :
    Holds (store s.mem b (toBytes 8 v)) (s.gpr rsp + 8) (wordBytes ws) := by
  refine holds_store_below h v hlo ?_
  rw [length_wordBytes]
  omega

theorem keeps_pushPop (s : X86.State) : Keeps s (run [pushRax, popRax] s) := by
  have hrun : (run [pushRax, popRax] s).gpr rsp = s.gpr rsp - 8 + 8 := rfl
  have hrsp : s.gpr rsp - 8 + 8 = s.gpr rsp := by bv_omega
  refine ⟨hrun.trans hrsp, rfl, fun hlen hs => ?_⟩
  rw [Saved, hrun, hrsp]
  exact hs.store hlen (s.gpr rax) (by bv_omega) (by bv_omega)

theorem keeps_signatureSet (slot kind : BitVec 32) (s : X86.State) :
    Keeps s (run (signatureSet slot kind) s) := by
  have hrun : (run (signatureSet slot kind) s).gpr rsp = s.gpr rsp - 8 - 8 + 8 + 8 := rfl
  have hrsp : s.gpr rsp - 8 - 8 + 8 + 8 = s.gpr rsp := by bv_omega
  refine ⟨hrun.trans hrsp, rfl, fun {ws} hlen hs => ?_⟩
  have h : Saved { s with mem := store s.mem (s.gpr rsp - 8) (toBytes 8 (s.gpr rax)) } ws :=
    hs.store hlen _ (by bv_omega) (by bv_omega)
  rw [Saved, hrun, hrsp]
  exact h.store (b := s.gpr rsp - 8 - 8) hlen (s.gpr rdx) (by bv_omega) (by bv_omega)

theorem keeps_setup (kind : ProcessBridge) (slot : BitVec 32) (target ret : BitVec 64)
    (frontend : BitVec 32) (s : X86.State) :
    Keeps s (run (setup kind slot target ret frontend) s) := by
  have hmoves : ∀ s, Keeps s (run (moves kind target) s) := by
    refine Keeps.append (Keeps.append (Keeps.ite fun s => ?_) (Keeps.ite fun s => ?_)) fun s => ?_
    · unfold loadDoubles
      split <;> exact ⟨rfl, rfl, fun _ hs => hs⟩
    · exact ⟨rfl, rfl, fun _ hs => hs⟩
    · exact ⟨rfl, rfl, fun _ hs => hs⟩
  refine Keeps.append (Keeps.append (Keeps.ite (keeps_signatureSet _ _)) hmoves) (fun s => ?_) s
  exact ⟨rfl, rfl, fun _ hs => hs⟩

/-- The ninth argument is written far below the stack. -/
theorem saved_stack9Moves (hs : Saved s ws)
    (hlen : ws.length ≤ 4) : Saved (run stack9Moves s) ws := by
  have hrun : (run stack9Moves s).gpr rsp = s.gpr rsp := rfl
  have hmem : (run stack9Moves s).mem = store s.mem ((s.gpr rsp + -0x4000 &&& -16) + 0)
    (toBytes 8 (fetch 8 s.mem (s.gpr rsp + 0x38))) := rfl
  have hmask : (s.gpr rsp + -0x4000 &&& -16).toNat =
      (s.gpr rsp + -0x4000).toNat / 2 ^ 4 * 2 ^ 4 :=
    toNat_and_not_mask (m := 15#64) (k := 4) (by decide) _
  rw [Saved, hrun, hmem]
  generalize s.gpr rsp + -0x4000 &&& -16 = b at hmask
  exact hs.store hlen _ (by bv_omega) (by bv_omega)

/-- The words that a stub saves, from the lowest on. -/
def savedWords (stack9 : Bool) (s : X86.State) : List (BitVec 64) :=
  s.gpr r15 :: (if stack9 then [s.gpr r12] else []) ++
    [s.gpr rbx, fetch 8 s.mem (s.gpr rsp)]

theorem pushes_saved (stack9 : Bool) (s : X86.State) :
    (run (pushes stack9) s).gpr rsp = s.gpr rsp - (if stack9 then 32 else 24) ∧
      Saved (run (pushes stack9) s) (savedWords stack9 s) := by
  have hslot : ∀ x : BitVec 64, x - 8 + 8 = x := fun x => by bv_omega
  have hret : Holds s.mem (s.gpr rsp) (wordBytes [fetch 8 s.mem (s.gpr rsp)]) := by
    rw [wordBytes, List.flatMap_cons, List.flatMap_nil, List.append_nil]
    exact holds_fetch s.mem (s.gpr rsp)
  have hrbx := holds_push hret (s.gpr rbx) (by simp)
  cases stack9 with
  | false =>
    have hrun : (run (pushes false) s).gpr rsp = s.gpr rsp - 8 - 8 - 8 := rfl
    refine ⟨by rw [hrun, BitVec.sub_sub, BitVec.sub_sub]; rfl, ?_⟩
    rw [Saved, hrun, hslot]
    exact holds_push hrbx (s.gpr r15) (by simp)
  | true =>
    have hrun : (run (pushes true) s).gpr rsp = s.gpr rsp - 8 - 8 - 8 - 8 := rfl
    refine ⟨by rw [hrun, BitVec.sub_sub, BitVec.sub_sub, BitVec.sub_sub]; rfl, ?_⟩
    rw [Saved, hrun, hslot]
    exact holds_push (holds_push hrbx (s.gpr r12) (by simp)) (s.gpr r15) (by simp)

theorem gpr_stores (ns : List (Fin 4)) (s : X86.State) :
    (run (ns.map storeDouble) s).gpr = s.gpr := by
  induction ns generalizing s with
  | nil => rfl
  | cons n ns ih => exact ih (run [storeDouble n] s)

theorem mem_stores_outside {count : Nat} {a : BitVec 64} {ns : List (Fin 4)}
    (hns : ∀ n ∈ ns, n.val < count) (ha : 8 * count ≤ (a - s.gpr rax).toNat) :
    (run (ns.map storeDouble) s).mem a = s.mem a := by
  induction ns generalizing s with
  | nil => rfl
  | cons n ns ih =>
    obtain ⟨hn, hns⟩ := List.forall_mem_cons.mp hns
    refine (ih (s := run [storeDouble n] s) hns ha).trans (store_outside ?_)
    rw [length_toBytes]
    clear ih
    bv_omega

/-- With the byte `c` all over the vector registers. -/
theorem mem_stores_inside {c : BitVec 8} {a : BitVec 64} {ns : List (Fin 4)}
    (hx : ∀ x, toBytes 8 (s.xmm x) = List.replicate 8 c)
    (ha : s.mem a = c ∨ ∃ n ∈ ns, (a - (s.gpr rax + BitVec.ofNat 64 (n * 8))).toNat < 8) :
    (run (ns.map storeDouble) s).mem a = c := by
  induction ns generalizing s with
  | nil => exact ha.resolve_right fun ⟨_, hn, _⟩ => nomatch hn
  | cons n ns ih =>
    refine ih (s := run [storeDouble n] s) hx ?_
    have hmem : (run [storeDouble n] s).mem a =
        ((List.replicate 8 c)[(a - (s.gpr rax + BitVec.ofNat 64 (n * 8))).toNat]?).getD
          (s.mem a) := by rw [← hx (BitVec.ofNat 3 n)]; rfl
    rw [hmem]
    by_cases hin : (a - (s.gpr rax + BitVec.ofNat 64 (n * 8))).toNat < 8
    · left
      rw [List.getElem?_replicate_of_lt hin]
      rfl
    · rw [List.getElem?_eq_none (by simpa using Nat.not_lt.mp hin), Option.getD_none]
      refine ha.imp_right fun ⟨m, hm, hlt⟩ => ?_
      rcases List.mem_cons.mp hm with rfl | hm
      · exact absurd hlt hin
      · exact ⟨m, hm, hlt⟩

/-- The words that the stub has saved are restored, if and only if they are still on the stack. -/
theorem pops_restore_iff (stack9 : Bool) (s t : X86.State) :
    Saved t (savedWords stack9 s) ↔ (run (pops stack9) t).gpr r15 = s.gpr r15 ∧
      (stack9 → (run (pops stack9) t).gpr r12 = s.gpr r12) ∧
      (run (pops stack9) t).gpr rbx = s.gpr rbx ∧
      fetch 8 (run (pops stack9) t).mem ((run (pops stack9) t).gpr rsp) =
        fetch 8 s.mem (s.gpr rsp) := by
  have hnil : ∀ a, Holds t.mem a (wordBytes []) := fun a i b hb => by cases hb
  cases stack9 with
  | false =>
    simp only [Saved, savedWords, Bool.false_eq_true, if_false, List.nil_append, List.cons_append,
      holds_pop, hnil, and_true, false_implies, true_and]
    rfl
  | true =>
    simp only [Saved, savedWords, if_true, List.cons_append, List.nil_append, holds_pop, hnil,
      and_true, true_implies]
    rfl

theorem pops_rsp (stack9 : Bool) (t : X86.State) :
    (run (pops stack9) t).gpr rsp = t.gpr rsp + (if stack9 then 32 else 24) ∧
      (stack9 = false → (run (pops stack9) t).gpr r12 = t.gpr r12) := by
  cases stack9 with
  | false =>
    have hrun : (run (pops false) t).gpr rsp = t.gpr rsp + 8 + 8 + 8 := rfl
    refine ⟨?_, fun _ => rfl⟩
    rw [hrun, BitVec.add_assoc, BitVec.add_assoc]
    rfl
  | true =>
    have hrun : (run (pops true) t).gpr rsp = t.gpr rsp + 8 + 8 + 8 + 8 := rfl
    refine ⟨?_, fun h => by cases h⟩
    rw [hrun, BitVec.add_assoc, BitVec.add_assoc, BitVec.add_assoc]
    rfl

/-! ## The bytes of the stub -/

theorem patch_replace {bytes : CodeBytes} {o : Nat} {xs ys ys' zs : List (BitVec 8)}
    (h : ys'.length = ys.length) :
    patch (patch bytes o (xs ++ (ys ++ zs))) (o + xs.length) ys' =
      patch bytes o (xs ++ (ys' ++ zs)) := by
  rw [← patch_append, ← patch_append, ← patch_append, ← patch_append, h]
  generalize patch bytes o xs = bytes, o + xs.length = o
  funext i
  by_cases hi : i < o ∨ o + ys'.length ≤ i
  · rw [patch_outside hi]
    exact patch_congr fun _ => by rw [patch_outside (h ▸ hi), patch_outside hi]
  · obtain ⟨k, rfl⟩ : ∃ k, i = o + k := ⟨i - o, by omega⟩
    have hk : k < ys'.length := by omega
    rw [patch_inside (List.getElem?_eq_getElem hk), patch_outside (.inl (by omega)),
      patch_inside (List.getElem?_eq_getElem hk)]

theorem patch_nil (bytes : CodeBytes) (o : Nat) : patch bytes o [] = bytes := by
  funext i
  exact patch_outside (Nat.lt_or_ge i o)

def replay (bytes : CodeBytes) (log : List CodeWrite) : CodeBytes :=
  log.foldl (fun bytes w => patch bytes w.offset w.data) bytes

/-- The computation writes `xs` at `o`, and its value is the offset after it. -/
structure Puts (xs : List (BitVec 8)) (o : Nat) (t : Traced CodeWrite Nat) : Prop where
  value : t.value = some (o + xs.length)
  replay : ∀ bytes, replay bytes t.log = patch bytes o xs

theorem puts_emitAt (xs : List (BitVec 8)) (o : Nat) : Puts xs o (emitAt xs o) :=
  ⟨rfl, fun _ => rfl⟩

theorem Puts.bind {xs ys : List (BitVec 8)} {o : Nat} {t : Traced CodeWrite Nat}
    {f : Nat → Traced CodeWrite Nat} (ht : Puts xs o t)
    (hf : Puts ys (o + xs.length) (f (o + xs.length))) : Puts (xs ++ ys) o (t >>= f) := by
  rw [Traced.bind_some ht.value]
  refine ⟨by rw [hf.value, List.length_append, Nat.add_assoc], fun bytes => ?_⟩
  rw [Polyexec.replay, List.foldl_append]
  refine (congrArg (List.foldl _ · _) (ht.replay bytes)).trans ?_
  rw [← patch_append]
  exact hf.replay _

/-- An operand that is written when its value is known. -/
theorem puts_operand (before operand after last : List (BitVec 8)) (value : Nat → List (BitVec 8))
    (h : ∀ o, (value o).length = operand.length) (o : Nat) :
    Puts (before ++ (value (o + (before ++ (operand ++ after)).length) ++ (after ++ last))) o (do
      let callEnd ← emitAt (before ++ (operand ++ after)) o
      let limit ← emitAt last callEnd
      storeAt (o + before.length) (value callEnd)
      pure limit) := by
  constructor
  · show some (o + (before ++ (operand ++ after)).length + last.length) = _
    simp only [List.length_append, h]
    exact congrArg some (by omega)
  · intro bytes
    show patch (patch (patch bytes o (before ++ (operand ++ after)))
      (o + (before ++ (operand ++ after)).length) last) (o + before.length) (value _) = _
    rw [patch_append, List.append_assoc, List.append_assoc]
    exact patch_replace (h _)

section

variable {kind : ProcessBridge} (slot : BitVec 32)

theorem puts_signature (hkind : kind ∈ x86CallerBridges) (o : Nat) :
    Puts (bytesOf (signatureCode kind slot)) o
      (emitSignatureSet kind.isX86SourceSignature kind (emitX86AbiSignatureSet slot) o) := by
  unfold emitSignatureSet signatureCode
  cases hsource : kind.isX86SourceSignature with
  | false => exact ⟨rfl, fun bytes => (patch_nil bytes o).symm⟩
  | true =>
    have hsome : ∀ k ∈ x86CallerBridges, k.isX86SourceSignature = true →
      k.signatureKind.isSome = true := by decide
    obtain ⟨signature, hsignature⟩ := Option.isSome_iff_exists.mp (hsome kind hkind hsource)
    rw [hsignature]
    exact puts_emitAt _ _

variable (target ret : BitVec 64) (frontend : BitVec 32)

/-- The stub with the return address `ret`. -/
def stubBytes (kind : ProcessBridge) : List (BitVec 8) :=
  bytesOf (prologue (isStack9 kind)) ++ bytesOf (setup kind slot target ret frontend) ++
    (pcall slot).bytes ++ bytesOf (epilogue kind) ++ retInstr.bytes

theorem bytesOf_append (is js : List Instr) : bytesOf (is ++ js) = bytesOf is ++ bytesOf js :=
  List.flatMap_append

theorem bytesOf_moves (kind : ProcessBridge) (target : BitVec 64) : bytesOf (moves kind target) =
    (if kind.isAarch64Hfa64Arg then emitX86LoadHfa64ArgFromStack kind.aarch64Hfa64ArgCount
      else []) ++ (if kind.isAarch64Hfa64Ret then emitX86PreserveSretPtrRax else []) ++
      emitX86MovabsRbx target := by
  simp only [moves, bytesOf_append, apply_ite bytesOf, bytesOf_loadDoubles]
  rfl

theorem bytesOf_setup : bytesOf (setup kind slot target ret frontend) =
    bytesOf (signatureCode kind slot) ++ (bytesOf (moves kind target) ++ ([0x49, 0xbb] ++
      (emitU64 ret ++ emitX86MovR15dImm frontend))) := by
  simp only [setup, bytesOf_append, List.append_assoc]
  rfl

theorem bytesOf_epilogue : bytesOf (epilogue kind) ++ retInstr.bytes =
    (if kind.isAarch64Hfa64Ret then emitX86StoreHfa64ReturnToSret kind.aarch64Hfa64RetCount
      else []) ++ [0x48, 0x83, 0xc4, 0x08, 0x41, 0x5f] ++
      (if kind = .u64Stack9 then [0x41, 0x5c] else []) ++ [0x5b, 0xc3] := by
  simp only [epilogue, results, pops, isStack9, decide_eq_true_eq, bytesOf_append,
    apply_ite bytesOf, bytesOf_storeDoubles]
  simp [bytesOf, retInstr]

/-- The offset in a stub of the instruction after the call. -/
def callEnd (kind : ProcessBridge) : Nat :=
  (bytesOf (prologue (isStack9 kind))).length +
    (bytesOf (setup kind slot target ret frontend)).length + 4

theorem callEnd_eq : callEnd slot target ret frontend kind = callEnd slot target 0 0 kind := by
  simp only [callEnd, bytesOf_setup, List.length_append, emitX86MovR15dImm, length_emitU64,
    length_emitU32]

/-- The emitter writes the stub, with the address after the call as its return address. -/
theorem puts_x86Stub (hkind : kind ∈ x86CallerBridges) (base start : Nat) (callee : Abi.Arch)
    {slot' : BitVec 32} (hslot : slot' = if kind = .u64Stack9 then 0 else slot)
    (hret : ret = BitVec.ofNat 64 (base + (start + callEnd slot' target 0 0 kind))) :
    Puts (stubBytes slot' target ret (frontendOf callee) kind) start
      (x86Stub base callee kind target slot start) := by
  have hprologue : [0x53] ++ (if kind = .u64Stack9 then [0x41, 0x54] else []) ++
      [0x41, 0x57, 0x48, 0x83, 0xec, 0x08, 0x50, 0x58] ++
      (if kind = .u64Stack9 then x86Stack9Arguments else []) =
        bytesOf (prologue (isStack9 kind)) := by
    rw [bytesOf_prologue]
    simp only [isStack9, decide_eq_true_eq]
  have hcall : start + (bytesOf (prologue (isStack9 kind))).length +
      (bytesOf (signatureCode kind slot')).length + (bytesOf (moves kind target)).length +
      ([0x49, 0xbb] ++ (emitU64 0 ++ emitX86PcallSigImm (frontendOf callee) slot')).length =
        start + callEnd slot' target 0 0 kind := by
    simp only [callEnd, bytesOf_setup, List.length_append, length_emitX86PcallSigImm,
      emitX86MovR15dImm, length_emitU64, length_emitU32, List.length_cons, List.length_nil]
    omega
  have hbytes : stubBytes slot' target ret (frontendOf callee) kind =
      bytesOf (prologue (isStack9 kind)) ++ (bytesOf (signatureCode kind slot') ++
      (bytesOf (moves kind target) ++ ([0x49, 0xbb] ++ (emitU64 ret ++
      (emitX86PcallSigImm (frontendOf callee) slot' ++
        (bytesOf (epilogue kind) ++ retInstr.bytes)))))) := by
    simp [stubBytes, bytesOf_setup, emitX86PcallSigImm, pcall]
  rw [hbytes, hret, ← hcall]
  simp only [x86Stub, ← hslot, hprologue, ← bytesOf_epilogue, ← bytesOf_moves]
  exact (puts_emitAt _ _).bind ((puts_signature _ hkind _).bind ((puts_emitAt _ _).bind
    (puts_operand [0x49, 0xbb] (emitU64 0) _ _ (fun o => emitU64 (BitVec.ofNat 64 (base + o)))
      (fun o => rfl) _)))

end

/-! ## A call through the stub -/

section

variable {kind : ProcessBridge} {slot : BitVec 32} {target ret : BitVec 64} {frontend : BitVec 32}

theorem straight_entry :
    (prologue (isStack9 kind) ++ setup kind slot target ret frontend).all (·.op.straight) := by
  cases kind <;> rfl

theorem straight_epilogue : (epilogue kind).all (·.op.straight) := by
  cases kind <;> rfl

theorem prologue_saved (stack9 : Bool) (s : X86.State) :
    (run (prologue stack9) s).gpr rsp = s.gpr rsp - (if stack9 then 32 else 24) ∧
      Saved (run (prologue stack9) s) (savedWords stack9 s) ∧
      (stack9 = false → (run (prologue stack9) s).gpr r12 = s.gpr r12) := by
  obtain ⟨hrsp, hsaved⟩ := pushes_saved stack9 s
  have hlen : (savedWords stack9 s).length ≤ 4 := by cases stack9 <;> simp [savedWords]
  obtain ⟨hkrsp, hr12, hkeeps⟩ := keeps_pushPop (run (pushes stack9) s)
  have hsaved := hkeeps hlen hsaved
  have hrsp := hkrsp.trans hrsp
  have hmoves : ∀ t, (run stack9Moves t).gpr rsp = t.gpr rsp := fun t => rfl
  rw [prologue, run_append, run_append (pushes stack9)]
  generalize run [pushRax, popRax] (run (pushes stack9) s) = t at hrsp hsaved hr12 ⊢
  cases stack9 with
  | false =>
    have hpushes : (run (pushes false) s).gpr r12 = s.gpr r12 := rfl
    simp only [Bool.false_eq_true, if_false] at hrsp ⊢
    exact ⟨hrsp, hsaved, fun _ => hr12.trans hpushes⟩
  | true =>
    simp only [if_true] at hrsp ⊢
    rw [hmoves]
    exact ⟨hrsp, saved_stack9Moves hsaved hlen, fun h => by cases h⟩

theorem setup_rax (hret : kind.isAarch64Hfa64Ret) (s : X86.State) :
    (run (setup kind slot target ret frontend) (run (prologue (isStack9 kind)) s)).gpr rax =
      s.gpr rdi := by
  cases kind <;> cases hret <;> rfl

theorem setup_registers (s : X86.State) :
    (run (setup kind slot target ret frontend) s).gpr rbx = target ∧
      (run (setup kind slot target ret frontend) s).gpr r11 = ret ∧
      (run (setup kind slot target ret frontend) s).gpr r15 = frontend.setWidth 64 := by
  rw [setup, moves, run_append, run_append (signatureCode kind slot), run_append (_ ++ _)]
  exact ⟨rfl, rfl, rfl⟩

/-- At the PCALL, which leaves the x86 frontend, with the registers that it takes. -/
structure AtCall (code : Memory) (r : StubRequest) (p : X86.State) : Prop where
  instr : ∃ slot : BitVec 32, slot.toNat < abiSignatureSlots ∧ Holds code p.rip (pcall slot).bytes
  leaves : step code p = none
  rbx : p.gpr rbx = r.target
  r15 : p.gpr r15 = (frontendOf r.callee).setWidth 64
  r11 : p.gpr r11 = p.rip + 4

variable {code : Memory}

theorem step_pcall {p : X86.State} (hslot : slot.toNat < abiSignatureSlots)
    (h : Holds code p.rip (pcall slot).bytes) : step code p = none := by
  have hne : (0x30 + slot).setWidth 8 ≠ 0x69 := by
    unfold abiSignatureSlots at hslot
    bv_omega
  rw [step_of_holds (pcall slot) h]
  simpa [pcall, Op.exec, Op.straight] using hne

/-- What a PCALL has to preserve: `rsp`, `r12` and the words that the stub saved. -/
structure Preserves (stack9 : Bool) (p q : X86.State) : Prop where
  saved : ∀ i < if stack9 then 32 else 24,
    q.mem (p.gpr rsp + 8 + BitVec.ofNat 64 i) = p.mem (p.gpr rsp + 8 + BitVec.ofNat 64 i)
  rip : q.rip = p.gpr r11
  rsp : q.gpr rsp = p.gpr rsp
  r12 : q.gpr r12 = p.gpr r12

/-- After the return to the caller of `s`. -/
structure Returns (s t : X86.State) : Prop where
  rip : t.rip = fetch 8 s.mem (s.gpr rsp)
  rsp : t.gpr rsp = s.gpr rsp + 8
  rbx : t.gpr rbx = s.gpr rbx
  r12 : t.gpr r12 = s.gpr r12
  r15 : t.gpr r15 = s.gpr r15

/-- No saved byte, from `a` on, is in a result of `count` doubles at `b`. -/
def ResultApart (count : Nat) (a b : BitVec 64) : Prop :=
  ∀ i < 24, 8 * count ≤ (a + BitVec.ofNat 64 i - b).toNat

/-- From `s` on the stub reaches the call with its registers and an aligned stack, and after any
call that keeps `rsp`, `r12`, the saved words and the registers `kept`, it returns to its caller. -/
def StubCorrect (code : Memory) (r : StubRequest) (kept : List Reg) (s : X86.State) : Prop :=
  ∃ p, Reaches code s p ∧ AtCall code r p ∧ (p.gpr rsp).toNat % 16 = 0 ∧
    ∀ q, Preserves (isStack9 r.bridge) p q → (∀ x ∈ kept, q.gpr x = p.gpr x) →
      ∃ t, ReturnsTo code q t ∧ Returns s t

theorem mem_slots_iff (kind : ProcessBridge) (n : Fin 4) :
    n ∈ (if kind.aarch64Hfa64RetCount = 4 then [0, 1, 2, 3] else [0, 1, 2]) ↔
      n.val < kind.aarch64Hfa64RetCount := by
  unfold ProcessBridge.aarch64Hfa64RetCount
  revert n
  split <;> decide

theorem gpr_results (kind : ProcessBridge) (q : X86.State) :
    (run (results kind) q).gpr = q.gpr := by
  unfold results
  split
  · exact gpr_stores _ q
  · rfl

theorem saved_results {q : X86.State} (hs : Saved q ws)
    (hlen : kind.isAarch64Hfa64Ret → ws.length = 3)
    (hapart : kind.isAarch64Hfa64Ret →
      ResultApart kind.aarch64Hfa64RetCount (q.gpr rsp + 8) (q.gpr rax)) :
    Saved (run (results kind) q) ws := by
  intro i b hb
  rw [gpr_results]
  refine Eq.trans ?_ (hs i b hb)
  unfold results
  split
  next hret =>
    have hi := (List.getElem?_eq_some_iff.mp hb).1
    rw [length_wordBytes, hlen hret] at hi
    exact mem_stores_outside (fun n hn => (mem_slots_iff kind n).mp hn) (hapart hret i hi)
  next => rfl

theorem not_resultApart_self (kind : ProcessBridge) (a : BitVec 64) :
    ¬ResultApart kind.aarch64Hfa64RetCount a a := by
  intro h
  have hzero := h 0 (by decide)
  rw [BitVec.add_zero, BitVec.sub_self] at hzero
  revert hzero
  unfold ProcessBridge.aarch64Hfa64RetCount
  split <;> decide

/-- A byte of the result in the saved words: a call with another byte in its result is one after
which the words are lost. -/
theorem exists_not_saved_results {p : X86.State} {b : BitVec 64} (hret : kind.isAarch64Hfa64Ret)
    (hlen : ws.length = 3) (h : ¬ResultApart kind.aarch64Hfa64RetCount (p.gpr rsp + 8) b) :
    ∃ q, Preserves false p q ∧ q.gpr rax = b ∧ ¬Saved (run (results kind) q) ws := by
  simp only [ResultApart, not_forall, not_le] at h
  obtain ⟨i, hi, hlt⟩ := h
  have hi' : i < (wordBytes ws).length := by rw [length_wordBytes, hlen]; exact hi
  obtain ⟨v, c, hv, hc⟩ : ∃ (v : BitVec 64) (c : BitVec 8), toBytes 8 v = List.replicate 8 c ∧
      c ≠ (wordBytes ws)[i] := by
    by_cases hzero : (0 : BitVec 8) = (wordBytes ws)[i]
    · exact ⟨-1, -1, by decide, hzero ▸ by decide⟩
    · exact ⟨0, 0, by decide, hzero⟩
  refine ⟨⟨p.gpr r11, (p.set rax b).gpr, fun _ => v, p.mem⟩, ⟨fun _ _ => rfl, rfl, rfl, rfl⟩, rfl,
    fun hs => hc ?_⟩
  refine Eq.trans ?_ (hs i _ (List.getElem?_eq_getElem hi'))
  rw [gpr_results, results, if_pos hret]
  symm
  refine mem_stores_inside (fun _ => hv) (.inr ?_)
  have hcount : kind.aarch64Hfa64RetCount ≤ 4 := by
    unfold ProcessBridge.aarch64Hfa64RetCount
    split <;> decide
  obtain ⟨n, hn⟩ : ∃ n, n = (p.gpr rsp + 8 + BitVec.ofNat 64 i - b).toNat / 8 := ⟨_, rfl⟩
  have hlt' : n < kind.aarch64Hfa64RetCount := by omega
  refine ⟨⟨n, Nat.lt_of_lt_of_le hlt' hcount⟩, (mem_slots_iff kind _).mpr hlt', ?_⟩
  show (p.gpr rsp + 8 + BitVec.ofNat 64 i - (b + BitVec.ofNat 64 (n * 8))).toNat < 8
  rw [← BitVec.sub_sub]
  generalize p.gpr rsp + 8 + BitVec.ofNat 64 i - b = d at hlt hn
  bv_omega

theorem Preserves.saved_of {stack9 : Bool} {s p q : X86.State} (h : Preserves stack9 p q)
    (hs : Saved p (savedWords stack9 s)) : Saved q (savedWords stack9 s) := by
  have hlen : 8 * (savedWords stack9 s).length = if stack9 then 32 else 24 := by
    cases stack9 <;> rfl
  intro i b hb
  have hi := (List.getElem?_eq_some_iff.mp hb).1
  rw [length_wordBytes, hlen] at hi
  rw [h.rsp, h.saved i hi]
  exact hs i b hb

/-- The stub that was entered at `s` is at its call in `p`. -/
structure CallAt (code : Memory) (r : StubRequest) (s p : X86.State) : Prop where
  reaches : Reaches code s p
  call : AtCall code r p
  rsp : p.gpr rsp = s.gpr rsp - (if isStack9 r.bridge then 32 else 24)
  saved : Saved p (savedWords (isStack9 r.bridge) s)
  rax : r.bridge.isAarch64Hfa64Ret → p.gpr rax = s.gpr rdi
  returns : ∀ q, Preserves (isStack9 r.bridge) p q → ∃ t, ReturnsTo code q t ∧
    (Returns s t ↔ Saved (run (results r.bridge) q) (savedWords (isStack9 r.bridge) s))

/-- The code of one stub, from its entry to the call and from there to the return. -/
theorem stubBytes_run (r : StubRequest) (hslot : slot.toNat < abiSignatureSlots)
    (hcode : Holds code s.rip (stubBytes slot r.target ret (frontendOf r.callee) r.bridge))
    (hret : ret = s.rip + BitVec.ofNat 64 (callEnd slot r.target 0 0 r.bridge)) :
    ∃ p, CallAt code r s p := by
  obtain ⟨kind, hkind⟩ : ∃ kind, kind = r.bridge := ⟨_, rfl⟩
  rw [← hkind] at hcode hret
  unfold stubBytes at hcode
  rw [← bytesOf_append, holds_append, holds_append, holds_append] at hcode
  obtain ⟨⟨⟨hentry, hcall⟩, hepilogue⟩, hlast⟩ := hcode
  obtain ⟨hrsp, hsaved, hr12⟩ := prologue_saved (isStack9 kind) s
  obtain ⟨p, hp⟩ : ∃ p, p = run (prologue (isStack9 kind) ++
    setup kind slot r.target ret (frontendOf r.callee)) s := ⟨_, rfl⟩
  have hrip : p.rip = s.rip + BitVec.ofNat 64 (bytesOf (prologue (isStack9 kind) ++
      setup kind slot r.target ret (frontendOf r.callee))).length := hp ▸ rip_run _ s
  rw [← hrip] at hcall
  have hreaches : Reaches code s p :=
    hp ▸ (proceeds_run hentry straight_entry).lift id fun _ _ h => h.2
  rw [run_append] at hp
  have hregs : p.gpr rbx = r.target ∧ p.gpr r11 = ret ∧
      p.gpr r15 = (frontendOf r.callee).setWidth 64 := hp ▸ setup_registers _
  have hkeeps : Keeps (run (prologue (isStack9 kind)) s) p := hp ▸ keeps_setup _ _ _ _ _ _
  have hnext : p.gpr r11 = p.rip + 4 := by
    rw [hregs.2.1, hret, hrip, ← callEnd_eq slot r.target ret (frontendOf r.callee), callEnd,
      bytesOf_append, List.length_append, ← BitVec.ofNat_add_ofNat, BitVec.add_assoc]
    rfl
  have hrax : kind.isAarch64Hfa64Ret → p.gpr rax = s.gpr rdi := fun hret => hp ▸ setup_rax hret s
  have hlen : (savedWords (isStack9 kind) s).length ≤ 4 := by
    cases isStack9 kind <;> simp [savedWords]
  refine ⟨p, hreaches, ⟨⟨slot, hslot, hcall⟩, step_pcall hslot hcall, hregs.1, hregs.2.2, hnext⟩,
    hkind ▸ hkeeps.rsp.trans hrsp, hkind ▸ hkeeps.saved hlen hsaved, hkind ▸ hrax, ?_⟩
  rw [← hkind]
  intro q hq
  have hqrip : q.rip = p.rip + BitVec.ofNat 64 (pcall slot).bytes.length := hq.rip.trans hnext
  have hback : Holds code q.rip (bytesOf (epilogue kind)) := by
    rw [hqrip, hrip, BitVec.add_assoc, BitVec.ofNat_add_ofNat, ← List.length_append]
    exact hepilogue
  have hlast : Holds code (run (epilogue kind) q).rip retInstr.bytes := by
    rw [rip_run, hqrip, hrip, BitVec.add_assoc, BitVec.add_assoc, BitVec.ofNat_add_ofNat,
      BitVec.ofNat_add_ofNat, ← List.length_append, ← List.length_append, ← List.append_assoc]
    exact hlast
  refine ⟨_, ⟨_, proceeds_run hback straight_epilogue, hlast.head, step_of_holds retInstr hlast⟩,
    ?_⟩
  rw [pops_restore_iff, ← run_append, ← epilogue]
  obtain ⟨hvrsp, hvr12⟩ := pops_rsp (isStack9 kind) (run (results kind) q)
  rw [← run_append, ← epilogue, gpr_results] at hvrsp hvr12
  generalize run (epilogue kind) q = v at hvrsp hvr12
  refine ⟨fun h => ⟨h.r15, fun _ => h.r12, h.rbx, h.rip⟩, fun ⟨hr15, hr12', hrbx, hfetch⟩ =>
    ⟨hfetch, ?_, hrbx, ?_, hr15⟩⟩
  · show v.gpr rsp + 8 = s.gpr rsp + 8
    rw [hvrsp, hq.rsp, hkeeps.rsp, hrsp, BitVec.sub_add_cancel]
  · show v.gpr r12 = s.gpr r12
    by_cases hstack9 : isStack9 kind
    · exact hr12' hstack9
    · have hstack9 := Bool.eq_false_iff.mpr hstack9
      rw [hvr12 hstack9, hq.r12, hkeeps.r12, hr12 hstack9]

/-- The last stub in the arena is one for `r`, at the address `addr`. -/
def HasStub (r : StubRequest) (addr : BitVec 64) (a : StubArena) : Prop :=
  ∃ (slot : BitVec 32) (start : Nat) (bytes : CodeBytes),
    let stub := stubBytes slot r.target
      (addr + BitVec.ofNat 64 (callEnd slot r.target 0 0 r.bridge)) (frontendOf r.callee) r.bridge
    slot.toNat < abiSignatureSlots ∧ addr = BitVec.ofNat 64 (a.code + start) ∧
      a.offset = start + stub.length ∧ a.bytes = patch bytes start stub

variable {r : StubRequest}

theorem emitCallerStub_hasStub (hcaller : r.caller = .x86)
    (hkind : r.bridge ∈ x86CallerBridges) {slot : BitVec 32}
    (hslot : slot.toNat < abiSignatureSlots) (pcallTarget : BitVec 64) :
    Attempt.Ensures (fun _ => True) (emitCallerStub r pcallTarget slot) (fun _ => True)
      (HasStub r) := by
  unfold emitCallerStub
  rw [hcaller]
  refine .get_bind fun a _ => .ite (fun _ => .fail fun _ _ => trivial) fun _ => ?_
  rintro _ rfl
  obtain ⟨hvalue, hlog⟩ := puts_x86Stub slot r.target _ hkind a.code a.offset r.callee rfl rfl
  have hslot' : (if r.bridge = .u64Stack9 then 0 else slot).toNat < abiSignatureSlots := by
    split
    · decide
    · exact hslot
  beta_reduce
  generalize x86Stub a.code r.callee r.bridge r.target slot a.offset = t at hvalue hlog ⊢
  obtain ⟨log, value⟩ := t
  obtain rfl : value = _ := hvalue
  show HasStub r (BitVec.ofNat 64 (a.code + a.offset))
    { a with offset := _, bytes := replay a.bytes log, writes := a.writes ++ log }
  refine ⟨_, a.offset, a.bytes, hslot', rfl, ?_⟩
  rw [BitVec.ofNat_add_ofNat, Nat.add_assoc]
  exact ⟨rfl, hlog a.bytes⟩

theorem emitCrossIsa_hasStub (host : StubHost) (mmap : Option StubMapping)
    (hcaller : r.caller = .x86) (hcallee : r.callee ≠ .x86) :
    Attempt.Ensures (fun _ => True) (emitProcessCrossIsaCallStub host mmap r) (fun _ => True)
      (HasStub r) := by
  have htrivial : ∀ {α : Type} (m : Attempt StubArena α),
      Attempt.Ensures (fun _ => True) m (fun _ => True) fun _ _ => True := by
    intro α m s _
    split <;> trivial
  refine .ite (fun hsame => absurd (hsame.symm.trans hcaller) hcallee) fun _ => ?_
  refine .ite (fun _ => .fail fun _ _ => trivial) fun haccepted => ?_
  have hkind : r.bridge ∈ x86CallerBridges := by
    by_contra hkind
    exact haccepted (by simp [StubRequest.rejected, hcaller, hkind])
  refine .bind (htrivial _) fun _ => .bind (htrivial _) fun _ => .bind (htrivial _) fun target => ?_
  split
  · exact .fail fun _ _ => trivial
  · refine .ite (fun _ => .fail fun _ _ => trivial) fun hslot => ?_
    exact emitCallerStub_hasStub hcaller hkind (Nat.not_le.mp hslot) target

theorem emitted_stub_runs {host : StubHost} {mmap : Option StubMapping}
    {a a' : StubArena} {addr : BitVec 64} (hcaller : r.caller = .x86) (hcallee : r.callee ≠ .x86)
    (hemit : emitProcessCrossIsaCallStub host mmap r a = (some addr, a'))
    (hcode : ∀ i < a'.offset, code (BitVec.ofNat 64 (a'.code + i)) = a'.bytes i)
    (hrip : s.rip = addr) : ∃ p, CallAt code r s p := by
  have h : HasStub r addr a' := by
    have h := emitCrossIsa_hasStub host mmap hcaller hcallee a trivial
    rwa [hemit] at h
  obtain ⟨slot, start, bytes, hslot, haddr, hoffset, hbytes⟩ := h
  subst hrip
  refine stubBytes_run r hslot (fun i b hb => ?_) rfl
  have hi := (List.getElem?_eq_some_iff.mp hb).1
  rw [haddr, BitVec.ofNat_add_ofNat, Nat.add_assoc, hcode _ (by omega), hbytes]
  exact patch_inside hb

theorem aligned_iff {kind : ProcessBridge} {x y : BitVec 64}
    (hy : y = x - (if isStack9 kind then 32 else 24)) (hx : x.toNat % 16 = 8) :
    y.toNat % 16 = 0 ↔ kind ≠ .u64Stack9 := by
  rw [hy]
  by_cases hkind : kind = .u64Stack9
  · simp only [isStack9, hkind, decide_true, if_true, ne_eq, not_true, iff_false]
    bv_omega
  · simp only [isStack9, hkind, decide_false, Bool.false_eq_true, if_false, ne_eq, not_false_iff,
      iff_true]
    bv_omega

theorem isStack9_of_ret (h : kind.isAarch64Hfa64Ret) : isStack9 kind = false := by
  cases kind <;> first | rfl | cases h

theorem x86_stub_correct_iff (host : StubHost) (mmap : Option StubMapping) (r : StubRequest)
    (a a' : StubArena) (addr : BitVec 64) (code : Memory) (s : X86.State)
    (hcaller : r.caller = .x86) (hcallee : r.callee ≠ .x86)
    (hemit : emitProcessCrossIsaCallStub host mmap r a = (some addr, a'))
    (hcode : ∀ i < a'.offset, code (BitVec.ofNat 64 (a'.code + i)) = a'.bytes i)
    (hrip : s.rip = addr) (hrsp : (s.gpr rsp).toNat % 16 = 8) :
    (StubCorrect code r [] s ↔ r.bridge ≠ .u64Stack9 ∧ ¬r.bridge.isAarch64Hfa64Ret) ∧
      (StubCorrect code r [rax] s ↔ r.bridge ≠ .u64Stack9 ∧
        (r.bridge.isAarch64Hfa64Ret →
          ResultApart r.bridge.aarch64Hfa64RetCount (s.gpr rsp - 16) (s.gpr rdi))) := by
  obtain ⟨p, hp⟩ := emitted_stub_runs hcaller hcallee hemit hcode hrip
  have hiff : ∀ kept, StubCorrect code r kept s ↔ r.bridge ≠ .u64Stack9 ∧
      ∀ q, Preserves (isStack9 r.bridge) p q → (∀ x ∈ kept, q.gpr x = p.gpr x) →
        Saved (run (results r.bridge) q) (savedWords (isStack9 r.bridge) s) := by
    intro kept
    rw [← aligned_iff hp.rsp hrsp]
    constructor
    · rintro ⟨p', hreaches', hcall', haligned, h⟩
      obtain rfl := hp.reaches.unique hreaches' hp.call.leaves hcall'.leaves
      refine ⟨haligned, fun q hq hkept => ?_⟩
      obtain ⟨t, ht, hiff⟩ := hp.returns q hq
      obtain ⟨u, hu, hreturns⟩ := h q hq hkept
      exact hiff.mp (ht.unique hu ▸ hreturns)
    · rintro ⟨haligned, h⟩
      refine ⟨p, hp.reaches, hp.call, haligned, fun q hq hkept => ?_⟩
      obtain ⟨t, ht, hiff⟩ := hp.returns q hq
      exact ⟨t, ht, hiff.mpr (h q hq hkept)⟩
  have hlen : r.bridge.isAarch64Hfa64Ret → (savedWords (isStack9 r.bridge) s).length = 3 :=
    fun hret => by rw [isStack9_of_ret hret]; rfl
  have hbase : r.bridge.isAarch64Hfa64Ret → s.gpr rsp - 16 = p.gpr rsp + 8 := fun hret => by
    rw [hp.rsp, isStack9_of_ret hret, if_neg Bool.false_ne_true]
    bv_omega
  rw [hiff, hiff]
  refine ⟨and_congr_right fun _ => ⟨fun h hret => ?_, fun hret q hq _ => ?_⟩,
    and_congr_right fun _ => ⟨fun h hret => ?_, fun h q hq hkept => ?_⟩⟩
  · -- The call may return with `rax` at the saved words.
    obtain ⟨q, hq, -, hlost⟩ := exists_not_saved_results hret (hlen hret) (not_resultApart_self _ _)
    exact hlost (h q (isStack9_of_ret hret ▸ hq) (by simp))
  · exact saved_results (hq.saved_of hp.saved) (absurd · hret) (absurd · hret)
  · by_contra hapart
    rw [hbase hret] at hapart
    obtain ⟨q, hq, hb, hlost⟩ := exists_not_saved_results hret (hlen hret) hapart
    exact hlost (h q (isStack9_of_ret hret ▸ hq) (by simpa using hb.trans (hp.rax hret).symm))
  · refine saved_results (hq.saved_of hp.saved) hlen fun hret => ?_
    rw [hq.rsp, hkept rax (by simp), hp.rax hret, ← hbase hret]
    exact h hret

/-- The arena after the first stub of `stubCallAt`, the code in it and a state at its start. -/
def stubArena (bridge : ProcessBridge) : StubArena :=
  (serveStub (stubCallAt .x86 .aarch64 bridge) .empty).arena

def stubCode (bridge : ProcessBridge) : Memory := fun x =>
  (stubArena bridge).bytes (x.toNat - 0x10000)

def stubEntry : X86.State := ⟨0x10000, fun _ => 8, fun _ => 0, fun _ => 0⟩

theorem stubCode_eq {bridge : ProcessBridge} (hcode : (stubArena bridge).code = 0x10000)
    (hoffset : (stubArena bridge).offset ≤ 0x10000) : ∀ i < (stubArena bridge).offset,
      stubCode bridge (BitVec.ofNat 64 ((stubArena bridge).code + i)) =
        (stubArena bridge).bytes i := by
  intro i hi
  rw [hcode, stubCode, toNat_ofNat_of_lt (by omega), Nat.add_sub_cancel_left]

/-- An aggregate of three doubles, stored above the frame of the stub. -/
theorem x86_stub_correct_iff_hfa3 :
    StubCorrect (stubCode .aarch64Hfa3F64Ret) (stubCallAt .x86 .aarch64 .aarch64Hfa3F64Ret).request
      [rax] { stubEntry with gpr := fun r => if r = rdi then 16 else 8 } := by
  refine (x86_stub_correct_iff _ _ (stubCallAt .x86 .aarch64 .aarch64Hfa3F64Ret).request .empty
    (stubArena .aarch64Hfa3F64Ret) 0x10000 (stubCode .aarch64Hfa3F64Ret) _ rfl (by decide)
    (Prod.ext (by decide +kernel) rfl) (stubCode_eq (by decide +kernel) (by decide +kernel)) rfl
    (by decide)).2.mpr ⟨by decide, fun _ => ?_⟩
  unfold ResultApart
  decide

/-- With nine arguments the stack that the callee gets is 8 bytes off. -/
theorem x86_stub_stack9_misaligned : ∃ p, Reaches (stubCode .u64Stack9) stubEntry p ∧
    AtCall (stubCode .u64Stack9) (stubCallAt .x86 .aarch64 .u64Stack9).request p ∧
    (p.gpr rsp).toNat % 16 = 8 := by
  have hemit : emitProcessCrossIsaCallStub _ _ (stubCallAt .x86 .aarch64 .u64Stack9).request
      { StubArena.empty with writes := [] } = (some 0x10000, stubArena .u64Stack9) :=
    Prod.ext (by decide +kernel) rfl
  obtain ⟨p, hp⟩ := emitted_stub_runs (s := stubEntry) rfl (by decide) hemit
    (stubCode_eq (by decide +kernel) (by decide +kernel)) rfl
  exact ⟨p, hp.reaches, hp.call, hp.rsp ▸ by decide⟩

end

end Poly.Polyexec
