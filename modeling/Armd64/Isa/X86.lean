import Mathlib.Logic.Relation
import Armd64.Lib.Code

/-!
# The x86-64 instructions of a call stub

Moves between registers and the stack, with their encodings and effects as the architecture defines
them. The escape `0f 3a fc` is the control instruction of the poly frontends: 0x69 sets a signature
slot, and the others leave the x86 frontend. Of the vector registers only the low halves are there.
-/

namespace Isa.X86

abbrev Reg := BitVec 4

abbrev rax : Reg := 0

abbrev rcx : Reg := 1

abbrev rdx : Reg := 2

abbrev rbx : Reg := 3

abbrev rsp : Reg := 4

abbrev rsi : Reg := 6

abbrev rdi : Reg := 7

abbrev r11 : Reg := 11

abbrev r12 : Reg := 12

abbrev r15 : Reg := 15

structure State where
  rip : BitVec 64
  gpr : Reg → BitVec 64
  xmm : BitVec 3 → BitVec 64
  mem : Hw.Memory

def State.set (s : State) (r : Reg) (v : BitVec 64) : State :=
  { s with gpr := fun q => if q = r then v else s.gpr q }

inductive Place
  | reg (r : Reg)
  | mem (base : Reg) (disp : BitVec 64)

inductive Op
  | push (r : Reg)
  | pop (r : Reg)
  | add (r : Reg) (imm : BitVec 64)
  | and (r : Reg) (imm : BitVec 64)
  | sub (r : Reg) (imm : BitVec 64)
  | movImm (r : Reg) (imm : BitVec 64)
  | mov (dst src : Reg)
  | load (dst base : Reg) (disp : BitVec 64)
  | store (base : Reg) (disp : BitVec 64) (src : Reg)
  | lea (dst base : Reg) (disp : BitVec 64)
  | movsd (dst src : BitVec 3)
  | loadDouble (dst : BitVec 3) (base : Reg) (disp : BitVec 64)
  | storeDouble (base : Reg) (disp : BitVec 64) (src : BitVec 3)
  | control (subop : BitVec 8)
  | ret

/-! ## Decoding -/

/-- The word of the first `n` bytes. -/
def immediate (n : Nat) (bytes : List (BitVec 8)) : BitVec (8 * n) :=
  Hw.ofWords n fun i => bytes.getD i 0

/-- A ModRM byte with what belongs to it: the register, the other operand and the bytes after it. -/
def operands (r b : BitVec 1) : List (BitVec 8) → Option (Reg × Place × List (BitVec 8))
  | [] => none
  | modrm :: rest =>
    let reg := r ++ modrm.extractLsb' 3 3
    let base := b ++ modrm.extractLsb' 0 3
    let mode := modrm.extractLsb' 6 2
    -- The base `rsp` or `r12` is in a SIB byte, which has no index here.
    let sib := modrm.extractLsb' 0 3 = 4 ∧ mode ≠ 3
    if sib ∧ rest.headD 0 ≠ 0x24 then none
    else
      let rest := if sib then rest.drop 1 else rest
      if mode = 3 then some (reg, .reg base, rest)
      else if mode = 2 then
        some (reg, .mem base ((immediate 4 rest).signExtend 64), rest.drop 4)
      else if mode = 1 then
        rest.head?.map fun disp => (reg, .mem base (disp.signExtend 64), rest.drop 1)
      else if modrm.extractLsb' 0 3 = 5 then none
      else some (reg, .mem base 0, rest)

/-- The 64-bit instructions with a ModRM byte. -/
def decodeMove (opcode : BitVec 8) (reg : Reg) (rest : List (BitVec 8)) :
    Place → Option (Op × List (BitVec 8))
  | .reg r =>
    if opcode = 0x83 then
      rest.head?.bind fun imm =>
        if reg.extractLsb' 0 3 = 0 then some (.add r (imm.signExtend 64), rest.drop 1)
        else if reg.extractLsb' 0 3 = 4 then some (.and r (imm.signExtend 64), rest.drop 1)
        else if reg.extractLsb' 0 3 = 5 then some (.sub r (imm.signExtend 64), rest.drop 1)
        else none
    else if opcode = 0x89 then some (.mov r reg, rest)
    else if opcode = 0x8b then some (.mov reg r, rest)
    else none
  | .mem base disp =>
    if opcode = 0x89 then some (.store base disp reg, rest)
    else if opcode = 0x8b then some (.load reg base disp, rest)
    else if opcode = 0x8d then some (.lea reg base disp, rest)
    else none

/-- An instruction after its REX prefix, of which `w`, `r` and `b` are bits. -/
def decodeRex (w r b : BitVec 1) : List (BitVec 8) → Option (Op × List (BitVec 8))
  | [] => none
  | opcode :: rest =>
    let reg := b ++ opcode.extractLsb' 0 3
    if opcode.extractLsb' 3 5 = 0x0a then some (.push reg, rest)
    else if opcode.extractLsb' 3 5 = 0x0b then some (.pop reg, rest)
    else if opcode.extractLsb' 3 5 = 0x17 then
      if w = 1 then some (.movImm reg (immediate 8 rest), rest.drop 8)
      else some (.movImm reg ((immediate 4 rest).setWidth 64), rest.drop 4)
    else if opcode = 0xc3 then some (.ret, rest)
    else if w = 0 then none
    else (operands r b rest).bind fun (reg, place, rest) => decodeMove opcode reg rest place

/-- The scalar moves of doubles. -/
def decodeDouble (opcode : BitVec 8) (bytes : List (BitVec 8)) : Option (Op × List (BitVec 8)) :=
  (operands 0 0 bytes).bind fun (reg, place, rest) =>
    let x := reg.extractLsb' 0 3
    match place with
    | .reg r =>
      if opcode = 0x10 then some (.movsd x (r.extractLsb' 0 3), rest)
      else if opcode = 0x11 then some (.movsd (r.extractLsb' 0 3) x, rest)
      else none
    | .mem base disp =>
      if opcode = 0x10 then some (.loadDouble x base disp, rest)
      else if opcode = 0x11 then some (.storeDouble base disp x, rest)
      else none

/-- The first instruction, and the bytes after it. -/
def decode : List (BitVec 8) → Option (Op × List (BitVec 8))
  | [] => none
  | first :: rest =>
    if first = 0xf2 then
      if rest.headD 0 = 0x0f then (rest[1]?).bind fun opcode => decodeDouble opcode (rest.drop 2)
      else none
    else if first = 0x0f then
      if rest.headD 0 = 0x3a ∧ rest.getD 1 0 = 0xfc then
        (rest[2]?).map fun subop => (.control subop, rest.drop 3)
      else none
    else if first.extractLsb' 4 4 = 4 then
      -- A prefix with the bit X gives an index.
      if first.extractLsb' 1 1 = 1 then none
      else decodeRex (first.extractLsb' 3 1) (first.extractLsb' 2 1) (first.extractLsb' 0 1) rest
    else decodeRex 0 0 0 (first :: rest)

/-! ## Execution -/

namespace Op

/-- What an instruction does to registers and memory. -/
def effect (s : State) : Op → State
  | push r =>
    { s.set rsp (s.gpr rsp - 8) with
      mem := Hw.store s.mem (s.gpr rsp - 8) (Hw.toBytes 8 (s.gpr r)) }
  | pop r => (s.set rsp (s.gpr rsp + 8)).set r (Hw.fetch 8 s.mem (s.gpr rsp))
  | add r imm => s.set r (s.gpr r + imm)
  | and r imm => s.set r (s.gpr r &&& imm)
  | sub r imm => s.set r (s.gpr r - imm)
  | movImm r imm => s.set r imm
  | mov dst src => s.set dst (s.gpr src)
  | load dst base disp => s.set dst (Hw.fetch 8 s.mem (s.gpr base + disp))
  | store base disp src =>
    { s with mem := Hw.store s.mem (s.gpr base + disp) (Hw.toBytes 8 (s.gpr src)) }
  | lea dst base disp => s.set dst (s.gpr base + disp)
  | movsd dst src => { s with xmm := fun x => if x = dst then s.xmm src else s.xmm x }
  | loadDouble dst base disp =>
    { s with xmm := fun x =>
        if x = dst then Hw.fetch 8 s.mem (s.gpr base + disp) else s.xmm x }
  | storeDouble base disp src =>
    { s with mem := Hw.store s.mem (s.gpr base + disp) (Hw.toBytes 8 (s.xmm src)) }
  | control _ => s
  | ret => s.set rsp (s.gpr rsp + 8)

/-- Whether the instruction after this one in memory is the next one. -/
def straight : Op → Bool
  | control subop => subop = 0x69
  | ret => false
  | _ => true

/-- One instruction, with the address after it. There is no state after a control instruction that
leaves the frontend. -/
def exec (next : BitVec 64) (s : State) (op : Op) : Option State :=
  if op.straight then some { op.effect s with rip := next }
  else
    match op with
    | ret => some { ret.effect s with rip := Hw.fetch 8 s.mem (s.gpr rsp) }
    | _ => none

end Op

def maxInstrBytes : Nat := 15

def step (code : Hw.Memory) (s : State) : Option State :=
  let window := (List.range maxInstrBytes).map fun k => code (s.rip + BitVec.ofNat 64 k)
  (decode window).bind fun (op, rest) =>
    op.exec (s.rip + BitVec.ofNat 64 (maxInstrBytes - rest.length)) s

/-- Some steps, with the code in a memory that the program does not write. -/
def Reaches (code : Hw.Memory) : State → State → Prop :=
  Relation.ReflTransGen fun s t => step code s = some t

/-- A step of another instruction than `ret`. -/
def Proceeds (code : Hw.Memory) (s t : State) : Prop :=
  code s.rip ≠ 0xc3 ∧ step code s = some t

/-- The steps to the next `ret`, and that one. -/
def ReturnsTo (code : Hw.Memory) (s t : State) : Prop :=
  ∃ v, Relation.ReflTransGen (Proceeds code) s v ∧ code v.rip = 0xc3 ∧ step code v = some t

/-- A relation with one successor has one way to end. -/
theorem eq_of_ends {α : Type} {r : α → α → Prop} {a b c : α} (hr : Relator.RightUnique r)
    (hb : Relation.ReflTransGen r a b) (hc : Relation.ReflTransGen r a c) (hb' : ∀ d, ¬r b d)
    (hc' : ∀ d, ¬r c d) : b = c := by
  rcases hb.total_of_right_unique hr hc with h | h
  · rcases h.cases_head with h | ⟨d, hd, -⟩
    · exact h
    · exact absurd hd (hb' d)
  · rcases h.cases_head with h | ⟨d, hd, -⟩
    · exact h.symm
    · exact absurd hd (hc' d)

theorem Reaches.unique {code : Hw.Memory} {s t u : State} (ht : Reaches code s t)
    (hu : Reaches code s u) (htend : step code t = none) (huend : step code u = none) : t = u := by
  refine eq_of_ends (fun _ _ _ h h' => Option.some.inj (h.symm.trans h')) ht hu ?_ ?_
  · simp [htend]
  · simp [huend]

theorem ReturnsTo.unique {code : Hw.Memory} {s t u : State} (ht : ReturnsTo code s t)
    (hu : ReturnsTo code s u) : t = u := by
  obtain ⟨v, hv, hvret, hvt⟩ := ht
  obtain ⟨w, hw, hwret, hwu⟩ := hu
  obtain rfl := eq_of_ends (fun _ _ _ h h' => Option.some.inj (h.2.symm.trans h'.2)) hv hw
    (fun _ h => h.1 hvret) fun _ h => h.1 hwret
  exact Option.some.inj (hvt.symm.trans hwu)

/-- An instruction with its bytes. -/
structure Instr where
  bytes : List (BitVec 8)
  op : Op
  length_le : bytes.length ≤ maxInstrBytes
  decode_eq : ∀ rest, decode (bytes ++ rest) = some (op, rest)

theorem step_of_holds {code : Hw.Memory} {s : State} (i : Instr) (h : Hw.Holds code s.rip i.bytes) :
    step code s = i.op.exec (s.rip + BitVec.ofNat 64 i.bytes.length) s := by
  have hle := i.length_le
  have hwindow : ∃ rest, rest.length = maxInstrBytes - i.bytes.length ∧
      ((List.range maxInstrBytes).map fun k => code (s.rip + BitVec.ofNat 64 k)) =
        i.bytes ++ rest := by
    refine ⟨List.drop i.bytes.length _, by rw [List.length_drop, List.length_map,
      List.length_range], (List.take_append_drop i.bytes.length _).symm.trans
        (congrArg (· ++ _) (List.ext_getElem? fun k => ?_))⟩
    by_cases hk : k < i.bytes.length
    · rw [List.getElem?_take_of_lt hk, List.getElem?_map, List.getElem?_range (by omega),
        List.getElem?_eq_getElem hk]
      exact congrArg some (h k _ (List.getElem?_eq_getElem hk))
    · rw [List.getElem?_eq_none (Nat.not_lt.mp hk), List.getElem?_eq_none]
      simp
      omega
  obtain ⟨rest, hlen, hwindow⟩ := hwindow
  simp only [step, hwindow, i.decode_eq, Option.bind_some, hlen, Nat.sub_sub_self hle]

/-! ## Straight-line code -/

def bytesOf (is : List Instr) : List (BitVec 8) := is.flatMap Instr.bytes

/-- The state after some instructions one after the other. -/
def run (is : List Instr) (s : State) : State :=
  is.foldl (fun s i => { i.op.effect s with rip := s.rip + BitVec.ofNat 64 i.bytes.length }) s

theorem run_append (is js : List Instr) (s : State) : run (is ++ js) s = run js (run is s) :=
  List.foldl_append

theorem rip_run (is : List Instr) (s : State) :
    (run is s).rip = s.rip + BitVec.ofNat 64 (bytesOf is).length := by
  induction is generalizing s with
  | nil => simp [run, bytesOf]
  | cons i is ih =>
    have hcons : (bytesOf (i :: is)).length = i.bytes.length + (bytesOf is).length := by
      simp [bytesOf]
    rw [hcons, ← BitVec.ofNat_add_ofNat, ← BitVec.add_assoc]
    exact ih _

theorem Instr.proceeds {code : Hw.Memory} {s : State} (i : Instr)
    (h : Hw.Holds code s.rip i.bytes) (hi : i.op.straight) : Proceeds code s (run [i] s) := by
  refine ⟨fun hret => ?_, (step_of_holds i h).trans (if_pos hi)⟩
  have hdecode := i.decode_eq []
  cases hbytes : i.bytes with
  | nil => simp [hbytes, decode] at hdecode
  | cons b bs =>
    rw [hbytes] at h hdecode
    obtain rfl : 0xc3 = b := hret.symm.trans h.head
    have hop : Op.ret = i.op := congrArg Prod.fst (Option.some.inj hdecode)
    rw [← hop] at hi
    cases hi

theorem proceeds_run {code : Hw.Memory} {is : List Instr} {s : State}
    (h : Hw.Holds code s.rip (bytesOf is)) (hs : is.all (·.op.straight)) :
    Relation.ReflTransGen (Proceeds code) s (run is s) := by
  induction is generalizing s with
  | nil => exact .refl
  | cons i is ih =>
    obtain ⟨hi, his⟩ := Bool.and_eq_true_iff.mp hs
    rw [bytesOf, List.flatMap_cons, Hw.holds_append] at h
    exact .head (i.proceeds h.1 hi) (ih h.2 his)

end Isa.X86
