import Armd64.Lib.Layout
import Armd64.Lib.Loop

/-!
# Seccomp programs (`polyexec.c`)

The runtime keeps the classic BPF programs of the guest and runs them itself. A program is checked
once, when it is installed, and run on the record of each system call.
-/

namespace Poly.Polyexec

/-! ## Programs -/

structure BpfInsn where
  code : BitVec 16
  jt : BitVec 8
  jf : BitVec 8
  k : BitVec 32
  deriving DecidableEq, Repr

structure SeccompProgram where
  insns : List BpfInsn
  deriving DecidableEq, Repr

def SeccompProgram.len (p : SeccompProgram) : Nat := p.insns.length

def seccompMaxInsns : Nat := 4096

def seccompMemWords : Nat := 16

structure SeccompData where
  nr : BitVec 32
  arch : BitVec 32
  instructionPointer : BitVec 64
  args : Vector (BitVec 64) 6
  deriving DecidableEq, Repr

def seccompDataSize : Nat := 64

def SeccompData.bits (data : SeccompData) : BitVec (64 * 8) :=
  Hw.ofWords 8 fun n =>
    match n with
    | 0 => data.arch ++ data.nr
    | 1 => data.instructionPointer
    | n + 2 => data.args.getD n 0

def SeccompData.read (data : SeccompData) (offset len : Nat)
    (_ : offset + len ≤ seccompDataSize) : BitVec (8 * len) :=
  Hw.load data.bits offset (8 * len)

/-! ## Fields of an opcode -/

inductive BpfClass
  | ld | ldx | st | stx | alu | jmp | ret | misc
  deriving DecidableEq, Repr

inductive BpfSize
  | w | h | b
  deriving DecidableEq, Repr

inductive BpfMode
  | imm | abs | mem | len
  deriving DecidableEq, Repr

inductive BpfAluOp
  | add | sub | mul | div | or | and | lsh | rsh | neg | mod | xor
  deriving DecidableEq, Repr

inductive BpfJmpOp
  | ja | jeq | jgt | jge | jset
  deriving DecidableEq, Repr

inductive BpfRval
  | k | a
  deriving DecidableEq, Repr

inductive BpfMiscOp
  | tax | txa
  deriving DecidableEq, Repr

def bpfClass (code : BitVec 16) : Option BpfClass :=
  [BpfClass.ld, .ldx, .st, .stx, .alu, .jmp, .ret, .misc][(code &&& 0x07#16).toNat]?

/-- `POLY_BPF_SIZE`; `none` for a value that no constant names, as for the other fields. -/
def bpfSize (code : BitVec 16) : Option BpfSize :=
  [BpfSize.w, .h, .b][(code &&& 0x18#16).toNat / 8]?

def bpfMode (code : BitVec 16) : Option BpfMode :=
  [some BpfMode.imm, some .abs, none, some .mem, some .len].getD
    ((code &&& 0xe0#16).toNat / 32) none

def bpfAluOp (code : BitVec 16) : Option BpfAluOp :=
  [BpfAluOp.add, .sub, .mul, .div, .or, .and, .lsh, .rsh, .neg, .mod, .xor][
    (code &&& 0xf0#16).toNat / 16]?

def bpfJmpOp (code : BitVec 16) : Option BpfJmpOp :=
  [BpfJmpOp.ja, .jeq, .jgt, .jge, .jset][(code &&& 0xf0#16).toNat / 16]?

def bpfSrcIsX (code : BitVec 16) : Bool := code &&& 0x08#16 == 0x08#16

def bpfRval (code : BitVec 16) : Option BpfRval :=
  if code &&& 0x18#16 = 0x00#16 then some .k
  else if code &&& 0x18#16 = 0x10#16 then some .a
  else none

def bpfMiscOp (code : BitVec 16) : Option BpfMiscOp :=
  if code &&& 0xf8#16 = 0x00#16 then some .tax
  else if code &&& 0xf8#16 = 0x80#16 then some .txa
  else none

def BpfSize.width : BpfSize → Nat
  | .w => 4
  | .h => 2
  | .b => 1

/-! ## The check -/

def validateLoad (insn : BpfInsn) : Bool :=
  match bpfMode insn.code with
  | some .abs =>
    match bpfSize insn.code with
    | some size =>
      !(decide (seccompDataSize < insn.k.toNat) ||
        decide (seccompDataSize - insn.k.toNat < size.width))
    | none => false
  | some .mem => decide (insn.k.toNat < seccompMemWords)
  | some .imm | some .len => true
  | none => false

def validateJmp (len pc : Nat) (insn : BpfInsn) : Bool :=
  match bpfJmpOp insn.code with
  | some .ja => !decide (len - pc ≤ insn.k.toNat)
  | some .jeq | some .jgt | some .jge | some .jset =>
    !(decide (len - pc ≤ insn.jt.toNat) || decide (len - pc ≤ insn.jf.toNat))
  | none => false

def validateAlu (insn : BpfInsn) : Bool :=
  match bpfAluOp insn.code with
  | some .div | some .mod => !(!bpfSrcIsX insn.code && insn.k == 0)
  | some .add | some .sub | some .mul | some .or | some .and | some .lsh | some .rsh | some .neg
  | some .xor => true
  | none => false

def validateInsn (len pc : Nat) (insn : BpfInsn) : Bool :=
  match bpfClass insn.code with
  | some .ld | some .ldx => validateLoad insn
  | some .st | some .stx => decide (insn.k.toNat < seccompMemWords)
  | some .alu => validateAlu insn
  | some .jmp => validateJmp len pc insn
  | some .ret => bpfRval insn.code == some .k || bpfRval insn.code == some .a
  | some .misc => bpfMiscOp insn.code == some .tax || bpfMiscOp insn.code == some .txa
  | none => false

def validateProgram (p : SeccompProgram) : Bool :=
  !(p.len == 0 || decide (seccompMaxInsns < p.len)) &&
    p.insns.zipIdx.all fun q => validateInsn p.len q.2 q.1

/-! ## The interpreter -/

inductive BpfExit
  | ret (action : BitVec 32)
  | divByZero
  | ranOff
  | badLoad
  | badMode
  | badStore
  | badAluOp
  | badJmpOp
  | badMiscOp
  | badClass
  | pastEnd
  deriving DecidableEq, Repr

def retKillProcess : BitVec 32 := 0x80000000#32

def BpfExit.action : BpfExit → BitVec 32
  | .ret action => action
  | _ => retKillProcess

structure BpfState where
  pc : Nat := 0
  a : BitVec 32 := 0
  x : BitVec 32 := 0
  mem : Vector (BitVec 32) seccompMemWords := .replicate seccompMemWords 0
  deriving DecidableEq, Repr

def loadDataWord (data : SeccompData) (offset : BitVec 32) (size : Option BpfSize) :
    Option (BitVec 32) :=
  match size with
  | none => none
  | some size =>
    if h : seccompDataSize < offset.toNat ∨ seccompDataSize - offset.toNat < size.width then none
    else some ((data.read offset.toNat size.width (by omega)).setWidth 32)

def bpfLoad (data : SeccompData) (insn : BpfInsn) (s : BpfState) : Except BpfExit (BitVec 32) :=
  match bpfMode insn.code with
  | some .abs =>
    match loadDataWord data insn.k (bpfSize insn.code) with
    | some value => .ok value
    | none => .error .badLoad
  | some .imm => .ok insn.k
  | some .mem =>
    if h : insn.k.toNat < seccompMemWords then .ok (s.mem[insn.k.toNat]) else .error .badMode
  | some .len => .ok (BitVec.ofNat 32 seccompDataSize)
  | none => .error .badMode

def bpfStore (insn : BpfInsn) (s : BpfState) (value : BitVec 32) :
    Except BpfExit (Vector (BitVec 32) seccompMemWords) :=
  if h : insn.k.toNat < seccompMemWords then .ok (s.mem.set insn.k.toNat value)
  else .error .badStore

def bpfAlu (code : BitVec 16) (a src : BitVec 32) : Except BpfExit (BitVec 32) :=
  match bpfAluOp code with
  | some .add => .ok (a + src)
  | some .sub => .ok (a - src)
  | some .mul => .ok (a * src)
  | some .div => if src = 0 then .error .divByZero else .ok (a / src)
  | some .or => .ok (a ||| src)
  | some .and => .ok (a &&& src)
  | some .lsh => .ok (a <<< (src &&& 31#32).toNat)
  | some .rsh => .ok (a >>> (src &&& 31#32).toNat)
  | some .neg => .ok (-a)
  | some .mod => if src = 0 then .error .divByZero else .ok (a % src)
  | some .xor => .ok (a ^^^ src)
  | none => .error .badAluOp

def bpfJmp (insn : BpfInsn) (a src : BitVec 32) : Except BpfExit Nat :=
  match bpfJmpOp insn.code with
  | some .ja => .ok insn.k.toNat
  | some .jeq => .ok (if a = src then insn.jt.toNat else insn.jf.toNat)
  | some .jgt => .ok (if src < a then insn.jt.toNat else insn.jf.toNat)
  | some .jge => .ok (if src ≤ a then insn.jt.toNat else insn.jf.toNat)
  | some .jset => .ok (if a &&& src ≠ 0 then insn.jt.toNat else insn.jf.toNat)
  | none => .error .badJmpOp

def bpfExec (data : SeccompData) (insn : BpfInsn) (s : BpfState) : Except BpfExit BpfState :=
  let src := if bpfSrcIsX insn.code then s.x else insn.k
  match bpfClass insn.code with
  | some .ld => (bpfLoad data insn s).map fun v => { s with a := v, pc := s.pc + 1 }
  | some .ldx => (bpfLoad data insn s).map fun v => { s with x := v, pc := s.pc + 1 }
  | some .st => (bpfStore insn s s.a).map fun m => { s with mem := m, pc := s.pc + 1 }
  | some .stx => (bpfStore insn s s.x).map fun m => { s with mem := m, pc := s.pc + 1 }
  | some .alu => (bpfAlu insn.code s.a src).map fun v => { s with a := v, pc := s.pc + 1 }
  | some .jmp => (bpfJmp insn s.a src).map fun n => { s with pc := s.pc + n + 1 }
  | some .ret => .error (.ret (if bpfRval insn.code = some .a then s.a else insn.k))
  | some .misc =>
    match bpfMiscOp insn.code with
    | some .tax => .ok { s with x := s.a, pc := s.pc + 1 }
    | some .txa => .ok { s with a := s.x, pc := s.pc + 1 }
    | none => .error .badMiscOp
  | none => .error .badClass

def bpfBody (p : SeccompProgram) (data : SeccompData) (s : BpfState) : Except BpfExit BpfState :=
  match p.insns[s.pc]? with
  | none => .error .ranOff
  | some insn =>
    match bpfExec data insn s with
    | .error e => .error e
    | .ok s' => if p.len < s'.pc then .error .pastEnd else .ok s'

variable {data : SeccompData} {s s' : BpfState} {p : SeccompProgram}

theorem pc_lt_of_bpfExec {insn : BpfInsn} (h : bpfExec data insn s = .ok s') : s.pc < s'.pc := by
  have hmap {α : Type} {r : Except BpfExit α} {f : α → BpfState} (hf : ∀ v, s.pc < (f v).pc)
      (hr : r.map f = .ok s') : s.pc < s'.pc := by
    cases r with
    | error e => cases hr
    | ok v =>
      cases hr
      exact hf v
  rw [bpfExec] at h
  split at h
  · exact hmap (fun _ => Nat.lt_succ_self _) h
  · exact hmap (fun _ => Nat.lt_succ_self _) h
  · exact hmap (fun _ => Nat.lt_succ_self _) h
  · exact hmap (fun _ => Nat.lt_succ_self _) h
  · exact hmap (fun _ => Nat.lt_succ_self _) h
  · exact hmap (fun n => Nat.lt_succ_of_le (Nat.le_add_right ..)) h
  · cases h
  · split at h
    · cases h
      exact Nat.lt_succ_self _
    · cases h
      exact Nat.lt_succ_self _
    · cases h
  · cases h

/-- An iteration that goes on: there is an instruction, and it leaves the program counter at most
at the end. -/
theorem bpfBody_eq_ok (h : bpfBody p data s = .ok s') :
    ∃ insn, p.insns[s.pc]? = some insn ∧ bpfExec data insn s = .ok s' ∧ s'.pc ≤ p.len := by
  rw [bpfBody] at h
  split at h
  · cases h
  · rename_i insn hinsn
    split at h
    · cases h
    · rename_i t ht
      split at h
      · cases h
      · cases h
        exact ⟨insn, hinsn, ht, by omega⟩

/-- An iteration that leaves: there is no instruction, it leaves, or it passes control beyond the
end. -/
theorem bpfBody_eq_error {e : BpfExit} (h : bpfBody p data s = .error e) :
    p.insns[s.pc]? = none ∧ e = .ranOff ∨
      ∃ insn, p.insns[s.pc]? = some insn ∧ (bpfExec data insn s = .error e ∨
        ∃ s', bpfExec data insn s = .ok s' ∧ p.len < s'.pc) := by
  rw [bpfBody] at h
  split at h
  · rename_i hnone
    exact .inl ⟨hnone, (Except.error.inj h).symm⟩
  · rename_i insn hinsn
    refine .inr ⟨insn, hinsn, ?_⟩
    split at h
    · rename_i e' he
      exact .inl (he.trans h)
    · rename_i s' hs'
      split at h
      · exact .inr ⟨s', hs', ‹_›⟩
      · cases h

def bpfLoop (p : SeccompProgram) (data : SeccompData) : Hw.Loop BpfState BpfExit where
  body := bpfBody p data
  measure s := p.len - s.pc
  decreases := by
    intro s s' h
    obtain ⟨insn, hinsn, hexec, hle⟩ := bpfBody_eq_ok h
    have hpc := pc_lt_of_bpfExec hexec
    omega

def evalProgram (p : SeccompProgram) (data : SeccompData) : BitVec 32 :=
  ((bpfLoop p data).exit {}).action

end Poly.Polyexec
