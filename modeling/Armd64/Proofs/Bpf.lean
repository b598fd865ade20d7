import Armd64.Polyexec.Bpf
import Mathlib.Data.List.Perm.Subperm

/-!
# Checked seccomp programs

An instruction that passes the check does one of three things (`Checked`): it goes on with the
program counter at most at the end, it returns, or it divides by the register X that is zero. So a
checked program runs without any of the interpreter's defensive exits. But the check lets an
instruction pass control to the end itself, one past the last instruction.
-/

namespace Poly.Polyexec

/-! ## One instruction -/

def BpfInsn.dividesByX (insn : BpfInsn) : Bool :=
  bpfClass insn.code == some .alu && bpfSrcIsX insn.code &&
    (bpfAluOp insn.code == some .div || bpfAluOp insn.code == some .mod)

def SeccompProgram.insnAt (p : SeccompProgram) (s : BpfState) : Option BpfInsn := p.insns[s.pc]?

inductive Checked (len : Nat) (insn : BpfInsn) (s : BpfState) : Except BpfExit BpfState → Prop
  | next (s' : BpfState) (h : s'.pc ≤ len) : Checked len insn s (.ok s')
  | ret (action : BitVec 32) (h : bpfClass insn.code = some .ret) :
    Checked len insn s (.error (.ret action))
  | divByX (h : insn.dividesByX = true) (hx : s.x = 0) : Checked len insn s (.error .divByZero)

variable {p : SeccompProgram} {data : SeccompData} {insn : BpfInsn} {s : BpfState} {len : Nat}

theorem validateInsn_of_insnAt (hv : validateProgram p)
    (h : p.insnAt s = some insn) : validateInsn p.len s.pc insn := by
  rw [validateProgram, Bool.and_eq_true, List.all_eq_true] at hv
  exact hv.2 (insn, s.pc) (List.mk_mem_zipIdx_iff_getElem?.mpr h)

theorem bpfLoad_ok (h : validateLoad insn) : ∃ v, bpfLoad data insn s = .ok v := by
  rw [validateLoad] at h
  rw [bpfLoad]
  generalize bpfMode insn.code = mode at h ⊢
  generalize bpfSize insn.code = size at h ⊢
  match mode, size, h with
  | some .imm, _, _ => exact ⟨_, rfl⟩
  | some .len, _, _ => exact ⟨_, rfl⟩
  | some .mem, _, h => exact ⟨_, dif_pos (of_decide_eq_true h)⟩
  | some .abs, some size, h =>
    -- The check of the offset is the one of `poly_seccomp_load_data_word`.
    rw [Bool.not_eq_true', Bool.or_eq_false_iff, decide_eq_false_iff_not,
      decide_eq_false_iff_not] at h
    rw [loadDataWord, dif_neg (not_or.mpr h)]
    exact ⟨_, rfl⟩

theorem bpfStore_ok {v : BitVec 32} (h : insn.k.toNat < seccompMemWords) :
    ∃ m, bpfStore insn s v = .ok m := ⟨_, dif_pos h⟩

theorem bpfJmp_ok {pc : Nat} {a src : BitVec 32} (h : validateJmp len pc insn) :
    ∃ n, bpfJmp insn a src = .ok n ∧ pc + n + 1 ≤ len := by
  have hboth {P : Prop} [Decidable P]
      (hj : (!(decide (len - pc ≤ insn.jt.toNat) || decide (len - pc ≤ insn.jf.toNat))) = true) :
      pc + (if P then insn.jt.toNat else insn.jf.toNat) + 1 ≤ len := by
    rw [Bool.not_eq_true', Bool.or_eq_false_iff, decide_eq_false_iff_not,
      decide_eq_false_iff_not] at hj
    split <;> omega
  rw [validateJmp] at h
  rw [bpfJmp]
  generalize bpfJmpOp insn.code = op at h ⊢
  match op, h with
  | some .ja, h =>
    rw [Bool.not_eq_true', decide_eq_false_iff_not] at h
    exact ⟨_, rfl, by omega⟩
  | some .jeq, h => exact ⟨_, rfl, hboth h⟩
  | some .jgt, h => exact ⟨_, rfl, hboth h⟩
  | some .jge, h => exact ⟨_, rfl, hboth h⟩
  | some .jset, h => exact ⟨_, rfl, hboth h⟩

theorem bpfAlu_ok {a src : BitVec 32} (h : validateAlu insn) :
    (∃ v, bpfAlu insn.code a src = .ok v) ∨
      bpfAlu insn.code a src = .error .divByZero ∧ src = 0 ∧
        (bpfAluOp insn.code == some .div || bpfAluOp insn.code == some .mod) := by
  rw [validateAlu] at h
  rw [bpfAlu]
  generalize bpfAluOp insn.code = op at h ⊢
  cases op with
  | none => cases h
  | some op =>
    cases op with
    | div | mod =>
      by_cases hsrc : src = 0
      · exact .inr ⟨if_pos hsrc, hsrc, rfl⟩
      · exact .inl ⟨_, if_neg hsrc⟩
    | _ => exact .inl ⟨_, rfl⟩

theorem srcIsX_of_zero (h : validateAlu insn)
    (hop : (bpfAluOp insn.code == some .div || bpfAluOp insn.code == some .mod))
    (hsrc : (if bpfSrcIsX insn.code then s.x else insn.k) = 0) :
    bpfSrcIsX insn.code ∧ s.x = 0 := by
  cases hx : bpfSrcIsX insn.code with
  | true =>
    rw [hx, if_pos rfl] at hsrc
    exact ⟨rfl, hsrc⟩
  | false =>
    rw [hx, if_neg Bool.false_ne_true] at hsrc
    rw [validateAlu, hx, hsrc] at h
    rw [Bool.or_eq_true, beq_iff_eq, beq_iff_eq] at hop
    rcases hop with hop | hop <;> rw [hop] at h <;> cases h

theorem bpfExec_checked (hpc : s.pc < len) (h : validateInsn len s.pc insn) :
    Checked len insn s (bpfExec data insn s) := by
  have hnext {α : Type} {r : Except BpfExit α} {f : α → BpfState} (hr : ∃ v, r = .ok v)
      (hf : ∀ v, (f v).pc = s.pc + 1) : Checked len insn s (r.map f) := by
    obtain ⟨v, rfl⟩ := hr
    exact .next _ (by rw [hf]; exact hpc)
  rw [validateInsn] at h
  rw [bpfExec]
  cases hclass : bpfClass insn.code with
  | none =>
    rw [hclass] at h
    cases h
  | some c =>
    rw [hclass] at h
    cases c with
    | ld | ldx => exact hnext (bpfLoad_ok h) fun _ => rfl
    | st | stx => exact hnext (bpfStore_ok (of_decide_eq_true h)) fun _ => rfl
    | alu =>
      rcases bpfAlu_ok h with hok | ⟨herr, hsrc, hop⟩
      · exact hnext hok fun _ => rfl
      · obtain ⟨hx, hzero⟩ := srcIsX_of_zero h hop hsrc
        rw [herr]
        exact .divByX (by rw [BpfInsn.dividesByX, hclass, hx, hop]; rfl) hzero
    | jmp =>
      obtain ⟨n, hn, hle⟩ := bpfJmp_ok h
      rw [hn]
      exact .next _ hle
    | ret => exact .ret _ hclass
    | misc =>
      generalize bpfMiscOp insn.code = op at h ⊢
      rcases op with - | (_ | _)
      · cases h
      · exact .next _ hpc
      · exact .next _ hpc

/-! ## Whole runs -/

def bpfVisits (p : SeccompProgram) (data : SeccompData) : List BpfState := (bpfLoop p data).visits {}

def bpfExit (p : SeccompProgram) (data : SeccompData) : BpfExit := (bpfLoop p data).exit {}

def bpfExecuted (p : SeccompProgram) (data : SeccompData) : List BpfInsn :=
  (bpfVisits p data).filterMap p.insnAt

inductive BpfAccess
  | data (offset width : Nat)
  | mem (word : Nat)
  deriving DecidableEq, Repr

def BpfAccess.InBounds : BpfAccess → Prop
  | .data offset width => offset + width ≤ seccompDataSize
  | .mem word => word < seccompMemWords

def BpfInsn.accesses (insn : BpfInsn) : List BpfAccess :=
  match bpfClass insn.code with
  | some .ld | some .ldx =>
    match bpfMode insn.code with
    | some .abs => (bpfSize insn.code).toList.map fun size => .data insn.k.toNat size.width
    | some .mem => [.mem insn.k.toNat]
    | some .imm | some .len | none => []
  | some .st | some .stx => [.mem insn.k.toNat]
  | some .alu | some .jmp | some .ret | some .misc | none => []

/-- An exit for what the interpreter does not support, or for a place or a program counter out of
range. -/
def BpfExit.defensive : BpfExit → Bool
  | .ret _ | .divByZero | .ranOff => false
  | .badLoad | .badMode | .badStore | .badAluOp | .badJmpOp | .badMiscOp | .badClass
  | .pastEnd => true

theorem validateLoad_inBounds (h : validateLoad insn) :
    match bpfMode insn.code with
    | some .abs =>
      ∀ a ∈ (bpfSize insn.code).toList.map fun size => BpfAccess.data insn.k.toNat size.width,
        a.InBounds
    | some .mem => insn.k.toNat < seccompMemWords
    | some .imm | some .len | none => True := by
  rw [validateLoad] at h
  split
  · rename_i hmode
    rw [hmode] at h
    intro a ha
    obtain ⟨size, hsize, rfl⟩ := List.mem_map.mp ha
    rw [Option.mem_toList] at hsize
    rw [hsize] at h
    simp only [Bool.not_eq_true', Bool.or_eq_false_iff, decide_eq_false_iff_not] at h
    show _ + _ ≤ _
    omega
  · rename_i hmode
    rw [hmode] at h
    exact of_decide_eq_true h
  all_goals trivial

theorem validateInsn_inBounds {len pc : Nat}
    (h : validateInsn len pc insn) : ∀ a ∈ insn.accesses, a.InBounds := by
  have hmem : insn.k.toNat < seccompMemWords → ∀ a ∈ [BpfAccess.mem insn.k.toNat], a.InBounds :=
    fun hk => by simpa [BpfAccess.InBounds] using hk
  rw [validateInsn] at h
  rw [BpfInsn.accesses]
  generalize bpfClass insn.code = c at h ⊢
  match c, h with
  | some .ld, h | some .ldx, h =>
    have hload := validateLoad_inBounds h
    generalize bpfMode insn.code = mode at hload ⊢
    match mode, hload with
    | some .abs, hload => exact hload
    | some .mem, hload => exact hmem hload
    | some .imm, _ | some .len, _ | none, _ => simp
  | some .st, h | some .stx, h => exact hmem (of_decide_eq_true h)
  | some .alu, _ | some .jmp, _ | some .ret, _ | some .misc, _ => simp

section

variable (data : SeccompData)

theorem insnAt_lt (h : p.insnAt s = some insn) : s.pc < p.len :=
  (List.getElem?_eq_some_iff.mp h).1

theorem bpfVisits_pc_le : ∀ s ∈ bpfVisits p data, s.pc ≤ p.len := by
  refine Hw.Loop.visits_inv (fun s s' _ h => ?_) (Nat.zero_le _)
  obtain ⟨insn, -, -, hle⟩ := bpfBody_eq_ok h
  exact hle

theorem bpfVisits_pairwise : (bpfVisits p data).Pairwise fun s s' => s.pc < s'.pc := by
  refine Hw.Loop.visits_pairwise (fun s s' : BpfState => s.pc < s'.pc) Nat.lt_trans (fun s s' h => ?_) _
  obtain ⟨insn, -, hexec, -⟩ := bpfBody_eq_ok h
  exact pc_lt_of_bpfExec hexec

theorem bpfExecuted_length : (bpfExecuted p data).length ≤ p.len := by
  have hpcs : (bpfExecuted p data).length =
      (((bpfVisits p data).filter fun s => (p.insnAt s).isSome).map (·.pc)).length := by
    rw [bpfExecuted, List.length_filterMap_eq_countP, List.length_map,
      List.countP_eq_length_filter]
  have hnodup : (((bpfVisits p data).filter fun s => (p.insnAt s).isSome).map (·.pc)).Nodup := by
    rw [List.Nodup, List.pairwise_map]
    exact ((bpfVisits_pairwise data).filter _).imp Nat.ne_of_lt
  have hsub : ((bpfVisits p data).filter fun s => (p.insnAt s).isSome).map (·.pc) ⊆
      List.range p.len := by
    intro pc hpc
    obtain ⟨s, hs, rfl⟩ := List.mem_map.mp hpc
    obtain ⟨insn, hinsn⟩ := Option.isSome_iff_exists.mp (List.mem_filter.mp hs).2
    exact List.mem_range.mpr (insnAt_lt hinsn)
  have hlen := (List.subperm_of_subset hnodup hsub).length_le
  rwa [← hpcs, List.length_range] at hlen

theorem bpfExit_cases (hv : validateProgram p) : ∃ s ∈ bpfVisits p data,
    (∃ insn action, p.insnAt s = some insn ∧ bpfClass insn.code = some .ret ∧
      bpfExit p data = .ret action) ∨
    (∃ insn, p.insnAt s = some insn ∧ insn.dividesByX ∧ s.x = 0 ∧
      bpfExit p data = .divByZero) ∨
    s.pc = p.len ∧ bpfExit p data = .ranOff := by
  obtain ⟨s, hs, hexit⟩ := (bpfLoop p data).exit_step {}
  refine ⟨s, hs, ?_⟩
  rcases bpfBody_eq_error hexit with ⟨hnone, hoff⟩ | ⟨insn, hinsn, hexec⟩
  · have hge := List.getElem?_eq_none_iff.mp hnone
    exact .inr (.inr ⟨Nat.le_antisymm (bpfVisits_pc_le data s hs) hge, hoff⟩)
  · have hchecked : Checked p.len insn s (bpfExec data insn s) :=
      bpfExec_checked (insnAt_lt hinsn) (validateInsn_of_insnAt hv hinsn)
    generalize bpfExec data insn s = r at hexec hchecked
    cases hchecked with
    | next s' hle =>
      rcases hexec with hexec | ⟨t, ht, hlt⟩
      · cases hexec
      · cases ht
        exact absurd hlt (Nat.not_lt.mpr hle)
    | ret action hclass =>
      rcases hexec with hexec | ⟨t, ht, -⟩
      · exact .inl ⟨insn, action, hinsn, hclass, (Except.error.inj hexec).symm⟩
      · cases ht
    | divByX hdiv hx =>
      rcases hexec with hexec | ⟨t, ht, -⟩
      · exact .inr (.inl ⟨insn, hinsn, hdiv, hx, (Except.error.inj hexec).symm⟩)
      · cases ht

end

/-- A checked program executes at most `len` instructions, with a growing program counter; they name
places in the record and the scratch memory only, and no defensive exit is taken. -/
theorem eval_safe {p : SeccompProgram} (hv : validateProgram p = true) (data : SeccompData) :
    ((bpfVisits p data).Pairwise fun s s' => s.pc < s'.pc) ∧
      (∀ s ∈ bpfVisits p data, s.pc ≤ p.len) ∧ (bpfExecuted p data).length ≤ p.len ∧
      (∀ insn ∈ bpfExecuted p data, ∀ a ∈ insn.accesses, a.InBounds) ∧
      (bpfExit p data).defensive = false := by
  refine ⟨bpfVisits_pairwise data, bpfVisits_pc_le data, bpfExecuted_length data, ?_, ?_⟩
  · intro insn hinsn
    obtain ⟨s, -, hs⟩ := List.mem_filterMap.mp hinsn
    exact validateInsn_inBounds (validateInsn_of_insnAt hv hs)
  · obtain ⟨s, -, ⟨insn, action, -, -, h⟩ | ⟨insn, -, -, -, h⟩ | ⟨-, h⟩⟩ := bpfExit_cases data hv
    all_goals rw [h]; rfl

/-- A program that returns ALLOW for the system calls up to 63, and an error for the others. -/
def thresholdProgram : SeccompProgram :=
  ⟨[⟨0x20, 0, 0, 0⟩, ⟨0x25, 1, 0, 63⟩, ⟨0x06, 0, 0, 0x7fff0000⟩, ⟨0x06, 0, 0, 0x00050001⟩]⟩

def mkdiratData : SeccompData := ⟨34, 0xc00000b7, 0x4000, .replicate 6 0⟩

theorem eval_safe_threshold :
    validateProgram thresholdProgram = true ∧
      (bpfExecuted thresholdProgram mkdiratData).length ≤ 4 ∧
      (bpfExit thresholdProgram mkdiratData).defensive = false := by
  obtain ⟨-, -, hlen, -, hexit⟩ := @eval_safe thresholdProgram (by decide) mkdiratData
  exact ⟨by decide, hlen, hexit⟩

/-! ## Programs that decide -/

/-- The evaluation ends with a RET instruction of the program, or with a DIV or MOD by the register
X that is zero. -/
def Decides (p : SeccompProgram) (data : SeccompData) : Prop :=
  ∃ s ∈ bpfVisits p data, ∃ insn, p.insnAt s = some insn ∧
    (bpfClass insn.code = some .ret ∧ (∃ action, bpfExit p data = .ret action) ∨
      insn.dividesByX = true ∧ s.x = 0 ∧ bpfExit p data = .divByZero)

/-- The edges of the control-flow graph: where an instruction can pass control to. -/
def BpfInsn.successors (insn : BpfInsn) (pc : Nat) : List Nat :=
  match bpfClass insn.code with
  | some .ret | none => []
  | some .jmp =>
    match bpfJmpOp insn.code with
    | some .ja => [pc + insn.k.toNat + 1]
    | some .jeq | some .jgt | some .jge | some .jset =>
      [pc + insn.jt.toNat + 1, pc + insn.jf.toNat + 1]
    | none => []
  | some .ld | some .ldx | some .st | some .stx | some .alu | some .misc => [pc + 1]

/-- A path of the control-flow graph leads from the first instruction to here. -/
inductive FlowsTo (p : SeccompProgram) : Nat → Prop
  | entry : FlowsTo p 0
  | edge {pc n : Nat} {insn : BpfInsn} (h : FlowsTo p pc) (hinsn : p.insns[pc]? = some insn)
    (hn : n ∈ insn.successors pc) : FlowsTo p n

theorem successors_of_bpfExec {s s' : BpfState} (h : bpfExec data insn s = .ok s') :
    s'.pc ∈ insn.successors s.pc := by
  have hmap {α : Type} {r : Except BpfExit α} {f : α → BpfState} (hf : ∀ v, (f v).pc = s.pc + 1)
      (hr : r.map f = .ok s') : s'.pc ∈ [s.pc + 1] := by
    cases r with
    | error e => cases hr
    | ok v =>
      cases hr
      exact List.mem_singleton.mpr (hf v)
  have hbranch {P : Prop} [Decidable P] : s.pc + (if P then insn.jt.toNat else insn.jf.toNat) + 1 ∈
      [s.pc + insn.jt.toNat + 1, s.pc + insn.jf.toNat + 1] := by
    split <;> simp
  rw [bpfExec] at h
  rw [BpfInsn.successors]
  generalize bpfClass insn.code = c at h ⊢
  rcases c with - | c
  · cases h
  cases c with
  | ld | ldx | st | stx | alu => exact hmap (fun _ => rfl) h
  | jmp =>
    rw [bpfJmp] at h
    generalize bpfJmpOp insn.code = op at h ⊢
    rcases op with - | op
    · cases h
    cases op with
    | ja =>
      cases h
      exact List.mem_singleton.mpr rfl
    | jeq | jgt | jge | jset =>
      cases h
      exact hbranch
  | ret => cases h
  | misc =>
    generalize bpfMiscOp insn.code = op at h
    rcases op with - | (_ | _) <;> cases h <;> exact List.mem_singleton.mpr rfl

theorem flowsTo_of_visits : ∀ s ∈ bpfVisits p data, FlowsTo p s.pc := by
  refine Hw.Loop.visits_inv (fun s s' hs h => ?_) .entry
  obtain ⟨insn, hinsn, hexec, -⟩ := bpfBody_eq_ok h
  exact hs.edge hinsn (successors_of_bpfExec hexec)

theorem decides_of_not_ranOff (hv : validateProgram p) (hoff : bpfExit p data ≠ .ranOff) :
    Decides p data := by
  obtain ⟨s, hs, ⟨insn, action, hi, hc, h⟩ | ⟨insn, hi, hd, hx, h⟩ | ⟨-, h⟩⟩ :=
    bpfExit_cases data hv
  · exact ⟨s, hs, insn, hi, .inl ⟨hc, action, h⟩⟩
  · exact ⟨s, hs, insn, hi, .inr ⟨hd, hx, h⟩⟩
  · exact absurd h hoff

theorem decides_of_not_flowsTo (hv : validateProgram p) (h : ¬FlowsTo p p.len) :
    Decides p data := by
  refine decides_of_not_ranOff hv fun hoff => ?_
  obtain ⟨s, hs, ⟨insn, action, -, -, he⟩ | ⟨insn, -, -, -, he⟩ | ⟨hpc, -⟩⟩ := bpfExit_cases data hv
  · cases he.symm.trans hoff
  · cases he.symm.trans hoff
  · exact h (hpc ▸ flowsTo_of_visits s hs)

/-! ## Control flow in one pass -/

theorem lt_of_mem_successors {pc n : Nat} (h : n ∈ insn.successors pc) : pc < n := by
  rw [BpfInsn.successors] at h
  split at h
  all_goals try split at h
  all_goals simp only [List.mem_cons, List.not_mem_nil, or_false] at h
  all_goals omega

def flowStep (targets : List Nat) (q : BpfInsn × Nat) : List Nat :=
  if q.2 ∈ targets then q.1.successors q.2 ++ targets else targets

/-- What the control flow reaches. All edges lead forward, so one pass finds it. -/
def flowTargets (p : SeccompProgram) : List Nat := p.insns.zipIdx.foldl flowStep [0]

theorem subset_flowStep (targets : List Nat) (q : BpfInsn × Nat) :
    targets ⊆ flowStep targets q := by
  rw [flowStep]
  split
  · exact List.subset_append_right ..
  · exact List.Subset.refl _

section

variable {targets : List Nat} {qs : List (BpfInsn × Nat)} {n : Nat}

theorem subset_foldl_flowStep : targets ⊆ qs.foldl flowStep targets := by
  induction qs generalizing targets with
  | nil => exact List.Subset.refl _
  | cons q qs ih => exact List.Subset.trans (subset_flowStep targets q) ih

/-- A pass over instructions adds only targets behind one of them. -/
theorem mem_foldl_flowStep (h : n ∈ qs.foldl flowStep targets) :
    n ∈ targets ∨ ∃ q ∈ qs, q.2 < n := by
  induction qs generalizing targets with
  | nil => exact .inl h
  | cons q qs ih =>
    rcases ih h with hmem | ⟨r, hr, hlt⟩
    · rw [flowStep] at hmem
      split at hmem
      · rcases List.mem_append.mp hmem with hnew | hold
        · exact .inr ⟨q, List.mem_cons_self, lt_of_mem_successors hnew⟩
        · exact .inl hold
      · exact .inl hmem
    · exact .inr ⟨r, List.mem_cons_of_mem _ hr, hlt⟩

theorem flowsTo_of_foldl (hqs : ∀ q ∈ qs, p.insns[q.2]? = some q.1)
    (ht : ∀ n ∈ targets, FlowsTo p n) : ∀ n ∈ qs.foldl flowStep targets, FlowsTo p n := by
  induction qs generalizing targets with
  | nil => exact ht
  | cons q qs ih =>
    obtain ⟨hq, hqs⟩ := List.forall_mem_cons.mp hqs
    refine ih hqs fun n hn => ?_
    rw [flowStep] at hn
    split at hn
    · rcases List.mem_append.mp hn with hnew | hold
      · exact (ht q.2 ‹_›).edge hq hnew
      · exact ht n hold
    · exact ht n hn

end

/-- The pass meets an instruction after everything that can lead to it. -/
theorem successors_subset_flowTargets {pc : Nat} (hpc : pc ∈ flowTargets p)
    (hinsn : p.insns[pc]? = some insn) : insn.successors pc ⊆ flowTargets p := by
  obtain ⟨hlt, hget⟩ := List.getElem?_eq_some_iff.mp hinsn
  have hsplit : p.insns.zipIdx = (p.insns.take pc).zipIdx ++
      (insn, pc) :: (p.insns.drop (pc + 1)).zipIdx (pc + 1) := by
    conv_lhs => rw [← List.take_append_drop pc p.insns, List.drop_eq_getElem_cons hlt, hget]
    rw [List.zipIdx_append, List.zipIdx_cons, List.length_take_of_le (Nat.le_of_lt hlt),
      Nat.zero_add]
  rw [flowTargets, hsplit, List.foldl_append, List.foldl_cons] at hpc ⊢
  refine List.Subset.trans ?_ subset_foldl_flowStep
  have hmem : pc ∈ (p.insns.take pc).zipIdx.foldl flowStep [0] := by
    rcases mem_foldl_flowStep hpc with hmem | ⟨q, hq, hlt'⟩
    · rw [flowStep] at hmem
      split at hmem
      · assumption
      · exact hmem
    · have hle := List.le_snd_of_mem_zipIdx hq
      omega
  rw [flowStep, if_pos hmem]
  exact List.subset_append_left ..

theorem mem_flowTargets_iff {n : Nat} : n ∈ flowTargets p ↔ FlowsTo p n := by
  constructor
  · intro h
    refine flowsTo_of_foldl (fun q hq => ?_) (fun n hn => ?_) n h
    · exact List.mk_mem_zipIdx_iff_getElem?.mp hq
    · exact List.mem_singleton.mp hn ▸ .entry
  · intro h
    induction h with
    | entry => exact subset_foldl_flowStep (List.mem_singleton.mpr rfl)
    | edge _ hinsn hn ih => exact successors_subset_flowTargets ih hinsn hn

/-- The check of Linux: a jump stays inside the program, and the last instruction is a RET. -/
def staysInside (len pc : Nat) (insn : BpfInsn) : Bool :=
  match bpfClass insn.code with
  | some .ret => true
  | some .jmp =>
    match bpfJmpOp insn.code with
    | some .ja => decide (pc + insn.k.toNat + 1 < len)
    | some .jeq | some .jgt | some .jge | some .jset | none =>
      decide (pc + insn.jt.toNat + 1 < len) && decide (pc + insn.jf.toNat + 1 < len)
  | some .ld | some .ldx | some .st | some .stx | some .alu | some .misc | none =>
    decide (pc + 1 < len)

theorem staysInside_iff {pc : Nat} (hpc : pc < len) (h : validateInsn len pc insn) :
    staysInside len pc insn ↔ len ∉ insn.successors pc := by
  have hboth (hj : !(decide (len - pc ≤ insn.jt.toNat) || decide (len - pc ≤ insn.jf.toNat))) :
      (decide (pc + insn.jt.toNat + 1 < len) && decide (pc + insn.jf.toNat + 1 < len)) = true ↔
        len ∉ [pc + insn.jt.toNat + 1, pc + insn.jf.toNat + 1] := by
    rw [Bool.not_eq_true', Bool.or_eq_false_iff, decide_eq_false_iff_not,
      decide_eq_false_iff_not] at hj
    simp only [Bool.and_eq_true, decide_eq_true_eq, List.mem_cons, List.not_mem_nil, or_false]
    omega
  have hnext : decide (pc + 1 < len) = true ↔ len ∉ [pc + 1] := by
    rw [decide_eq_true_eq, List.mem_singleton]
    omega
  rw [validateInsn] at h
  rw [staysInside, BpfInsn.successors]
  generalize bpfClass insn.code = c at h ⊢
  match c, h with
  | some .ret, _ => exact iff_of_true rfl List.not_mem_nil
  | some .jmp, h =>
    rw [validateJmp] at h
    generalize bpfJmpOp insn.code = op at h ⊢
    match op, h with
    | some .ja, h =>
      rw [Bool.not_eq_true', decide_eq_false_iff_not] at h
      rw [decide_eq_true_eq, List.mem_singleton]
      omega
    | some .jeq, h | some .jgt, h | some .jge, h | some .jset, h => exact hboth h
  | some .ld, _ | some .ldx, _ | some .st, _ | some .stx, _ | some .alu, _ | some .misc, _ =>
    exact hnext

theorem not_flowsTo_of_inside (hv : validateProgram p)
    (h : ∀ pc insn, FlowsTo p pc → p.insns[pc]? = some insn → staysInside p.len pc insn) :
    ¬FlowsTo p p.len := by
  generalize hlen : p.len = len at h
  intro hflow
  cases hflow with
  | entry =>
    rw [validateProgram, hlen] at hv
    cases hv
  | edge hpc hinsn hn =>
    subst hlen
    have hvalid := validateInsn_of_insnAt (s := { pc := _ }) hv hinsn
    exact (staysInside_iff (insnAt_lt (s := { pc := _ }) hinsn) hvalid).mp (h _ _ hpc hinsn) hn

/-- A checked program decides on every record and has no path off its end, exactly if each
instruction that the control flow reaches passes the check of Linux. -/
theorem decides_iff {p : SeccompProgram} (hv : validateProgram p = true) :
    ((∀ data, Decides p data) ∧ ¬FlowsTo p p.len) ↔
      ∀ q ∈ p.insns.zipIdx, q.2 ∈ flowTargets p → staysInside p.len q.2 q.1 = true := by
  constructor
  · rintro ⟨-, hoff⟩ ⟨insn, pc⟩ hq hpc
    have hinsn : p.insns[pc]? = some insn := List.mk_mem_zipIdx_iff_getElem?.mp hq
    have hvalid := validateInsn_of_insnAt (s := { pc }) hv hinsn
    refine (staysInside_iff (insnAt_lt (s := { pc }) hinsn) hvalid).mpr fun hn => ?_
    exact hoff ((mem_flowTargets_iff.mp hpc).edge hinsn hn)
  · intro h
    have hoff := not_flowsTo_of_inside hv fun pc insn hpc hinsn =>
      h (insn, pc) (List.mk_mem_zipIdx_iff_getElem?.mpr hinsn) (mem_flowTargets_iff.mpr hpc)
    exact ⟨fun _ => decides_of_not_flowsTo hv hoff, hoff⟩

/-- A program with an instruction that no path reaches, and that Linux rejects at the end. -/
theorem decides_iff_unreached :
    let p : SeccompProgram := ⟨thresholdProgram.insns ++ [⟨0x20, 0, 0, 0⟩]⟩
    validateProgram p = true ∧ staysInside 5 4 ⟨0x20, 0, 0, 0⟩ = false ∧
      ∀ data, Decides p data :=
  ⟨by decide, by decide, ((decides_iff (by decide)).mpr (by decide)).1⟩

/-- `ja 1; ret ALLOW`: the jump over the last instruction passes the check, and the evaluation ends
at the end of the program. -/
theorem jump_to_end_accepted :
    validateProgram ⟨[⟨0x05, 0, 0, 1⟩, ⟨0x06, 0, 0, 0x7fff0000⟩]⟩ = true ∧
      bpfExit ⟨[⟨0x05, 0, 0, 1⟩, ⟨0x06, 0, 0, 0x7fff0000⟩]⟩ mkdiratData = .ranOff ∧
      ¬Decides ⟨[⟨0x05, 0, 0, 1⟩, ⟨0x06, 0, 0, 0x7fff0000⟩]⟩ mkdiratData := by
  have hoff : bpfExit ⟨[⟨0x05, 0, 0, 1⟩, ⟨0x06, 0, 0, 0x7fff0000⟩]⟩ mkdiratData = .ranOff := by
    have hjump : bpfBody ⟨[⟨0x05, 0, 0, 1⟩, ⟨0x06, 0, 0, 0x7fff0000⟩]⟩ mkdiratData {} =
        .ok { pc := 2 } := by decide
    exact (Hw.Loop.exit_ok hjump).trans (Hw.Loop.exit_error (by decide))
  refine ⟨by decide, hoff, ?_⟩
  rintro ⟨s, -, insn, -, ⟨-, action, h⟩ | ⟨-, -, h⟩⟩
  · cases h.symm.trans hoff
  · cases h.symm.trans hoff

theorem decides_of_inside (hv : validateProgram p)
    (hin : ∀ pc insn, p.insns[pc]? = some insn → staysInside p.len pc insn)
    (data : SeccompData) : Decides p data :=
  decides_of_not_flowsTo hv (not_flowsTo_of_inside hv fun pc insn _ => hin pc insn)

theorem decides_of_inside_jump :
    Decides ⟨[⟨0x05, 0, 0, 0⟩, ⟨0x06, 0, 0, 0x7fff0000⟩]⟩ mkdiratData := by
  refine decides_of_inside (by decide) (fun pc insn hinsn => ?_) _
  match pc, hinsn with
  | 0, rfl => decide
  | 1, rfl => decide

end Poly.Polyexec
