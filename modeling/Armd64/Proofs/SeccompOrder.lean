import Armd64.Proofs.Seccomp

/-!
# Which filter decides

The loop over the filters keeps the first action of the highest rank (`Hw.pick`). So whether a
system call is denied does not depend on the order of the filters, but the data of the action does:
it is that of the oldest filter of the highest rank, where Linux takes the newest. The data of an
ERRNO action becomes the result without a bound.
-/

namespace Poly.Polyexec

theorem one_le_actionRank (action : BitVec 32) : 1 ≤ actionRank action := by
  unfold actionRank
  repeat' split
  all_goals omega

/-! ## The order of the filters -/

def rankClass : Nat → BitVec 32
  | 8 => retKillProcess
  | 7 => retKillThread
  | 6 => retTrap
  | 5 => retErrno
  | 3 => retTrace
  | 2 => retLog
  | _ => retAllow

theorem actionFull_eq_rankClass {action : BitVec 32} (h : actionRank action ≠ 4) :
    actionFull action = rankClass (actionRank action) := by
  unfold actionRank at h ⊢
  repeat' split
  all_goals first | assumption | skip
  exact absurd (by simp [*]) h

section

variable {filters filters' : List SeccompProgram} {data : SeccompData}

theorem actionRank_le_selectAction {p : SeccompProgram} (hp : p ∈ filters) :
    actionRank (evalProgram p data) ≤ actionRank (selectAction filters data) :=
  Hw.rank_le_rank_pick (f := (evalProgram · data)) hp

theorem actionRank_selectAction_perm (h : filters'.Perm filters) (data : SeccompData) :
    actionRank (selectAction filters' data) = actionRank (selectAction filters data) :=
  Hw.rank_pick_perm h

/-- The filters that give an action of the highest rank, the oldest first. -/
def topFilters (filters : List SeccompProgram) (data : SeccompData) : List SeccompProgram :=
  filters.filter fun p => ∀ q ∈ filters,
    actionRank (evalProgram q data) ≤ actionRank (evalProgram p data)

theorem topFilters_eq (filters : List SeccompProgram) (data : SeccompData) :
    topFilters filters data = filters.filter fun p =>
      actionRank (evalProgram p data) = actionRank (selectAction filters data) := by
  refine List.filter_congr fun p hp => decide_eq_decide.mpr ⟨fun htop => ?_, fun heq q hq => ?_⟩
  · exact Nat.le_antisymm (actionRank_le_selectAction hp)
      (Hw.rank_pick_le_iff.mpr ⟨one_le_actionRank _, htop⟩)
  · rw [heq]
    exact actionRank_le_selectAction hq

theorem selectAction_cases (filters : List SeccompProgram) (data : SeccompData) :
    actionRank (selectAction filters data) = 1 ∧ selectAction filters data = retAllow ∨
      1 < actionRank (selectAction filters data) ∧
        ∃ p, (topFilters filters data).head? = some p ∧
          selectAction filters data = evalProgram p data := by
  rcases Nat.eq_or_lt_of_le (one_le_actionRank (selectAction filters data)) with hone | hlt
  · exact .inl ⟨hone.symm, Hw.pick_eq_init hone.symm⟩
  · have hstart : actionRank retAllow <
        actionRank (Hw.pick actionRank (evalProgram · data) retAllow filters) := hlt
    obtain ⟨p, hp, heq⟩ := Option.map_eq_some_iff.mp (Hw.map_head_pick hstart)
    exact .inr ⟨hlt, p, topFilters_eq filters data ▸ hp, heq.symm⟩

end

/-- The order of the filters changes neither what is denied nor the rank of the action, the highest
of all, and so not the class of a listed action. -/
theorem seccomp_order {s s' : SeccompState} (hmode : s'.mode = s.mode)
    (hperm : s'.filters.Perm s.filters) (packet : RuntimeEventRecord) :
    (Denied s' packet ↔ Denied s packet) ∧
      actionRank (selectAction s'.filters (seccompData packet)) =
        actionRank (selectAction s.filters (seccompData packet)) ∧
      (actionRank (selectAction s.filters (seccompData packet)) ≠ 4 →
        actionFull (selectAction s'.filters (seccompData packet)) =
          actionFull (selectAction s.filters (seccompData packet))) ∧
      (∀ p ∈ s.filters, actionRank (evalProgram p (seccompData packet)) ≤
        actionRank (selectAction s.filters (seccompData packet))) ∧
      (selectAction s.filters (seccompData packet) = retAllow ∨
        ∃ p ∈ s.filters,
          selectAction s.filters (seccompData packet) = evalProgram p (seccompData packet)) := by
  have hrank := actionRank_selectAction_perm hperm (seccompData packet)
  refine ⟨?_, hrank, fun h4 => ?_, fun p => actionRank_le_selectAction, ?_⟩
  · rw [denied_iff, denied_iff, hmode, hrank]
  · rw [actionFull_eq_rankClass h4, actionFull_eq_rankClass (hrank ▸ h4), hrank]
  · rcases selectAction_cases s.filters (seccompData packet) with ⟨-, h⟩ | ⟨-, p, hp, h⟩
    · exact .inl h
    · exact .inr ⟨p, (List.mem_filter.mp (List.mem_of_head? hp)).1, h⟩

def retProgram (action : BitVec 32) : SeccompProgram := ⟨[⟨0x06, 0, 0, action⟩]⟩

theorem bpfClass_ret : bpfClass 0x06#16 = some .ret ∧ bpfRval 0x06#16 = some .k := by decide

theorem evalProgram_retProgram (action : BitVec 32) (data : SeccompData) :
    evalProgram (retProgram action) data = action := by
  have hbody : (bpfLoop (retProgram action) data).body {} = .error (.ret action) := by
    simp [bpfLoop, bpfBody, bpfExec, retProgram, bpfClass_ret]
  rw [evalProgram, Hw.Loop.exit_error hbody]
  rfl

theorem validateProgram_retProgram (action : BitVec 32) :
    validateProgram (retProgram action) := by
  simp [validateProgram, validateInsn, retProgram, SeccompProgram.len, seccompMaxInsns,
    bpfClass_ret]

def installed (filters : List SeccompProgram) : SeccompState := { mode := .filter, filters }

def syscallPacket (number : BitVec 64) (args : Vector (BitVec 64) 8) : RuntimeEventRecord :=
  ⟨1, 1, number, 0, 0x4000, 0x4004, eventRecordRequiredFlags, .replicate 2 0, args⟩

def mkdiratPacket : RuntimeEventRecord := syscallPacket 34 (.replicate 8 0)

theorem seccomp_order_two :
    Denied (installed [retProgram retAllow, retProgram retTrap]) mkdiratPacket ↔
      Denied (installed [retProgram retTrap, retProgram retAllow]) mkdiratPacket := by
  have hmode : (installed [retProgram retAllow, retProgram retTrap]).mode =
      (installed [retProgram retTrap, retProgram retAllow]).mode := rfl
  exact (seccomp_order hmode (List.Perm.swap _ _ _) mkdiratPacket).1

/-! ## The newest filter -/

def actionData (action : BitVec 32) : BitVec 32 := action &&& 0x0000ffff#32

/-- The data of the selected action are those of the newest filter of the highest rank. -/
def NewestDecides (filters : List SeccompProgram) (data : SeccompData) : Prop :=
  ∀ newest, (topFilters filters data).getLast? = some newest →
    actionData (selectAction filters data) = actionData (evalProgram newest data)

/-- The newest filter of the highest rank decides exactly when the oldest one gives the same data,
or no data if all filters allow the call. -/
theorem newest_decides_iff (filters : List SeccompProgram) (data : SeccompData) :
    NewestDecides filters data ↔
      ∀ newest, (topFilters filters data).getLast? = some newest →
        if actionRank (evalProgram newest data) = 1 then actionData (evalProgram newest data) = 0
        else ∀ oldest, (topFilters filters data).head? = some oldest →
          actionData (evalProgram oldest data) = actionData (evalProgram newest data) := by
  have hallow : actionData retAllow = 0 := by decide
  refine forall₂_congr fun newest hnewest => ?_
  have hrank : actionRank (evalProgram newest data) = actionRank (selectAction filters data) := by
    rw [topFilters_eq] at hnewest
    simpa using (List.mem_filter.mp (List.mem_of_getLast? hnewest)).2
  rw [hrank]
  rcases selectAction_cases filters data with ⟨hone, hsel⟩ | ⟨hlt, oldest, hold, hsel⟩
  · rw [if_pos hone, hsel, hallow, eq_comm]
  · rw [if_neg (Nat.ne_of_gt hlt), hsel]
    constructor
    · intro heq p hp
      cases hold.symm.trans hp
      exact heq
    · exact fun hall => hall oldest hold

/-- Two filters that deny every system call with an error, EPERM first and EACCES after it. -/
def twoErrors : List SeccompProgram := [retProgram 0x00050001#32, retProgram 0x0005000d#32]

/-- The guest is told EPERM, that of the older filter. -/
theorem oldest_decides :
    (∀ p ∈ twoErrors, validateProgram p = true) ∧
      (topFilters twoErrors (seccompData mkdiratPacket)).getLast? =
        some (retProgram 0x0005000d#32) ∧
      actionData (evalProgram (retProgram 0x0005000d#32) (seccompData mkdiratPacket)) = 13#32 ∧
      actionData (selectAction twoErrors (seccompData mkdiratPacket)) = 1#32 ∧
      (preflightSyscall mkdiratPacket (installed twoErrors)).1 = some (negErrno EPERM) := by
  have hselect : selectAction twoErrors (seccompData mkdiratPacket) = 0x00050001#32 := by
    simp only [selectAction, twoErrors, List.foldl_cons, List.foldl_nil, evalProgram_retProgram]
    decide
  refine ⟨?_, ?_, ?_, ?_, ?_⟩
  · simp [twoErrors, validateProgram_retProgram]
  · have hrank : actionRank 0x0005000d#32 = actionRank 0x00050001#32 := by decide
    rw [topFilters_eq, hselect]
    simp [twoErrors, evalProgram_retProgram, hrank]
  · rw [evalProgram_retProgram]
    decide
  · rw [hselect]
    decide
  · rw [preflightSyscall]
    simp only [installed, hselect]
    decide

/-! ## Error numbers -/

def IsLinuxError (result : BitVec 64) : Prop := -4095 ≤ result.toInt ∧ result.toInt ≤ -1
  deriving Decidable

theorem isLinuxError_eperm : IsLinuxError (negErrno EPERM) := by decide

theorem isLinuxError_neg {error : BitVec 32} (h0 : error ≠ 0) (hle : error.toNat ≤ 0xffff) :
    IsLinuxError (-error.setWidth 64) ↔ error.toNat ≤ 4095 := by
  have hpos : 0 < error.toNat := Nat.pos_of_ne_zero fun h => h0 (BitVec.eq_of_toNat_eq h)
  have hneg : (-error.setWidth 64).toNat = 2 ^ 64 - error.toNat := by
    rw [BitVec.toNat_neg, BitVec.toNat_setWidth]
    omega
  rw [IsLinuxError, BitVec.toInt_eq_toNat_cond, hneg]
  split <;> omega

theorem actionData_le (action : BitVec 32) : (actionData action).toNat ≤ 0xffff := by
  exact Nat.and_le_right

/-- A denied system call returns an error number exactly when strict mode denies it, or the action
is not ERRNO, or its data are an error number. -/
theorem denial_is_error_iff {s : SeccompState} {packet : RuntimeEventRecord} {result : BitVec 64}
    (h : (preflightSyscall packet s).1 = some result) :
    IsLinuxError result ↔
      (s.mode = .strict ∧ strictAllows packet = false) ∨
        actionFull (selectAction s.filters (seccompData packet)) ≠ retErrno ∨
        (actionData (selectAction s.filters (seccompData packet))).toNat ≤ 4095 := by
  rw [preflightSyscall] at h
  split at h
  · cases h
  dsimp only [deny] at h
  split at h
  · rename_i hstrict
    cases h
    exact iff_of_true isLinuxError_eperm (.inl ⟨hstrict.1, by simpa using hstrict.2⟩)
  rename_i hstrict
  split at h
  · cases h
  split at h
  · cases h
  split at h
  · rename_i herrno
    cases h
    have hleft : ¬(s.mode = .strict ∧ strictAllows packet = false) := by simpa using hstrict
    rw [or_iff_right hleft, or_iff_right (not_not_intro herrno)]
    split
    · rename_i hzero
      rw [actionData, hzero]
      exact iff_of_true (by decide) (by decide)
    · rename_i hnonzero
      exact isLinuxError_neg hnonzero (actionData_le _)
  · rename_i hother
    cases h
    exact iff_of_true isLinuxError_eperm (.inr (.inl hother))

theorem selectAction_retProgram {action : BitVec 32} (h : 1 < actionRank action)
    (data : SeccompData) : selectAction [retProgram action] data = action := by
  simp only [selectAction, List.foldl_cons, List.foldl_nil, evalProgram_retProgram]
  exact if_pos h

/-- A filter that returns ERRNO with the data 13. -/
theorem denial_is_error_iff_eacces :
    ∃ result, (preflightSyscall mkdiratPacket (installed [retProgram 0x0005000d#32])).1 =
        some result ∧ IsLinuxError result := by
  have hselect : selectAction [retProgram 0x0005000d#32] (seccompData mkdiratPacket) =
      0x0005000d#32 := selectAction_retProgram (by decide) _
  have hdenied : (preflightSyscall mkdiratPacket (installed [retProgram 0x0005000d#32])).1 =
      some (-13) := by
    rw [preflightSyscall]
    simp only [installed, hselect]
    decide
  refine ⟨_, hdenied, (denial_is_error_iff hdenied).mpr (.inr (.inr ?_))⟩
  rw [installed, hselect]
  decide

/-- A guest memory with the program that returns ERRNO with the data `0xffff`, and the record of its
length and address. -/
def errnoMemory : GuestMemory where
  readable _ _ := true
  byte address :=
    match address.toNat with
    | 0x1000 => 1
    | 0x1009 => 0x20
    | 0x2000 => 6
    | 0x2004 => 0xff
    | 0x2005 => 0xff
    | 0x2006 => 5
    | _ => 0

def installEvent : HostAnswers × RuntimeEventRecord :=
  (⟨errnoMemory, none, none, none, 0⟩, syscallPacket 277 #v[1, 0, 0x1000, 0, 0, 0, 0, 0])

theorem run_installEvent :
    seccompMachine.run {} [installEvent] = installed [retProgram 0x0005ffff#32] := by
  decide

/-- After that the result of `mkdirat` is -65535. -/
theorem denial_not_error :
    ∃ s, seccompMachine.Reach s ∧
      (preflightSyscall mkdiratPacket s).1 = some (-65535) ∧ ¬IsLinuxError (-65535) := by
  have hselect : selectAction [retProgram 0x0005ffff#32] (seccompData mkdiratPacket) =
      0x0005ffff#32 := selectAction_retProgram (by decide) _
  refine ⟨installed [retProgram 0x0005ffff#32], ?_, ?_, by decide⟩
  · rw [← run_installEvent]
    exact (Hw.Machine.Reach.init rfl).run [installEvent]
  · rw [preflightSyscall]
    simp only [installed, hselect]
    decide

end Poly.Polyexec
