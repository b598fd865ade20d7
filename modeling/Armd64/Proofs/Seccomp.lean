import Armd64.Lib.Select
import Armd64.Polyexec.Seccomp

/-!
# Seccomp restrictions only grow

The action with the highest rank decides, so a longer list of programs denies at least as much; and
a system call that changes the policy must first pass the policy, which strict mode never lets it.
-/

namespace Poly.Polyexec

/-! ## What is denied -/

def Denied (s : SeccompState) (packet : RuntimeEventRecord) : Prop :=
  (preflightSyscall packet s).1.isSome = true

theorem actionRank_le_two (action : BitVec 32) :
    actionRank action ≤ 2 ↔ actionFull action = retAllow ∨ actionFull action = retLog := by
  rw [actionRank]
  generalize actionFull action = full
  constructor
  · intro h
    by_contra hno
    rw [not_or] at hno
    rw [if_neg hno.1, if_neg hno.2] at h
    repeat' split at h
    all_goals omega
  · rintro (rfl | rfl) <;> decide

theorem selectAction_eq_pick (filters : List SeccompProgram) (data : SeccompData) :
    selectAction filters data = Hw.pick actionRank (evalProgram · data) retAllow filters := rfl

theorem selectAction_append_le (filters added : List SeccompProgram) (data : SeccompData) :
    actionRank (selectAction filters data) ≤ actionRank (selectAction (filters ++ added) data) := by
  rw [selectAction_eq_pick, selectAction_eq_pick, Hw.pick_append]
  exact Hw.rank_init_le

theorem actionRank_selectAction_nil (data : SeccompData) :
    ¬2 < actionRank (selectAction [] data) := by
  rw [selectAction, List.foldl_nil]
  decide

theorem denied_iff (s : SeccompState) (packet : RuntimeEventRecord) :
    Denied s packet ↔ s.mode = .strict ∧ strictAllows packet = false ∨
      s.mode ≠ .disabled ∧ 2 < actionRank (selectAction s.filters (seccompData packet)) := by
  rw [Denied, preflightSyscall]
  split
  · -- The preflight has nothing to check.
    rename_i hoff
    obtain ⟨hoff, hstrict⟩ := hoff
    refine ⟨fun h => absurd h Bool.false_ne_true, ?_⟩
    rintro (⟨h, -⟩ | ⟨hmode, hrank⟩)
    · exact absurd h hstrict
    · rw [hoff.resolve_left hmode] at hrank
      exact absurd hrank (actionRank_selectAction_nil _)
  · rename_i hon
    dsimp only
    split
    · rename_i hdeny
      exact ⟨fun _ => .inl ⟨hdeny.1, by simpa using hdeny.2⟩, fun _ => rfl⟩
    · -- Strict mode lets the system call pass, so the programs decide.
      rename_i hallow
      have hleft : ¬(s.mode = .strict ∧ strictAllows packet = false) := by simpa using hallow
      have hmode : s.mode ≠ .disabled := fun hd =>
        hon ⟨.inl hd, by rw [hd]; decide⟩
      rw [or_iff_right hleft, and_iff_right hmode]
      split
      · rename_i hempty
        rw [hempty]
        exact ⟨fun h => absurd h Bool.false_ne_true,
          fun h => absurd h (actionRank_selectAction_nil _)⟩
      · rw [← Nat.not_le, actionRank_le_two]
        split
        · rename_i hsel
          exact ⟨fun h => absurd h Bool.false_ne_true, fun h => absurd hsel h⟩
        · rename_i hsel
          refine ⟨fun _ => hsel, fun _ => ?_⟩
          split <;> rfl

/-! ## What an event does to the policy -/

/-- The change of the policy by one event; `ok` is that the event succeeds. -/
inductive Change (ok : Prop) (s s' : SeccompState) : Prop
  | same (hm : s'.mode = s.mode) (hf : s'.filters = s.filters)
  | strict (h : ok) (hm : s'.mode = .strict) (hf : s'.filters = s.filters)
  | install (h : ok) (p : SeccompProgram) (hv : validateProgram p = true) (hm : s'.mode = .filter)
    (hf : s'.filters = s.filters ++ [p])

theorem Change.refl {ok : Prop} (s : SeccompState) : Change ok s s := .same rfl rfl

theorem Change.imp {ok ok' : Prop} {s s' : SeccompState} (h : Change ok s s') (himp : ok → ok') :
    Change ok' s s' := by
  cases h with
  | same hm hf => exact .same hm hf
  | strict h hm hf => exact .strict (himp h) hm hf
  | install h p hv hm hf => exact .install (himp h) p hv hm hf

theorem Change.of_failed {ok : Prop} {s s' : SeccompState} (h : Change ok s s') (hno : ¬ok) :
    s'.mode = s.mode ∧ s'.filters = s.filters := by
  cases h with
  | same hm hf => exact ⟨hm, hf⟩
  | strict h => exact absurd h hno
  | install h => exact absurd h hno

section

variable (m : GuestMemory) (s : SeccompState)

theorem installFilter_change (fprogAddr : BitVec 64) :
    Change ((installFilter m fprogAddr s).1 = 0) s (installFilter m fprogAddr s).2 := by
  rw [installFilter]
  split
  · exact .refl s
  dsimp only
  split
  · exact .refl s
  split
  · exact .refl s
  split
  · exact .refl s
  rename_i hvalid
  rw [Bool.not_eq_true', Bool.not_eq_false] at hvalid
  split
  · exact .refl s
  · exact .install rfl _ hvalid rfl rfl

theorem dispatchPrctl_change (args : Vector (BitVec 64) 8) :
    Change ((dispatchPrctl m args s).1 = some 0) s (dispatchPrctl m args s).2 := by
  rw [dispatchPrctl]
  split
  · split
    · exact .refl s
    · exact .same rfl rfl
  split
  · exact .refl s
  split
  · exact .refl s
  split
  · split
    · exact .strict rfl rfl rfl
    split
    · exact (installFilter_change m s _).imp (congrArg some)
    · exact .refl s
  · exact .refl s

theorem dispatchSeccomp_change (args : Vector (BitVec 64) 8) :
    Change ((dispatchSeccomp m args s).1 = 0) s (dispatchSeccomp m args s).2 := by
  rw [dispatchSeccomp]
  split
  · split
    · exact .refl s
    · exact .strict rfl rfl rfl
  split
  · split
    · exact .refl s
    · exact installFilter_change m s _
  split
  · split <;> exact .refl s
  · exact .refl s

theorem dispatchControl_change (packet : RuntimeEventRecord) (call : X86Syscall) :
    Change ((dispatchControl m packet call s).1 = some 0) s (dispatchControl m packet call s).2 := by
  cases call with
  | prctl => exact dispatchPrctl_change m s _
  | seccomp => exact (dispatchSeccomp_change m s _).imp (congrArg some)
  | bpf | execve | exit | exitGroup | other => exact .refl s

theorem dispatchControl_of_strictAllows {packet : RuntimeEventRecord} {call : X86Syscall}
    (h : strictAllows packet) (hcall : genericLinuxSyscallToX86 packet.number = some call) :
    (dispatchControl m packet call s).2 = s := by
  have hnot : genericLinuxSyscallToX86 packet.number ≠ some .prctl ∧
      genericLinuxSyscallToX86 packet.number ≠ some .seccomp := by
    rw [strictAllows] at h
    simp only [Bool.or_eq_true, beq_iff_eq] at h
    rcases h with (((h | h) | h) | h) | h <;> rw [h] <;> decide
  cases call with
  | prctl => exact absurd hcall hnot.1
  | seccomp => exact absurd hcall hnot.2
  | bpf | execve | exit | exitGroup | other => rfl

theorem dispatchSyscall_cases (host : HostAnswers) (packet : RuntimeEventRecord) :
    (dispatchSyscall host packet s).2 = s ∨
      ∃ call, genericLinuxSyscallToX86 packet.number = some call ∧
        (dispatchSyscall host packet s).2 = (dispatchControl host.memory packet call s).2 ∧
        ((dispatchControl host.memory packet call s).1 = some 0 →
          (dispatchSyscall host packet s).1 = .result 0) := by
  rw [dispatchSyscall]
  split
  · exact .inl rfl
  split
  · exact .inl rfl
  · exact .inl rfl
  · rename_i call _ hcall
    split
    · exact .inl rfl
    split
    · exact .inl rfl
    · refine .inr ⟨call, hcall, ?_⟩
      generalize dispatchControl host.memory packet call s = r
      obtain ⟨_ | result, s'⟩ := r
      · exact ⟨rfl, fun h => by cases h⟩
      · exact ⟨rfl, fun h => congrArg Dispatched.result (Option.some.inj h)⟩

theorem preflightSyscall_same (packet : RuntimeEventRecord) :
    (preflightSyscall packet s).2.mode = s.mode ∧
      (preflightSyscall packet s).2.filters = s.filters := by
  rw [preflightSyscall]
  split
  · exact ⟨rfl, rfl⟩
  · dsimp only [deny]
    repeat' split
    all_goals exact ⟨rfl, rfl⟩

theorem strictAllows_of_not_denied (packet : RuntimeEventRecord) (hs : s.mode = .strict)
    (h : (preflightSyscall packet s).1 = none) : strictAllows packet := by
  by_contra hno
  have hdenied : Denied s packet := (denied_iff s packet).mpr (.inl ⟨hs, by simpa using hno⟩)
  rw [Denied, h] at hdenied
  cases hdenied

theorem trapVectorDispatch_change (host : HostAnswers) (packet : RuntimeEventRecord) :
    Change ((trapVectorDispatch host packet s).1 = .result 0) s (trapVectorDispatch host packet s).2 ∧
      (s.mode = .strict → (trapVectorDispatch host packet s).2.mode = .strict) := by
  rw [trapVectorDispatch]
  split
  · exact ⟨.refl s, id⟩
  split
  · obtain ⟨hm, hf⟩ := preflightSyscall_same s packet
    have hallowed := strictAllows_of_not_denied s packet
    generalize preflightSyscall packet s = r at hm hf hallowed
    obtain ⟨_ | result, t⟩ := r
    · rcases dispatchSyscall_cases t host packet with hsame | ⟨call, hcall, hstate, hok⟩
      · rw [hsame]
        exact ⟨.same hm hf, fun hs => hm.trans hs⟩
      · have hchange := (dispatchControl_change host.memory t packet call).imp hok
        rw [← hstate] at hchange
        refine ⟨?_, fun hs => ?_⟩
        · cases hchange with
          | same hm' hf' => exact .same (hm'.trans hm) (hf'.trans hf)
          | strict h hm' hf' => exact .strict h hm' (hf'.trans hf)
          | install h p hv hm' hf' => exact .install h p hv hm' (by rw [hf', hf])
        · rw [hstate, dispatchControl_of_strictAllows host.memory t (hallowed hs rfl) hcall]
          exact hm.trans hs
    · exact ⟨.same hm hf, fun hs => hm.trans hs⟩
  · exact ⟨.refl s, id⟩

end

/-! ## Sequences of events -/

/-- The policy `s'` restricts at least as much as `s`, by appended programs that passed the
check. -/
structure Tightened (s s' : SeccompState) : Prop where
  filters : ∃ added, s'.filters = s.filters ++ added ∧ ∀ p ∈ added, validateProgram p = true
  strict : s.mode = .strict → s'.mode = .strict
  enabled : s.mode ≠ .disabled → s'.mode ≠ .disabled

theorem Tightened.refl (s : SeccompState) : Tightened s s :=
  ⟨⟨[], (List.append_nil _).symm, by simp⟩, id, id⟩

theorem Tightened.trans {s s' s'' : SeccompState} (h : Tightened s s') (h' : Tightened s' s'') :
    Tightened s s'' := by
  obtain ⟨added, hf, hv⟩ := h.filters
  obtain ⟨added', hf', hv'⟩ := h'.filters
  refine ⟨⟨added ++ added', by rw [hf', hf, List.append_assoc], fun p hp => ?_⟩,
    fun hs => h'.strict (h.strict hs), fun hs => h'.enabled (h.enabled hs)⟩
  exact (List.mem_append.mp hp).elim (hv p) (hv' p)

theorem tightened_step (s : SeccompState) (e : HostAnswers × RuntimeEventRecord) :
    Tightened s (seccompMachine.step s e) := by
  obtain ⟨hchange, hstrict⟩ := trapVectorDispatch_change s e.1 e.2
  cases hchange with
  | same hm hf =>
    exact ⟨⟨[], hf.trans (List.append_nil _).symm, by simp⟩, hstrict, fun hs hd =>
      hs (hm.symm.trans hd)⟩
  | strict _ hm hf =>
    exact ⟨⟨[], hf.trans (List.append_nil _).symm, by simp⟩, hstrict, fun _ hd =>
      absurd (hm.symm.trans hd) (by decide)⟩
  | install _ p hv hm hf =>
    exact ⟨⟨[p], hf, by simpa using hv⟩, hstrict, fun _ hd =>
      absurd (hm.symm.trans hd) (by decide)⟩

theorem tightened_run (s : SeccompState) (es : List (HostAnswers × RuntimeEventRecord)) :
    Tightened s (seccompMachine.run s es) :=
  Hw.Machine.run_induction (.refl s) fun c _ h => h.trans (tightened_step c.1 c.2)

theorem Denied.mono {s s' : SeccompState} (h : Tightened s s') {packet packet' : RuntimeEventRecord}
    (hnumber : packet'.number = packet.number) (hdata : seccompData packet' = seccompData packet)
    (hd : Denied s packet) : Denied s' packet' := by
  have hallows : strictAllows packet' = strictAllows packet := by
    rw [strictAllows, strictAllows, hnumber]
  obtain ⟨added, hf, -⟩ := h.filters
  rw [denied_iff] at hd ⊢
  rw [hallows, hdata, hf]
  rcases hd with ⟨hs, hno⟩ | ⟨hs, hrank⟩
  · exact .inl ⟨h.strict hs, hno⟩
  · exact .inr ⟨h.enabled hs, Nat.lt_of_lt_of_le hrank (selectAction_append_le ..)⟩

/-- Over every sequence of events: what is denied is denied ever after; the filters grow by programs
that passed the check; an event that fails changes neither mode nor list; and strict mode is never
left. -/
theorem seccomp_monotone (s : SeccompState) (es : List (HostAnswers × RuntimeEventRecord)) :
    (∀ packet packet' : RuntimeEventRecord, packet'.number = packet.number →
        packet'.mode = packet.mode → packet'.pc = packet.pc → packet'.args = packet.args →
        Denied s packet → Denied (seccompMachine.run s es) packet') ∧
      (∃ added, (seccompMachine.run s es).filters = s.filters ++ added ∧
        ∀ p ∈ added, validateProgram p = true) ∧
      (∀ c ∈ seccompMachine.cycles s es, (trapVectorDispatch c.2.1 c.2.2 c.1).1 ≠ .result 0 →
        (seccompMachine.step c.1 c.2).mode = c.1.mode ∧
          (seccompMachine.step c.1 c.2).filters = c.1.filters) ∧
      (s.mode = .strict → (seccompMachine.run s es).mode = .strict) := by
  have htight := tightened_run s es
  refine ⟨fun packet packet' hn hm hpc hargs hd => hd.mono htight hn ?_, htight.filters,
    fun c _ hfail => (trapVectorDispatch_change c.1 c.2.1 c.2.2).1.of_failed hfail, htight.strict⟩
  rw [seccompData, seccompData, hn, hm, hpc, hargs]

end Poly.Polyexec
