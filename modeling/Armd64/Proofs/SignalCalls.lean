import Armd64.Polyexec.SignalCalls
import Armd64.Proofs.Signals

/-!
# What the system calls of signals change

`rt_sigprocmask` changes the two masks, `rt_sigaction` the action table, `sigaltstack` the alternate
stack, and `rt_sigreturn` the mask and the state image. Nothing else of a thread changes but its
memory.
-/

namespace Poly.Polyexec

variable {cfg : SignalConfig} {kernel : SignalKernel} {host : SignalHost} {s : SignalSystem}
  {t : SignalThread}

/-! ## `rt_sigprocmask` -/

theorem storeOldset_eq (host : SignalHost) (oldset value : BitVec 64) (s : SignalSystem) :
    ∃ mem, (storeOldset host oldset value s).2 =
      { s with thread := { s.thread with mem := mem } } := by
  rw [storeOldset]
  split
  · exact ⟨s.thread.mem, rfl⟩
  · split
    · exact ⟨s.thread.mem, rfl⟩
    · next mem _ => exact ⟨mem, rfl⟩

structure SigprocmaskReads (host : SignalHost) (how set sigsetsize : BitVec 64) (s : SignalSystem)
    (guestSet : Option (BitVec 64)) : Prop where
  size : sigsetsize = 8
  how : how = sigBlock ∨ how = sigUnblock ∨ how = sigSetmask
  set : readPointer (polyGuestReadU64 host s.thread.mem) set = some guestSet

theorem hostSigprocmask_isSome {how : BitVec 64} (set : Option (BitVec 64)) (mask : BitVec 64)
    (h : how = sigBlock ∨ how = sigUnblock ∨ how = sigSetmask) :
    ∃ mask', hostSigprocmask how set mask = some mask' := by
  cases set with
  | none => exact ⟨mask, rfl⟩
  | some set => rcases h with rfl | rfl | rfl <;> exact ⟨_, rfl⟩

/-- The exits of `rt_sigprocmask`: a call that passes its checks changes both masks, the others
nothing. -/
inductive SigprocmaskExit (cfg : SignalConfig) (host : SignalHost)
    (how set oldset sigsetsize : BitVec 64) (s : SignalSystem) : SignalSystem → Prop
  | rejected (h : ∀ guestSet, ¬SigprocmaskReads host how set sigsetsize s guestSet) :
      SigprocmaskExit cfg host how set oldset sigsetsize s s
  | changed {guestSet : Option (BitVec 64)} {hostMask : BitVec 64} {mem : Hw.Memory}
      (hreads : SigprocmaskReads host how set sigsetsize s guestSet)
      (hhost : hostSigprocmask how (guestSet.map (polySanitizeHostRuntimeSigset cfg)) s.hostMask =
        some hostMask) :
      SigprocmaskExit cfg host how set oldset sigsetsize s
        { s with
          hostMask := hostMask
          thread :=
            { s.thread with
              mem := mem
              sigmask :=
                (guestSet.map (polyUpdateGuestSigmask (guestOldset cfg guestSet oldset s) how)).getD
                  (guestOldset cfg guestSet oldset s)
              sigmaskValid := true } }

section

variable {how set oldset sigsetsize : BitVec 64}

theorem sigprocmask_exit : SigprocmaskExit cfg host how set oldset sigsetsize s
    (polyDispatchRtSigprocmask cfg host how set oldset sigsetsize s).2 := by
  unfold polyDispatchRtSigprocmask
  split
  · next hsize => exact .rejected fun _ h => hsize h.size
  next hsize =>
  split
  · next hhow =>
    exact .rejected fun _ h => h.how.elim hhow.1 fun h => h.elim hhow.2.1 hhow.2.2
  next hhow =>
  simp only [not_and_or, ne_eq, not_not] at hsize hhow
  split
  · next hset =>
    refine .rejected fun _ h => ?_
    rw [h.set] at hset
    cases hset
  · next guestSet hset =>
    obtain ⟨hostMask, hhost⟩ := hostSigprocmask_isSome
      (guestSet.map (polySanitizeHostRuntimeSigset cfg)) s.hostMask hhow
    rw [hhost]
    let old := guestOldset cfg guestSet oldset s
    obtain ⟨mem, hmem⟩ := storeOldset_eq host oldset old
      { s with
        hostMask := hostMask
        thread :=
          { s.thread with
            sigmask := (guestSet.map (polyUpdateGuestSigmask old how)).getD old
            sigmaskValid := true } }
    rw [hmem]
    exact .changed ⟨hsize, hhow, hset⟩ hhost

theorem hostRtSigprocmask_cases :
    (hostRtSigprocmask host how set oldset sigsetsize s).2 = s ∨
      ∃ guestSet hostMask mem, hostSigprocmask how guestSet s.hostMask = some hostMask ∧
        (hostRtSigprocmask host how set oldset sigsetsize s).2 =
          { s with hostMask := hostMask, thread := { s.thread with mem := mem } } := by
  unfold hostRtSigprocmask
  split
  · exact .inl rfl
  · split
    · exact .inl rfl
    · next guestSet _ =>
      split
      · exact .inl rfl
      · next hostMask hhost =>
        obtain ⟨mem, hmem⟩ := storeOldset_eq host oldset s.hostMask { s with hostMask := hostMask }
        exact .inr ⟨guestSet, hostMask, mem, hhost, hmem⟩

theorem guestRtSigprocmask_frame :
    ∃ hostMask mem sigmask sigmaskValid,
      (guestRtSigprocmask cfg host how set oldset sigsetsize s).2 =
        { s with
          hostMask := hostMask
          thread :=
            { s.thread with mem := mem, sigmask := sigmask, sigmaskValid := sigmaskValid } } := by
  unfold guestRtSigprocmask
  split
  · have hexit : SigprocmaskExit cfg host how set oldset sigsetsize s _ := sigprocmask_exit
    generalize (polyDispatchRtSigprocmask cfg host how set oldset sigsetsize s).2 = s' at hexit ⊢
    cases hexit with
    | rejected => exact ⟨_, _, _, _, rfl⟩
    | changed => exact ⟨_, _, _, _, rfl⟩
  · rcases hostRtSigprocmask_cases with hsame | ⟨_, _, _, -, heq⟩
    · exact ⟨_, _, _, _, hsame⟩
    · exact ⟨_, _, _, _, heq⟩

end

/-! ## `rt_sigaction` -/

theorem HostError.msb_result (e : HostError) : e.result.msb := by
  have hpos := e.pos
  have hle := e.le
  rw [HostError.result, BitVec.msb_eq_decide, BitVec.toNat_neg, BitVec.toNat_ofNat]
  exact decide_eq_true (by omega)

theorem polyStoreGuestSignalAction_eq (host : SignalHost) (signum : Nat) (oldact : BitVec 64)
    (t : SignalThread) :
    ∃ mem, polyStoreGuestSignalAction host signum oldact t = { t with mem := mem } := by
  unfold polyStoreGuestSignalAction
  split
  · exact ⟨t.mem, rfl⟩
  · dsimp only
    split
    · exact ⟨t.mem, rfl⟩
    · next mem _ => exact ⟨mem, rfl⟩

def suppliedAction (host : SignalHost) (mode signum act sigsetsize : BitVec 64)
    (t : SignalThread) : Option Ksigaction :=
  if polyIsRawForeignMode mode ∧ sigsetsize = 8 ∧ signum ≠ 0 ∧
      signum.toNat < signalActionCount ∧ act ≠ 0 ∧ signum.toNat ≠ sigkill ∧
      signum.toNat ≠ sigstop then
    polyGuestReadKsigaction host t.mem act
  else none

def HostFirst (cfg : SignalConfig) (signum : Nat) : Prop :=
  (signum = sigchld ∧ cfg.virtualSigchld = true) ∨ polyIsProtectedRuntimeSignal cfg signum = true

/-- The exits of `rt_sigaction` that supplies `action` with the pointer `act`: the result, and what
becomes of the thread `t`. -/
inductive SigactionExit (cfg : SignalConfig) (signum : Nat) (act : BitVec 64)
    (supplied : Option Ksigaction) (t : SignalThread) : BitVec 64 → SignalThread → Prop
  | rejected {r : BitVec 64} (hr : r.msb = true) (h : supplied = none) :
      SigactionExit cfg signum act supplied t r t
  | query {mem : Hw.Memory} (e : Option HostError) (hact : act = 0) (h : supplied = none) :
      SigactionExit cfg signum act supplied t (hostResult e) { t with mem := mem }
  | refused {action : Ksigaction} {mem : Hw.Memory} (e : HostError) (h : supplied = some action)
      (hfirst : HostFirst cfg signum) :
      SigactionExit cfg signum act supplied t e.result { t with mem := mem }
  | installed {action : Ksigaction} {mem : Hw.Memory} (e : Option HostError)
      (h : supplied = some action) (hfirst : HostFirst cfg signum → e = none) :
      SigactionExit cfg signum act supplied t (hostResult e)
        (setAction signum action { t with mem := mem })

theorem not_hostFirst_of_fault {signum : Nat} (h : isFaultSignal signum) :
    ¬HostFirst cfg signum := by
  rw [isFaultSignal, Bool.or_eq_true, Bool.or_eq_true, beq_iff_eq, beq_iff_eq, beq_iff_eq] at h
  rintro (⟨h', -⟩ | h')
  · rcases h with (rfl | rfl) | rfl <;> cases h'
  · rcases h with (rfl | rfl) | rfl <;> simp [polyIsProtectedRuntimeSignal, sigsegv, sigbus, sigill,
      sigurg, sigalrm, sigusr1, sigusr2] at h'

section

variable {act oldact : BitVec 64} {signum : Nat} {guestAct : Option Ksigaction}

structure SigactionReads (act : BitVec 64) (guestAct supplied : Option Ksigaction) : Prop where
  null : guestAct = none → act = 0 ∧ supplied = none
  read : ∀ action, guestAct = some action → supplied = some action

theorem sigactionReads {read : BitVec 64 → Option Ksigaction}
    (h : readPointer read act = some guestAct) :
    SigactionReads act guestAct (if act ≠ 0 then read act else none) := by
  rw [readPointer] at h
  split at h
  · next hact =>
    cases h
    exact ⟨fun _ => ⟨hact, if_neg (not_not.mpr hact)⟩, fun _ h => (nomatch h)⟩
  · next hact =>
    obtain ⟨action, haction, rfl⟩ := Option.map_eq_some_iff.mp h
    rw [if_pos hact]
    exact ⟨fun h => (nomatch h), fun _ h => haction.trans h⟩

variable {supplied : Option Ksigaction}

theorem virtualSigchld_exit
    (hread : readPointer (polyGuestReadKsigaction kernel.toSignalHost t.mem) act = some guestAct)
    (h : SigactionReads act guestAct supplied) (hfirst : HostFirst cfg sigchld) :
    SigactionExit cfg sigchld act supplied t
      (polyDispatchVirtualSigchldAction kernel act oldact t).1
      (polyDispatchVirtualSigchldAction kernel act oldact t).2 := by
  obtain ⟨mem, hmem⟩ := polyStoreGuestSignalAction_eq kernel.toSignalHost sigchld oldact t
  unfold polyDispatchVirtualSigchldAction
  rw [hread]
  rw [hmem]
  cases guestAct with
  | none => exact .query none (h.null rfl).1 (h.null rfl).2
  | some action =>
    dsimp only
    split
    · next e _ => exact .refused e (h.read action rfl) hfirst
    · exact .installed none (h.read action rfl) fun _ => rfl

theorem virtualSigaction_exit (h : SigactionReads act guestAct supplied) :
    SigactionExit cfg signum act supplied s.thread
      (virtualSigaction cfg kernel signum guestAct oldact s).1
      (virtualSigaction cfg kernel signum guestAct oldact s).2.thread := by
  obtain ⟨mem, hmem⟩ := polyStoreGuestSignalAction_eq kernel.toSignalHost signum oldact s.thread
  unfold virtualSigaction
  rw [hmem]
  cases guestAct with
  | none =>
    obtain ⟨hact, hnone⟩ := h.null rfl
    dsimp only [Option.bind_none, Option.map_none, Option.getD_none]
    split
    · exact .query _ hact hnone
    · exact .query none hact hnone
  | some action =>
    have hsome := h.read action rfl
    split
    · next e hfail =>
      split at hfail
      · next hprotected => exact .refused e hsome (.inr hprotected)
      · cases hfail
    · split
      · next hfault =>
        exact .installed _ hsome fun hfirst => absurd hfirst (not_hostFirst_of_fault hfault)
      · exact .installed none hsome fun _ => rfl

theorem ordinarySigaction_exit (h : SigactionReads act guestAct supplied)
    (hfirst : ¬HostFirst cfg signum) :
    SigactionExit cfg signum act supplied s.thread
      (ordinarySigaction kernel signum guestAct oldact s).1
      (ordinarySigaction kernel signum guestAct oldact s).2.thread := by
  obtain ⟨mem, hmem⟩ := polyStoreGuestSignalAction_eq kernel.toSignalHost signum oldact s.thread
  unfold ordinarySigaction
  rw [hmem]
  cases guestAct with
  | none => exact .query none (h.null rfl).1 (h.null rfl).2
  | some action => exact .installed _ (h.read action rfl) fun hf => absurd hf hfirst

end

variable {mode : BitVec 64} {action : Ksigaction} {t' : SignalThread}

theorem suppliedAction_eq {signum act sigsetsize : BitVec 64}
    (hmode : polyIsRawForeignMode mode) (hsize : sigsetsize = 8) (hzero : signum ≠ 0)
    (hlt : signum.toNat < signalActionCount)
    (hkill : act ≠ 0 → signum.toNat ≠ sigkill ∧ signum.toNat ≠ sigstop) :
    suppliedAction host mode signum act sigsetsize t =
      if act ≠ 0 then polyGuestReadKsigaction host t.mem act else none :=
  if_congr ⟨fun h => h.2.2.2.2.1, fun h => ⟨hmode, hsize, hzero, hlt, h, hkill h⟩⟩ rfl rfl

theorem msb_errEnosys : errEnosys.msb := by decide

theorem msb_errEinval : errEinval.msb := by decide

theorem msb_errEfault : errEfault.msb := by decide

theorem suppliedAction_read {signum act sigsetsize : BitVec 64}
    (h : suppliedAction host mode signum act sigsetsize t = some action) :
    polyGuestReadKsigaction host t.mem act = some action := by
  rw [suppliedAction] at h
  split at h
  · exact h
  · cases h

theorem setAction_actions_eq {signum : Nat} {mem : Hw.Memory} :
    (setAction signum action { t with mem := mem }).actions = t.actions ↔
      t.actions signum = (true, action) := by
  constructor
  · intro h
    have hentry := congrFun h signum
    rw [← hentry]
    exact if_pos rfl
  · intro h
    funext n
    show (if n = signum then _ else _) = _
    split
    · next hn => rw [hn, h]
    · rfl

theorem hostResult_cases (e : Option HostError) : hostResult e = 0 ∨ (hostResult e).msb := by
  cases e with
  | none => exact .inl rfl
  | some e => exact .inr e.msb_result

theorem sigaction_exit (mode signum act oldact sigsetsize : BitVec 64) (s : SignalSystem) :
    SigactionExit cfg signum.toNat act
      (suppliedAction kernel.toSignalHost mode signum act sigsetsize s.thread) s.thread
      (polyDispatchRtSigaction cfg kernel mode signum act oldact sigsetsize s).1
      (polyDispatchRtSigaction cfg kernel mode signum act oldact sigsetsize s).2.thread := by
  unfold polyDispatchRtSigaction
  by_cases hmode : polyIsRawForeignMode mode = true
  swap
  · rw [if_pos (by simpa using hmode)]
    exact .rejected msb_errEnosys (if_neg fun hok => hmode hok.1)
  by_cases hsize : sigsetsize = 8
  swap
  · rw [if_neg (by simpa using hmode), if_pos hsize]
    exact .rejected msb_errEinval (if_neg fun hok => hsize hok.2.1)
  by_cases hsignum : signum = 0 ∨ signalActionCount ≤ signum.toNat
  · rw [if_neg (by simpa using hmode), if_neg (not_not.mpr hsize), if_pos hsignum]
    refine .rejected msb_errEinval (if_neg fun hok => ?_)
    rcases hsignum with hzero | hlarge
    · exact hok.2.2.1 hzero
    · exact Nat.not_lt.mpr hlarge hok.2.2.2.1
  by_cases hkill : act ≠ 0 ∧ (signum.toNat = sigkill ∨ signum.toNat = sigstop)
  · rw [if_neg (by simpa using hmode), if_neg (not_not.mpr hsize), if_neg hsignum, if_pos hkill]
    refine .rejected msb_errEinval (if_neg fun hok => ?_)
    exact hkill.2.elim hok.2.2.2.2.2.1 hok.2.2.2.2.2.2
  rw [if_neg (by simpa using hmode), if_neg (not_not.mpr hsize), if_neg hsignum, if_neg hkill]
  push Not at hsignum hkill
  rw [suppliedAction_eq hmode hsize hsignum.1 hsignum.2 hkill]
  cases hread : readPointer (polyGuestReadKsigaction kernel.toSignalHost s.thread.mem) act with
  | none =>
    rw [readPointer] at hread
    split at hread
    · cases hread
    · next hact =>
      refine .rejected msb_errEfault ?_
      rw [if_pos hact]
      exact Option.map_eq_none_iff.mp hread
  | some guestAct =>
    have hreads := sigactionReads hread
    generalize (if act ≠ 0 then polyGuestReadKsigaction kernel.toSignalHost s.thread.mem act
      else none) = supplied at hreads ⊢
    dsimp only
    by_cases hchld : signum.toNat = sigchld ∧ cfg.virtualSigchld = true
    · rw [if_pos hchld, hchld.1]
      exact virtualSigchld_exit hread hreads (.inl ⟨rfl, hchld.2⟩)
    · rw [if_neg hchld]
      split
      · exact virtualSigaction_exit hreads
      · next hvirtual =>
        refine ordinarySigaction_exit hreads ?_
        rintro (hfirst | hfirst)
        · exact hchld hfirst
        · exact hvirtual (by rw [hfirst, Bool.or_true])

/-- Every exit changes memory and table only, and in the table only the entry of a supplied action.
-/
theorem SigactionExit.thread {signum : Nat} {act r : BitVec 64} {supplied : Option Ksigaction}
    {t : SignalThread} (h : SigactionExit cfg signum act supplied t r t') :
    ∃ mem actions, t' = { t with mem := mem, actions := actions } ∧
      ∀ n, actions n ≠ t.actions n → n = signum ∧ supplied ≠ none := by
  have hsame : ∀ n, t.actions n ≠ t.actions n → n = signum ∧ supplied ≠ none :=
    fun n hne => absurd rfl hne
  cases h with
  | rejected => exact ⟨_, _, rfl, hsame⟩
  | query => exact ⟨_, _, rfl, hsame⟩
  | refused => exact ⟨_, _, rfl, hsame⟩
  | installed e h =>
    refine ⟨_, _, rfl, fun n hne => ⟨?_, by rw [h]; exact Option.some_ne_none _⟩⟩
    by_contra hn
    exact hne (if_neg hn)

theorem rtSigaction_thread (mode signum act oldact sigsetsize : BitVec 64) (s : SignalSystem) :
    ∃ mem actions,
      (polyDispatchRtSigaction cfg kernel mode signum act oldact sigsetsize s).2.thread =
        { s.thread with mem := mem, actions := actions } ∧
      ∀ n, actions n ≠ s.thread.actions n → n = signum.toNat ∧
        suppliedAction kernel.toSignalHost mode signum act sigsetsize s.thread ≠ none :=
  (sigaction_exit ..).thread

theorem virtualSigaction_hostMask (signum : Nat) (guestAct : Option Ksigaction)
    (oldact : BitVec 64) (s : SignalSystem) :
    (virtualSigaction cfg kernel signum guestAct oldact s).2.hostMask = s.hostMask := by
  unfold virtualSigaction
  split
  · rfl
  · split <;> rfl

theorem ordinarySigaction_hostMask (signum : Nat) (guestAct : Option Ksigaction)
    (oldact : BitVec 64) (s : SignalSystem) :
    (ordinarySigaction kernel signum guestAct oldact s).2.hostMask = s.hostMask := by
  unfold ordinarySigaction
  split <;> rfl

theorem rtSigaction_hostMask (mode signum act oldact sigsetsize : BitVec 64) (s : SignalSystem) :
    (polyDispatchRtSigaction cfg kernel mode signum act oldact sigsetsize s).2.hostMask =
      s.hostMask := by
  unfold polyDispatchRtSigaction
  repeat' split
  all_goals
    first
    | rfl
    | exact virtualSigaction_hostMask ..
    | exact ordinarySigaction_hostMask ..

/-- Every call of `rt_sigaction` returns 0 or an error. One that returns 0 puts the supplied action
in the table. One that returns an error leaves the table exactly if the host handler comes before
the table, or there is no new entry: no action passes the checks, or it is the one in the table. -/
theorem sigaction_atomic_iff (cfg : SignalConfig) (kernel : SignalKernel)
    (mode signum act oldact sigsetsize : BitVec 64) (s : SignalSystem) :
    let r := polyDispatchRtSigaction cfg kernel mode signum act oldact sigsetsize s
    (r.1 = 0 ∨ r.1.msb = true) ∧
    (r.1 = 0 → act ≠ 0 → ∃ action,
      polyGuestReadKsigaction kernel.toSignalHost s.thread.mem act = some action ∧
      r.2.thread.actions =
        fun n => if n = signum.toNat then (true, action) else s.thread.actions n) ∧
    (r.1.msb = true →
      (r.2.thread.actions = s.thread.actions ↔
        HostFirst cfg signum.toNat ∨
        ∀ action,
          suppliedAction kernel.toSignalHost mode signum act sigsetsize s.thread = some action →
          s.thread.actions signum.toNat = (true, action))) := by
  intro r
  have hexit : SigactionExit cfg signum.toNat act
      (suppliedAction kernel.toSignalHost mode signum act sigsetsize s.thread) s.thread r.1
      r.2.thread := sigaction_exit ..
  generalize r.1 = result at hexit ⊢
  generalize r.2.thread = t' at hexit ⊢
  cases hexit with
  | rejected hr h =>
    refine ⟨.inr hr, fun h0 => ?_, fun _ => iff_of_true rfl (.inr fun action haction => ?_)⟩
    · rw [h0] at hr
      cases hr
    · rw [h] at haction
      cases haction
  | query e hact h =>
    refine ⟨hostResult_cases e, fun _ hne => absurd hact hne,
      fun _ => iff_of_true rfl (.inr fun action haction => ?_)⟩
    rw [h] at haction
    cases haction
  | refused e h hfirst =>
    refine ⟨.inr e.msb_result, fun h0 => ?_, fun _ => iff_of_true rfl (.inl hfirst)⟩
    have hmsb := e.msb_result
    rw [h0] at hmsb
    cases hmsb
  | @installed action mem e h hfirst =>
    refine ⟨hostResult_cases e, fun _ _ => ⟨action, suppliedAction_read h, rfl⟩, fun hr => ?_⟩
    have hlate : ¬HostFirst cfg signum.toNat := by
      intro hf
      rw [hfirst hf] at hr
      cases hr
    rw [setAction_actions_eq, h]
    simp [hlate]

/-- A host with all memory mapped that refuses the handlers of some signals. -/
def refusingKernel (refuses : Nat → Bool) : SignalKernel where
  toSignalHost := mappedHost
  sigaction signum _ := if refuses signum then some ⟨22, by decide, by decide⟩ else none
  sigaltstack := none

/-- A thread with `SIGUSR1` pending that has no signal blocked in the host. -/
def usr1System (mode : BitVec 32) : SignalSystem := ⟨usr1Thread mode 0x4000, 0, false⟩

/-- A virtual `SIGCHLD` that the host refuses: the table is as it was. -/
theorem sigaction_atomic_iff_sigchld :
    let s := usr1System modeRawAarch64
    let r := polyDispatchRtSigaction ⟨0, false, true⟩ (refusingKernel (· == 17)) 1 17 0x1000 0 8 s
    r.1 = errEinval ∧ r.2.thread.actions = s.thread.actions := by
  intro s r
  have hr : r.1 = errEinval := by decide
  have hfirst : HostFirst ⟨0, false, true⟩ (17#64).toNat := .inl ⟨by decide, rfl⟩
  refine ⟨hr, ((sigaction_atomic_iff ⟨0, false, true⟩ (refusingKernel (· == 17)) 1 17 0x1000 0 8
    s).2.2 ?_).mpr (.inl hfirst)⟩
  exact (congrArg BitVec.msb hr).trans msb_errEinval

/-- The C library keeps signal 32 for itself. The host refuses `SIG_DFL` for it, and the call
returns `EINVAL`, but the table has the new action. -/
theorem failed_sigaction_changes_table :
    let s := usr1System modeRawAarch64
    let r := polyDispatchRtSigaction ⟨0, true, false⟩ (refusingKernel (· == 32)) 1 32 0x1000 0 8 s
    r.1 = errEinval ∧ r.1.msb = true ∧ s.thread.actions 32 = (true, ⟨0x5000, 0, 0x6000, 0⟩) ∧
      r.2.thread.actions 32 = (true, ⟨sigDfl, 0, 0, 0⟩) := by
  decide

/-! ## `sigaltstack` -/

theorem storeOldStack_frame {m : RawMode} {oldStackAddr : BitVec 64}
    (h : storeOldStack host m oldStackAddr t = some t') : ∃ mem, t' = { t with mem := mem } := by
  unfold storeOldStack at h
  split at h
  · cases h
    exact ⟨t.mem, rfl⟩
  · obtain ⟨mem, -, rfl⟩ := Option.map_eq_some_iff.mp h
    exact ⟨mem, rfl⟩

theorem withAltStack_frame (m : RawMode) (sp size : BitVec 64) (flags : BitVec 32)
    (t : SignalThread) :
    ∃ aarch64 riscv,
      m.withAltStack sp size flags t = { t with aarch64 := aarch64, riscv := riscv } := by
  cases m <;> exact ⟨_, _, rfl⟩

theorem setNewStack_frame (host : SignalHost) (m : RawMode) (newStackAddr : BitVec 64)
    (t : SignalThread) :
    ∃ aarch64 riscv,
      (setNewStack host m newStackAddr t).2 = { t with aarch64 := aarch64, riscv := riscv } := by
  unfold setNewStack
  repeat' split
  all_goals first | exact ⟨_, _, rfl⟩ | exact withAltStack_frame ..

theorem sigaltstack_frame (host : SignalHost) (m : RawMode) (newStackAddr oldStackAddr : BitVec 64)
    (t : SignalThread) :
    ∃ mem aarch64 riscv,
      (polyDispatchGuestSigaltstack host m newStackAddr oldStackAddr t).2 =
        { t with mem := mem, aarch64 := aarch64, riscv := riscv } := by
  unfold polyDispatchGuestSigaltstack
  split
  · exact ⟨_, _, _, rfl⟩
  · next t₁ hold =>
    obtain ⟨mem, rfl⟩ := storeOldStack_frame hold
    obtain ⟨aarch64, riscv, hnew⟩ := setNewStack_frame host m newStackAddr { t with mem := mem }
    exact ⟨mem, aarch64, riscv, hnew⟩

/-! ## `rt_sigreturn` -/

theorem deriveResumed_eq (host : SignalHost) (desc : DeriveDescriptor) (t : SignalThread) :
    ∃ state, (deriveResumed host desc t).2 = { t with state := state } := by
  rw [deriveResumed]
  split
  · exact ⟨t.state, rfl⟩
  · next state _ => exact ⟨state, rfl⟩

namespace SignalArch

variable {μ σ : Type} {A : SignalArch μ σ}

/-- The mask that a return takes from the frame, if it accepts one. -/
def restoredMask (A : SignalArch μ σ) (host : SignalHost) (hasTrapState : Bool)
    (t : SignalThread) : Option (BitVec 64) :=
  let frame := A.codec.read t.mem (A.frameAddr t)
  if hasTrapState && polyGuestRangeIsMapped host.probe (A.frameAddr t) A.frameSize false &&
      !frameRejected A.magic A.frameSize frame then
    some frame.guestSigmask
  else none

variable {hasTrapState : Bool} {x86Rsp : BitVec 64}

theorem rtSigreturn_of_none (h : A.restoredMask host hasTrapState t = none) :
    (A.rtSigreturn host hasTrapState x86Rsp t).2 = t := by
  unfold restoredMask at h
  unfold rtSigreturn
  split
  · rfl
  split
  · rfl
  dsimp only
  split
  · rfl
  next htrap hmapped hframe => simp_all

/-- A return that accepts a frame takes its mask, and changes nothing else but the state image and
the mark of the active frame. -/
theorem rtSigreturn_of_some {mask : BitVec 64} (h : A.restoredMask host hasTrapState t = some mask)
    :
    ∃ state state', (A.rtSigreturn host hasTrapState x86Rsp t).2 =
      { A.withActiveFrame 0 { t with state := state, sigmask := mask, sigmaskValid := true } with
        state := state' } := by
  unfold restoredMask at h
  dsimp only at h
  split at h
  · next hok =>
    cases h
    simp only [Bool.and_eq_true, Bool.not_eq_true'] at hok
    obtain ⟨⟨htrap, hmapped⟩, hframe⟩ := hok
    unfold rtSigreturn
    rw [htrap, hmapped]
    simp only [hframe]
    obtain ⟨state', hs⟩ := deriveResumed_eq host _ (A.withActiveFrame 0 _)
    exact ⟨_, state', hs⟩
  · cases h

end SignalArch

end Poly.Polyexec
