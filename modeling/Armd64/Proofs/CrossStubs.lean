import Armd64.Polyexec.CrossStubs
import Armd64.Proofs.RelocPatch
import Armd64.Proofs.Trampoline

/-!
# The stubs stay in their arena

The space for a stub is checked once, against a fixed number of bytes, before its code is written.
-/

namespace Poly.Polyexec

open Hw

/-! ## Lengths of code -/

theorem length_emitU64 (v : BitVec 64) : (emitU64 v).length = 8 := length_toBytes 8 v

theorem length_emitAarch64Movabs (rd : BitVec 32) (v : BitVec 64) :
    (emitAarch64Movabs rd v).length = 16 := by
  simp only [emitAarch64Movabs, List.length_append, length_emitU32]

theorem length_emitX86SetFsFromGlobal (addr : BitVec 64) :
    (emitX86SetFsFromGlobal addr).length = 25 := by
  simp only [emitX86SetFsFromGlobal, emitX86MovabsRax, emitX86ArchSetFs, List.length_append,
    length_emitU32, length_emitU64, List.length_cons, List.length_nil]

theorem length_x86TestTlsBase (host : StubHost) : (x86TestTlsBase host).length = 17 := by
  simp only [x86TestTlsBase, emitX86MovabsRax, List.length_append, length_emitU64,
    List.length_cons, List.length_nil]

theorem length_emitX86PcallSigImm (frontend slot : BitVec 32) :
    (emitX86PcallSigImm frontend slot).length = 10 := by
  simp only [emitX86PcallSigImm, emitX86MovR15dImm, emitX86PolyControl, List.length_append,
    length_emitU32, List.length_cons, List.length_nil]

theorem length_emitX86AbiSignatureSet (slot kind : BitVec 32) :
    (emitX86AbiSignatureSet slot kind).length = 23 := by
  simp only [emitX86AbiSignatureSet, emitX86PolyControl, List.length_append, length_emitU32,
    length_emitU64, List.length_cons, List.length_nil]

theorem length_x86Stack9Arguments : x86Stack9Arguments.length = 54 := by
  simp only [x86Stack9Arguments, List.length_append, length_emitU32, List.length_cons,
    List.length_nil]

theorem length_emitX86StoreHfa64 (kind : ProcessBridge) :
    (emitX86StoreHfa64ReturnToSret kind.aarch64Hfa64RetCount).length ≤ 20 := by
  unfold ProcessBridge.aarch64Hfa64RetCount
  split <;> decide

theorem length_emitX86LoadHfa64 (kind : ProcessBridge) :
    (emitX86LoadHfa64ArgFromStack kind.aarch64Hfa64ArgCount).length ≤ 28 := by
  unfold ProcessBridge.aarch64Hfa64ArgCount
  split <;> decide

theorem length_emitAarch64AbiSignatureSet (slot kind : BitVec 32) :
    (emitAarch64AbiSignatureSet slot kind).length = 36 := by
  simp only [emitAarch64AbiSignatureSet, List.length_append, length_emitU32,
    length_emitAarch64Movabs]

theorem length_emitRiscvAbiSignatureSet (slot kind : BitVec 32) :
    (emitRiscvAbiSignatureSet slot kind).length = 24 := by
  simp only [emitRiscvAbiSignatureSet, List.length_append, length_emitU32]

theorem length_compact (kind : ProcessBridge) :
    (emitAarch64CompactPrePcall kind).length ≤ 12 ∧
      (emitAarch64CompactPostPcall kind).length ≤ 12 ∧
      (emitRiscvCompactPrePcall kind).length ≤ 12 ∧
      (emitRiscvCompactPostPcall kind).length ≤ 12 := by
  cases kind <;> decide

/-! ## Code of the stubs -/

section

variable {base offset n : Nat} {kind : ProcessBridge}

theorem emitSignatureSet_emits {needed : Bool} {code : BitVec 32 → List (BitVec 8)}
    (hbase : base ≤ offset) (hlen : ∀ signatureKind, (code signatureKind).length = n) :
    Emits base offset n (emitSignatureSet needed kind code offset) := by
  unfold emitSignatureSet
  split
  · split
    · exact .fail
    · exact .emitAt hbase (Nat.le_of_eq (hlen _))
  · exact .pure

theorem emitPcallSig_emits {encoding : BitVec 32 → BitVec 32} {slot : BitVec 32}
    (hbase : base ≤ offset) : Emits base offset 4 (emitPcallSig encoding slot offset) := by
  unfold emitPcallSig
  split
  · exact .emitAt hbase (Nat.le_of_eq (length_emitU32 _))
  · exact .fail

theorem x86TlsCallWrapper_emits (host : StubHost) (kind : ProcessBridge) (target : BitVec 64)
    (start : Nat) :
    Emits start start 192 (x86TlsCallWrapper host kind target start) := by
  have h : Emits start start (27 + (1 + (12 + (75 + (1 + (25 + 3))))))
      (x86TlsCallWrapper host kind target start) := by
    refine Emits.bind (.emitAt (Nat.le_refl _) ?_) fun skipSet _ _ _ => ?_
    · simp [length_x86TestTlsBase]
    refine .skip (.bind (.emitAt (by omega) ?_) fun offset _ _ _ => ?_)
    · simp [emitX86ArchSetFs, length_emitU32]
    refine .storeAt_bind (by omega) (by simpa using by omega) ?_
    refine .bind (.emitAt (by omega) ?_) fun skipRestore _ _ _ => ?_
    · split <;> simp [emitX86MovabsR11, length_emitU64, length_x86TestTlsBase]
    refine .skip (.bind (.emitAt (by omega) ?_) fun offset _ _ _ => ?_)
    · exact Nat.le_of_eq (length_emitX86SetFsFromGlobal _)
    refine .storeAt_bind (by omega) (by simpa using by omega) ?_
    exact .emitAt (by omega) (by simp)
  exact h.mono (by decide)

theorem x86Stub_emits (code : Nat) (callee : Abi.Arch) (target : BitVec 64) (slot : BitVec 32)
    (start : Nat) : Emits start start 224 (x86Stub code callee kind target slot start) := by
  have hload := length_emitX86LoadHfa64 kind
  have hstore := length_emitX86StoreHfa64 kind
  have h : Emits start start (65 + (23 + (41 + (20 + (30 + 0)))))
      (x86Stub code callee kind target slot start) := by
    refine Emits.bind (.emitAt (Nat.le_refl _) ?_) fun offset _ _ _ => ?_
    · split <;> simp [length_x86Stack9Arguments]
    refine .bind (emitSignatureSet_emits (by omega) (length_emitX86AbiSignatureSet _))
      fun offset _ _ _ => ?_
    refine .bind (.emitAt (by omega) ?_) fun offset _ _ _ => ?_
    · simp only [List.length_append, emitX86MovabsRbx, length_emitU64, emitX86PreserveSretPtrRax,
        apply_ite List.length, List.length_cons, List.length_nil]
      split <;> split <;> omega
    have hcall : (emitX86MovabsR11 0 ++
        emitX86PcallSigImm (frontendOf callee) (if kind = .u64Stack9 then 0 else slot)).length =
          20 := by
      simp [emitX86MovabsR11, length_emitU64, length_emitX86PcallSigImm]
    refine .bind (.emitAt (by omega) (Nat.le_of_eq hcall)) fun offset hoffset _ _ => ?_
    have hend := Emits.value_emitAt hoffset
    refine .bind (.emitAt (by omega) ?_) fun offset _ _ _ => ?_
    · simp only [List.length_append, apply_ite List.length, List.length_cons, List.length_nil]
      split <;> split <;> omega
    -- the operand of the `movabs` before the call
    refine .storeAt_bind (by omega) ?_ .pure
    rw [length_emitU64]
    omega
  exact h.mono (by decide)

theorem aarch64Stub_emits (code : Nat) (callee : Abi.Arch) (target : BitVec 64) (slot : BitVec 32)
    (start : Nat) : Emits start start 160 (aarch64Stub code callee kind target slot start) := by
  obtain ⟨hpre, hpost, -, -⟩ := length_compact kind
  have h : Emits start start (28 + (36 + (36 + (16 + (4 + 24)))))
      (aarch64Stub code callee kind target slot start) := by
    refine Emits.bind (.emitAt (Nat.le_refl _) ?_) fun offset _ _ _ => ?_
    · split <;> simp [length_emitU32]
    refine .bind (emitSignatureSet_emits (by omega) (length_emitAarch64AbiSignatureSet _))
      fun offset _ _ _ => ?_
    refine .bind (.emitAt (by omega) ?_) fun offset _ _ _ => ?_
    · simp only [List.length_append, length_emitU32, length_emitAarch64Movabs,
        apply_ite List.length, List.length_nil]
      split <;> omega
    refine .bind (.emitAt (by omega) (Nat.le_of_eq (length_emitAarch64Movabs _ _)))
      fun offset _ _ _ => ?_
    refine .bind (emitPcallSig_emits (by omega)) fun offset _ _ _ => .emitAt (by omega) ?_
    simp only [List.length_append, length_emitU32, apply_ite List.length, List.length_nil]
    split <;> omega
  exact h.mono (by decide)

theorem alignOffset8_eq_some {o : Nat} (hlt : offset < 2 ^ 32) (h : alignOffset8 offset = some o) :
    o = alignUp 8 offset := by
  obtain ⟨aligned, haligned, rfl⟩ := Option.map_eq_some_iff.mp h
  have hoffset : (BitVec.ofNat 64 offset).toNat = offset :=
    toNat_ofNat_of_lt (by omega)
  unfold alignUpSize at haligned
  rw [if_neg (by decide)] at haligned
  split at haligned
  · cases haligned
  · cases haligned
    have hsum : (BitVec.ofNat 64 offset + 8 - 1).toNat = offset + 7 := by
      bv_omega
    rw [toNat_and_not_mask (k := 3) (by decide), hsum]
    rfl

theorem riscvStub_emits (size code : Nat) (callee : Abi.Arch) (target : BitVec 64)
    (slot : BitVec 32) {start : Nat} (hstart : start ≤ processCrossStubBytes) :
    Emits start start 160 (riscvStub size code callee kind target slot start) := by
  obtain ⟨-, -, hpre, hpost⟩ := length_compact kind
  have h : Emits start start (4 + (8 + (4 + (32 + (24 + (16 + (4 + (24 + (7 + (8 + (8 + 0)))))))))))
      (riscvStub size code callee kind target slot start) := by
    refine Emits.bind (.emitAt (Nat.le_refl _) (Nat.le_of_eq (length_emitU32 _)))
      fun ldTarget _ _ _ => ?_
    refine .bind (.emitAt (by omega) ?_) fun auipcReturn hreturn _ _ => ?_
    · simp [length_emitU32]
    refine .bind (.emitAt (by omega) (Nat.le_of_eq (length_emitU32 _))) fun ldReturn _ _ _ => ?_
    refine .bind (.emitAt (by omega) ?_) fun offset hoffset _ _ => ?_
    · split <;> simp [length_emitU32]
    have hreturn : ldReturn + 4 ≤ offset := by
      rw [Emits.value_emitAt hoffset, List.length_append, length_emitU32]
      omega
    refine .bind (emitSignatureSet_emits (by omega) (length_emitRiscvAbiSignatureSet _))
      fun offset _ _ _ => ?_
    refine .bind (.emitAt (by omega) ?_) fun offset _ _ _ => ?_
    · simp only [List.length_append, length_emitU32, apply_ite List.length, List.length_nil]
      split <;> omega
    refine .bind (emitPcallSig_emits (by omega)) fun returnPc _ _ _ => ?_
    refine .bind (.emitAt (by omega) ?_) fun offset _ _ _ => ?_
    · simp only [List.length_append, length_emitU32, apply_ite List.length, List.length_nil]
      split <;> omega
    refine .bind (.ofOption fun o ho => ?_) fun targetData _ _ _ => ?_
    · have hlt : offset < 2 ^ 32 := by
        unfold processCrossStubBytes at hstart
        omega
      rw [alignOffset8_eq_some hlt ho]
      have hle := le_alignUp (a := 8) (by decide) offset
      have hlt := alignUp_lt (a := 8) (by decide) offset
      omega
    split
    · exact .fail
    refine .bind (.emitAt (by omega) (Nat.le_of_eq (length_emitU64 _))) fun returnData _ _ _ => ?_
    refine .bind (.emitAt (by omega) (Nat.le_of_eq (length_emitU64 _))) fun offset _ _ _ => ?_
    refine .storeAt_bind (by omega) ?_ (.storeAt_bind (by omega) ?_ .pure)
    · rw [length_emitU32]
      omega
    · rw [length_emitU32]
      omega
  exact h.mono (by decide)

end

/-! ## One request -/

namespace StubArena

structure WellFormed (a : StubArena) : Prop where
  unmapped : a.mapping = none → a.offset = 0
  mapped : ∀ m, a.mapping = some m →
    a.size = processCrossStubBytes ∧ a.offset ≤ processCrossStubBytes

def Settled (a : StubArena) : Prop := ∀ w ∈ a.writes, w.limit ≤ a.offset

structure Holds (a : StubArena) (m : StubMapping) (addr : BitVec 64) : Prop where
  mapping : a.mapping = some m
  aligned : addr.toNat % 8 = 0
  inside : m.addr ≤ addr.toNat ∧ addr.toNat < m.addr + processCrossStubBytes
  le_offset : addr.toNat ≤ m.addr + a.offset

end StubArena

/-- What a request that started with the arena `a` may have done so far. -/
structure Reached (a s : StubArena) : Prop where
  wellFormed : s.WellFormed
  mapping : ∀ m, a.mapping = some m → s.mapping = some m
  offset_le : a.offset ≤ s.offset
  writes : ∀ w ∈ s.writes, a.offset ≤ w.offset ∧ w.limit ≤ processCrossStubBytes
  bytes : ∀ i < a.offset, s.bytes i = a.bytes i

structure Ready (a s : StubArena) : Prop extends Reached a s where
  settled : s.Settled
  isSome : s.mapping.isSome
  dvd : 8 ∣ s.offset

section

variable {a : StubArena} {mmap : Option StubMapping}

theorem ensureArena_ensures :
    Attempt.Ensures (fun s => Reached a s ∧ s.Settled) (ensureProcessCrossStubArena mmap)
      (Reached a) (fun _ s => Reached a s ∧ s.Settled ∧ s.mapping.isSome) := by
  rintro s ⟨h, hsettled⟩
  unfold ensureProcessCrossStubArena
  by_cases hsome : s.mapping.isSome
  · rw [if_pos hsome]
    exact ⟨h, hsettled, hsome⟩
  · rw [if_neg hsome]
    have hnone : s.mapping = none := by simpa using hsome
    have hzero := h.wellFormed.unmapped hnone
    have hle := h.offset_le
    cases mmap with
    | none =>
      refine ⟨⟨fun _ => rfl, fun m hm => ?_⟩, h.mapping, by simpa [hzero] using hle,
        h.writes, h.bytes⟩
      rw [show s.mapping = some m from hm] at hnone
      cases hnone
    | some m =>
      refine ⟨⟨⟨fun hm => ?_, fun _ _ => ⟨rfl, Nat.zero_le _⟩⟩, fun m' hm' => ?_,
        by simpa [hzero] using hle, h.writes, fun i hi => ?_⟩, fun w hw => ?_, rfl⟩
      · cases hm
      · rw [h.mapping m' hm'] at hnone
        cases hnone
      · omega
      · have := hsettled w hw
        rwa [hzero] at this

theorem alignArena_ensures :
    Attempt.Ensures (fun s => Reached a s ∧ s.Settled ∧ s.mapping.isSome) alignArena (Reached a)
      (fun _ s => Ready a s) := by
  rintro s ⟨h, hsettled, hsome⟩
  unfold alignArena
  cases ho : alignOffset8 s.offset with
  | none => exact h
  | some o =>
    obtain ⟨m, hm⟩ := Option.isSome_iff_exists.mp hsome
    obtain ⟨hsize, hoffset⟩ := h.wellFormed.mapped m hm
    have hle := le_alignUp (a := 8) (by decide) s.offset
    have hdvd := dvd_alignUp 8 s.offset
    have hlt := alignUp_lt (a := 8) (by decide) s.offset
    have hoffset_le := h.offset_le
    unfold processCrossStubBytes at hoffset
    obtain rfl := alignOffset8_eq_some (by omega) ho
    have hlimit : alignUp 8 s.offset ≤ processCrossStubBytes := by
      unfold processCrossStubBytes
      omega
    refine ⟨⟨⟨fun hn => ?_, fun _ _ => ⟨hsize, hlimit⟩⟩, h.mapping, ?_, h.writes, h.bytes⟩,
      fun w hw => ?_, hsome, hdvd⟩
    · rw [show s.mapping = none from hn] at hm
      cases hm
    · exact Nat.le_trans hoffset_le hle
    · exact Nat.le_trans (hsettled w hw) hle

variable {log : List CodeWrite} {s : StubArena}

theorem replay_below {lo i : Nat} (h : ∀ w ∈ log, lo ≤ w.offset) (hi : i < lo) (bytes : CodeBytes) :
    log.foldl (fun bytes w => patch bytes w.offset w.data) bytes i = bytes i := by
  induction log generalizing bytes with
  | nil => rfl
  | cons w log ih =>
    have hw := h w List.mem_cons_self
    rw [List.foldl_cons, ih fun w' hw' => h w' (List.mem_cons_of_mem w hw')]
    exact patch_outside (.inl (by omega))

theorem roomAfter_eq {size offset : Nat} (hle : offset ≤ size) (hlt : size < 2 ^ 64) :
    roomAfter size offset = size - offset := by
  unfold roomAfter
  have hsize : (BitVec.ofNat 64 size).toNat = size := toNat_ofNat_of_lt hlt
  have hoffset : (BitVec.ofNat 64 offset).toNat = offset :=
    toNat_ofNat_of_lt (by omega)
  rw [BitVec.toNat_sub_of_le, hsize, hoffset]
  rw [BitVec.le_def, hsize, hoffset]
  exact hle

def StubArena.written (s : StubArena) (log : List CodeWrite) : StubArena :=
  { s with bytes := log.foldl (fun bytes w => patch bytes w.offset w.data) s.bytes,
           writes := s.writes ++ log }

theorem Reached.written (h : Reached a s)
    (hlog : ∀ w ∈ log, s.offset ≤ w.offset ∧ w.limit ≤ processCrossStubBytes) :
    Reached a (s.written log) := by
  have hle := h.offset_le
  refine ⟨⟨h.wellFormed.unmapped, h.wellFormed.mapped⟩, h.mapping, hle, fun w hw => ?_,
    fun i hi => ?_⟩
  · rcases List.mem_append.mp hw with hw | hw
    · exact h.writes w hw
    · exact ⟨Nat.le_trans hle (hlog w hw).1, (hlog w hw).2⟩
  · exact (replay_below (fun w hw => (hlog w hw).1) (Nat.lt_of_lt_of_le hi hle) _).trans
      (h.bytes i hi)

theorem writeCode_ensures {t : Traced CodeWrite Nat} (h : Reached a s)
    (hlog : ∀ w ∈ t.log, s.offset ≤ w.offset ∧ w.limit ≤ processCrossStubBytes) :
    Attempt.Ensures (s = ·) (writeCode t) (Reached a)
      (fun o s' => s' = s.written t.log ∧ t.value = some o) := by
  rintro s rfl
  unfold writeCode
  cases t.value with
  | none => exact h.written hlog
  | some o => exact ⟨rfl, rfl⟩

theorem emitStub_ensures {budget : Nat} {code : StubArena → Traced CodeWrite Nat}
    (hpos : 0 < budget)
    (hcode : ∀ s, s.offset ≤ processCrossStubBytes → Emits s.offset s.offset budget (code s)) :
    Attempt.Ensures (Ready a) (emitStub budget code) (Reached a)
      (fun addr s => Reached a s ∧ s.Settled ∧ ∃ m, s.Holds m addr) := by
  refine Attempt.Ensures.get_bind fun s h => ?_
  obtain ⟨m, hm⟩ := Option.isSome_iff_exists.mp h.isSome
  obtain ⟨hsize, hoffset⟩ := h.wellFormed.mapped m hm
  refine .ite (fun _ => .fail fun s' hs' => hs' ▸ h.toReached) fun hroom => ?_
  rw [hsize, roomAfter_eq hoffset (by decide)] at hroom
  have hbudget : s.offset + budget ≤ processCrossStubBytes := by omega
  have hemits := hcode s hoffset
  have hlog : ∀ w ∈ (code s).log, s.offset ≤ w.offset ∧ w.limit ≤ processCrossStubBytes :=
    fun w hw => ⟨(hemits.inside w hw).1, Nat.le_trans (hemits.inside w hw).2 hbudget⟩
  have hwritten := h.toReached.written hlog
  have haddr : (BitVec.ofNat 64 (s.code + s.offset)).toNat = m.addr + s.offset := by
    have hfits := m.fits
    have hbase : s.code = m.addr := by
      rw [StubArena.code, hm]
      rfl
    rw [hbase, toNat_ofNat_of_lt (by omega)]
  refine .bind (writeCode_ensures h.toReached hlog) fun o => ?_
  refine .bind (Q := fun _ s' => ∃ o, (code s).value = some o ∧
      s' = { s.written (code s).log with offset := o }) (.modify ?_) fun _ => .pure ?_
  · rintro s' ⟨rfl, ho⟩
    exact ⟨o, ho, rfl⟩
  · rintro s' ⟨o, ho, rfl⟩
    obtain ⟨hlo, hhi, hwrites⟩ := hemits.value o ho
    refine ⟨⟨⟨fun hn => ?_, fun _ _ => ⟨hsize, Nat.le_trans hhi hbudget⟩⟩, hwritten.mapping,
      Nat.le_trans h.offset_le hlo, hwritten.writes, hwritten.bytes⟩, fun w hw => ?_,
      m, hm, ?_, ?_, ?_⟩
    · rw [show s.mapping = none from hn] at hm
      cases hm
    · rcases List.mem_append.mp hw with hw | hw
      · exact Nat.le_trans (h.settled w hw) hlo
      · exact hwrites w hw
    · have haligned := m.aligned
      have hdvd := h.dvd
      omega
    · omega
    · rw [haddr]
      exact Nat.add_le_add_left hlo _

variable {host : StubHost}

theorem emitWrapper_ensures (target : BitVec 64) (kind : ProcessBridge) :
    Attempt.Ensures (Ready a) (emitProcessX86TlsCallWrapper host mmap target kind) (Reached a)
      (fun _ s => Reached a s ∧ s.Settled ∧ s.mapping.isSome) := by
  refine .bind (ensureArena_ensures.strengthen fun s h => ⟨h.toReached, h.settled⟩) fun _ => ?_
  refine .bind alignArena_ensures fun _ => ?_
  have hemit := emitStub_ensures (a := a) (by decide)
    fun s _ => x86TlsCallWrapper_emits host kind target s.offset
  refine hemit.weaken fun _ s hs => ?_
  obtain ⟨hreached, hsettled, m, hm⟩ := hs
  exact ⟨hreached, hsettled, by rw [hm.mapping]; rfl⟩

theorem emitPcallTarget_ensures (r : StubRequest) :
    Attempt.Ensures (Ready a) (emitPcallTarget host mmap r) (Reached a) (fun _ s => Ready a s) := by
  refine .ite (fun _ => ?_) fun _ => .pure fun _ h => h
  refine .bind (emitWrapper_ensures r.target r.bridge) fun wrapper => ?_
  exact .bind alignArena_ensures fun _ => .pure fun _ h => h

theorem emitCallerStub_ensures (r : StubRequest) (pcallTarget : BitVec 64) (slot : BitVec 32) :
    Attempt.Ensures (Ready a) (emitCallerStub r pcallTarget slot) (Reached a)
      (fun addr s => Reached a s ∧ s.Settled ∧ ∃ m, s.Holds m addr) := by
  unfold emitCallerStub
  cases r.caller with
  | x86 => exact emitStub_ensures (by decide) fun s _ => x86Stub_emits _ _ _ _ _
  | aarch64 => exact emitStub_ensures (by decide) fun s _ => aarch64Stub_emits _ _ _ _ _
  | riscv => exact emitStub_ensures (by decide) fun s hs => riscvStub_emits _ _ _ _ _ hs

structure Returned (a : StubArena) (r : StubRequest) (addr : BitVec 64) (s : StubArena) : Prop
    extends Reached a s where
  settled : s.Settled
  same : r.caller = r.callee → addr = r.target
  cross : r.caller ≠ r.callee → ∃ m, s.Holds m addr

theorem emitProcessCrossIsaCallStub_ensures (host : StubHost) (mmap : Option StubMapping)
    (r : StubRequest) : Attempt.Ensures (fun s => Reached a s ∧ s.Settled)
      (emitProcessCrossIsaCallStub host mmap r)
      (Reached a) (Returned a r) := by
  refine .ite (fun hsame => .pure fun s h => ⟨h.1, h.2, fun _ => rfl, fun hne => absurd hsame hne⟩)
    fun hne => ?_
  refine .ite (fun _ => .fail fun s h => h.1) fun _ => ?_
  refine .bind ensureArena_ensures fun _ => .bind alignArena_ensures fun _ => ?_
  refine .bind (emitPcallTarget_ensures r) fun pcallTarget => ?_
  split
  · exact .fail fun s h => h.toReached
  · refine .ite (fun _ => .fail fun s h => h.toReached) fun _ => ?_
    refine (emitCallerStub_ensures r pcallTarget _).weaken fun addr s hs => ?_
    exact ⟨hs.1, hs.2.1, fun hsame => absurd hsame hne, fun _ => hs.2.2⟩

end

/-! ## Sequences of requests -/

/-- A request, with what the runtime knows and what `mmap` answers at its time. -/
structure StubCall where
  host : StubHost
  mmap : Option StubMapping
  request : StubRequest

/-- A request that was served: its result, and the arena then with the writes of this request. -/
structure ServedStub where
  request : StubRequest
  result : Option (BitVec 64)
  arena : StubArena

def serveStub (c : StubCall) (a : StubArena) : ServedStub :=
  let out := emitProcessCrossIsaCallStub c.host c.mmap c.request { a with writes := [] }
  ⟨c.request, out.1, out.2⟩

def serveStubs : List StubCall → StubArena → List ServedStub
  | [], _ => []
  | c :: calls, a => serveStub c a :: serveStubs calls (serveStub c a).arena

section

variable {a b c : StubArena}

theorem Reached.trans (hab : Reached a b) (hbc : Reached b c) : Reached a c := by
  have hle := hab.offset_le
  refine ⟨hbc.wellFormed, fun m hm => hbc.mapping m (hab.mapping m hm),
    Nat.le_trans hle hbc.offset_le, fun w hw => ?_, fun i hi => ?_⟩
  · exact ⟨Nat.le_trans hle (hbc.writes w hw).1, (hbc.writes w hw).2⟩
  · rw [hbc.bytes i (Nat.lt_of_lt_of_le hi hle), hab.bytes i hi]

theorem serveStub_spec (hwf : a.WellFormed) (c : StubCall) :
    Reached a (serveStub c a).arena ∧
      ∀ addr, (serveStub c a).result = some addr →
        Returned a c.request addr (serveStub c a).arena := by
  have hstart : Reached a { a with writes := [] } ∧ StubArena.Settled { a with writes := [] } := by
    refine ⟨⟨⟨hwf.unmapped, hwf.mapped⟩, fun _ hm => hm, Nat.le_refl _, fun w hw => ?_,
      fun _ _ => rfl⟩, fun w hw => ?_⟩
    · cases hw
    · cases hw
  have h := emitProcessCrossIsaCallStub_ensures c.host c.mmap c.request _ hstart
  unfold serveStub
  cases hout : emitProcessCrossIsaCallStub c.host c.mmap c.request { a with writes := [] } with
  | mk value s =>
    rw [hout] at h
    cases value with
    | none => exact ⟨h, fun addr haddr => by cases haddr⟩
    | some addr =>
      refine ⟨h.toReached, fun addr' haddr => ?_⟩
      cases haddr
      exact h

variable {calls : List StubCall}

theorem serveStubs_spec (hwf : a.WellFormed) :
    ∀ e ∈ serveStubs calls a, Reached a e.arena ∧
      ∀ addr, e.result = some addr → Returned a e.request addr e.arena := by
  induction calls generalizing a with
  | nil =>
    intro e he
    cases he
  | cons c calls ih =>
    intro e he
    have hfirst := serveStub_spec hwf c
    rcases List.mem_cons.mp he with rfl | he
    · exact hfirst
    · obtain ⟨hreached, hreturned⟩ := ih hfirst.1.wellFormed e he
      refine ⟨hfirst.1.trans hreached, fun addr haddr => ?_⟩
      obtain ⟨-, hsettled, hsame, hcross⟩ := hreturned addr haddr
      exact ⟨hfirst.1.trans hreached, hsettled, hsame, hcross⟩

theorem serveStubs_pairwise (hwf : a.WellFormed) :
    (serveStubs calls a).Pairwise fun e e' => Reached e.arena e'.arena := by
  induction calls generalizing a with
  | nil => exact .nil
  | cons c calls ih =>
    have hfirst := (serveStub_spec hwf c).1.wellFormed
    exact .cons (fun e he => (serveStubs_spec hfirst e he).1) (ih hfirst)

theorem wellFormed_empty : StubArena.empty.WellFormed :=
  ⟨fun _ => rfl, fun m hm => by cases hm⟩

theorem stub_arena_safe (calls : List StubCall) :
    (∀ e ∈ serveStubs calls .empty, ∀ w ∈ e.arena.writes, w.limit ≤ processCrossStubBytes) ∧
    (∀ e ∈ serveStubs calls .empty, ∀ addr, e.result = some addr →
      (∀ w ∈ e.arena.writes, w.limit ≤ e.arena.offset) ∧
      (e.request.caller = e.request.callee → addr = e.request.target) ∧
      (e.request.caller ≠ e.request.callee → ∃ m, e.arena.Holds m addr)) ∧
    (serveStubs calls .empty).Pairwise fun e e' =>
      (∀ m, e.arena.mapping = some m → e'.arena.mapping = some m) ∧
      (∀ w ∈ e'.arena.writes, e.arena.offset ≤ w.offset) ∧
      ∀ i < e.arena.offset, e'.arena.bytes i = e.arena.bytes i := by
  refine ⟨fun e he w hw => ?_, fun e he addr haddr => ?_, ?_⟩
  · exact ((serveStubs_spec wellFormed_empty e he).1.writes w hw).2
  · have h := (serveStubs_spec wellFormed_empty e he).2 addr haddr
    exact ⟨h.settled, h.same, h.cross⟩
  · refine (serveStubs_pairwise wellFormed_empty).imp fun h => ?_
    exact ⟨h.mapping, fun w hw => (h.writes w hw).1, h.bytes⟩

end

theorem stubPages_fits : 0x10000 + processCrossStubBytes ≤ 2 ^ 64 := by decide

def stubCallAt (caller callee : Abi.Arch) (bridge : ProcessBridge) : StubCall where
  host := ⟨true, 0x700000, 0x700008, 3, 9, 8⟩
  mmap := some ⟨0x10000, rfl, stubPages_fits⟩
  request := ⟨caller, callee, 0x401000, bridge, 3⟩

/-- A stub with a wrapper, one that is refused, one that starts after the first, and a call that
needs none. -/
example : (serveStubs [stubCallAt .aarch64 .x86 .default, stubCallAt .x86 .riscv .nativeSret,
      stubCallAt .x86 .aarch64 .aarch64Hfa4F64Ret, stubCallAt .riscv .riscv .default] .empty).map
      (fun e => (e.result, e.arena.offset)) =
    [(some 0x10070, 188), (none, 188), (some 0x100c0, 285), (some 0x401000, 285)] := by
  decide +kernel

end Poly.Polyexec
