import Armd64.Lib.Traced

/-!
# Code that is written at a moving offset

An emitter writes one piece after the other and knows the offset after the last one. It may go back
and change what it has written. `Emits base offset n t`: from `offset` on the computation needs at
most `n` cells, it changes nothing before `base`, and all that it wrote is before the offset that it
ends at.
-/

namespace Hw

variable {β : Type}

/-- A write of some cells. -/
structure Write (β : Type) where
  offset : Nat
  data : List β
  deriving DecidableEq, Repr

def Write.limit (w : Write β) : Nat := w.offset + w.data.length

/-- A piece at the offset, and the offset after it. -/
def emitAt (data : List β) (offset : Nat) : Traced (Write β) Nat :=
  Traced.emit ⟨offset, data⟩ (offset + data.length)

/-- A change of what was written before. -/
def storeAt (offset : Nat) (data : List β) : Traced (Write β) Unit := Traced.emit ⟨offset, data⟩ ()

/-- At most `n` cells from `offset` on, and changes of those from `base` on. -/
structure Emits (base offset n : Nat) (t : Traced (Write β) Nat) : Prop where
  inside : ∀ w ∈ t.log, base ≤ w.offset ∧ w.limit ≤ offset + n
  value : ∀ o, t.value = some o → offset ≤ o ∧ o ≤ offset + n ∧ ∀ w ∈ t.log, w.limit ≤ o

namespace Emits

variable {base offset n m : Nat} {t : Traced (Write β) Nat} {f : Nat → Traced (Write β) Nat}

theorem ofOption {v : Option Nat} (h : ∀ o, v = some o → offset ≤ o ∧ o ≤ offset + n) :
    Emits base offset n (Traced.ofOption v : Traced (Write β) Nat) := by
  have hlog : ∀ w : Write β, w ∉ [] := fun w => List.not_mem_nil
  refine ⟨fun w hw => absurd hw (hlog w), fun o ho => ?_⟩
  obtain ⟨hlo, hhi⟩ := h o ho
  exact ⟨hlo, hhi, fun w hw => absurd hw (hlog w)⟩

theorem fail : Emits base offset n (Traced.fail : Traced (Write β) Nat) :=
  ofOption fun o ho => by cases ho

theorem pure : Emits base offset n (pure offset : Traced (Write β) Nat) := by
  refine ofOption (v := some offset) fun o ho => ?_
  cases ho
  exact ⟨Nat.le_refl _, Nat.le_add_right _ _⟩

variable {data : List β}

theorem value_emitAt {o : Nat} (h : (Hw.emitAt data offset).value = some o) :
    o = offset + data.length := (Option.some.inj h).symm

theorem emitAt (hbase : base ≤ offset) (hlen : data.length ≤ n) :
    Emits base offset n (emitAt data offset) := by
  constructor
  · intro w hw
    obtain rfl := List.mem_singleton.mp hw
    exact ⟨hbase, Nat.add_le_add_left hlen offset⟩
  · intro o ho
    cases ho
    refine ⟨Nat.le_add_right _ _, Nat.add_le_add_left hlen offset, fun w hw => ?_⟩
    obtain rfl := List.mem_singleton.mp hw
    exact Nat.le_refl _

theorem bind (ht : Emits base offset n t)
    (hf : ∀ o, t.value = some o → offset ≤ o → o ≤ offset + n → Emits base o m (f o)) :
    Emits base offset (n + m) (t >>= f) := by
  cases hv : t.value with
  | none =>
    rw [Traced.bind_none hv]
    refine ⟨fun w hw => ?_, fun o ho => by cases ho⟩
    have hw := ht.inside w hw
    exact ⟨hw.1, by omega⟩
  | some o =>
    obtain ⟨hlo, hhi, hwrites⟩ := ht.value o hv
    have hrest := hf o hv hlo hhi
    rw [Traced.bind_some hv]
    refine ⟨fun w hw => ?_, fun o' ho' => ?_⟩
    · rcases List.mem_append.mp hw with hw | hw
      · have hw := ht.inside w hw
        exact ⟨hw.1, by omega⟩
      · have hw := hrest.inside w hw
        exact ⟨hw.1, by omega⟩
    · obtain ⟨hlo', hhi', hwrites'⟩ := hrest.value o' ho'
      refine ⟨by omega, by omega, fun w hw => ?_⟩
      rcases List.mem_append.mp hw with hw | hw
      · have := hwrites w hw
        omega
      · exact hwrites' w hw

theorem storeAt_bind {place : Nat} {k : Unit → Traced (Write β) Nat}
    (hbase : base ≤ place) (hlimit : place + data.length ≤ offset)
    (hk : Emits base offset n (k ())) : Emits base offset n (storeAt place data >>= k) := by
  refine ⟨fun w hw => ?_, fun o ho => ?_⟩
  · rcases List.mem_cons.mp hw with rfl | hw
    · exact ⟨hbase, Nat.le_trans hlimit (Nat.le_add_right _ _)⟩
    · exact hk.inside w hw
  · obtain ⟨hlo, hhi, hwrites⟩ := hk.value o ho
    refine ⟨hlo, hhi, fun w hw => ?_⟩
    rcases List.mem_cons.mp hw with rfl | hw
    · exact Nat.le_trans hlimit hlo
    · exact hwrites w hw

theorem skip (h : Emits base (offset + 1) n t) : Emits base offset (1 + n) t := by
  have heq : offset + (1 + n) = offset + 1 + n := by omega
  refine ⟨fun w hw => heq ▸ h.inside w hw, fun o ho => ?_⟩
  obtain ⟨hlo, hhi, hwrites⟩ := h.value o ho
  exact ⟨Nat.le_of_succ_le hlo, heq ▸ hhi, hwrites⟩

theorem mono (h : Emits base offset n t) (hle : n ≤ m) : Emits base offset m t := by
  refine ⟨fun w hw => ?_, fun o ho => ?_⟩
  · have hw := h.inside w hw
    exact ⟨hw.1, by omega⟩
  · obtain ⟨hlo, hhi, hwrites⟩ := h.value o ho
    exact ⟨hlo, by omega, hwrites⟩

end Emits

end Hw
