import Armd64.Proofs.BridgePlan

/-!
# When there is a bridge plan

A plan fails only where a location of one layout has no partner in the other: the counts or the
sizes differ, or a location is empty. None of this tells the caller from the callee. The array of
operations is large enough for every signature.
-/

namespace Poly.Abi

variable {arch : Arch} {cl ce : AbiLayout}

theorem length_placeArgs {types : List AbiType} (c : Cursor)
    (h : ∀ type ∈ types, (arch.request type).ok) :
    (arch.placeArgs types c).flatten.length ≤ types.length * locMaxParts := by
  induction types generalizing c with
  | nil => simp [Arch.placeArgs]
  | cons type types ih =>
    obtain ⟨hok, hrest⟩ := List.forall_mem_cons.mp h
    have hplace : (arch.placeArg type c).1.length ≤ locMaxParts := by
      refine (length_place_le arch type _ c fun href => ?_).mpr hok
      rw [href] at hok
      cases hok
    have hmore := ih (arch.placeArg type c).2 hrest
    rw [Arch.placeArgs, List.flatten_cons, List.length_append, List.length_cons, Nat.succ_mul]
    omega

theorem opsNeeded_le {sig : FunctionSig} (h : classifyCallAbi arch sig = some cl) (slot : BitVec 32)
    (key : Bool) : opsNeeded cl slot key ≤ planMaxOps := by
  obtain ⟨c, c', hclassified⟩ := classify_classified h
  have hlaid := classify_laid h
  have hsetup := setupOps_length slot key
  have hparts : cl.parts.length ≤ sig.args.length * locMaxParts := by
    rw [AbiLayout.parts, Hw.flatMap_range_getD hclassified.uncounted]
    have hargs := length_placeArgs (arch.startCursor sig) hlaid.ok
    rwa [← hlaid.argLocs] at hargs
  have hret : cl.ret.length ≤ layoutMaxRet := by
    obtain ⟨p, hp, hpret, -⟩ := hlaid.result
    rw [hpret]
    exact (classifyResult_placed hp).length
  have hargs : sig.args.length * locMaxParts ≤ 16 * 4 := Nat.mul_le_mul_right _ hlaid.length
  have hmax : planMaxOps = 128 := rfl
  have hfour : layoutMaxRet = 4 := rfl
  unfold opsNeeded
  omega

theorem countP_pcall_planOps (slot : BitVec 32) (key : Bool) :
    (planOps cl ce slot key).countP (·.kind == .pcall) = 1 := by
  have hargs : (setupOps slot key ++ (List.range cl.argCount).flatMap (argMoves cl ce)).countP
      (·.kind == .pcall) = 0 :=
    List.countP_eq_zero.mpr fun op hop => by simpa using planOps_noCall cl ce slot key op hop
  have hret : (List.zipWith moveOp ce.ret cl.ret).countP (·.kind == .pcall) = 0 :=
    List.countP_eq_zero.mpr fun op hop => by simpa using kind_of_isMove (isMove_of_mem_moves hop)
  rw [planOps, List.countP_append, hargs, List.countP_cons_of_pos (by rfl), hret]

/-- For any two architectures that classify a signature, there is a plan from one to the other
exactly if there is one back: exactly if the locations match, since the array has room. A plan has
one call, and it is valid. -/
theorem bridge_plan_symmetric (sig : FunctionSig) (caller callee : Arch) (slot : BitVec 32)
    (key : Bool) (hcl : classifyCallAbi caller sig = some cl)
    (hce : classifyCallAbi callee sig = some ce) :
    ((planFromLayouts cl ce slot key).isSome = true ↔
        (planFromLayouts ce cl slot key).isSome = true) ∧
      opsNeeded cl slot key ≤ planMaxOps ∧
      ((planFromLayouts cl ce slot key).isSome = true ↔ Matched cl ce) ∧
      ∀ plan, planFromLayouts cl ce slot key = some plan →
        plan.ops.countP (·.kind == .pcall) = 1 ∧ planValidate plan = true := by
  have hsome : ∀ {l l' : AbiLayout}, opsNeeded l slot key ≤ planMaxOps →
      ((planFromLayouts l l' slot key).isSome = true ↔ Matched l l') := by
    intro l l' hfit
    simp only [Option.isSome_iff_exists, planFromLayouts_iff]
    exact ⟨fun ⟨_, _, hm, _⟩ => hm, fun hm => ⟨_, hfit, hm, rfl⟩⟩
  have hfit := opsNeeded_le hcl slot key
  refine ⟨?_, hfit, hsome hfit, fun plan hplan => ⟨?_, ?_⟩⟩
  · rw [hsome hfit, hsome (opsNeeded_le hce slot key)]
    exact ⟨Matched.symm, Matched.symm⟩
  · obtain ⟨-, -, rfl⟩ := planFromLayouts_iff.mp hplan
    exact countP_pcall_planOps slot key
  · simp only [planFromLayouts, Option.bind_eq_bind, Option.bind_eq_some_iff] at hplan
    obtain ⟨_, -, _, -, _, -, _, -, _, -, h⟩ := hplan
    split at h
    · next hvalid => exact Option.some.inj h ▸ hvalid
    · cases h

/-- `double f(long, double)` from x86 to AArch64, with a slot. -/
theorem bridge_plan_symmetric_scalars :
    ∃ cl ce,
      classifyCallAbi .x86 ⟨[i64Type, abiScalarType .f64], abiScalarType .f64, 0⟩ = some cl ∧
      classifyCallAbi .aarch64 ⟨[i64Type, abiScalarType .f64], abiScalarType .f64, 0⟩ = some ce ∧
      opsNeeded cl 3 true ≤ planMaxOps ∧ (planFromLayouts cl ce 3 true).isSome = true ∧
      (planFromLayouts ce cl 3 true).isSome = true := by
  refine ⟨_, _, rfl, rfl, ?_⟩
  obtain ⟨hsymm, hfit, -⟩ := bridge_plan_symmetric
    ⟨[i64Type, abiScalarType .f64], abiScalarType .f64, 0⟩ .x86 .aarch64 3 true rfl rfl
  exact ⟨hfit, by decide, hsymm.mp (by decide)⟩

end Poly.Abi
