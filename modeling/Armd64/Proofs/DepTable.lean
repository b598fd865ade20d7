import Armd64.Polycall.Dependencies
import Mathlib.Data.List.Nodup

/-!
# The table of dependencies

Every entry gets a rank of a direct dependency at most once, and a rank of the others has the number
of its entry in it. So the ranks differ, and a lookup has one answer, whatever the order of the
entries. Each library that is loaded takes an entry, which bounds the depth of the load.
-/

namespace Poly.Polycall

open Hw Polyexec

/-! ## Ranks -/

structure RanksOk (ranks : List Nat) (direct : Nat) : Prop where
  room : ranks.length ≤ maxNeededDeps
  nodup : ranks.Nodup
  direct_eq : direct = ranks.countP (· < maxNeededDeps)
  range : ∀ r ∈ ranks,
    r < direct ∨ maxNeededDeps ≤ r ∧ r < maxNeededDeps + ranks.length

variable {ranks : List Nat} {direct r n : Nat}

theorem RanksOk.push_direct (h : RanksOk ranks direct) (hroom : ranks.length < maxNeededDeps) :
    RanksOk (ranks ++ [direct]) (direct + 1) := by
  have hdirect : direct < maxNeededDeps := by
    rw [h.direct_eq]
    exact Nat.lt_of_le_of_lt List.countP_le_length hroom
  refine ⟨by simp; omega, ?_, by simp [hdirect, ← h.direct_eq], ?_⟩
  · rw [List.nodup_append_comm, List.singleton_append, List.nodup_cons]
    refine ⟨fun hmem => ?_, h.nodup⟩
    have := h.range direct hmem
    omega
  · intro r hr
    rw [List.length_append, List.length_singleton]
    rcases List.mem_append.mp hr with hr | hr
    · have := h.range r hr
      omega
    · rw [List.mem_singleton.mp hr]
      omega

theorem RanksOk.push_other (h : RanksOk ranks direct) (hroom : ranks.length < maxNeededDeps) :
    RanksOk (ranks ++ [maxNeededDeps + ranks.length]) direct := by
  have hdirect : direct ≤ maxNeededDeps := by
    rw [h.direct_eq]
    exact Nat.le_trans List.countP_le_length h.room
  refine ⟨by simp; omega, ?_, by simp [← h.direct_eq], ?_⟩
  · rw [List.nodup_append_comm, List.singleton_append, List.nodup_cons]
    refine ⟨fun hmem => ?_, h.nodup⟩
    have := h.range _ hmem
    omega
  · intro r hr
    rw [List.length_append, List.length_singleton]
    rcases List.mem_append.mp hr with hr | hr
    · have := h.range r hr
      omega
    · rw [List.mem_singleton.mp hr]
      omega

theorem RanksOk.promote (h : RanksOk ranks direct) (hn : ranks[n]? = some r)
    (hr : maxNeededDeps ≤ r) : RanksOk (ranks.set n direct) (direct + 1) := by
  obtain ⟨l, l', rfl, hset⟩ : ∃ l l', ranks = l ++ r :: l' ∧ ranks.set n direct = l ++ direct :: l' := by
    obtain ⟨hlt, rfl⟩ := List.getElem?_eq_some_iff.mp hn
    refine ⟨ranks.take n, ranks.drop (n + 1), ?_, List.set_eq_take_append_cons_drop.trans (if_pos hlt)⟩
    rw [List.getElem_cons_drop, List.take_append_drop]
  obtain ⟨hroom, hnodup, hdirect, hrange⟩ := h
  rw [List.nodup_middle, List.nodup_cons] at hnodup
  -- The old rank was not counted, so there is room for one more direct dependency.
  rw [List.countP_append, List.countP_cons_of_neg (by simpa using hr), ← List.countP_append]
    at hdirect
  rw [List.length_append, List.length_cons] at hroom hrange
  have hbound : direct ≤ l.length + l'.length := by
    rw [hdirect, ← List.length_append]
    exact List.countP_le_length
  have hmem : ∀ x ∈ l ++ l', x ∈ l ++ r :: l' := fun x hx => by
    simp only [List.mem_append, List.mem_cons] at hx ⊢
    tauto
  rw [hset]
  refine ⟨by simp; omega, ?_, ?_, ?_⟩
  · rw [List.nodup_middle, List.nodup_cons]
    refine ⟨fun hx => ?_, hnodup.2⟩
    have := hrange direct (hmem direct hx)
    omega
  · rw [List.countP_append, List.countP_cons_of_pos (by simp; omega), hdirect, List.countP_append]
    omega
  · intro x hx
    rw [List.length_append, List.length_cons]
    rw [List.mem_append, List.mem_cons, or_left_comm, ← List.mem_append] at hx
    rcases hx with rfl | hx
    · omega
    · have := hrange x (hmem x hx)
      omega

/-! ## Tables -/

structure DepTable.Ok (t : DepTable) : Prop where
  paths : (t.deps.map (·.path)).Nodup
  ranks : RanksOk (t.deps.map (·.lookupRank)) t.directDepCount

variable {t t' : DepTable} {path needed : Text} {depth : Nat}

theorem DepTable.Ok.room (h : t.Ok) : t.deps.length ≤ maxNeededDeps := by
  simpa using h.ranks.room

theorem ok_push (h : t.Ok) (hroom : t.deps.length < maxNeededDeps)
    (hpath : path ∉ t.deps.map (·.path)) (depth : Nat) : (t.push path depth).Ok := by
  have hpaths : (t.deps.map (·.path) ++ [path]).Nodup := by
    rw [List.nodup_append_comm, List.singleton_append]
    exact List.nodup_cons.mpr ⟨hpath, h.paths⟩
  have hlen : (t.deps.map (·.lookupRank)).length = t.deps.length := List.length_map _
  unfold DepTable.push
  split
  · exact ⟨by simpa using hpaths, by simpa using h.ranks.push_direct (hlen ▸ hroom)⟩
  · exact ⟨by simpa using hpaths, by simpa [hlen] using h.ranks.push_other (hlen ▸ hroom)⟩

theorem length_push (t : DepTable) (path : Text) (depth : Nat) :
    (t.push path depth).deps.length = t.deps.length + 1 := by
  unfold DepTable.push
  split <;> simp

theorem map_modify_of_eq {α β : Type} {f : α → α} {g : α → β} (hg : ∀ a, g (f a) = g a)
    (l : List α) (n : Nat) : (l.modify n f).map g = l.map g := by
  refine List.ext_getElem? fun i => ?_
  rw [List.getElem?_map, List.getElem?_modify, List.getElem?_map]
  cases l[i]? with
  | none => rfl
  | some a => by_cases hi : n = i <;> simp [hi, hg]

theorem ok_setFile (h : t.Ok) (n : Nat) (file : DepFile) : (t.setFile n file).Ok := by
  have hpaths : (t.setFile n file).deps.map (·.path) = t.deps.map (·.path) :=
    map_modify_of_eq (by intro _; rfl) _ _
  have hranks : (t.setFile n file).deps.map (·.lookupRank) = t.deps.map (·.lookupRank) :=
    map_modify_of_eq (by intro _; rfl) _ _
  exact ⟨hpaths ▸ h.paths, hranks ▸ h.ranks⟩

theorem length_promote (n : Nat) : (t.promote n).deps.length = t.deps.length := by
  unfold DepTable.promote
  split <;> simp

theorem ok_promote (h : t.Ok) (n : Nat) : (t.promote n).Ok := by
  unfold DepTable.promote
  split
  · rename_i hrank
    cases hn : t.deps[n]? with
    | none => simp [hn, maxNeededDeps] at hrank
    | some d =>
      have hpaths : (t.deps.modify n fun d => { d with lookupRank := t.directDepCount }).map
          (·.path) = t.deps.map (·.path) := map_modify_of_eq (by intro _; rfl) _ _
      have hranks : (t.deps.modify n fun d => { d with lookupRank := t.directDepCount }).map
          (·.lookupRank) = (t.deps.map (·.lookupRank)).set n t.directDepCount := by
        refine List.ext_getElem? fun i => ?_
        by_cases hi : n = i
        · subst hi
          simp [(List.getElem?_eq_some_iff.mp hn).1]
        · simp [hi]
      refine ⟨hpaths ▸ h.paths, hranks ▸ h.ranks.promote (r := d.lookupRank) ?_ ?_⟩
      · rw [List.getElem?_map, hn]
        rfl
      · rwa [hn] at hrank
  · exact h

theorem identity_none (h : dependencyIdentityAlreadyLoaded t path needed depth = none) :
    path ∉ t.deps.map (·.path) := by
  intro hmem
  obtain ⟨d, hd, rfl⟩ := List.mem_map.mp hmem
  have hnone := List.findIdx?_eq_none_iff.mp (Option.map_eq_none_iff.mp h) d hd
  simp [Dependency.isNeeded] at hnone

theorem identity_some (h : dependencyIdentityAlreadyLoaded t path needed depth = some t')
    (ht : t.Ok) : t'.Ok ∧ t'.deps.length = t.deps.length := by
  obtain ⟨n, -, rfl⟩ := Option.map_eq_some_iff.mp h
  split
  · exact ⟨ok_promote ht n, length_promote n⟩
  · exact ⟨ht, rfl⟩

/-! ## The load -/

/-- The table at a moment of the load is as it should be, and the budget is never used up. -/
def LoadEvent.Ok : LoadEvent → Prop
  | .table t => t.Ok
  | .relocate _ t => t.Ok
  | .budget => False

theorem logTable_ok (h : t.Ok) : (logTable t).Ensures LoadEvent.Ok DepTable.Ok :=
  .emit (e := LoadEvent.table t) h h

/-- From the table `t`, the load keeps the tables as they should be, and no entry is lost. -/
def Keeps (t : DepTable) (load : Traced LoadEvent DepTable) : Prop :=
  load.Ensures LoadEvent.Ok fun t' => t'.Ok ∧ t.deps.length ≤ t'.deps.length

def SubKeeps (k : Nat) (sub : LoadNeeded) : Prop :=
  ∀ path file depth inherited t, t.Ok → k ≤ t.deps.length →
    Keeps t (sub path file depth inherited t)

variable {host : DepHost} {sub : LoadNeeded} {k : Nat}

theorem loadDependencyObject_keeps (host : DepHost) (hsub : SubKeeps (k + 1) sub) (h : t.Ok)
    (hroom : t.deps.length < maxNeededDeps) (hpath : path ∉ t.deps.map (·.path))
    (hk : k ≤ t.deps.length) (expectedArch depth : Nat) (inherited : Option Rpath) :
    Keeps t (loadDependencyObject host sub path expectedArch depth inherited t) := by
  have hpush := ok_push h hroom hpath depth
  have hlen := length_push t path depth
  refine .emit_bind hpush (.bind (.ofOption fun file _ => trivial) fun file _ => ?_)
  split
  · exact .fail
  have hset := ok_setFile hpush t.deps.length file
  have hlen' : ((t.push path depth).setFile t.deps.length file).deps.length = t.deps.length + 1 := by
    rw [← hlen]
    exact List.length_modify ..
  refine .emit_bind hset (.bind (hsub _ _ _ _ _ hset (by omega)) fun t' ht' => ?_)
  refine .emit_bind ht'.1 ?_
  split
  · exact .pure ⟨ht'.1, by omega⟩
  · exact .fail

theorem loadNeeded_keeps (host : DepHost) (budget : Nat) :
    SubKeeps (maxNeededDeps + 1 - budget) (loadNeededDependenciesFromDynamic host budget) := by
  induction budget with
  | zero =>
    intro path file depth inherited t ht hk
    have := ht.room
    omega
  | succ budget ih =>
    intro path file depth inherited t ht hk
    refine .foldlM (fun t₁ needed _ ht₁ => ?_) ⟨ht, Nat.le_refl _⟩
    obtain ⟨ht₁, hle⟩ := ht₁
    refine .bind (.ofOption fun found _ => trivial) fun found _ => ?_
    split
    · rename_i t₂ hfound
      obtain ⟨ht₂, hlen⟩ := identity_some hfound ht₁
      exact .emit ht₂ ⟨ht₂, by omega⟩
    · rename_i hnone
      split
      · exact .fail
      · have hkeeps := loadDependencyObject_keeps (k := maxNeededDeps - budget) host
          (fun path file depth inherited t ht hk => ih path file depth inherited t ht (by omega)) ht₁
          (by omega) (identity_none hnone) (by omega) 0 depth
          (childInheritedRpath file path inherited)
        exact ⟨hkeeps.all, fun hv => ⟨(hkeeps.value hv).1, Nat.le_trans hle (hkeeps.value hv).2⟩⟩

theorem loadPreload_keeps (hsub : SubKeeps 1 sub) (h : t.Ok) (found : Option Text) :
    (loadPreloadDependency host sub t found).Ensures LoadEvent.Ok DepTable.Ok := by
  refine .bind (.ofOption fun path _ => trivial) fun path _ => ?_
  split
  · exact .pure h
  rename_i hpath
  split
  · exact .fail
  refine .bind (loadDependencyObject_keeps (k := 0) host hsub h (by omega) hpath (Nat.zero_le _) _ _ _)
    fun t' ht' => ?_
  exact .foldlM (fun t₁ d _ ht₁ => logTable_ok (ok_promote ht₁ d)) ht'.1

theorem loadDependencies_ok (host : DepHost) {budget : Nat} (h : maxNeededDeps < budget) :
    (loadDependencies host budget).Ensures LoadEvent.Ok DepTable.Ok := by
  have hsub : SubKeeps 0 (loadNeededDependenciesFromDynamic host budget) := by
    have hkeeps := loadNeeded_keeps host budget
    rwa [Nat.sub_eq_zero_of_le h] at hkeeps
  have hempty : DepTable.Ok ⟨[], 0⟩ :=
    ⟨List.nodup_nil, ⟨by simp, List.nodup_nil, rfl, by simp⟩⟩
  refine .bind (.foldlM (fun t found _ ht => loadPreload_keeps ?_ ht found) hempty) fun t ht => ?_
  · exact fun path file depth inherited t ht _ => hsub path file depth inherited t ht (Nat.zero_le _)
  refine .bind (hsub _ _ _ _ t ht (Nat.zero_le _)) fun t' ht' => ?_
  exact .emit ht'.1 ht'.1

/-! ## Lookups -/

section

variable (name : Text) (required : Option VersionRequirement)

def Dependency.firstMatch (d : Dependency) : Option ElfSym :=
  if dependencyMatchesVersionFile d (required.bind (·.filename)) then
    d.file.bind fun file => (file.dynsym.symbols.zipIdx.find? fun p =>
      symbolMatches file.dynsym name required p.2 p.1).map Prod.fst
  else none

def Best.offer (b : Best) (n rank : Nat) : Option ElfSym → Best
  | none => b
  | some sym => if b.rank ≤ rank then b else ⟨some n, rank, sym.stValue, sym.type⟩

variable {name required} {b : Best} {n rank : Nat} {table : SymbolTable}

theorem resolveInTable_of_le (syms : List ElfSym) (s : Nat) (h : b.rank ≤ rank) :
    resolveInTable name required n rank table syms s b = b := by
  induction syms generalizing s with
  | nil => rfl
  | cons sym syms ih => simpa [resolveInTable, h] using ih (s + 1)

theorem resolveInTable_eq (syms : List ElfSym) (s : Nat) :
    resolveInTable name required n rank table syms s b = b.offer n rank (((syms.zipIdx s).find?
      fun p => symbolMatches table name required p.2 p.1).map Prod.fst) := by
  induction syms generalizing s with
  | nil => rfl
  | cons sym syms ih =>
    rw [resolveInTable, List.zipIdx_cons, List.find?_cons]
    by_cases hmatch : symbolMatches table name required s sym = true
    · simp only [hmatch, Bool.not_true, Bool.false_eq_true, if_false, Option.map_some, Best.offer]
      by_cases hle : b.rank ≤ rank
      · rw [if_pos hle, resolveInTable_of_le _ _ hle]
      · rw [if_neg hle, resolveInTable_of_le _ _ (Nat.le_refl rank)]
    · simpa [hmatch] using ih (s + 1)

theorem resolveInDeps_cons (d : Dependency) (deps : List Dependency) (n : Nat) (b : Best) :
    resolveInDeps name required (d :: deps) n b =
      resolveInDeps name required deps (n + 1)
        (b.offer n d.lookupRank (d.firstMatch name required)) := by
  rw [resolveInDeps, Dependency.firstMatch]
  by_cases hfile : dependencyMatchesVersionFile d (required.bind (·.filename)) = true
  · rw [hfile, if_pos rfl]
    cases d.file with
    | none => rfl
    | some file => exact congrArg _ (resolveInTable_eq _ 0)
  · simp [hfile, Best.offer]

theorem resolveInDeps_cases (name : Text) (required : Option VersionRequirement)
    (deps : List Dependency) (n : Nat) (b : Best) :
    (resolveInDeps name required deps n b = b ∧
      ∀ d ∈ deps, (d.firstMatch name required).isSome → b.rank ≤ d.lookupRank) ∨
    ∃ i d sym, deps[i]? = some d ∧ d.firstMatch name required = some sym ∧
      d.lookupRank < b.rank ∧
      (∀ d' ∈ deps, (d'.firstMatch name required).isSome → d.lookupRank ≤ d'.lookupRank) ∧
      resolveInDeps name required deps n b = ⟨some (n + i), d.lookupRank, sym.stValue, sym.type⟩ := by
  induction deps generalizing n b with
  | nil => exact .inl ⟨rfl, by simp⟩
  | cons d deps ih =>
    rw [resolveInDeps_cons]
    cases hfirst : d.firstMatch name required with
    | none =>
      rcases ih (n + 1) b with ⟨heq, hall⟩ | ⟨i, d', sym, hi, hsym, hlt, hall, heq⟩
      · exact .inl ⟨heq, List.forall_mem_cons.mpr ⟨by simp [hfirst], hall⟩⟩
      · exact .inr ⟨i + 1, d', sym, hi, hsym, hlt,
          List.forall_mem_cons.mpr ⟨by simp [hfirst], hall⟩, heq.trans (by simp; omega)⟩
    | some sym =>
      by_cases hle : b.rank ≤ d.lookupRank
      · rw [Best.offer, if_pos hle]
        rcases ih (n + 1) b with ⟨heq, hall⟩ | ⟨i, d', sym', hi, hsym, hlt, hall, heq⟩
        · exact .inl ⟨heq, List.forall_mem_cons.mpr ⟨fun _ => hle, hall⟩⟩
        · exact .inr ⟨i + 1, d', sym', hi, hsym, hlt,
            List.forall_mem_cons.mpr ⟨fun _ => by omega, hall⟩, heq.trans (by simp; omega)⟩
      · rw [Best.offer, if_neg hle]
        rcases ih (n + 1) ⟨some n, d.lookupRank, sym.stValue, sym.type⟩ with
          ⟨heq, hall⟩ | ⟨i, d', sym', hi, hsym, hlt, hall, heq⟩
        · exact .inr ⟨0, d, sym, rfl, hfirst, Nat.lt_of_not_le hle,
            List.forall_mem_cons.mpr ⟨fun _ => Nat.le_refl _, hall⟩, heq⟩
        · have hlt' : d'.lookupRank < d.lookupRank := hlt
          exact .inr ⟨i + 1, d', sym', hi, hsym, by omega,
            List.forall_mem_cons.mpr ⟨fun _ => by omega, hall⟩, heq.trans (by simp; omega)⟩

end

/-- Among the entries with a match, `d` has the lowest rank and no other has the same, and `sym` is
its first match. -/
structure Preferred (deps : List Dependency) (name : Text) (required : Option VersionRequirement)
    (d : Dependency) (sym : ElfSym) : Prop where
  mem : d ∈ deps
  first : d.firstMatch name required = some sym
  lowest : ∀ d' ∈ deps, (d'.firstMatch name required).isSome → d' = d ∨ d.lookupRank < d'.lookupRank

theorem Preferred.unique {deps : List Dependency} {name : Text}
    {required : Option VersionRequirement} {d d' : Dependency} {sym sym' : ElfSym}
    (h : Preferred deps name required d sym) (h' : Preferred deps name required d' sym') :
    d' = d := by
  rcases h.lowest d' h'.mem (by simp [h'.first]) with heq | hlt
  · exact heq
  · rcases h'.lowest d h.mem (by simp [h.first]) with heq | hlt'
    · exact heq.symm
    · omega

section

variable {deps : List Dependency} (h : t.Ok) (hperm : deps.Perm t.deps) (arch : Nat) (name : Text)
  (required : Option VersionRequirement)

include h hperm

theorem resolve_cases :
    (resolveDependencySymbol arch deps name required = none ∧
      ∀ d ∈ t.deps, d.firstMatch name required = none) ∨
    ∃ n d sym, deps[n]? = some d ∧ Preferred t.deps name required d sym ∧
      resolveDependencySymbol arch deps name required =
        some (sym.stValue, depBaseKind arch deps name n sym.type) := by
  have hsmall : ∀ d ∈ t.deps, d.lookupRank < 2 ^ 64 - 1 := by
    intro d hd
    have hrange := h.ranks.range _ (List.mem_map_of_mem hd)
    have hcount := Nat.le_trans (Nat.le_of_eq h.ranks.direct_eq) List.countP_le_length
    have hroom := h.ranks.room
    have hmax : maxNeededDeps = 32 := rfl
    omega
  unfold resolveDependencySymbol
  rcases resolveInDeps_cases name required deps 0 ⟨none, 2 ^ 64 - 1, 0, 0⟩ with
    ⟨heq, hall⟩ | ⟨n, d, sym, hn, hsym, -, hall, heq⟩
  · refine .inl ⟨by rw [heq]; rfl, fun d hd => ?_⟩
    by_contra hsome
    have := hall d (hperm.mem_iff.mpr hd) (Option.isSome_iff_ne_none.mpr hsome)
    exact absurd (hsmall d hd) (Nat.not_lt.mpr this)
  · have hd := hperm.mem_iff.mp (List.mem_of_getElem? hn)
    refine .inr ⟨n, d, sym, hn, ⟨hd, hsym, fun d' hd' hmatch => ?_⟩, by rw [heq]; simp⟩
    rcases Nat.eq_or_lt_of_le (hall d' (hperm.mem_iff.mpr hd') hmatch) with hrank | hrank
    · exact .inl (List.inj_on_of_nodup_map h.ranks.nodup hd' hd hrank.symm)
    · exact .inr hrank

theorem resolve_none_iff :
    resolveDependencySymbol arch deps name required = none ↔
      ∀ d ∈ t.deps, d.firstMatch name required = none := by
  rcases resolve_cases h hperm arch name required with ⟨hnone, hall⟩ | ⟨n, d, sym, -, hpref, heq⟩
  · exact iff_of_true hnone hall
  · refine iff_of_false (by simp [heq]) fun hall => ?_
    cases (hall d hpref.mem).symm.trans hpref.first

theorem resolve_some_iff (value : BitVec 64) (base : DepBase) :
    resolveDependencySymbol arch deps name required = some (value, base) ↔
      ∃ n d sym, deps[n]? = some d ∧ Preferred t.deps name required d sym ∧
        value = sym.stValue ∧ base = depBaseKind arch deps name n sym.type := by
  rcases resolve_cases h hperm arch name required with ⟨hnone, hall⟩ | ⟨i, d, sym, hi, hpref, heq⟩
  · refine iff_of_false (by simp [hnone]) ?_
    rintro ⟨n, d, sym, -, hpref, -⟩
    cases (hall d hpref.mem).symm.trans hpref.first
  · rw [heq, Option.some.injEq, Prod.mk.injEq]
    constructor
    · rintro ⟨rfl, rfl⟩
      exact ⟨i, d, sym, hi, hpref, rfl, rfl⟩
    · rintro ⟨n, d', sym', hn, hpref', rfl, rfl⟩
      cases hpref.unique hpref'
      cases hpref.first.symm.trans hpref'.first
      have hnodup : deps.Nodup := hperm.nodup_iff.mpr (List.Nodup.of_map _ h.paths)
      have hni := (List.getElem?_inj (List.getElem?_eq_some_iff.mp hn).1 hnodup).mp
        (hn.trans hi.symm)
      rw [hni]
      exact ⟨rfl, rfl⟩

end

/-- For every graph of needed and list of preloaded libraries, a budget of 33 is enough. The table
never has more than 32 entries, with different paths and ranks, and in any order of them a lookup
gives the first match of the entry of the lowest rank that has one. -/
theorem dependency_table (host : DepHost) (budget : Nat) (h : maxNeededDeps < budget) :
    LoadEvent.budget ∉ (loadDependencies host budget).log ∧
      ∀ t, (LoadEvent.table t ∈ (loadDependencies host budget).log ∨
          ∃ path, LoadEvent.relocate path t ∈ (loadDependencies host budget).log) →
        t.deps.length ≤ maxNeededDeps ∧ (t.deps.map (·.path)).Nodup ∧
        (t.deps.map (·.lookupRank)).Nodup ∧
        ∀ deps, deps.Perm t.deps → ∀ arch name required,
          (resolveDependencySymbol arch deps name required = none ↔
            ∀ d ∈ t.deps, d.firstMatch name required = none) ∧
          ∀ value base, resolveDependencySymbol arch deps name required = some (value, base) ↔
            ∃ n d sym, deps[n]? = some d ∧ Preferred t.deps name required d sym ∧
              value = sym.stValue ∧ base = depBaseKind arch deps name n sym.type := by
  have hall := (loadDependencies_ok host h).all
  refine ⟨fun hmem => hall _ hmem, fun t hmem => ?_⟩
  have ht : t.Ok := hmem.elim (fun hm => hall _ hm) fun ⟨_, hm⟩ => hall _ hm
  refine ⟨ht.room, ht.paths, ht.ranks.nodup, fun deps hperm arch name required =>
    ⟨resolve_none_iff ht hperm arch name required, resolve_some_iff ht hperm arch name required⟩⟩

/-- The preloaded library `b` and the library `a`, which the program needs, need each other. Both
define `f`, as the first byte of their path. -/
def cyclicHost : DepHost where
  path := [0x70]
  arch := 0
  root := ⟨0, [], ⟨[], [], [], fun _ => none⟩, fun _ => 0, [[0x61]], none, none⟩
  preload := [some [0x62]]
  read path := some ⟨0, path,
    ⟨[⟨0, 0x12, 0, 1, (path.headD 0).setWidth 64, 8⟩], [0x66, 0], [], fun _ => none⟩, fun _ => 0,
    if path = [0x61] then [[0x62]] else [[0x61]], none, none⟩
  reserveTlsRange _ _ := true
  neededPath _ _ _ needed := some (needed, needed)
  loadDynamicRelocs _ _ := true

/-- The preloaded library is loaded with the one it needs, which is then a direct dependency. A
lookup finds its `f`, also in the reversed table. -/
theorem dependency_table_cyclic :
    let load := loadDependencies cyclicHost 40
    maxNeededDeps < 40 ∧ LoadEvent.budget ∉ load.log ∧
      ∃ t, load.value = some t ∧
        (t.deps.map fun d => (d.path, d.lookupRank)) = [([0x62], 0), ([0x61], 1)] ∧
        resolveDependencySymbol 0 t.deps.reverse [0x66] none = some (0x62, .loadBias 1) ∧
        ∃ d sym, Preferred t.deps [0x66] none d sym ∧ sym.stValue = 0x62 := by
  intro load
  obtain ⟨hbudget, htables⟩ := dependency_table cyclicHost 40 (by decide)
  let t := load.value.getD ⟨[], 0⟩
  have hlog : load.log.getLast? = some (.relocate [0x70] t) := rfl
  have hresolve : resolveDependencySymbol 0 t.deps.reverse [0x66] none =
      some (0x62, .loadBias 1) := by decide +kernel
  obtain ⟨-, -, -, hlookup⟩ := htables t (.inr ⟨_, List.mem_of_getLast? hlog⟩)
  obtain ⟨n, d, sym, -, hpreferred, hvalue, -⟩ :=
    ((hlookup _ (List.reverse_perm _) 0 [0x66] none).2 _ _).mp hresolve
  exact ⟨by decide, hbudget, t, rfl, by decide, hresolve, d, sym, hpreferred, hvalue.symm⟩

end Poly.Polycall
