import Mathlib.Data.List.Nodup
import Armd64.Lib.Lists
import Armd64.Lib.Search

/-!
# Numbered forests

A depth-first search numbers the nodes in the order in which it finds them. An edge to a node that
it found before is marked and not followed, so the other edges are those of a forest.

* `Forest es c c' walk`: along the edges `es` the search finds the nodes from `c` to `c'`. The list
  `walk` has the edges that it meets, each one after the edges that it meets below it.
* `Forest.topological`: without a cycle, a walk meets a node after all that the node leads to.
* `Forest.root_of_post`, `Forest.root_of_reverse`, `Forest.root_of_pre`: the recursive walks over
  the forest are loops over lists.
-/

namespace Hw

/-! ## Elements and what comes before them -/

section

variable {α : Type} {P Q : List α → α → Prop}

/-- `P` holds for each element and the list of those before it, which starts with `before`. -/
def Along (P : List α → α → Prop) : List α → List α → Prop
  | _, [] => True
  | before, a :: l => P before a ∧ Along P (before ++ [a]) l

variable {before : List α}

theorem Along.append {l₁ l₂ : List α} (h₁ : Along P before l₁) (h₂ : Along P (before ++ l₁) l₂) :
    Along P before (l₁ ++ l₂) := by
  induction l₁ generalizing before with
  | nil => simpa using h₂
  | cons a l₁ ih =>
    refine ⟨h₁.1, ih h₁.2 ?_⟩
    rwa [List.append_assoc, List.singleton_append]

theorem along_iff_split {l : List α} :
    Along P before l ↔ ∀ l₁ a l₂, l = l₁ ++ a :: l₂ → P (before ++ l₁) a := by
  induction l generalizing before with
  | nil =>
    refine ⟨fun _ l₁ a l₂ h => ?_, fun _ => trivial⟩
    cases l₁ <;> cases h
  | cons b l ih =>
    rw [Along, ih]
    constructor
    · rintro ⟨hb, hl⟩ l₁ a l₂ h
      cases l₁ with
      | nil =>
        cases h
        simpa using hb
      | cons c l₁ =>
        cases h
        have ha := hl l₁ a l₂ rfl
        rwa [List.append_assoc, List.singleton_append] at ha
    · intro hall
      refine ⟨by simpa using hall [] b l rfl, fun l₁ a l₂ h => ?_⟩
      rw [List.append_assoc, List.singleton_append]
      exact hall (b :: l₁) a l₂ (by rw [h, List.cons_append])

end

section

variable {ε : Type} (next : Nat → List ε) (dst : ε → Nat) (skip : ε → Bool)

/-- Along the edges the search finds the nodes from `c` to `c'`; an edge that it skips leads to a
node that it found before. -/
inductive Forest : List ε → Nat → Nat → List ε → Prop
  | nil {c : Nat} : Forest [] c c []
  | skip {e : ε} {es walk : List ε} {c c' : Nat} (hskip : skip e = true) (hfound : dst e < c)
    (hrest : Forest es c c' walk) : Forest (e :: es) c c' (e :: walk)
  | node {e : ε} {es below walk : List ε} {c c₁ c' : Nat} (hskip : skip e = false)
    (hdst : dst e = c) (hbelow : Forest (next c) (c + 1) c₁ below)
    (hrest : Forest es c₁ c' walk) : Forest (e :: es) c c' (below ++ e :: walk)

/-- The nodes that the edges of a walk find. -/
def nodes (walk : List ε) : List Nat := (walk.filter fun e => !skip e).map dst

variable {next dst skip}

theorem nodes_nil : nodes dst skip [] = [] := rfl

theorem nodes_append {l₁ l₂ : List ε} :
    nodes dst skip (l₁ ++ l₂) = nodes dst skip l₁ ++ nodes dst skip l₂ := by
  rw [nodes, List.filter_append, List.map_append]
  rfl

variable {e : ε} {l : List ε}

theorem nodes_cons_skip (h : skip e) : nodes dst skip (e :: l) = nodes dst skip l := by
  simp [nodes, h]

theorem nodes_cons_node (h : skip e = false) :
    nodes dst skip (e :: l) = dst e :: nodes dst skip l := by
  simp [nodes, h]

theorem foldlM_nodes {m : Type → Type} [Monad m] [LawfulMonad m] {σ : Type} {f : σ → Nat → m σ}
    {s : σ} : (nodes dst skip l).foldlM f s =
      l.foldlM (fun s e => if skip e then pure s else f s (dst e)) s := by
  rw [nodes, List.foldlM_map, foldlM_filter_not]

namespace Forest

variable {es walk : List ε} {c c' : Nat}

theorem le (h : Forest next dst skip es c c' walk) : c ≤ c' := by
  induction h with
  | nil => exact Nat.le_refl _
  | skip _ _ _ ih => exact ih
  | node _ _ _ _ ihbelow ihrest => omega

theorem append {es' walk' : List ε} {c'' : Nat} (h : Forest next dst skip es c c' walk)
    (h' : Forest next dst skip es' c' c'' walk') :
    Forest next dst skip (es ++ es') c c'' (walk ++ walk') := by
  induction h with
  | nil => exact h'
  | skip hskip hfound _ ih => exact .skip hskip hfound (ih h')
  | node hskip hdst hbelow _ _ ih =>
    rw [List.append_assoc, List.cons_append]
    exact .node hskip hdst hbelow (ih h')

variable {v : Nat} {e : ε} {before : List ε}

section

variable (h : Forest next dst skip es c c' walk)

include h

theorem mem_nodes : v ∈ nodes dst skip walk ↔ c ≤ v ∧ v < c' := by
  induction h with
  | nil =>
    rw [nodes_nil, iff_false_left List.not_mem_nil]
    omega
  | skip hskip _ _ ih => rw [nodes_cons_skip hskip, ih]
  | node hskip hdst hbelow hrest ihbelow ihrest =>
    have := hbelow.le
    have := hrest.le
    rw [nodes_append, nodes_cons_node hskip, List.mem_append, List.mem_cons, ihbelow, ihrest, hdst]
    omega

theorem nodup_nodes : (nodes dst skip walk).Nodup := by
  induction h with
  | nil => exact List.nodup_nil
  | skip hskip _ _ ih => rwa [nodes_cons_skip hskip]
  | node hskip hdst hbelow hrest ihbelow ihrest =>
    have := hbelow.le
    rw [nodes_append, nodes_cons_node hskip, hdst, List.nodup_append, List.nodup_cons]
    refine ⟨ihbelow, ⟨fun hmem => ?_, ihrest⟩, ?_⟩
    · have := hrest.mem_nodes.mp hmem
      omega
    · rintro v hv w hw rfl
      have := hbelow.mem_nodes.mp hv
      rcases List.mem_cons.mp hw with rfl | hw
      · omega
      · have := hrest.mem_nodes.mp hw
        omega

theorem subset : es ⊆ walk := by
  induction h with
  | nil => exact List.Subset.refl _
  | skip _ _ _ ih => exact List.cons_subset_cons _ ih
  | node _ _ _ _ _ ih =>
    exact List.subset_append_of_subset_right _ (List.cons_subset_cons _ ih)

theorem mem_next (hes : ∀ e ∈ es, ∃ v, e ∈ next v) (he : e ∈ walk) : ∃ v, e ∈ next v := by
  induction h with
  | nil => exact absurd he List.not_mem_nil
  | skip _ _ _ ih =>
    rw [List.forall_mem_cons] at hes
    rcases List.mem_cons.mp he with rfl | he
    · exact hes.1
    · exact ih hes.2 he
  | node _ _ _ _ ihbelow ihrest =>
    rw [List.forall_mem_cons] at hes
    rcases List.mem_append.mp he with he | he
    · exact ihbelow (fun e he => ⟨_, he⟩) he
    · rcases List.mem_cons.mp he with rfl | he
      · exact hes.1
      · exact ihrest hes.2 he

theorem next_subset (hle : c ≤ v) (hlt : v < c') : next v ⊆ walk := by
  induction h with
  | nil => omega
  | skip _ _ _ ih => exact List.subset_cons_of_subset _ (ih hle hlt)
  | node hskip hdst hbelow hrest ihbelow ihrest =>
    rename_i c c₁ c'
    by_cases hv : v < c₁
    · refine List.subset_append_of_subset_left _ ?_
      rcases Nat.eq_or_lt_of_le hle with rfl | hlt
      · exact hbelow.subset
      · exact ihbelow hlt hv
    · exact List.subset_append_of_subset_right _
        (List.subset_cons_of_subset _ (ihrest (by omega) hlt))

theorem eq_of_dst_eq {e' : ε} (he : e ∈ walk)
    (he' : e' ∈ walk) (hskip : skip e = false) (hskip' : skip e' = false) (hdst : dst e = dst e') :
    e = e' :=
  List.inj_on_of_nodup_map h.nodup_nodes (List.mem_filter.mpr ⟨he, by rw [hskip]; rfl⟩)
    (List.mem_filter.mpr ⟨he', by rw [hskip']; rfl⟩) hdst

end

/-! ## The order of a walk -/

/-- What a walk has met before an edge: the node that a skipped edge leads to, or all edges of the
node. -/
def Met (next : Nat → List ε) (dst : ε → Nat) (skip : ε → Bool) (before : List ε) (e : ε) : Prop :=
  if skip e then dst e ∈ nodes dst skip before else next (dst e) ⊆ before

section

variable (hacyclic : ∀ {v w}, Edge next dst v w → ¬ Relation.ReflTransGen (Edge next dst) w v)

include hacyclic

/-- Without a cycle, a walk meets a node after all that it leads to. The walk is below the nodes of
`path`, and has met all other nodes below `c`. -/
theorem met_along (h : Forest next dst skip es c c' walk) (path : Nat → Prop)
    (hpath : ∀ v, path v → ∀ e ∈ es, ∃ w, Relation.ReflTransGen (Edge next dst) v w ∧ e ∈ next w)
    (hbefore : ∀ v, v < c → ¬ path v → v ∈ nodes dst skip before) :
    Along (Met next dst skip) before walk := by
  induction h generalizing path before with
  | nil => trivial
  | skip hskip hfound hrest ih =>
    rename_i e es walk c c'
    refine ⟨?_, ih path (fun v hv e he => hpath v hv e (List.mem_cons_of_mem _ he)) ?_⟩
    · rw [Met, if_pos hskip]
      refine hbefore _ hfound fun hon => ?_
      -- The edge leads back to a node above it.
      obtain ⟨w, hw, he⟩ := hpath _ hon e List.mem_cons_self
      exact hacyclic ⟨e, he, rfl⟩ hw
    · intro v hv hno
      rw [nodes_append]
      exact List.mem_append_left _ (hbefore v hv hno)
  | node hskip hdst hbelow hrest ihbelow ihrest =>
    rename_i e es below walk c c₁ c'
    refine .append (ihbelow (fun v => path v ∨ v = c) ?_ ?_) ⟨?_, ihrest path ?_ ?_⟩
    · rintro v (hv | rfl) e' he'
      · obtain ⟨w, hw, he⟩ := hpath v hv e List.mem_cons_self
        exact ⟨c, hw.tail ⟨e, he, hdst⟩, he'⟩
      · exact ⟨v, .refl, he'⟩
    · intro v hv hno
      rw [not_or] at hno
      exact hbefore v (by omega) hno.1
    · rw [Met, if_neg (by simp [hskip]), hdst]
      exact List.subset_append_of_subset_right _ hbelow.subset
    · exact fun v hv e' he' => hpath v hv e' (List.mem_cons_of_mem _ he')
    · intro v hv hno
      rw [nodes_append, nodes_append, nodes_cons_node hskip, hdst]
      rcases Nat.lt_trichotomy v c with hlt | rfl | hlt
      · exact List.mem_append_left _ (List.mem_append_left _ (hbefore v hlt hno))
      · exact List.mem_append_right _ List.mem_cons_self
      · exact List.mem_append_left _ (List.mem_append_right _ (hbelow.mem_nodes.mpr ⟨hlt, hv⟩))

theorem met_of_root
    (h : Forest next dst skip (next 0) 1 c' walk) : Along (Met next dst skip) [] walk := by
  refine h.met_along hacyclic (· = 0) ?_ fun v hv hno => ?_
  · rintro v rfl e he
    exact ⟨0, .refl, he⟩
  · omega

end

theorem nodes_along_of_met {walk : List ε} (hbefore : ∀ e ∈ before, dst e ∈ nodes dst skip before)
    (h : Along (Met next dst skip) before walk) :
    Along (fun done v => ∀ w, Edge next dst v w → w ∈ done) (nodes dst skip before)
      (nodes dst skip walk) := by
  induction walk generalizing before with
  | nil => trivial
  | cons e walk ih =>
    obtain ⟨hmet, hrest⟩ := h
    cases hskip : skip e with
    | true =>
      have hnodes : nodes dst skip (before ++ [e]) = nodes dst skip before := by
        rw [nodes_append, nodes_cons_skip hskip, nodes_nil, List.append_nil]
      rw [Met, if_pos hskip] at hmet
      rw [nodes_cons_skip hskip, ← hnodes]
      refine ih ?_ hrest
      rw [hnodes, List.forall_mem_append, List.forall_mem_singleton]
      exact ⟨hbefore, hmet⟩
    | false =>
      have hnodes : nodes dst skip (before ++ [e]) = nodes dst skip before ++ [dst e] := by
        rw [nodes_append, nodes_cons_node hskip, nodes_nil]
      rw [Met, if_neg (by simp [hskip])] at hmet
      rw [nodes_cons_node hskip]
      refine ⟨?_, hnodes ▸ ih ?_ hrest⟩
      · rintro w ⟨e', he', rfl⟩
        exact hbefore e' (hmet he')
      · rw [hnodes, List.forall_mem_append, List.forall_mem_singleton]
        exact ⟨fun e he => List.mem_append_left _ (hbefore e he),
          List.mem_append_right _ List.mem_cons_self⟩

theorem topological
    (hacyclic : ∀ {v w}, Edge next dst v w → ¬ Relation.ReflTransGen (Edge next dst) w v)
    (h : Forest next dst skip (next 0) 1 c' walk) {l₁ l₂ : List Nat} {w : Nat}
    (hsplit : nodes dst skip walk = l₁ ++ v :: l₂) (hedge : Edge next dst v w) : w ∈ l₁ := by
  have halong := nodes_along_of_met (fun e he => absurd he List.not_mem_nil)
    (h.met_of_root hacyclic)
  rw [hsplit] at halong
  exact along_iff_split.mp halong l₁ v l₂ rfl w hedge

/-! ## Recursive walks -/

section

variable {m : Type → Type} [Monad m] [LawfulMonad m] {σ : Type} {F : Nat → Nat → σ → m σ}

variable {n : Nat} {visit : σ → Nat → m σ}

/-- A walk that takes the edges of a node in order and visits each one after what is below it is the
loop over the list. -/
theorem foldlM_of_post {visit : σ → ε → m σ}
    (hF : ∀ n v s, F (n + 1) v s = (next v).foldlM
      (fun s e => do visit (← if skip e then pure s else F n (dst e) s) e) s)
    (h : Forest next dst skip es c c' walk) (hn : c' - c ≤ n) (s : σ) :
    es.foldlM (fun s e => do visit (← if skip e then pure s else F n (dst e) s) e) s =
      walk.foldlM visit s := by
  induction h generalizing n s with
  | nil => rfl
  | skip hskip _ _ ih =>
    rw [List.foldlM_cons, List.foldlM_cons, if_pos hskip, pure_bind]
    exact bind_congr fun s => ih hn s
  | node hskip hdst hbelow hrest ihbelow ihrest =>
    have := hbelow.le
    have := hrest.le
    obtain ⟨n, rfl⟩ : ∃ k, n = k + 1 := ⟨n - 1, by omega⟩
    rw [List.foldlM_cons, List.foldlM_append, if_neg (by simp [hskip]), hdst, hF,
      ihbelow (by omega), bind_assoc]
    refine bind_congr fun s => ?_
    exact bind_congr fun s => ihrest (by omega) s

theorem root_of_post {visit : σ → ε → m σ}
    (hF : ∀ n v s, F (n + 1) v s = (next v).foldlM
      (fun s e => do visit (← if skip e then pure s else F n (dst e) s) e) s)
    (h : Forest next dst skip (next 0) 1 c' walk) (hn : c' ≤ n) (s : σ) :
    F n 0 s = walk.foldlM visit s := by
  have := h.le
  obtain ⟨n, rfl⟩ : ∃ k, n = k + 1 := ⟨n - 1, by omega⟩
  rw [hF]
  exact h.foldlM_of_post hF (by omega) s

/-- A walk that takes the edges from the last to the first and visits a node before what is below it
is the loop over the list from its end. -/
theorem foldlM_of_reverse
    (hF : ∀ n v s, F (n + 1) v s = (next v).reverse.foldlM
      (fun s e => if skip e then pure s else do F n (dst e) (← visit s (dst e))) s)
    (h : Forest next dst skip es c c' walk) (hn : c' - c ≤ n) (s : σ) :
    es.reverse.foldlM
      (fun s e => if skip e then pure s else do F n (dst e) (← visit s (dst e))) s =
      (nodes dst skip walk).reverse.foldlM visit s := by
  induction h generalizing n s with
  | nil => rfl
  | skip hskip _ _ ih =>
    rw [List.reverse_cons, List.foldlM_append, ih hn, nodes_cons_skip hskip]
    simp [hskip]
  | node hskip hdst hbelow hrest ihbelow ihrest =>
    have := hbelow.le
    have := hrest.le
    obtain ⟨n, rfl⟩ : ∃ k, n = k + 1 := ⟨n - 1, by omega⟩
    rw [List.reverse_cons, List.foldlM_append, ihrest (by omega), nodes_append,
      nodes_cons_node hskip, List.reverse_append, List.reverse_cons, List.append_assoc,
      List.foldlM_append]
    refine bind_congr fun s => ?_
    rw [List.singleton_append, List.foldlM_cons, List.foldlM_cons, if_neg (by simp [hskip]), hdst,
      bind_assoc]
    refine bind_congr fun s => ?_
    rw [hF, ihbelow (by omega)]
    exact bind_pure _

theorem root_of_reverse
    (hF : ∀ n v s, F (n + 1) v s = (next v).reverse.foldlM
      (fun s e => if skip e then pure s else do F n (dst e) (← visit s (dst e))) s)
    (h : Forest next dst skip (next 0) 1 c' walk) (hn : c' ≤ n) (s : σ) :
    F n 0 s = (nodes dst skip walk).reverse.foldlM visit s := by
  have := h.le
  obtain ⟨n, rfl⟩ : ∃ k, n = k + 1 := ⟨n - 1, by omega⟩
  rw [hF]
  exact h.foldlM_of_reverse hF (by omega) s

/-- A walk that visits a node before what is below it is the loop over the numbers. -/
theorem foldlM_of_pre
    (hF : ∀ n v s, F (n + 1) v s = do
      (next v).foldlM (fun s e => if skip e then pure s else F n (dst e) s) (← visit s v))
    (h : Forest next dst skip es c c' walk) (hn : c' - c ≤ n) (s : σ) :
    es.foldlM (fun s e => if skip e then pure s else F n (dst e) s) s =
      (List.range' c (c' - c)).foldlM visit s := by
  induction h generalizing n s with
  | nil => rw [Nat.sub_self]; rfl
  | skip hskip _ _ ih =>
    rw [List.foldlM_cons, if_pos hskip, pure_bind]
    exact ih hn s
  | node hskip hdst hbelow hrest ihbelow ihrest =>
    rename_i c c₁ c'
    have := hbelow.le
    have := hrest.le
    obtain ⟨n, rfl⟩ : ∃ k, n = k + 1 := ⟨n - 1, by omega⟩
    have hrange : List.range' c (c' - c) =
        c :: (List.range' (c + 1) (c₁ - (c + 1)) ++ List.range' c₁ (c' - c₁)) := by
      have happend := List.range'_append_1 (s := c + 1) (m := c₁ - (c + 1)) (n := c' - c₁)
      rw [Nat.add_sub_cancel' (by omega)] at happend
      rw [happend, ← List.range'_succ]
      congr 1
      omega
    rw [hrange, List.foldlM_cons, List.foldlM_cons, if_neg (by simp [hskip]), hdst, hF, bind_assoc]
    refine bind_congr fun s => ?_
    rw [ihbelow (by omega), List.foldlM_append]
    exact bind_congr fun s => ihrest (by omega) s

theorem root_of_pre
    (hF : ∀ n v s, F (n + 1) v s = do
      (next v).foldlM (fun s e => if skip e then pure s else F n (dst e) s) (← visit s v))
    (h : Forest next dst skip (next 0) 1 c' walk) (hn : c' ≤ n) (s : σ) :
    F n 0 s = (List.range c').foldlM visit s := by
  have := h.le
  obtain ⟨n, rfl⟩ : ∃ k, n = k + 1 := ⟨n - 1, by omega⟩
  obtain ⟨c', rfl⟩ : ∃ k, c' = k + 1 := ⟨c' - 1, by omega⟩
  rw [hF, List.range_eq_range', List.range'_succ, List.foldlM_cons]
  exact bind_congr fun s => h.foldlM_of_pre hF (by omega) s

end

end Forest

end

end Hw
