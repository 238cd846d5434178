import Mathlib.Algebra.BigOperators.Finprod
import Mathlib.Combinatorics.SimpleGraph.Connectivity.Connected
import Mathlib.Data.Set.Card
import Mathlib.Logic.Relation

namespace FloodFill
set_option autoImplicit true

open Relation

/-- The connected components of the subgraph on `S`, as sets of nodes. -/
def components (G : SimpleGraph α) (S : Set α) : Set (Set α) :=
  Set.range fun K : (G.induce S).ConnectedComponent => Subtype.val '' K.supp

/-- `a` and `b` lie in one component of the subgraph on `S`. -/
def Linked (G : SimpleGraph α) (S : Set α) (a b : α) : Prop :=
  ∃ (ha : a ∈ S) (hb : b ∈ S), (G.induce S).Reachable ⟨a, ha⟩ ⟨b, hb⟩

/-- A list of the nodes of a set, each once. -/
structure IsListing (xs : List α) (C : Set α) : Prop where
  nodup : xs.Nodup
  mem : ∀ a, a ∈ xs ↔ a ∈ C

section listings

variable {xs : List α} {C : Set α}

theorem IsListing.eq_toFinset [DecidableEq α] (h : IsListing xs C) : C = (xs.toFinset : Set α) := by
  ext a
  rw [Finset.mem_coe, List.mem_toFinset, h.mem]

theorem IsListing.ncard_eq (h : IsListing xs C) : C.ncard = xs.length := by
  classical
  rw [h.eq_toFinset, Set.ncard_coe_finset, List.toFinset_card_of_nodup h.nodup]

theorem IsListing.finsum_eq [AddCommMonoid M] (h : IsListing xs C) (f : α → M) :
    ∑ᶠ a ∈ C, f a = (xs.map f).sum := by
  classical
  rw [h.eq_toFinset, finsum_mem_coe_finset, List.sum_toFinset f h.nodup]

theorem isListing_flatten {found : List (List α)} {Cs : List (Set α)}
    (h : List.Forall₂ IsListing found Cs) (hdisjoint : Cs.Pairwise fun C D => ∀ a ∈ C, a ∉ D) :
    IsListing found.flatten {a | ∃ C ∈ Cs, a ∈ C} := by
  induction h with
  | nil => exact ⟨List.nodup_nil, by simp⟩
  | @cons xs C found Cs hxs _ ih =>
    obtain ⟨hC, hCs⟩ := List.pairwise_cons.1 hdisjoint
    obtain ⟨hnodup, hmem⟩ := ih hCs
    refine ⟨?_, fun a => ?_⟩
    · rw [List.flatten_cons, List.nodup_append']
      refine ⟨hxs.nodup, hnodup, fun a ha ha' => ?_⟩
      obtain ⟨D, hD, haD⟩ := (hmem a).1 ha'
      exact hC D hD a ((hxs.mem a).1 ha) haD
    · rw [List.flatten_cons, List.mem_append, hxs.mem, hmem]
      simp only [Set.mem_ofPred_eq, List.mem_cons, exists_eq_or_imp]

theorem map_filter_listings {found : List (List α)} {Cs : List (Set α)} {f : List α → β}
    {g : Set α → β} (n : Nat) (h : List.Forall₂ IsListing found Cs)
    (hfg : ∀ xs C, IsListing xs C → f xs = g C) :
    (found.filter fun xs => decide (n ≤ xs.length)).map f =
      (Cs.filter fun C => decide (n ≤ C.ncard)).map g := by
  induction h with
  | nil => rfl
  | @cons xs C found Cs hxs _ ih =>
    rw [List.filter_cons, List.filter_cons, hxs.ncard_eq]
    split
    · rw [List.map_cons, List.map_cons, ih, hfg xs C hxs]
    · exact ih

end listings

section components

variable {G : SimpleGraph α} {S : Set α}

theorem Linked.refl (h : a ∈ S) : Linked G S a a := ⟨h, h, .refl _⟩

theorem Linked.symm (h : Linked G S a b) : Linked G S b a := by
  obtain ⟨ha, hb, hr⟩ := h
  exact ⟨hb, ha, hr.symm⟩

theorem Linked.trans (h : Linked G S a b) (h' : Linked G S b c) : Linked G S a c := by
  obtain ⟨ha, _, hr⟩ := h
  obtain ⟨_, hc, hr'⟩ := h'
  exact ⟨ha, hc, hr.trans hr'⟩

theorem Linked.of_adj (ha : a ∈ S) (hb : b ∈ S) (h : G.Adj a b) : Linked G S a b :=
  ⟨ha, hb, SimpleGraph.Adj.reachable (G := G.induce S) h⟩

theorem Linked.induction {P : α → Prop} (h : Linked G S a b) (ha : P a)
    (hs : ∀ c d, P c → c ∈ S → d ∈ S → G.Adj c d → P d) : P b := by
  obtain ⟨haS, hbS, hr⟩ := h
  rw [SimpleGraph.reachable_iff_reflTransGen] at hr
  generalize hx : (⟨b, hbS⟩ : S) = x at hr
  suffices hP : P x by
    rw [← hx] at hP
    exact hP
  clear hx
  induction hr with
  | refl => exact ha
  | @tail y z _ hyz ih => exact hs y z ih y.2 z.2 hyz

/-- A set is connected if every node but one has a neighbour of smaller measure in it. -/
theorem linked_of_descent {seed : α} (μ : α → Nat) (hseed : seed ∈ S)
    (h : ∀ a ∈ S, a = seed ∨ ∃ b ∈ S, G.Adj b a ∧ μ b < μ a) {a : α} (ha : a ∈ S) :
    Linked G S seed a := by
  induction hn : μ a using Nat.strong_induction_on generalizing a with
  | _ n ih =>
    obtain rfl | ⟨b, hb, hadj, hlt⟩ := h a ha
    · exact .refl ha
    · exact (ih (μ b) (hn ▸ hlt) hb rfl).trans (.of_adj hb ha hadj)

theorem mem_components_iff {C : Set α} :
    C ∈ components G S ↔ ∃ a ∈ S, C = {b | Linked G S a b} := by
  have hset : ∀ a (ha : a ∈ S),
      Subtype.val '' ((G.induce S).connectedComponentMk ⟨a, ha⟩).supp =
        {b | Linked G S a b} := by
    intro a ha
    ext b
    simp only [Set.mem_image, SimpleGraph.ConnectedComponent.mem_supp_iff, Subtype.exists,
      SimpleGraph.ConnectedComponent.eq, Set.mem_ofPred_eq]
    constructor
    · rintro ⟨c, hc, hr, rfl⟩
      exact ⟨ha, hc, hr.symm⟩
    · rintro ⟨_, hb, hr⟩
      exact ⟨b, hb, hr.symm, rfl⟩
  constructor
  · rintro ⟨K, rfl⟩
    induction K using SimpleGraph.ConnectedComponent.ind with
    | _ a => exact ⟨a, a.2, hset a a.2⟩
  · rintro ⟨a, ha, rfl⟩
    exact ⟨_, hset a ha⟩

theorem subset_of_mem_components {C : Set α} (h : C ∈ components G S) : C ⊆ S := by
  obtain ⟨a, _, rfl⟩ := mem_components_iff.1 h
  rintro b ⟨_, hb, _⟩
  exact hb

theorem nonempty_of_mem_components {C : Set α} (h : C ∈ components G S) : C.Nonempty := by
  obtain ⟨a, ha, rfl⟩ := mem_components_iff.1 h
  exact ⟨a, .refl ha⟩

theorem components_eq_of_mem {C D : Set α} (hC : C ∈ components G S) (hD : D ∈ components G S)
    (ha : a ∈ C) (ha' : a ∈ D) : C = D := by
  obtain ⟨c, _, rfl⟩ := mem_components_iff.1 hC
  obtain ⟨d, _, rfl⟩ := mem_components_iff.1 hD
  have hcd : Linked G S c d := Linked.trans ha (Linked.symm ha')
  ext b
  exact ⟨hcd.symm.trans, hcd.trans⟩

/-- A component of a set is one of every smaller set that still holds it. -/
theorem mem_components_of_subset {T C : Set α} (hT : T ⊆ S) (h : C ∈ components G S)
    (hC : C ⊆ T) : C ∈ components G T := by
  obtain ⟨a, ha, rfl⟩ := mem_components_iff.1 h
  refine mem_components_iff.2 ⟨a, hC (.refl ha), ?_⟩
  ext b
  constructor
  · intro hb
    have hboth : Linked G S a b ∧ Linked G T a b := by
      refine Linked.induction (P := fun b => Linked G S a b ∧ Linked G T a b) hb
        ⟨.refl ha, .refl (hC (.refl ha))⟩ ?_
      rintro c d ⟨hc, hc'⟩ hcS hdS hadj
      have hd : Linked G S a d := hc.trans (.of_adj hcS hdS hadj)
      exact ⟨hd, hc'.trans (.of_adj (hC hc) (hC hd) hadj)⟩
    exact hboth.2
  · intro hb
    exact Linked.induction (P := Linked G S a) hb (.refl ha) fun c d hc hcT hdT hadj =>
      hc.trans (.of_adj (hT hcT) (hT hdT) hadj)

end components

/-- A depth-first search: the nodes ever pushed, those still on the stack, those popped. -/
structure Search (α : Type) where
  visited : List α
  stack : List α
  out : List α

/-- One turn pops a node and pushes its neighbours in `S` that were never pushed. -/
inductive Turn (G : SimpleGraph α) (S : Set α) : Search α → Search α → Prop where
  | pop (fresh : List α) (hnodup : fresh.Nodup)
      (hfresh : ∀ b, b ∈ fresh ↔ G.Adj a b ∧ b ∈ S ∧ b ∉ visited) :
      Turn G S ⟨visited, a :: stack, out⟩ ⟨fresh ++ visited, fresh ++ stack, out ++ [a]⟩

/-- No edge of the subgraph on `S` leaves the listed nodes. -/
def Closed (G : SimpleGraph α) (S : Set α) (visited : List α) : Prop :=
  ∀ a ∈ visited, ∀ b ∈ S, G.Adj a b → b ∈ visited

/-- What a search from `seed` keeps: `before` had been visited when it started. -/
structure Invariant (G : SimpleGraph α) (S : Set α) (seed : α) (before : List α)
    (s : Search α) : Prop where
  split : s.visited.Perm (s.out ++ s.stack ++ before)
  nodup : s.visited.Nodup
  seed_mem : seed ∈ s.out ++ s.stack
  linked : ∀ a ∈ s.out ++ s.stack, Linked G S seed a
  popped : ∀ a ∈ s.out, ∀ b ∈ S, G.Adj a b → b ∈ s.visited

section search

variable {G : SimpleGraph α} {S : Set α} {seed : α} {before : List α} {s s' : Search α}

theorem Invariant.start (hseed : seed ∈ S) (hnew : seed ∉ before) (hnodup : before.Nodup) :
    Invariant G S seed before ⟨seed :: before, [seed], []⟩ where
  split := .refl _
  nodup := List.nodup_cons.2 ⟨hnew, hnodup⟩
  seed_mem := List.mem_singleton_self _
  linked := by
    intro a ha
    rw [List.nil_append, List.mem_singleton] at ha
    rw [ha]
    exact .refl hseed
  popped := by
    intro a ha
    cases ha

theorem Turn.invariant (h : Turn G S s s') (hI : Invariant G S seed before s) :
    Invariant G S seed before s' := by
  cases h with
  | @pop a visited stack out fresh hnodup hfresh =>
    obtain ⟨hsplit, hvisited, hseed, hlinked, hpopped⟩ := hI
    have ha : Linked G S seed a := hlinked a (by simp)
    refine ⟨?_, ?_, ?_, ?_, ?_⟩
    · have hmiddle : (out ++ a :: (stack ++ before)).Perm (a :: (out ++ (stack ++ before))) :=
        List.perm_middle
      have hpop : (a :: (fresh ++ (out ++ (stack ++ before)))).Perm
          (fresh ++ (a :: (out ++ (stack ++ before)))) := List.perm_append_comm_assoc [a] fresh _
      have hmove : (out ++ [a] ++ (fresh ++ stack) ++ before).Perm
          (fresh ++ (out ++ a :: stack ++ before)) := by
        simp only [List.append_assoc, List.cons_append]
        have hpush := List.perm_append_comm_assoc out (a :: fresh) (stack ++ before)
        exact (hpush.trans hpop).trans (hmiddle.symm.append_left fresh)
      exact (hsplit.append_left fresh).trans hmove.symm
    · refine List.nodup_append'.2 ⟨hnodup, hvisited, ?_⟩
      intro b hb hv
      exact ((hfresh b).1 hb).2.2 hv
    · simp only [List.mem_append, List.mem_cons] at hseed ⊢
      tauto
    · intro b hb
      have hold : b ∈ out ++ a :: stack ∨ b ∈ fresh := by
        simp only [List.mem_append, List.mem_cons, List.not_mem_nil, or_false] at hb ⊢
        tauto
      obtain hb | hb := hold
      · exact hlinked b hb
      · obtain ⟨hadj, hbS, _⟩ := (hfresh b).1 hb
        obtain ⟨_, haS, _⟩ := ha
        exact (hlinked a (by simp)).trans (.of_adj haS hbS hadj)
    · intro b hb c hc hadj
      obtain hb | hb := List.mem_append.1 hb
      · exact List.mem_append_right _ (hpopped b hb c hc hadj)
      · obtain rfl := List.mem_singleton.1 hb
        by_cases hv : c ∈ visited
        · exact List.mem_append_right _ hv
        · exact List.mem_append_left _ ((hfresh c).2 ⟨hadj, hc, hv⟩)

theorem Turn.invariant_run (h : ReflTransGen (Turn G S) s s')
    (hI : Invariant G S seed before s) : Invariant G S seed before s' := by
  induction h with
  | refl => exact hI
  | tail _ hstep ih => exact hstep.invariant ih

/-- A search whose stack is empty has popped the component of its seed, each node once. -/
theorem Invariant.listing {visited out : List α} (hI : Invariant G S seed before ⟨visited, [], out⟩)
    (hbefore : Closed G S before) :
    IsListing out {b | Linked G S seed b} ∧ Closed G S visited := by
  obtain ⟨hsplit, hnodup, hseed, hlinked, hpopped⟩ := hI
  simp only [List.append_nil] at hsplit hseed hlinked
  have hparts := hsplit.nodup_iff.1 hnodup
  have hmem : ∀ b, b ∈ visited ↔ b ∈ out ∨ b ∈ before := fun b => by
    rw [hsplit.mem_iff, List.mem_append]
  refine ⟨⟨(List.nodup_append'.1 hparts).1, fun b => ⟨hlinked b, fun hb => ?_⟩⟩, ?_⟩
  · -- an edge out of the popped nodes ends in one of them: those visited before are closed
    refine hb.induction hseed fun c d hc hcS hdS hadj => ?_
    refine ((hmem d).1 (hpopped c hc d hdS hadj)).resolve_right fun hd => ?_
    exact List.disjoint_of_nodup_append hparts hc (hbefore d hd c hcS hadj.symm)
  · intro a ha b hb hadj
    obtain ha | ha := (hmem a).1 ha
    · exact hpopped a ha b hb hadj
    · exact (hmem b).2 (.inr (hbefore a ha b hb hadj))

end search

/-- The loop over the seeds: a visited one is skipped, from another one a search runs until its
stack is empty. -/
inductive Labelling (G : SimpleGraph α) (S : Set α) :
    List α → List α → List (List α) → Prop where
  | done : Labelling G S [] visited []
  | skip (hseen : seed ∈ visited) (h : Labelling G S seeds visited found) :
      Labelling G S (seed :: seeds) visited found
  | search {seed : α} {seeds visited visited' out : List α} {found : List (List α)}
      (hnew : seed ∉ visited) (hseed : seed ∈ S)
      (hrun : ReflTransGen (Turn G S) ⟨seed :: visited, [seed], []⟩ ⟨visited', [], out⟩)
      (h : Labelling G S seeds visited' found) :
      Labelling G S (seed :: seeds) visited (out :: found)

section labelling

variable {G : SimpleGraph α} {S : Set α} {seeds visited : List α} {found : List (List α)}

/-- The lists found are the components of the seeds not visited at the start, each once. -/
theorem Labelling.components_of_new (h : Labelling G S seeds visited found)
    (hclosed : Closed G S visited) (hnodup : visited.Nodup) :
    ∃ Cs : List (Set α), List.Forall₂ IsListing found Cs ∧ Cs.Nodup ∧
      (∀ C, C ∈ Cs ↔ ∃ a ∈ seeds, a ∉ visited ∧ C = {b | Linked G S a b}) ∧
      ∀ C ∈ Cs, ∀ b ∈ C, b ∉ visited := by
  induction h with
  | done => exact ⟨[], .nil, .nil, by simp, by simp⟩
  | @skip seed visited seeds found hseen _ ih =>
    obtain ⟨Cs, hfound, hCs, hmem, hfree⟩ := ih hclosed hnodup
    refine ⟨Cs, hfound, hCs, fun C => (hmem C).trans ?_, hfree⟩
    simp only [List.mem_cons, exists_eq_or_imp, hseen, not_true, false_and, false_or]
  | @search seed seeds visited visited' out found hnew hseed hrun _ ih =>
    have hI := Turn.invariant_run hrun (.start hseed hnew hnodup)
    obtain ⟨hout, hclosed'⟩ := hI.listing hclosed
    obtain ⟨Cs, hfound, hCs, hmem, hfree⟩ := ih hclosed' hI.nodup
    have hvisited : ∀ b, b ∈ visited' ↔ Linked G S seed b ∨ b ∈ visited := fun b => by
      rw [hI.split.mem_iff, List.append_nil, List.mem_append, hout.mem]
      rfl
    have hself : Linked G S seed seed := .refl hseed
    refine ⟨_ :: Cs, .cons hout hfound, List.nodup_cons.2 ⟨?_, hCs⟩, fun C => ?_, ?_⟩
    · intro hC
      exact hfree _ hC seed hself ((hvisited seed).2 (.inl hself))
    · rw [List.mem_cons, hmem]
      simp only [List.mem_cons, exists_eq_or_imp, hnew, not_false_eq_true, true_and]
      refine or_congr_right' fun hne => exists_congr fun a => and_congr_right fun _ => ?_
      refine and_congr_left fun hC => ?_
      rw [hvisited, not_or]
      refine and_iff_right fun hlink => hne ?_
      -- a seed linked to this one would have this one's component
      rw [hC]
      ext b
      exact ⟨hlink.trans, hlink.symm.trans⟩
    · intro C hC b hb hb'
      obtain rfl | hC := List.mem_cons.1 hC
      · -- what is linked to a new seed is new: the nodes visited before are closed
        have hback : seed ∈ visited :=
          (Linked.symm hb).induction hb' fun c d hc _ hd hadj => hclosed c hc d hd hadj
        exact hnew hback
      · exact hfree C hC b hb ((hvisited b).2 (.inr hb'))

/-- Over all nodes, from nothing visited, the lists found are the components. -/
theorem Labelling.components (h : Labelling G S seeds [] found) (hseeds : ∀ a, a ∈ seeds ↔ a ∈ S) :
    ∃ Cs : List (Set α), List.Forall₂ IsListing found Cs ∧ Cs.Nodup ∧
      ∀ C, C ∈ Cs ↔ C ∈ components G S := by
  obtain ⟨Cs, hfound, hCs, hmem, _⟩ :=
    h.components_of_new (by intro a ha; cases ha) List.nodup_nil
  refine ⟨Cs, hfound, hCs, fun C => ?_⟩
  rw [hmem, mem_components_iff]
  simp only [List.not_mem_nil, not_false_eq_true, true_and, hseeds]

theorem Labelling.isListing (h : Labelling G S seeds [] found)
    (hseeds : ∀ a, a ∈ seeds ↔ a ∈ S) : IsListing found.flatten S := by
  obtain ⟨Cs, hfound, hCs, hmem⟩ := h.components hseeds
  have hdisjoint : Cs.Pairwise fun C D => ∀ a ∈ C, a ∉ D := by
    apply hCs.pairwise_of_forall_ne
    intro C hC D hD hne a ha ha'
    exact hne (components_eq_of_mem ((hmem C).1 hC) ((hmem D).1 hD) ha ha')
  have hunion : {a | ∃ C ∈ Cs, a ∈ C} = S := by
    ext a
    constructor
    · rintro ⟨C, hC, ha⟩
      exact subset_of_mem_components ((hmem C).1 hC) ha
    · intro ha
      exact ⟨_, (hmem _).2 (mem_components_iff.2 ⟨a, ha, rfl⟩), .refl ha⟩
  exact hunion ▸ isListing_flatten hfound hdisjoint

end labelling

end FloodFill
