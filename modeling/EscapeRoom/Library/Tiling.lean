import Mathlib.Algebra.Order.Group.Defs
import Mathlib.Data.List.Basic
import Mathlib.Data.Set.Prod
import Mathlib.Order.Interval.Set.LinearOrder

namespace Tiling
set_option autoImplicit true

/-- A set with its interior. -/
structure Piece (α : Type) where
  carrier : Set α
  inner : Set α

namespace Piece

def interval [Preorder α] (lo hi : α) : Piece α := ⟨Set.Icc lo hi, Set.Ioo lo hi⟩

def prod (p : Piece α) (q : Piece β) : Piece (α × β) :=
  ⟨p.carrier ×ˢ q.carrier, p.inner ×ˢ q.inner⟩

def union (p q : Piece α) : Piece α := ⟨p.carrier ∪ q.carrier, p.inner ∪ q.inner⟩

theorem interval_apart [Preorder α] {lo hi lo' hi' : α} (h : hi ≤ lo' ∨ hi' ≤ lo) :
    ∀ a ∈ (interval lo hi).inner, a ∉ (interval lo' hi').inner := by
  intro a ha ha'
  obtain h | h := h
  · exact lt_irrefl a ((ha.2.trans_le h).trans ha'.1)
  · exact lt_irrefl a ((ha'.2.trans_le h).trans ha.1)

theorem prod_apart {p p' : Piece α} {q q' : Piece β}
    (h : (∀ a ∈ p.inner, a ∉ p'.inner) ∨ ∀ b ∈ q.inner, b ∉ q'.inner) :
    ∀ x ∈ (p.prod q).inner, x ∉ (p'.prod q').inner := by
  intro x hx hx'
  obtain h | h := h
  · exact h x.1 hx.1 hx'.1
  · exact h x.2 hx.2 hx'.2

/-- If `q` is apart from `p`, it does not reach into it at all. -/
def Solid (p q : Piece α) : Prop := (∀ a ∈ p.inner, a ∉ q.inner) → ∀ a ∈ p.inner, a ∉ q.carrier

theorem solid_interval [LinearOrder α] [DenselyOrdered α] {lo hi lo' hi' : α} (h : lo' < hi') :
    Solid (interval lo hi) (interval lo' hi') := by
  intro hapart a ha ha'
  have hlo : max lo lo' < min hi hi' :=
    max_lt (lt_min (ha.1.trans ha.2) (ha.1.trans_le ha'.2)) (lt_min (ha'.1.trans_lt ha.2) h)
  obtain ⟨b, hb, hb'⟩ := exists_between hlo
  obtain ⟨hbl, hbl'⟩ := max_lt_iff.1 hb
  obtain ⟨hbh, hbh'⟩ := lt_min_iff.1 hb'
  exact hapart b ⟨hbl, hbh⟩ ⟨hbl', hbh'⟩

theorem Solid.prod {p p' : Piece α} {q q' : Piece β} (h : Solid p p') (h' : Solid q q') :
    Solid (p.prod q) (p'.prod q') := by
  intro hapart x hx hx'
  by_cases hp : ∀ a ∈ p.inner, a ∉ p'.inner
  · exact h hp x.1 hx.1 hx'.1
  · push Not at hp
    obtain ⟨a, ha, ha'⟩ := hp
    exact h' (fun b hb hb' => hapart (a, b) ⟨ha, hb⟩ ⟨ha', hb'⟩) x.2 hx.2 hx'.2

def unions (ps : List (Piece α)) : Piece α := ps.foldr union ⟨∅, ∅⟩

theorem mem_unions {part : Piece α → Set α} (hnil : part ⟨∅, ∅⟩ = ∅)
    (hunion : ∀ p q, part (union p q) = part p ∪ part q) {ps : List (Piece α)} {a : α} :
    a ∈ part (unions ps) ↔ ∃ p ∈ ps, a ∈ part p := by
  induction ps with
  | nil => simp [unions, hnil]
  | cons p ps ih =>
    simp only [unions, List.foldr_cons, hunion, Set.mem_union, List.mem_cons, exists_eq_or_imp]
    exact or_congr_right ih

theorem mem_inner_unions {ps : List (Piece α)} {a : α} :
    a ∈ (unions ps).inner ↔ ∃ p ∈ ps, a ∈ p.inner := mem_unions rfl fun _ _ => rfl

theorem mem_carrier_unions {ps : List (Piece α)} {a : α} :
    a ∈ (unions ps).carrier ↔ ∃ p ∈ ps, a ∈ p.carrier := mem_unions rfl fun _ _ => rfl

end Piece

/-- The pieces cover the whole, and no point is inside two of them. -/
structure Tiles (pieces : List (Piece α)) (whole : Piece α) : Prop where
  apart : pieces.Pairwise fun p q => ∀ a ∈ p.inner, a ∉ q.inner
  covers : ∀ a, a ∈ whole.carrier ↔ ∃ p ∈ pieces, a ∈ p.carrier
  inside : ∀ p ∈ pieces, ∀ a ∈ p.inner, a ∈ whole.inner

section tiles

variable {pieces pieces' : List (Piece α)} {whole whole' : Piece α}

theorem Tiles.perm (h : Tiles pieces whole) (hperm : pieces.Perm pieces') :
    Tiles pieces' whole where
  apart := h.apart.perm hperm fun hpq a ha ha' => hpq a ha' ha
  covers a := (h.covers a).trans (exists_congr fun _ => and_congr_left' hperm.mem_iff)
  inside p hp := h.inside p (hperm.mem_iff.2 hp)

theorem Tiles.nil : Tiles ([] : List (Piece α)) (.unions []) where
  apart := .nil
  covers a := by simp [Piece.unions]
  inside p hp := by cases hp

theorem Tiles.singleton (p : Piece α) : Tiles [p] p where
  apart := List.pairwise_singleton _ _
  covers a := by simp only [List.mem_singleton, exists_eq_left]
  inside q hq a ha := List.mem_singleton.1 hq ▸ ha

theorem Tiles.append (h : Tiles pieces whole) (h' : Tiles pieces' whole')
    (hapart : ∀ a ∈ whole.inner, a ∉ whole'.inner) :
    Tiles (pieces ++ pieces') (whole.union whole') where
  apart := by
    apply List.pairwise_append.2
    refine ⟨h.apart, h'.apart, fun p hp q hq a ha ha' => ?_⟩
    exact hapart a (h.inside p hp a ha) (h'.inside q hq a ha')
  covers a := by
    rw [Piece.union, Set.mem_union, h.covers, h'.covers]
    simp only [List.mem_append, or_and_right, exists_or]
  inside p hp a ha := by
    obtain hp | hp := List.mem_append.1 hp
    · exact .inl (h.inside p hp a ha)
    · exact .inr (h'.inside p hp a ha)

theorem Tiles.of_eq (h : Tiles pieces whole) (hcarrier : whole.carrier = whole'.carrier)
    (hinner : ∀ a ∈ whole.inner, a ∈ whole'.inner) : Tiles pieces whole' where
  apart := h.apart
  covers a := hcarrier ▸ h.covers a
  inside p hp a ha := hinner a (h.inside p hp a ha)

theorem Tiles.prod_right (h : Tiles pieces whole) (q : Piece β) :
    Tiles (pieces.map (·.prod q)) (whole.prod q) where
  apart := List.pairwise_map.2 (h.apart.imp fun hpp a ha ha' => hpp a.1 ha.1 ha'.1)
  covers a := by
    rw [Piece.prod, Set.mem_prod, h.covers]
    simp only [List.mem_map, exists_exists_and_eq_and, Piece.prod, Set.mem_prod, ← and_assoc,
      exists_and_right]
  inside p hp a ha := by
    obtain ⟨p', hp', rfl⟩ := List.mem_map.1 hp
    exact ⟨h.inside p' hp' a.1 ha.1, ha.2⟩

theorem Tiles.prod_left (h : Tiles pieces whole) (q : Piece β) :
    Tiles (pieces.map q.prod) (q.prod whole) where
  apart := List.pairwise_map.2 (h.apart.imp fun hpp a ha ha' => hpp a.2 ha.2 ha'.2)
  covers a := by
    rw [Piece.prod, Set.mem_prod, h.covers]
    simp only [List.mem_map, exists_exists_and_eq_and, Piece.prod, Set.mem_prod, and_left_comm,
      exists_and_left]
  inside p hp a ha := by
    obtain ⟨p', hp', rfl⟩ := List.mem_map.1 hp
    exact ⟨ha.1, h.inside p' hp' a.2 ha.2⟩

end tiles

/-- The intervals are proper, in order and apart, the first one away from `a`. -/
inductive Spaced [LinearOrder α] : α → List (α × α) → α → Prop where
  | last (h : a ≤ b) : Spaced a [] b
  | next {i : α × α} (h : a < i.1) (hi : i.1 < i.2) (his : Spaced i.2 is b) :
      Spaced a (i :: is) b

/-- What is left of `[a, b]` between the intervals. -/
def gaps (a : α) (is : List (α × α)) (b : α) : List (α × α) :=
  match is with
  | [] => [(a, b)]
  | i :: is => (a, i.1) :: gaps i.2 is b

section spaced

variable [LinearOrder α] {a b : α} {is : List (α × α)}

theorem Spaced.le (h : Spaced a is b) : a ≤ b := by
  induction h with
  | last h => exact h
  | next h hi _ ih => exact (h.trans (hi.trans_le ih)).le

theorem Spaced.bounds (h : Spaced a is b) : ∀ i ∈ is, a < i.1 ∧ i.1 < i.2 := by
  induction h with
  | last => simp
  | next h hi _ ih =>
    rw [List.forall_mem_cons]
    refine ⟨⟨h, hi⟩, fun j hj => ⟨?_, (ih j hj).2⟩⟩
    exact (h.trans hi).trans (ih j hj).1

theorem Spaced.pairwise (h : Spaced a is b) : is.Pairwise fun i j => i.1 < j.1 ∧ i.2 < j.2 := by
  induction h with
  | last => exact .nil
  | next _ hi his ih =>
    apply List.Pairwise.cons _ ih
    intro j hj
    obtain ⟨hij, hj⟩ := his.bounds j hj
    exact ⟨hi.trans hij, hij.trans hj⟩

theorem eq_of_perm {js : List (α × α)} (hperm : is.Perm js)
    (h : is.Pairwise fun i j => i.1 < j.1 ∧ i.2 < j.2)
    (h' : js.Pairwise fun i j => i.1 < j.1 ∧ i.2 < j.2) : is = js := by
  apply hperm.eq_of_pairwise _ h h'
  intro i j _ _ hij hji
  exact (hij.1.not_gt hji.1).elim

theorem Spaced.le_gaps (h : Spaced a is b) : ∀ g ∈ gaps a is b, a ≤ g.1 := by
  induction h with
  | last => simp [gaps]
  | next h hi _ ih =>
    rw [gaps, List.forall_mem_cons]
    exact ⟨le_rfl, fun g hg => (h.trans hi).le.trans (ih g hg)⟩

/-- Between two gaps lies an interval. -/
theorem Spaced.gaps_pairwise (h : Spaced a is b) :
    (gaps a is b).Pairwise fun g g' => g.2 < g'.1 := by
  induction h with
  | last => exact List.pairwise_singleton _ _
  | next _ hi his ih =>
    rw [gaps]
    apply List.Pairwise.cons _ ih
    intro g hg
    exact hi.trans_le (his.le_gaps g hg)

/-- Intervals sorted by their lower ends are spaced if they lie in `(a, b]` and apart. -/
theorem spaced_iff (hab : a ≤ b) (hsorted : is.Pairwise fun i j => i.1 ≤ j.1)
    (hproper : ∀ i ∈ is, i.1 < i.2) : Spaced a is b ↔
      (∀ i ∈ is, a < i.1 ∧ i.2 ≤ b) ∧ is.Pairwise fun i j => i.2 < j.1 ∨ j.2 < i.1 := by
  induction is generalizing a with
  | nil => exact ⟨fun _ => ⟨by simp, .nil⟩, fun _ => .last hab⟩
  | cons i is ih =>
    obtain ⟨hfirst, hsorted⟩ := List.pairwise_cons.1 hsorted
    obtain ⟨hi, hproper⟩ := List.forall_mem_cons.1 hproper
    rw [List.forall_mem_cons, List.pairwise_cons]
    constructor
    · intro h
      cases h with
      | next h _ his =>
        obtain ⟨hin, hapart⟩ := (ih his.le hsorted hproper).1 his
        refine ⟨⟨⟨h, his.le⟩, fun j hj => ?_⟩, fun j hj => .inl (hin j hj).1, hapart⟩
        exact ⟨h.trans (hi.trans (hin j hj).1), (hin j hj).2⟩
    · rintro ⟨⟨⟨h, hib⟩, hin⟩, hnext, hapart⟩
      apply Spaced.next h hi
      apply (ih hib hsorted hproper).2
      refine ⟨fun j hj => ⟨?_, (hin j hj).2⟩, hapart⟩
      obtain hlt | hlt := hnext j hj
      · exact hlt
      · -- it would end before it begins
        exact absurd (hlt.trans_le (hfirst j hj)) (hproper j hj).not_gt

theorem Tiles.append_interval {pieces pieces' : List (Piece α)} {m : α}
    (h : Tiles pieces (.interval a m)) (h' : Tiles pieces' (.interval m b)) (ham : a ≤ m)
    (hmb : m ≤ b) : Tiles (pieces ++ pieces') (.interval a b) := by
  have happend : Tiles (pieces ++ pieces') (Piece.union (.interval a m) (.interval m b)) :=
    h.append h' (Piece.interval_apart (.inl le_rfl))
  apply happend.of_eq
  · exact Set.Icc_union_Icc_eq_Icc ham hmb
  · rintro x (hx | hx)
    · exact ⟨hx.1, hx.2.trans_le hmb⟩
    · exact ⟨ham.trans_lt hx.1, hx.2⟩

/-- Spaced intervals and the gaps between them tile what they lie in. -/
theorem Spaced.tiles (h : Spaced a is b) (hab : a < b) :
    Tiles (((gaps a is b).filter (fun i => decide (i.1 < i.2)) ++ is).map
      fun i => Piece.interval i.1 i.2) (Piece.interval a b) := by
  induction h with
  | last h =>
    simp only [gaps, List.filter_cons, hab, decide_true, if_true, List.filter_nil,
      List.append_nil, List.map_cons, List.map_nil]
    exact .singleton _
  | @next a is b i h hi his ih =>
    have hfirst : Tiles [Piece.interval a i.1, Piece.interval i.1 i.2] (Piece.interval a i.2) :=
      (Tiles.singleton (Piece.interval a i.1)).append_interval (.singleton _) h.le hi.le
    have hgap : (gaps a (i :: is) b).filter (fun i => decide (i.1 < i.2)) =
        (a, i.1) :: (gaps i.2 is b).filter (fun i => decide (i.1 < i.2)) := by
      simp only [gaps, List.filter_cons, h, decide_true, if_true]
    rw [hgap]
    obtain hlt | heq := his.le.lt_or_eq
    · have hall := hfirst.append_interval (ih hlt) (h.trans hi).le hlt.le
      apply hall.perm
      simp only [List.map_append, List.map_cons, List.cons_append, List.nil_append]
      exact (List.perm_middle.symm).cons _
    · -- the last interval reaches the end
      subst heq
      cases his with
      | last _ =>
        simpa [gaps] using hfirst
      | next h' hi' his' => exact absurd (h'.trans (hi'.trans_le his'.le)) (lt_irrefl _)

end spaced

/-- The intervals seen from the other end. -/
def mirror [Neg α] (is : List (α × α)) : List (α × α) := (is.map fun i => (-i.2, -i.1)).reverse

theorem gaps_append (a : α) (is js : List (α × α)) (i : α × α) (b : α) :
    gaps a (is ++ i :: js) b = gaps a is i.1 ++ gaps i.2 js b := by
  induction is generalizing a with
  | nil => rfl
  | cons j is ih => simp only [List.cons_append, gaps, ih]

theorem gaps_mirror [InvolutiveNeg α] (a : α) (is : List (α × α)) (b : α) :
    gaps (-b) (mirror is) (-a) = mirror (gaps a is b) := by
  induction is generalizing a with
  | nil => rfl
  | cons i is ih =>
    have hmirror : mirror (i :: is) = mirror is ++ [(-i.2, -i.1)] := by
      rw [mirror, List.map_cons, List.reverse_cons, mirror]
    rw [hmirror, gaps_append, ih]
    simp only [gaps, mirror, List.map_cons, List.reverse_cons]

end Tiling
