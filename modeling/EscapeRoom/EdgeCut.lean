import EscapeRoom.Detector
import EscapeRoom.FrontierComponents
import EscapeRoom.RealMath

namespace EscapeRoom
set_option autoImplicit true
set_option linter.unusedSectionVars false

open FloodFill

/-- What `connectedComponentsWithStats` finds in a mask: the pixels of an 8-connected component,
row first. -/
structure Blob (width height : Nat) where
  pixels : Finset Cell
  nonempty : pixels.Nonempty
  onImage : ∀ px ∈ pixels, 0 ≤ px.1 ∧ px.1 < height ∧ 0 ≤ px.2 ∧ px.2 < width
  connected : ∀ a ∈ pixels, ∀ b ∈ pixels, Linked eightConnected pixels a b

namespace Blob

variable {w h : Nat} (b : Blob w h)

def top : Int := b.pixels.inf' b.nonempty Prod.fst

def bottom : Int := b.pixels.sup' b.nonempty Prod.fst

def left : Int := b.pixels.inf' b.nonempty Prod.snd

def right : Int := b.pixels.sup' b.nonempty Prod.snd

/-- The statistics of the blob: its centroid and the sides of its bounding box. -/
def detection [Field R] : Detection R where
  cx := ((∑ px ∈ b.pixels, px.2 : Int) : R) / b.pixels.card
  cy := ((∑ px ∈ b.pixels, px.1 : Int) : R) / b.pixels.card
  wPx := (b.right - b.left + 1).toNat
  hPx := (b.bottom - b.top + 1).toNat

/-- `_detect`: the largest of the blobs of a colour, the first one of several, if large enough. -/
def detect [Field R] (minPixels : Nat) (blobs : List (Blob w h)) : Option (Detection R) :=
  match blobs.argmax fun b => b.pixels.card with
  | none => none
  | some b => if b.pixels.card < minPixels then none else some b.detection

/-- The blob has a pixel in the first or in the last row of the image. -/
def CutOff : Prop := ∃ px ∈ b.pixels, px.1 = 0 ∨ px.1 + 1 = h

/-- How far the mean row lies below the middle of the bounding box. -/
def skew (R : Type) [Field R] (b : Blob w h) : R :=
  (b.detection : Detection R).cy - ((b.top : R) + b.bottom) / 2.0

theorem top_le_bottom : b.top ≤ b.bottom := by
  obtain ⟨px, hpx⟩ := b.nonempty
  exact (Finset.inf'_le _ hpx).trans (Finset.le_sup' _ hpx)

theorem cast_hPx [Field R] : (((b.detection : Detection R).hPx : Nat) : R) =
    (b.bottom : R) - b.top + 1 := by
  have hle := b.top_le_bottom
  have hcast : (((b.bottom - b.top + 1).toNat : Nat) : Int) = b.bottom - b.top + 1 :=
    Int.toNat_of_nonneg (by omega)
  have hcast' := congrArg (Int.cast : Int → R) hcast
  push_cast at hcast'
  exact hcast'

variable [Field R] [LinearOrder R] [IsStrictOrderedRing R]

/-- The test of `_clipped` in terms of the bounding box and of where the mass lies in it. -/
theorem clipped_iff :
    clipped (b.detection : Detection R).cy (b.detection : Detection R).hPx h = true ↔
      b.skew R ≤ 2.5 - b.top ∨ h - 2.5 - b.bottom ≤ b.skew R := by
  rw [clipped, Bool.or_eq_true, decide_eq_true_eq, decide_eq_true_eq, cast_hPx, skew]
  generalize (b.detection : Detection R).cy = cy
  constructor
  · rintro (hcy | hcy)
    · left
      norm_num at hcy ⊢
      linarith
    · right
      norm_num at hcy ⊢
      linarith
  · rintro (hcy | hcy)
    · left
      norm_num at hcy ⊢
      linarith
    · right
      norm_num at hcy ⊢
      linarith

end Blob

section publish

variable [Field R] [LinearOrder R] [PyMath R] {fov : R} {d : Detection R} {fr : Frame R}

theorem publishCube_of_clipped (h : clipped d.cy d.hPx fr.height = true) {name : TargetName}
    {point : Point R} : .pose name point ∉ publishCube fov d fr := by
  rw [publishCube]
  intro hmem
  cases hbase : fr.toBase with
  | none =>
    rw [hbase] at hmem
    cases hmem
  | some bl =>
    simp [hbase, h] at hmem

theorem publishLandmark_of_clipped (h : clipped d.cy d.hPx fr.height = true) {t : Target R}
    (ht : t.localize = .mono) : publishLandmark fov t d fr = [] := by
  simp only [publishLandmark, ht, h, if_true]

end publish

namespace Blob

variable {w h : Nat} (b : Blob w h)

/-- The blob counts as clipped, and no pose in the map is computed from its height. -/
structure Recognised : Prop where
  clipped : clipped (b.detection : Detection ℝ).cy (b.detection : Detection ℝ).hPx h = true
  cube : ∀ (fov : ℝ) (fr : Frame ℝ), fr.width = w → fr.height = h →
    ∀ name point, .pose name point ∉ publishCube fov b.detection fr
  door : ∀ (fov : ℝ) (fr : Frame ℝ), fr.width = w → fr.height = h →
    ∀ name point, .pose name point ∉ publishLandmark fov doorTarget b.detection fr

theorem recognised_iff : b.Recognised ↔
    EscapeRoom.clipped (b.detection : Detection ℝ).cy (b.detection : Detection ℝ).hPx h = true := by
  constructor
  · exact Recognised.clipped
  · intro hclipped
    refine ⟨hclipped, ?_, ?_⟩
    · intro fov fr _ hheight name point
      apply publishCube_of_clipped
      rw [hheight]
      exact hclipped
    · intro fov fr _ hheight name point
      rw [publishLandmark_of_clipped (hheight ▸ hclipped) rfl]
      exact List.not_mem_nil

/-- A blob at the edge is recognised unless its mass lies away from that edge: more than 2.5 rows
below the middle of the bounding box, at the upper edge. -/
theorem cutOff_recognised_iff : (b.CutOff → b.Recognised) ↔
    (b.CutOff → b.skew ℝ ≤ 2.5 - b.top ∨ h - 2.5 - b.bottom ≤ b.skew ℝ) := by
  rw [recognised_iff, clipped_iff]

end Blob

/-- A target of 20 by 20 pixels seen behind the end of a thin bar that hangs into the image. -/
def hanging : Finset Cell :=
  ((Finset.range 40 ×ˢ Finset.range 20).filter fun px => 20 ≤ px.1 ∨ px.2 = 10).map
    (Nat.castEmbedding.prodMap Nat.castEmbedding)

theorem mem_hanging {px : Cell} : px ∈ hanging ↔
    (0 ≤ px.1 ∧ px.1 < 40) ∧ (0 ≤ px.2 ∧ px.2 < 20) ∧ (20 ≤ px.1 ∨ px.2 = 10) := by
  obtain ⟨r, c⟩ := px
  simp only [hanging, Finset.mem_map, Finset.mem_filter, Finset.mem_product, Finset.mem_range,
    Function.Embedding.coe_prodMap, Nat.castEmbedding_apply, Prod.exists, Prod.map_apply,
    Prod.mk.injEq]
  constructor
  · rintro ⟨r', c', h, rfl, rfl⟩
    omega
  · rintro ⟨hr, hc, h⟩
    exact ⟨r.toNat, c.toNat, by omega, by omega, by omega⟩

theorem linked_hanging {px : Cell} (hpx : px ∈ hanging) :
    Linked eightConnected hanging (0, 10) px := by
  apply linked_of_descent (fun px : Cell => px.1.toNat + (px.2 - 10).natAbs) _ _ hpx
  · exact mem_hanging.2 (by decide)
  · intro a ha
    obtain ⟨r, c⟩ := a
    obtain ⟨hr, hc, hshape⟩ := mem_hanging.1 ha
    dsimp only at hr hc hshape
    have hstep : ∃ r' c', (0 ≤ r' ∧ r' < 40) ∧ (0 ≤ c' ∧ c' < 20) ∧ (20 ≤ r' ∨ c' = 10) ∧
        (r' ≠ r ∨ c' ≠ c) ∧ |r' - r| ≤ 1 ∧ |c' - c| ≤ 1 ∧
        r'.toNat + (c' - 10).natAbs < r.toNat + (c - 10).natAbs ∨ r = 0 ∧ c = 10 := by
      simp only [abs_le]
      obtain hlt | rfl | hlt := lt_trichotomy c 10
      · exact ⟨r, c + 1, by omega⟩
      · exact ⟨r - 1, 10, by omega⟩
      · exact ⟨r, c - 1, by omega⟩
    obtain ⟨r', c', hstep | ⟨rfl, rfl⟩⟩ := hstep
    · obtain ⟨hr', hc', hshape', hne, hrow, hcol, hlt⟩ := hstep
      refine .inr ⟨(r', c'), mem_hanging.2 ⟨hr', hc', hshape'⟩, ⟨?_, hrow, hcol⟩, hlt⟩
      intro heq
      obtain ⟨rfl, rfl⟩ := Prod.mk.inj heq
      exact hne.elim (· rfl) (· rfl)
    · exact .inl rfl

theorem card_hanging : hanging.card = 420 := by
  rw [hanging, Finset.card_map]
  decide +kernel

theorem sum_hanging : ∑ px ∈ hanging, px.1 = 11990 := by
  rw [hanging, Finset.sum_map]
  decide +kernel

/-- The bar and the square in a 640 by 480 image. -/
def hangingBlob : Blob 640 480 where
  pixels := hanging
  nonempty := ⟨(0, 10), mem_hanging.2 (by decide)⟩
  onImage := by
    intro px hpx
    have h := mem_hanging.1 hpx
    push_cast
    omega
  connected a ha b hb := (linked_hanging ha).symm.trans (linked_hanging hb)

theorem top_hangingBlob : hangingBlob.top = 0 := by
  apply le_antisymm
  · exact Finset.inf'_le Prod.fst (mem_hanging.2 (by decide) : ((0, 10) : Cell) ∈ hanging)
  · apply Finset.le_inf'
    intro px hpx
    exact (mem_hanging.1 hpx).1.1

theorem bottom_hangingBlob : hangingBlob.bottom = 39 := by
  apply le_antisymm
  · apply Finset.sup'_le
    intro px hpx
    have h := mem_hanging.1 hpx
    omega
  · exact Finset.le_sup' Prod.fst (mem_hanging.2 (by decide) : ((39, 10) : Cell) ∈ hanging)

theorem skew_hangingBlob : hangingBlob.skew ℝ = 11990 / 420 - 39 / 2 := by
  have hcy : (hangingBlob.detection : Detection ℝ).cy = 11990 / 420 := by
    have hsum : ∑ px ∈ hangingBlob.pixels, px.1 = 11990 := sum_hanging
    have hcard : hangingBlob.pixels.card = 420 := card_hanging
    rw [Blob.detection, hsum, hcard]
    norm_num
  rw [Blob.skew, hcy, top_hangingBlob, bottom_hangingBlob]
  norm_num

theorem detect_hangingBlob : Blob.detect 80 [hangingBlob] =
    some (hangingBlob.detection : Detection ℝ) := by
  have hcard : ¬ hangingBlob.pixels.card < 80 := by
    have h : hangingBlob.pixels.card = 420 := card_hanging
    omega
  rw [Blob.detect, List.argmax_singleton]
  exact if_neg hcard

/-- The blob reaches the first row and is not recognised: from an image with nothing else of a
cube in it the cube is put on the map, as far away as the 40 rows seen of it say. -/
theorem not_cutOff_recognised : hangingBlob.CutOff ∧ ¬ hangingBlob.Recognised ∧
    ∀ fov : ℝ, .pose .cube (mono fov hangingBlob.detection cubeTarget.heightM 640 480) ∈
      onImage fov ⟨640, 480,
        fun name => if name = .cube then Blob.detect 80 [hangingBlob] else none,
        some id, fun _ => some id⟩ := by
  have hclipped : ¬ clipped (hangingBlob.detection : Detection ℝ).cy
      (hangingBlob.detection : Detection ℝ).hPx 480 = true := by
    rw [Blob.clipped_iff, skew_hangingBlob, top_hangingBlob, bottom_hangingBlob]
    norm_num
  refine ⟨⟨(0, 10), mem_hanging.2 (by decide), .inl rfl⟩, ?_, ?_⟩
  · intro h
    exact hclipped h.clipped
  · intro fov
    simp [onImage, detect_hangingBlob, publishCube, hclipped]

end EscapeRoom
