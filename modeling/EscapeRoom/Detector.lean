import EscapeRoom.Explorer

namespace EscapeRoom
set_option autoImplicit true
set_option linter.unusedSectionVars false

/-- The coordinates of a `PointStamped`. -/
structure Point (R : Type) where
  x : R
  y : R
  z : R

/-- The centroid and the bounding box of a blob. -/
structure Detection (R : Type) where
  cx : R
  cy : R
  wPx : Nat
  hPx : Nat

inductive Localize where
  | mono
  | ground
deriving DecidableEq, Repr

structure Target (R : Type) where
  name : TargetName
  localize : Localize
  heightM : R
  floorZ : R

/-- One camera image: what `_detect` finds in it, and what TF answers while it is handled. An
answer is the map that `do_transform_point` applies. -/
structure Frame (R : Type) where
  width : Nat
  height : Nat
  detect : TargetName → Option (Detection R)
  toBase : Option (Point R → Point R)
  toMap : TargetName → Option (Point R → Point R)

/-- What the detector publishes, but for the markers. -/
inductive DetectorMsg (R : Type) where
  | cubeLive (x y : R)
  | pose (name : TargetName) (point : Point R)

variable {R : Type} [Field R]

def cubeTarget : Target R := ⟨.cube, .mono, 0.20, 0⟩

def plateTarget : Target R := ⟨.plate, .ground, 0, 0.0⟩

def doorTarget : Target R := ⟨.door, .mono, 0.50, 0⟩

section localisation

variable [PyMath R]

def fPix (fov : R) (w h : Nat) : R := (max w h : Nat) / (2.0 * PyMath.tan (fov / 2.0))

def mono (fov : R) (d : Detection R) (heightM : R) (w h : Nat) : Point R :=
  let f := fPix fov w h
  let z := heightM * f / d.hPx
  ⟨(d.cx - w / 2.0) / f * z, (d.cy - h / 2.0) / f * z, z⟩

/-- `_mono` on its bare arguments; `mono` is what the detector calls, with a height in whole
pixels. -/
def monoAt (fov cx cy hPx heightM : R) (w h : Nat) : Point R :=
  let f := fPix fov w h
  let z := heightM * f / hPx
  ⟨(cx - w / 2.0) / f * z, (cy - h / 2.0) / f * z, z⟩

theorem mono_eq (fov : R) (d : Detection R) (heightM : R) (w h : Nat) :
    mono fov d heightM w h = monoAt fov d.cx d.cy d.hPx heightM w h := rfl

/-- The floor point on the ray through the pixel, unless the ray does not point down. -/
def floor [LinearOrder R] (fov : R) (d : Detection R) (zPlane : R) (w h : Nat)
    (toMap : Option (Point R → Point R)) : Option (R × R) :=
  let f := fPix fov w h
  match toMap with
  | none => none
  | some tf =>
    let o := tf ⟨0, 0, 0⟩
    let p := tf ⟨(d.cx - w / 2.0) / f, (d.cy - h / 2.0) / f, 1⟩
    if p.z - o.z ≥ -0.000001 then none
    else
      let s := (zPlane - o.z) / (p.z - o.z)
      some (o.x + s * (p.x - o.x), o.y + s * (p.y - o.y))

end localisation

variable [LinearOrder R]

/-- The blob touches the upper or the lower edge of the image. -/
def clipped (cy : R) (hPx imgH : Nat) : Bool :=
  decide (cy - hPx / 2.0 ≤ 2.0) || decide (cy + hPx / 2.0 ≥ imgH - 2.0)

variable [PyMath R]

def publishCube (fov : R) (d : Detection R) (fr : Frame R) : List (DetectorMsg R) :=
  let ps := mono fov d cubeTarget.heightM fr.width fr.height
  match fr.toBase with
  | none => []
  | some bl =>
    .cubeLive (bl ps).x (bl ps).y ::
      if !clipped d.cy d.hPx fr.height then
        match fr.toMap .cube with
        | some mp => [.pose .cube (mp ps)]
        | none => []
      else []

def publishLandmark (fov : R) (t : Target R) (d : Detection R) (fr : Frame R) :
    List (DetectorMsg R) :=
  match t.localize with
  | .ground =>
    match floor fov d t.floorZ fr.width fr.height (fr.toMap t.name) with
    | some gp => [.pose t.name ⟨gp.1, gp.2, t.floorZ⟩]
    | none => []
  | .mono =>
    if clipped d.cy d.hPx fr.height then []
    else match fr.toMap t.name with
      | some mp => [.pose t.name (mp (mono fov d t.heightM fr.width fr.height))]
      | none => []

/-- What the detector publishes for one image. -/
def onImage (fov : R) (fr : Frame R) : List (DetectorMsg R) :=
  (fr.detect .cube).elim [] (fun d => publishCube fov d fr) ++
    [plateTarget, doorTarget].flatMap fun t =>
      (fr.detect t.name).elim [] fun d => publishLandmark fov t d fr

end EscapeRoom
