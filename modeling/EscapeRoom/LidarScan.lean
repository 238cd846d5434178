import EscapeRoom.Lidar
import EscapeRoom.Library.Planar
import EscapeRoom.Library.Rotations
import EscapeRoom.Library.Runs
import EscapeRoom.RigidTransform

namespace EscapeRoom
set_option autoImplicit true

open Matrix Planar Rotations

/-- Real arithmetic. -/
noncomputable instance : LuaMath ℝ where
  pi := Real.pi
  atan y x := Complex.arg ⟨x, y⟩
  cos := Real.cos
  sin := Real.sin

namespace ObjectMatrix

/-- The axes of the frame, as columns. -/
def rotation (m : ObjectMatrix ℝ) : Matrix (Fin 3) (Fin 3) ℝ :=
  .of fun row column => m ⟨4 * row + column, by omega⟩

def position (m : ObjectMatrix ℝ) : Fin 3 → ℝ := fun row => m ⟨4 * row + 3, by omega⟩

def zAxis (m : ObjectMatrix ℝ) : Fin 3 → ℝ := fun row => m ⟨4 * row + 2, by omega⟩

end ObjectMatrix

/-- What `sim.getObjectMatrix` answers for an object with this pose. -/
def RigidTransform.objectMatrix (T : RigidTransform) : ObjectMatrix ℝ := fun entry =>
  if h : entry.val % 4 < 3 then T.rotation ⟨entry / 4, by omega⟩ ⟨entry % 4, h⟩
  else T.translation ⟨entry / 4, by omega⟩

/-- The pose of a robot that stands on the plane and is turned by `yaw`. -/
noncomputable def RigidTransform.planar (yaw rx ry rz : ℝ) : RigidTransform :=
  ⟨rotZ yaw, ![rx, ry, rz], rotZ_mem yaw⟩

/-- The transform of `static_transform_publisher`: roll, then pitch, then yaw about fixed axes. -/
noncomputable def StaticTransform.rigid (s : StaticTransform ℝ) : RigidTransform where
  rotation := rotZ s.yaw * rotY s.pitch * rotX s.roll
  translation := ![s.x, s.y, s.z]
  rotation_mem := mul_mem (mul_mem (rotZ_mem s.yaw) (rotY_mem s.pitch)) (rotX_mem s.roll)

/-- The point of beam `k` in the frame of the scan, by the convention of `LaserScan`. -/
noncomputable def LaserScan.point (scan : LaserScan ℝ) (k : Nat) (range : ℝ) : Point ℝ :=
  let angle := scan.angleMin + k * scan.angleIncrement
  ⟨range * Real.cos angle, range * Real.sin angle, 0⟩

/-- The matrices given to the sensor, in order. -/
def sensorMatrices (cmds : List (LidarCmd ℝ)) : List (ObjectMatrix ℝ) :=
  cmds.filterMap fun
    | .setSensor mat => some mat
    | _ => none

def scans (cmds : List (LidarCmd ℝ)) : List (LaserScan ℝ) :=
  cmds.filterMap fun
    | .publish scan => some scan
    | _ => none

/-- The script after its start and any number of calls. -/
noncomputable def lidarRun (ins : List (SensingIn ℝ)) : Lidar ℝ :=
  Runs.run (fun s inp => (sysCallSensing inp s).1) sysCallInit ins

section loop

variable (probe : Nat → Option ℝ) (rx ry oz yaw : ℝ)

/-- The matrix of the sensor for a ray at angle `phi`. -/
noncomputable def rayMatrix (phi : ℝ) : ObjectMatrix ℝ :=
  ![-Real.sin phi, 0, Real.cos phi, rx, Real.cos phi, 0, Real.sin phi, ry, 0, 1, 0, oz]

variable (acc : List (LidarCmd ℝ) × List ℝ) (ray : ℝ × Nat)

theorem senseRay_sensors : sensorMatrices (senseRay probe rx ry oz yaw acc ray).1 =
    sensorMatrices acc.1 ++ [rayMatrix rx ry oz (ray.1 + yaw)] := by
  cases hprobe : probe ray.2 with
  | none => simp [senseRay, hprobe, sensorMatrices, rayMatrix, LuaMath.cos, LuaMath.sin]
  | some d => simp [senseRay, hprobe, sensorMatrices, rayMatrix, LuaMath.cos, LuaMath.sin]

theorem senseRay_scans : scans (senseRay probe rx ry oz yaw acc ray).1 = scans acc.1 := by
  cases hprobe : probe ray.2 with
  | none => simp [senseRay, hprobe, scans]
  | some d => simp [senseRay, hprobe, scans]

theorem senseRay_ranges : (senseRay probe rx ry oz yaw acc ray).2 =
    acc.2 ++ [(probe ray.2).getD maxRange] := by
  cases hprobe : probe ray.2 with
  | none => simp [senseRay, hprobe]
  | some d => simp [senseRay, hprobe]

/-- The whole loop. -/
noncomputable def senseRays (rays : List (ℝ × Nat)) : List (LidarCmd ℝ) × List ℝ :=
  Runs.run (senseRay probe rx ry oz yaw) ([.clearDrawing], []) rays

variable (rays : List (ℝ × Nat))

theorem senseRays_sensors : sensorMatrices (senseRays probe rx ry oz yaw rays).1 =
    rays.map fun ray => rayMatrix rx ry oz (ray.1 + yaw) :=
  Runs.appended (fun acc => sensorMatrices acc.1) (senseRay_sensors probe rx ry oz yaw)
    ([.clearDrawing], []) rays

theorem senseRays_scans : scans (senseRays probe rx ry oz yaw rays).1 = [] := by
  apply Runs.invariant (I := fun acc : List (LidarCmd ℝ) × List ℝ => scans acc.1 = []) rfl
  intro acc ray h
  rw [senseRay_scans, h]

theorem senseRays_ranges : (senseRays probe rx ry oz yaw rays).2 =
    rays.map fun ray => (probe ray.2).getD maxRange :=
  Runs.appended Prod.snd (senseRay_ranges probe rx ry oz yaw) ([.clearDrawing], []) rays

end loop

theorem lidarRun_rayAngles (ins : List (SensingIn ℝ)) :
    (lidarRun ins).rayAngles = (sysCallInit : Lidar ℝ).rayAngles := by
  apply Runs.invariant (I := fun s : Lidar ℝ => s.rayAngles = (sysCallInit : Lidar ℝ).rayAngles) rfl
  intro s inp h
  by_cases hearly : inp.t - s.lastT < 1.0 / rateHz
  · rw [sysCallSensing, if_pos hearly]
    exact h
  · rw [sysCallSensing, if_neg hearly]
    exact h

/-- The message of a call that found these ranges. -/
noncomputable def scanOf (stamp : ℝ) (ranges : List ℝ) : LaserScan ℝ where
  stamp := stamp
  frameId := laserFrame
  angleMin := -Real.pi
  angleMax := Real.pi - 2.0 * Real.pi / nRays
  angleIncrement := 2.0 * Real.pi / nRays
  timeIncrement := 0.0
  scanTime := 1.0 / rateHz
  rangeMin := rangeMin
  rangeMax := maxRange
  ranges := ranges

/-- What the script is told when the robot stands at a planar pose. -/
noncomputable def SensingIn.planar (t stamp yaw rx ry rz : ℝ) (probe : Nat → Option ℝ) :
    SensingIn ℝ :=
  ⟨t, stamp, (RigidTransform.planar yaw rx ry rz).objectMatrix, probe⟩

theorem sysCallSensing_due {t : ℝ} {s : Lidar ℝ} (stamp yaw rx ry rz : ℝ)
    (probe : Nat → Option ℝ) (hdue : 1.0 / rateHz ≤ t - s.lastT) :
    scans (sysCallSensing (.planar t stamp yaw rx ry rz probe) s).2 =
        [scanOf stamp ((s.rayAngles.zipIdx 1).map fun ray => (probe ray.2).getD maxRange)] ∧
      sensorMatrices (sysCallSensing (.planar t stamp yaw rx ry rz probe) s).2 =
        (s.rayAngles.zipIdx 1).map fun ray =>
          rayMatrix rx ry (rz + laserZ) (ray.1 + (heading yaw).arg) := by
  obtain ⟨acc, hacc⟩ : ∃ acc, acc = senseRays probe rx ry (rz + laserZ) (heading yaw).arg
      (s.rayAngles.zipIdx 1) := ⟨_, rfl⟩
  have hout : (sysCallSensing (.planar t stamp yaw rx ry rz probe) s).2 =
      acc.1 ++ [.publish (scanOf stamp acc.2)] := by
    rw [sysCallSensing, SensingIn.planar, if_neg hdue.not_gt, hacc]
    rfl
  have hscans : scans acc.1 = [] := hacc ▸ senseRays_scans _ _ _ _ _ _
  rw [hout, scans, sensorMatrices, List.filterMap_append, List.filterMap_append]
  constructor
  · rw [← scans, hscans, hacc, senseRays_ranges]
    rfl
  · rw [← sensorMatrices, hacc, senseRays_sensors]
    exact List.append_nil _

theorem getElem?_rayAngles {k : Nat} (hk : k < nRays) :
    ((sysCallInit : Lidar ℝ).rayAngles.zipIdx 1)[k]? =
      some (-Real.pi + k * (2.0 * Real.pi / nRays), k + 1) := by
  simp [sysCallInit, List.getElem?_zipIdx, List.getElem?_range hk, LuaMath.pi, add_comm 1 k]

/-- The yaw that is read off the robot's matrix turns a ray as the robot's own yaw does. -/
theorem heading_add_arg (a b yaw : ℝ) :
    heading (a + b + (heading yaw).arg) = heading (yaw + a + b) := by
  rw [← heading_mul, heading_arg_heading, heading_mul]
  congr 1
  ring

theorem rayMatrix_congr {phi phi' : ℝ} (h : heading phi = heading phi') (rx ry oz : ℝ) :
    rayMatrix rx ry oz phi = rayMatrix rx ry oz phi' := by
  obtain ⟨hcos, hsin⟩ := heading_eq_iff.1 h
  rw [rayMatrix, rayMatrix, hcos, hsin]

theorem rotation_rayMatrix_mem (rx ry oz phi : ℝ) :
    (rayMatrix rx ry oz phi).rotation ∈ specialOrthogonalGroup (Fin 3) ℝ := by
  -- its x, y and z axes are the y, z and x axes of the frame turned by `phi`
  have hcolumns : (rayMatrix rx ry oz phi).rotation =
      (rotZ phi).submatrix (Equiv.refl (Fin 3)) cycle := by
    ext i j
    fin_cases i <;> fin_cases j <;> rfl
  rw [hcolumns]
  exact submatrix_mem (rotZ_mem phi) rfl

/-- The transform from `base_link` to the frame of the scan. -/
noncomputable def laserLink : RigidTransform := (baseLinkToLaserLink : StaticTransform ℝ).rigid

theorem laserLink_apply (x y z : ℝ) : laserLink.apply ⟨x, y, z⟩ = ⟨x, y, z + 0.12⟩ := by
  have hrotation : laserLink.rotation = 1 := by
    rw [laserLink, StaticTransform.rigid, baseLinkToLaserLink]
    simp
  rw [RigidTransform.apply, hrotation, one_mulVec]
  simp [laserLink, StaticTransform.rigid, baseLinkToLaserLink, Point.vec, Point.ofVec]

theorem planar_apply (yaw rx ry rz : ℝ) (d θ z : ℝ) :
    (RigidTransform.planar yaw rx ry rz).apply ⟨d * Real.cos θ, d * Real.sin θ, z⟩ =
      ⟨rx + d * Real.cos (yaw + θ), ry + d * Real.sin (yaw + θ), rz + z⟩ := by
  rw [Real.cos_add, Real.sin_add]
  simp only [RigidTransform.apply, RigidTransform.planar, rotZ, Point.vec, Point.ofVec]
  simp
  refine ⟨?_, ?_, ?_⟩ <;> ring

/-- The sensor of ray `k` points along `phi`, and what is measured there is put where it was hit. -/
structure RaySeen (pose : RigidTransform) (probe : Nat → Option ℝ) (scan : LaserScan ℝ) (k : Nat)
    (phi : ℝ) (mat : ObjectMatrix ℝ) : Prop where
  proper : mat.rotation ∈ specialOrthogonalGroup (Fin 3) ℝ
  axis : mat.zAxis = ![Real.cos phi, Real.sin phi, 0]
  origin : mat.position = pose.translation + ![0, 0, 0.12]
  measured : ∀ d, probe (k + 1) = some d → scan.ranges[k]? = some d
  reconstructed : ∀ d, pose.apply (laserLink.apply (scan.point k d)) =
    .ofVec (mat.position + d • mat.zAxis)

/-- The only scan among the commands shows the obstacles where the rays hit them. -/
structure TrueScan (pose : RigidTransform) (yaw : ℝ) (probe : Nat → Option ℝ)
    (cmds : List (LidarCmd ℝ)) (scan : LaserScan ℝ) : Prop where
  published : scans cmds = [scan]
  frame : scan.frameId = (baseLinkToLaserLink : StaticTransform ℝ).childFrameId
  angleMax : scan.angleMax = scan.angleMin + (nRays - 1) * scan.angleIncrement
  rays : ∀ k < nRays, ∃ mat, (sensorMatrices cmds)[k]? = some mat ∧
    RaySeen pose probe scan k (yaw + scan.angleMin + k * scan.angleIncrement) mat

theorem raySeen_rayMatrix {probe : Nat → Option ℝ} {ranges : List ℝ} {k : Nat} {phi : ℝ}
    (stamp yaw rx ry rz : ℝ) (hphi : phi = yaw + (scanOf stamp ranges).angleMin +
      k * (scanOf stamp ranges).angleIncrement)
    (hranges : ∀ d, probe (k + 1) = some d → ranges[k]? = some d) :
    RaySeen (.planar yaw rx ry rz) probe (scanOf stamp ranges) k phi
      (rayMatrix rx ry (rz + 0.12) phi) where
  proper := rotation_rayMatrix_mem rx ry (rz + 0.12) phi
  axis := by
    ext i
    fin_cases i <;> rfl
  origin := by
    ext i
    fin_cases i <;> simp [ObjectMatrix.position, rayMatrix, RigidTransform.planar]
  measured := hranges
  reconstructed d := by
    rw [LaserScan.point, laserLink_apply, zero_add, planar_apply, ← add_assoc, ← hphi]
    simp [Point.ofVec, ObjectMatrix.position, ObjectMatrix.zAxis, rayMatrix]

/-- After any calls before it, and whatever the rays hit. -/
theorem scan_reconstructs (ins : List (SensingIn ℝ)) (t stamp yaw rx ry rz : ℝ)
    (probe : Nat → Option ℝ) (hdue : 1.0 / rateHz ≤ t - (lidarRun ins).lastT) :
    ∃ scan, TrueScan (.planar yaw rx ry rz) yaw probe
      (sysCallSensing (.planar t stamp yaw rx ry rz probe) (lidarRun ins)).2 scan := by
  obtain ⟨hscans, hsensors⟩ := sysCallSensing_due stamp yaw rx ry rz probe hdue
  rw [lidarRun_rayAngles] at hscans hsensors
  refine ⟨_, hscans, rfl, ?_, fun k hk => ?_⟩
  · have htwo : (2.0 : ℝ) = 2 := by norm_num
    simp only [scanOf, nRays, htwo]
    push_cast
    ring
  · have hray := getElem?_rayAngles hk
    have hturned := heading_add_arg (-Real.pi) (k * (2.0 * Real.pi / nRays)) yaw
    have hlaser : (laserZ : ℝ) = 0.12 := rfl
    rw [hsensors, List.getElem?_map, hray, Option.map_some, rayMatrix_congr hturned, hlaser]
    refine ⟨_, rfl, raySeen_rayMatrix stamp yaw rx ry rz rfl fun d hd => ?_⟩
    rw [List.getElem?_map, hray, Option.map_some, hd, Option.getD_some]

/-- The first call, with a wall one metre away all around. -/
theorem scan_reconstructs_firstCall :
    ∃ scan, TrueScan (.planar 1 2 3 0) 1 (fun _ => some 1)
      (sysCallSensing (.planar 0 5 1 2 3 0 fun _ => some 1) (lidarRun [])).2 scan := by
  apply scan_reconstructs
  norm_num [lidarRun, sysCallInit, rateHz]

end EscapeRoom
