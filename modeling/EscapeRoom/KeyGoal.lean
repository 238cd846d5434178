import EscapeRoom.BaseFrame

namespace EscapeRoom
set_option autoImplicit true

open Planar

/-- What TF reports of a robot that stands at the goal. -/
def NavGoal.transform (goal : NavGoal ℝ) : Transform ℝ := ⟨goal.x, goal.y, 0, 0, goal.qz, goal.qw⟩

theorem NavGoal.transform_ofYaw (r : Robot) :
    (NavGoal.ofYaw r.x r.y r.yaw).transform = r.transform := by
  have htwo : (2.0 : ℝ) = 2 := by norm_num
  rw [NavGoal.ofYaw, htwo]
  rfl

theorem getRobotPose_ofYaw {r : Robot} (h : r.yaw ∈ Set.Ioc (-Real.pi) Real.pi) :
    getRobotPose (some (NavGoal.ofYaw r.x r.y r.yaw).transform) = some (r.x, r.y, r.yaw) := by
  rw [NavGoal.transform_ofYaw, r.getRobotPose_transform, arg_heading h]

/-- The pose short of the target at `q`, seen from `o`, that `_nav_go_to_key` asks for. -/
noncomputable def shortOf (standoff : ℝ) (o q : ℝ × ℝ) : Robot :=
  let yaw := PyMath.atan2 (q.2 - o.2) (q.1 - o.1)
  ⟨q.1 - standoff * PyMath.cos yaw, q.2 - standoff * PyMath.sin yaw, yaw⟩

section shortOf

variable (standoff : ℝ) (o q : ℝ × ℝ)

theorem toPlane_shortOf :
    toPlane ((shortOf standoff o q).x, (shortOf standoff o q).y) =
      toPlane q - standoff * heading (shortOf standoff o q).yaw := by
  apply Complex.ext
  · simp [toPlane, shortOf, heading, PyMath.cos]
  · simp [toPlane, shortOf, heading, PyMath.sin]

theorem sees_shortOf : (shortOf standoff o q).sees q = standoff := by
  rw [Robot.sees_eq, toPlane_shortOf, sub_sub_cancel]
  linear_combination standoff * heading_mul_neg (shortOf standoff o q).yaw

theorem plateInBase_shortOf :
    Node.plateInBase (shortOf standoff o q).x (shortOf standoff o q).y (shortOf standoff o q).yaw
      q.1 q.2 = (standoff, 0) := by
  apply toPlane_inj
  exact sees_shortOf standoff o q

end shortOf

theorem Node.navGoToKey_eq {p : Params ℝ} {i : TickIn ℝ} {s : Node ℝ} {rx ry ryaw : ℝ}
    {q : ℝ × ℝ} (hpose : getRobotPose i.mapTf = some (rx, ry, ryaw))
    (hcube : s.targets .cube = some q) :
    s.navGoToKey p i = .ok (s.sendTo i .navGoToKey (shortOf p.pickupStandoff (rx, ry) q).x
      (shortOf p.pickupStandoff (rx, ry) q).y (shortOf p.pickupStandoff (rx, ry) q).yaw) := by
  simp only [Node.navGoToKey, hpose, hcube]
  rfl

/-- At the goal the robot is at `r`, with a target at `q` straight ahead at the standoff. -/
structure DeadAhead (standoff : ℝ) (goal : NavGoal ℝ) (r : Robot) (q : ℝ × ℝ) : Prop where
  encoded : goal = .ofYaw r.x r.y r.yaw
  decoded : getRobotPose (some goal.transform) = some (r.x, r.y, r.yaw)
  seen : Node.plateInBase r.x r.y r.yaw q.1 q.2 = (standoff, 0)
  bearing : 0 ≤ standoff → r.bearing q = 0
  range : 0 ≤ standoff →
    PyMath.hypot (Node.plateInBase r.x r.y r.yaw q.1 q.2).1
      (Node.plateInBase r.x r.y r.yaw q.1 q.2).2 = standoff

theorem deadAhead_shortOf (standoff : ℝ) (o q : ℝ × ℝ) :
    DeadAhead standoff (.ofYaw (shortOf standoff o q).x (shortOf standoff o q).y
      (shortOf standoff o q).yaw) (shortOf standoff o q) q where
  encoded := rfl
  decoded := getRobotPose_ofYaw (Complex.arg_mem_Ioc _)
  seen := plateInBase_shortOf standoff o q
  bearing h := by
    rw [Robot.bearing, plateInBase_shortOf]
    exact atan2_zero_left h
  range h := by
    rw [plateInBase_shortOf]
    exact hypot_zero_right h

/-- For every robot and cube, the goal that `_nav_go_to_key` sends faces the cube from the
standoff; and every yaw comes back from its quaternion. -/
theorem key_dead_ahead (p : Params ℝ) (i : TickIn ℝ) (s : Node ℝ) (rx ry ryaw : ℝ) (q : ℝ × ℝ)
    (hpose : getRobotPose i.mapTf = some (rx, ry, ryaw)) (hcube : s.targets .cube = some q) :
    (∃ goal r, s.navGoToKey p i =
        .ok ((s.emit (.markGoal goal)).navSend i ⟨.navGoToKey, goal⟩) ∧
      DeadAhead p.pickupStandoff goal r q) ∧
    ∀ x y yaw : ℝ, yaw ∈ Set.Ioc (-Real.pi) Real.pi →
      getRobotPose (some (NavGoal.ofYaw x y yaw).transform) = some (x, y, yaw) := by
  constructor
  · exact ⟨_, _, Node.navGoToKey_eq hpose hcube, deadAhead_shortOf p.pickupStandoff (rx, ry) q⟩
  · exact fun x y yaw hyaw => getRobotPose_ofYaw (r := ⟨x, y, yaw⟩) hyaw

/-- The cube lies half a metre ahead, nearer than the standoff. -/
noncomputable def keyNearby : Node ℝ := { Node.init with targets := fun _ => some (0.5, 0) }

theorem key_dead_ahead_keyNearby :
    (∃ goal r, keyNearby.navGoToKey .default standingAtOrigin =
        .ok ((keyNearby.emit (.markGoal goal)).navSend standingAtOrigin ⟨.navGoToKey, goal⟩) ∧
      DeadAhead (Params.default : Params ℝ).pickupStandoff goal r (0.5, 0)) ∧
    ∀ x y yaw : ℝ, yaw ∈ Set.Ioc (-Real.pi) Real.pi →
      getRobotPose (some (NavGoal.ofYaw x y yaw).transform) = some (x, y, yaw) :=
  key_dead_ahead .default standingAtOrigin keyNearby 0 0 _ (0.5, 0)
    (Robot.mk 0 0 0).getRobotPose_transform rfl

end EscapeRoom
