import EscapeRoom.KeyGoal

namespace EscapeRoom
set_option autoImplicit true

open Planar

/-- A point of the map after the map was moved by `g`. -/
noncomputable def movePoint (g : Motion) (q : ℝ × ℝ) : ℝ × ℝ :=
  ((g.apply (toPlane q)).re, (g.apply (toPlane q)).im)

noncomputable def Robot.moved (g : Motion) (r : Robot) : Robot :=
  ⟨(movePoint g (r.x, r.y)).1, (movePoint g (r.x, r.y)).2, r.yaw + g.angle⟩

/-- The node with the positions it has stored moved. -/
noncomputable def Node.moved (g : Motion) (s : Node ℝ) : Node ℝ :=
  { s with targets := fun name => (s.targets name).map (movePoint g) }

/-- The outcome but for those positions: what was emitted stays. -/
noncomputable def Outcome.moved (g : Motion) (o : Outcome ℝ) : Outcome ℝ :=
  ⟨o.node.moved g, o.raised⟩

/-- A goal pose and the same one on the moved map. -/
structure GoalMoved (g : Motion) (goal goal' : Robot) : Prop where
  position : (goal'.x, goal'.y) = movePoint g (goal.x, goal.y)
  yaw : (goal'.yaw : Real.Angle) = goal.yaw + g.angle

section moved

variable (g : Motion) (r : Robot) (q : ℝ × ℝ)

theorem toPlane_movePoint : toPlane (movePoint g q) = g.apply (toPlane q) := rfl

theorem movePoint_eq {q q' : ℝ × ℝ} (h : toPlane q' = g.apply (toPlane q)) :
    q' = movePoint g q := by
  apply toPlane_inj
  rw [h, toPlane_movePoint]

theorem sees_moved : (r.moved g).sees (movePoint g q) = r.sees q := by
  rw [Robot.sees_eq, Robot.sees_eq]
  exact g.seen_apply (toPlane (r.x, r.y)) (toPlane q) r.yaw

theorem plateInBase_moved :
    Node.plateInBase (r.moved g).x (r.moved g).y (r.moved g).yaw (movePoint g q).1
      (movePoint g q).2 = Node.plateInBase r.x r.y r.yaw q.1 q.2 := by
  apply toPlane_inj
  exact sees_moved g r q

theorem shortOf_moved (standoff : ℝ) {o q : ℝ × ℝ} (h : q ≠ o) :
    GoalMoved g (shortOf standoff o q) (shortOf standoff (movePoint g o) (movePoint g q)) := by
  have hne : toPlane q ≠ toPlane o := by
    intro heq
    exact h (toPlane_inj heq)
  have hyaw : ((shortOf standoff (movePoint g o) (movePoint g q)).yaw : Real.Angle) =
      (shortOf standoff o q).yaw + g.angle := g.arg_apply_sub hne
  refine ⟨movePoint_eq g ?_, hyaw⟩
  rw [← Real.Angle.coe_add] at hyaw
  rw [toPlane_shortOf, toPlane_shortOf, heading_congr hyaw, g.apply_sub_heading, toPlane_movePoint]

end moved

theorem Node.navGoToPlate_eq {i : TickIn ℝ} {s : Node ℝ} {rx ry ryaw : ℝ} {q : ℝ × ℝ}
    (hpose : getRobotPose i.mapTf = some (rx, ry, ryaw)) (hplate : s.targets .plate = some q) :
    s.navGoToPlate i = .ok (s.sendTo i .navGoToPlate (shortOf 0 (rx, ry) q).x
      (shortOf 0 (rx, ry) q).y (shortOf 0 (rx, ry) q).yaw) := by
  have hstay : (shortOf 0 (rx, ry) q).x = q.1 ∧ (shortOf 0 (rx, ry) q).y = q.2 := by
    simp [shortOf]
  rw [hstay.1, hstay.2]
  simp only [Node.navGoToPlate, hpose, hplate]
  rfl

section mapFrame

variable (g : Motion) (p : Params ℝ) (i : TickIn ℝ) (s : Node ℝ) (r : Robot)

/-- The map's frame does not show: `_drop_align` does the same on the moved map, and the goals
are moved with it. -/
structure MapFrameFree : Prop where
  dropAlign : (s.moved g).dropAlign p (i.standing (r.moved g)) =
    (s.dropAlign p (i.standing r)).moved g
  navGoToKey : ∀ q, s.targets .cube = some q → q ≠ (r.x, r.y) → ∃ goal goal' : Robot,
    s.navGoToKey p (i.standing r) =
      .ok (s.sendTo (i.standing r) .navGoToKey goal.x goal.y goal.yaw) ∧
    (s.moved g).navGoToKey p (i.standing (r.moved g)) =
      .ok ((s.moved g).sendTo (i.standing (r.moved g)) .navGoToKey goal'.x goal'.y goal'.yaw) ∧
    GoalMoved g goal goal'
  navGoToPlate : ∀ q, s.targets .plate = some q → q ≠ (r.x, r.y) → ∃ goal goal' : Robot,
    s.navGoToPlate (i.standing r) =
      .ok (s.sendTo (i.standing r) .navGoToPlate goal.x goal.y goal.yaw) ∧
    (s.moved g).navGoToPlate (i.standing (r.moved g)) =
      .ok ((s.moved g).sendTo (i.standing (r.moved g)) .navGoToPlate goal'.x goal'.y goal'.yaw) ∧
    GoalMoved g goal goal'

@[simp] theorem moved_targets (name : TargetName) :
    (s.moved g).targets name = (s.targets name).map (movePoint g) := rfl

theorem dropAlign_moved : (s.moved g).dropAlign p (i.standing (r.moved g)) =
    (s.dropAlign p (i.standing r)).moved g := by
  cases hplate : s.targets .plate with
  | none =>
    simp only [Node.dropAlign, TickIn.standing, Robot.getRobotPose_transform, moved_targets, hplate,
      Option.map_none]
    rfl
  | some q =>
    simp only [Node.dropAlign, TickIn.standing, Robot.getRobotPose_transform, moved_targets, hplate,
      Option.map_some, plateInBase_congr (heading_arg_heading _), plateInBase_moved]
    by_cases hb : |PyMath.atan2 (Node.plateInBase r.x r.y r.yaw q.1 q.2).2
        (Node.plateInBase r.x r.y r.yaw q.1 q.2).1| > p.alignYawTol
    · rw [if_pos hb, if_pos hb]
      rfl
    · rw [if_neg hb, if_neg hb]
      by_cases he : |PyMath.hypot (Node.plateInBase r.x r.y r.yaw q.1 q.2).1
          (Node.plateInBase r.x r.y r.yaw q.1 q.2).2 -
            (p.pickupEngageDist + p.pickupLungeMargin)| ≤ 0.03
      · rw [if_pos he, if_pos he]
        rfl
      · rw [if_neg he, if_neg he]
        rfl

/-- For every motion of the map, robot and node. -/
theorem map_frame_free : MapFrameFree g p i s r := by
  constructor
  · exact dropAlign_moved g p i s r
  · intro q hcube hne
    have hcube' : (s.moved g).targets .cube = some (movePoint g q) := by
      rw [moved_targets, hcube, Option.map_some]
    exact ⟨_, _, Node.navGoToKey_eq r.getRobotPose_transform hcube,
      Node.navGoToKey_eq (r.moved g).getRobotPose_transform hcube',
      shortOf_moved g p.pickupStandoff hne⟩
  · intro q hplate hne
    have hplate' : (s.moved g).targets .plate = some (movePoint g q) := by
      rw [moved_targets, hplate, Option.map_some]
    exact ⟨_, _, Node.navGoToPlate_eq r.getRobotPose_transform hplate,
      Node.navGoToPlate_eq (r.moved g).getRobotPose_transform hplate',
      shortOf_moved g 0 hne⟩

end mapFrame

end EscapeRoom
