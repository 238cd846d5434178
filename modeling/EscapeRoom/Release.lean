import EscapeRoom.BaseFrame
import EscapeRoom.DoorController
import EscapeRoom.LungeRange

namespace EscapeRoom
set_option autoImplicit true
set_option linter.unusedSectionVars false

def Event.target? (name : TargetName) : Event R → Option (R × R)
  | .target name' x y => if name' = name then some (x, y) else none
  | _ => none

/-- The position that the last message about a target carries. -/
def lastTarget (name : TargetName) (es : List (Event R)) : Option (R × R) :=
  (es.filterMap (Event.target? name)).getLast?

theorem lastTarget_concat (name : TargetName) (es : List (Event R)) (e : Event R) :
    lastTarget name (es ++ [e]) = (e.target? name).or (lastTarget name es) := by
  rw [lastTarget, List.filterMap_append, List.getLast?_append, lastTarget]
  cases h : e.target? name with
  | none => simp [h]
  | some q => simp [h]

/-- Where the code takes the carried key to be: straight ahead of `base_link`. -/
noncomputable def carriedKey (p : Params ℝ) (x y yaw : ℝ) : ℝ × ℝ :=
  let d := p.pickupEngageDist + p.pickupLungeMargin
  (x + d * PyMath.cos yaw, y + d * PyMath.sin yaw)

theorem toPlane_carriedKey (p : Params ℝ) (x y yaw : ℝ) : toPlane (carriedKey p x y yaw) =
    toPlane (x, y) + (p.pickupEngageDist + p.pickupLungeMargin : ℝ) * Planar.heading yaw := by
  apply Complex.ext
  · simp [toPlane, carriedKey, Planar.heading, PyMath.cos]
  · simp [toPlane, carriedKey, Planar.heading, PyMath.sin]

theorem norm_sub_carriedKey (x y yaw : ℝ) (q : ℝ × ℝ) :
    ‖toPlane q - toPlane (carriedKey .default x y yaw)‖ =
      ‖toPlane (Node.plateInBase x y yaw q.1 q.2) - (0.207 : ℝ)‖ := by
  have hd : (Params.default : Params ℝ).pickupEngageDist + Params.default.pickupLungeMargin =
      0.207 := by norm_num [Params.default]
  rw [toPlane_carriedKey, ← Planar.norm_turned, ← toPlane_plateInBase, hd]

theorem dropTests_iff {b : ℝ × ℝ} :
    |PyMath.atan2 b.2 b.1| ≤ (Params.default : Params ℝ).alignYawTol ∧
        |PyMath.hypot b.1 b.2 - ((Params.default : Params ℝ).pickupEngageDist +
          Params.default.pickupLungeMargin)| ≤ 0.03 ↔
      |(toPlane b).arg| ≤ 0.08 ∧ |‖toPlane b‖ - 0.207| ≤ 0.03 := by
  have hd : (Params.default : Params ℝ).pickupEngageDist + Params.default.pickupLungeMargin =
      0.207 := by norm_num [Params.default]
  rw [hypot_eq, hd]
  rfl

theorem carriedKey_near {x y yaw px py : ℝ}
    (hb : |PyMath.atan2 (Node.plateInBase x y yaw px py).2 (Node.plateInBase x y yaw px py).1| ≤
      (Params.default : Params ℝ).alignYawTol)
    (he : |PyMath.hypot (Node.plateInBase x y yaw px py).1 (Node.plateInBase x y yaw px py).2 -
      ((Params.default : Params ℝ).pickupEngageDist + Params.default.pickupLungeMargin)| ≤ 0.03) :
    ‖toPlane (px, py) - toPlane (carriedKey .default x y yaw)‖ ≤ 0.04 := by
  obtain ⟨hb, he⟩ := dropTests_iff.1 ⟨hb, he⟩
  rw [norm_sub_carriedKey]
  generalize toPlane (Node.plateInBase x y yaw px py) = b at hb he ⊢
  have hdist := Planar.norm_sub_ofReal_sq_le b (by norm_num : (0 : ℝ) ≤ 0.207)
  have hrange : ‖b‖ ≤ 0.237 := by linarith [(abs_le.1 he).2]
  have herr : (‖b‖ - 0.207) ^ 2 ≤ 0.03 ^ 2 := sq_le_sq' (abs_le.1 he).1 (abs_le.1 he).2
  have hbearing : b.arg ^ 2 ≤ 0.08 ^ 2 := sq_le_sq' (abs_le.1 hb).1 (abs_le.1 hb).2
  have hmul : ‖b‖ * 0.207 * b.arg ^ 2 ≤ 0.237 * 0.207 * 0.08 ^ 2 := by gcongr
  apply abs_le_of_sq_le_sq' _ (by norm_num) |>.2
  linarith

/-- The stored position of a target is within the hysteresis of the last one heard. -/
theorem stored_near (p : Params ℝ) (name : TargetName) (es : List (Event ℝ))
    (hr : (missionRun p es).raised = none) : ∀ q, lastTarget name es = some q →
      ∃ o, (missionRun p es).node.targets name = some o ∧
        PyMath.hypot (q.1 - o.1) (q.2 - o.2) ≤ 0.1 := by
  induction es using List.reverseRecOn with
  | nil =>
    intro q hq
    cases hq
  | append_singleton es e ih =>
    rw [missionRun_concat] at hr ⊢
    rw [lastTarget_concat]
    have hih := ih (raised_of_step hr)
    have h := eventStep_step p (missionRun p es) e
    generalize step p (missionRun p es) e = o at h hr
    cases h with
    | ended he =>
      rw [hr] at he
      cases he
    | tick i h =>
      rw [h.perception.targets]
      exact hih
    | near name' x y ox oy ht hd =>
      intro q hq
      by_cases hn : name' = name
      · subst hn
        rw [Event.target?, if_pos rfl, Option.some_or] at hq
        cases hq
        exact ⟨(ox, oy), ht, hd⟩
      · rw [Event.target?, if_neg hn, Option.none_or] at hq
        exact hih q hq
    | target name' x y hd =>
      intro q hq
      by_cases hn : name' = name
      · subst hn
        rw [Event.target?, if_pos rfl, Option.some_or] at hq
        cases hq
        refine ⟨(x, y), Node.setTarget_targets_self _ _ _ _, ?_⟩
        rw [hypot_self]
        norm_num
      · rw [Event.target?, if_neg hn, Option.none_or] at hq
        rw [Outcome.ok, Node.setTarget_targets_of_ne (Ne.symm hn)]
        exact hih q hq
    | _ => exact hih

/-- The only way from `DROP_ALIGN` to `DROP_OPEN`. -/
theorem TickStep.release [Field R] [LinearOrder R] [PyMath R] {p : Params R} {i : TickIn R}
    {s : Node R} {o : Outcome R} (h : TickStep p i s o) (hm : s.mode = .dropAlign)
    (hm' : o.node.mode = .dropOpen) :
    o = .ok { s.stop.transition .dropOpen with actionT := i.clock }.gripperOpen ∧
    ∃ x y yaw px py, getRobotPose i.mapTf = some (x, y, yaw) ∧ s.targets .plate = some (px, py) ∧
      |PyMath.atan2 (Node.plateInBase x y yaw px py).2 (Node.plateInBase x y yaw px py).1| ≤
        p.alignYawTol ∧
      |PyMath.hypot (Node.plateInBase x y yaw px py).1 (Node.plateInBase x y yaw px py).2 -
        (p.pickupEngageDist + p.pickupLungeMargin)| ≤ 0.03 := by
  cases h with
  | dropRelease _ x y yaw px py hp ht hb he => exact ⟨rfl, x, y, yaw, px, py, hp, ht, hb, he⟩
  | notReady => rw [Outcome.ok, hm] at hm'; cases hm'
  | start => rw [Outcome.ok, hm] at hm'; cases hm'
  | dropBlind => rw [Outcome.ok, hm] at hm'; cases hm'
  | dropNoPlate => rw [Outcome.raise, hm] at hm'; cases hm'
  | dropTurn => exact absurd (hm.symm.trans hm') (by decide)
  | dropMove => exact absurd (hm.symm.trans hm') (by decide)
  | _ => exact absurd (hm.symm.trans ‹s.mode = _›) (by decide)

/-- A drop brings the carried key to within 0.14 of the plate's centre, and so onto the plate. -/
theorem release_on_plate (es : List (Event ℝ)) (i : TickIn ℝ) (cx cy x y yaw : ℝ)
    (hplate : lastTarget .plate es = some (cx, cy))
    (hpose : getRobotPose i.mapTf = some (x, y, yaw))
    (hm : (missionRun .default es).node.mode = .dropAlign)
    (hm' : (missionRun .default (es ++ [.tick i])).node.mode = .dropOpen) :
    ‖toPlane (carriedKey .default x y yaw) - toPlane (cx, cy)‖ ≤ 0.14 ∧
      ∀ c : DoorController ℝ, 0.09 ≤ c.plateBboxXy.1 → 0.09 ≤ c.plateBboxXy.2 →
        ∀ f : ℂ → ℂ, Isometry f →
          c.xyTriggered .default
            ((f (toPlane (carriedKey .default x y yaw))).re - (f (toPlane (cx, cy))).re)
            ((f (toPlane (carriedKey .default x y yaw))).im - (f (toPlane (cx, cy))).im) =
              true := by
  have hr : (missionRun Params.default es).raised = none := by
    cases hr : (missionRun Params.default es).raised with
    | none => rfl
    | some e =>
      rw [missionRun_concat, step, hr] at hm'
      exact absurd (hm.symm.trans hm') (by decide)
  rw [missionRun_concat, step_tick hr] at hm'
  obtain ⟨_, _, _, _, px, py, hp, ht, hb, he⟩ := (tickStep_tick .default i _).release hm hm'
  cases hpose.symm.trans hp
  obtain ⟨o, ho, hheard⟩ := stored_near .default .plate es hr (cx, cy) hplate
  cases ht.symm.trans ho
  rw [hypot_sub (cx, cy) (px, py)] at hheard
  have hnear : ‖toPlane (carriedKey .default x y yaw) - toPlane (cx, cy)‖ ≤ 0.14 := by
    have htriangle := dist_triangle (toPlane (carriedKey .default x y yaw)) (toPlane (px, py))
      (toPlane (cx, cy))
    rw [dist_eq_norm, dist_eq_norm', dist_eq_norm'] at htriangle
    linarith [carriedKey_near hb he]
  refine ⟨hnear, fun c hx hy f hf => ?_⟩
  have hmoved : ‖f (toPlane (carriedKey .default x y yaw)) - f (toPlane (cx, cy))‖ ≤ 0.14 := by
    rw [← dist_eq_norm, hf.dist_eq, dist_eq_norm]
    exact hnear
  have hre := (Complex.abs_re_le_norm _).trans hmoved
  have him := (Complex.abs_im_le_norm _).trans hmoved
  have hmargin : (DoorParams.default : DoorParams ℝ).xyMargin = 0.05 := rfl
  rw [Complex.sub_re] at hre
  rw [Complex.sub_im] at him
  rw [DoorController.xyTriggered, Bool.and_eq_true, decide_eq_true_eq, decide_eq_true_eq, hmargin]
  constructor
  · linarith
  · linarith

/-- A plate of half-extents 0.09 m behind a closed door. -/
noncomputable def smallPlate : DoorController ℝ := ⟨(0.09, 0.09), false⟩

/-- A whole mission up to the drop, with the plate at (0, 1). -/
theorem release_on_plate_carrying : smallPlate.xyTriggered .default
    ((toPlane (carriedKey .default (-0.207) 1 0)).re - (toPlane (0, 1)).re)
    ((toPlane (carriedKey .default (-0.207) 1 0)).im - (toPlane (0, 1)).im) = true := by
  obtain ⟨s, hrun, hs, hm, ht⟩ := missionRun_keyCarried default_usual
  have hplate : lastTarget .plate (promptArrival ++ carrying) = some ((0, 1) : ℝ × ℝ) := rfl
  have hmode : (missionRun .default (promptArrival ++ carrying)).node.mode = .dropAlign := by
    rw [hrun]
    exact hm
  have hmode' : (missionRun .default (promptArrival ++ carrying ++ [.tick atPlate])).node.mode =
      .dropOpen := by
    rw [missionRun_concat, hrun, step_ok_tick, tick_released default_usual hs hm ht]
    rfl
  have h := release_on_plate (promptArrival ++ carrying) atPlate 0 1 (-0.207) 1 0 hplate
    pose_atPlate hmode hmode'
  exact h.2 smallPlate le_rfl le_rfl id isometry_id

end EscapeRoom
