import Mathlib.Analysis.Real.Pi.Bounds
import EscapeRoom.ControlLoop

namespace EscapeRoom
set_option autoImplicit true

open Planar

/-- How well a detector sees the key: within `half` of straight ahead it tells the bearing, and from
the distance `near` on also the range. -/
structure Eyesight where
  half : ℝ
  near : ℝ
  bearingError : ℝ
  rangeError : ℝ
  bearingError_nonneg : 0 ≤ bearingError
  bearingError_le : bearingError ≤ 0.005
  rangeError_le : rangeError ≤ 0.05
  wide : 0.12 ≤ half
  engaged : 0.207 + rangeError ≤ near
  reach : near + rangeError ≤ 0.885

/-- What may be told of a key at `q`. -/
structure Eyesight.Sees (v : Eyesight) (q : ℝ × ℝ) (r : Robot) (z : ℂ) : Prop where
  bearing : |r.bearing q| ≤ v.half → |z.arg - r.bearing q| ≤ v.bearingError
  range : |r.bearing q| ≤ v.half → v.near ≤ ‖r.sees q‖ → |‖z‖ - ‖r.sees q‖| ≤ v.rangeError

/-- Messages with a detection that is fresh when the timer fires, and the last one before it. -/
inductive Detects (v : Eyesight) (q : ℝ × ℝ) (r : Robot) (clock : ℝ) : List (Event ℝ) → Prop where
  | seen (earlier later : List (Event ℝ)) (z : ℂ) (t : ℝ) (hz : v.Sees q r z)
      (hfresh : clock - t ≤ (Params.default : Params ℝ).cubeLiveTimeout)
      (hlast : ∀ e ∈ later, ∀ x y t, e ≠ .cubeLive x y t) :
      Detects v q r clock (earlier ++ [.cubeLive z.re z.im t] ++ later)

/-- Wherever the robot is, the key at `q` is seen in this period. -/
def Period.Sighted (v : Eyesight) (q : ℝ × ℝ) (i : Period) : Prop :=
  ∀ r, Detects v q r i.tick.clock (i.messages r)

theorem Eyesight.Sees.abs_bearing_le {v : Eyesight} (h : v.Sees q r z)
    (hr : |r.bearing q| ≤ v.half) : |r.bearing q| ≤ |z.arg| + v.bearingError := by
  have hoff := h.bearing hr
  have hsub := abs_sub_abs_le_abs_sub (r.bearing q) z.arg
  rw [abs_sub_comm] at hsub
  linarith

theorem Eyesight.Sees.abs_arg_le {v : Eyesight} (h : v.Sees q r z)
    (hr : |r.bearing q| ≤ v.half) : |z.arg| ≤ |r.bearing q| + v.bearingError := by
  have hoff := h.bearing hr
  have hsub := abs_sub_abs_le_abs_sub z.arg (r.bearing q)
  linarith

section handlers

variable {s : Node ℝ} {i : TickIn ℝ} {z : ℂ} {t : ℝ}

theorem cubeFresh_of_age (hc : s.cubeLive = some (z.re, z.im, t))
    (ht : i.clock - t ≤ (Params.default : Params ℝ).cubeLiveTimeout) :
    s.cubeFresh .default i = true := by
  simp only [Node.cubeFresh, hc, decide_eq_true_eq]
  exact ht

/-- What `_pickup_align` does before the lunge, in terms of where the key is reported. -/
theorem pickupAlign_eq {start : ℝ × ℝ} (hl : s.lungeActive = false)
    (hc : s.cubeLive = some (z.re, z.im, t))
    (ht : i.clock - t ≤ (Params.default : Params ℝ).cubeLiveTimeout)
    (ho : getOdomPose i.odomTf = some start) : s.pickupAlign .default i =
      if |z.arg| > 0.08 then .ok (s.drive .default 0 (1.5 * z.arg) true)
      else if ‖z‖ ≤ 0.9 then .ok { s with
        lungeActive := true
        lungeStart := some start
        lungeDist := max 0 (‖z‖ - 0.177 - 0.03) }.stop
      else .ok (s.drive .default (0.5 * (‖z‖ - 0.177)) (0.5 * z.arg) true) := by
  have htol : (Params.default : Params ℝ).alignYawTol = 0.08 := rfl
  have hnear : (Params.default : Params ℝ).pickupLungeStart = 0.9 := by norm_num [Params.default]
  simp only [Node.pickupAlign, hl, cubeFresh_of_age hc ht, hc, ho, hypot_eq, htol, hnear]
  rfl

/-- What it does during the lunge. -/
theorem pickupLunge_eq {pose start : ℝ × ℝ} (hl : s.lungeActive = true)
    (hc : s.cubeLive = some (z.re, z.im, t))
    (ht : i.clock - t ≤ (Params.default : Params ℝ).cubeLiveTimeout)
    (ho : getOdomPose i.odomTf = some pose) (hstart : s.lungeStart = some start) :
    s.pickupAlign .default i =
      if s.lungeDist ≤ ‖toPlane pose - toPlane start‖ then
        .ok ({ s.stop with lungeActive := false }.engageCube i)
      else .ok (s.drive .default 0.06 (0.5 * z.arg) false) := by
  have hbearing : s.lungeBearing .default i = z.arg := by
    simp only [Node.lungeBearing, hc, cubeFresh_of_age hc ht]
    rfl
  simp only [Node.pickupAlign, hl, Node.pickupLunge, ho, hstart, hypot_sub, hbearing]
  rfl

end handlers

/-- A turn by what is seen of a bearing that is not yet small. -/
theorem abs_turn_le {θ b : ℝ} (hb : |b| > 0.08) (herr : |b - θ| ≤ 0.005) :
    |θ - clamp (1.5 * b) (-0.6) 0.6 / 4| + 0.03 ≤ |θ| := by
  have herr' := abs_le.1 herr
  obtain hpos | hneg := le_total 0 b
  · rw [abs_of_nonneg hpos] at hb
    rw [clamp_of_nonneg (by norm_num) (by positivity)]
    have hlow : 0.12 ≤ min 0.6 (1.5 * b) := le_min (by norm_num) (by linarith)
    have hhigh : min 0.6 (1.5 * b) ≤ 1.5 * b := min_le_right _ _
    rw [abs_of_nonneg (by linarith), abs_of_nonneg (by linarith)]
    linarith
  · rw [abs_of_nonpos hneg] at hb
    rw [clamp_of_nonpos (by norm_num) (by linarith)]
    have hlow : 1.5 * b ≤ max (-0.6) (1.5 * b) := le_max_right _ _
    have hhigh : max (-0.6) (1.5 * b) ≤ -0.12 := max_le (by norm_num) (by linarith)
    rw [abs_of_nonpos (by linarith), abs_of_nonpos (by linarith)]
    linarith

theorem abs_arg_turn_le {z : ℂ} {φ : ℝ} (h : |z.arg - φ| < Real.pi) :
    |(heading (-φ) * z).arg| ≤ |z.arg - φ| := by
  obtain rfl | hz := eq_or_ne z 0
  · rw [mul_zero, Complex.arg_zero, abs_zero]
    exact abs_nonneg _
  · obtain ⟨hlow, hhigh⟩ := abs_lt.1 h
    rw [arg_heading_mul hz ⟨by linarith, by linarith⟩, ← sub_eq_add_neg]

/-- Forward by a tick's advance, a point ahead comes closer by nearly all of it. -/
theorem norm_advance_le {z : ℂ} (hz : |z.arg| ≤ 0.12) (hfar : 0.157 ≤ ‖z‖) :
    ‖z - (0.015 : ℝ)‖ ≤ ‖z‖ - 0.99 * 0.015 := by
  have hsq := norm_sub_ofReal_sq_le z (by norm_num : (0 : ℝ) ≤ 0.015)
  have harg : z.arg ^ 2 ≤ 0.12 ^ 2 := sq_le_sq' (abs_le.1 hz).1 (abs_le.1 hz).2
  have hmul : ‖z‖ * 0.015 * z.arg ^ 2 ≤ ‖z‖ * 0.015 * 0.12 ^ 2 :=
    mul_le_mul_of_nonneg_left harg (by positivity)
  apply abs_le_of_sq_le_sq' _ (by linarith) |>.2
  nlinarith

/-- The advance does not lose a point ahead, but for what its bearing is off. -/
theorem abs_arg_advance_turn_le {z : ℂ} {b δ : ℝ} (hz : |z.arg| ≤ 0.12) (hfar : 0.157 ≤ ‖z‖)
    (hb : |b - z.arg| ≤ δ) (hδ : δ ≤ 0.005) :
    |(heading (-(b / 8)) * (z - (0.015 : ℝ))).arg| ≤ |z.arg| + δ / 8 := by
  have hpi := Real.two_le_pi
  have hexact : |(heading (-(z.arg / 8)) * (z - (0.015 : ℝ))).arg| ≤ |z.arg| := by
    apply abs_arg_advance_le (hz.trans (by norm_num)) (by linarith)
    exact .inr (by linarith)
  have hsplit : heading (-(b / 8)) * (z - (0.015 : ℝ)) =
      heading (-((b - z.arg) / 8)) * (heading (-(z.arg / 8)) * (z - (0.015 : ℝ))) := by
    rw [← mul_assoc, heading_mul]
    congr 2
    ring
  generalize heading (-(z.arg / 8)) * (z - (0.015 : ℝ)) = w at hexact hsplit
  have hoff : |w.arg - (b - z.arg) / 8| ≤ |z.arg| + δ / 8 := by
    apply (abs_sub _ _).trans
    rw [abs_div, abs_of_pos (by norm_num : (0 : ℝ) < 8)]
    linarith
  rw [hsplit]
  exact (abs_arg_turn_le (by linarith)).trans hoff

/-- Facing the key, neither clamp of the turn is reached. -/
theorem angular_half {b : ℝ} (cap : Bool) (linear : ℝ) (hb : |b| ≤ 0.13) :
    (driveTwist .default linear (0.5 * b) cap : Twist ℝ).angularZ / 4 = b / 8 := by
  have habs := abs_le.1 hb
  have hturn : clamp (0.5 * b) (-0.6) 0.6 = 0.5 * b := by
    rw [clamp, min_eq_right (by linarith), max_eq_right (by linarith)]
  have hangular : (driveTwist .default linear (0.5 * b) cap : Twist ℝ).angularZ = 0.5 * b := hturn
  rw [hangular]
  ring

theorem same_live_run {p : Params ℝ} {o : Outcome ℝ} {es : List (Event ℝ)}
    (hes : ∀ e ∈ es, ∀ j, e ≠ .tick j) (hc : ∀ e ∈ es, ∀ x y t, e ≠ .cubeLive x y t) :
    (Runs.run (step p) o es).node.cubeLive = o.node.cubeLive := by
  induction es generalizing o with
  | nil => rfl
  | cons e es ih =>
    obtain ⟨he, hes⟩ := List.forall_mem_cons.1 hes
    obtain ⟨hce, hc⟩ := List.forall_mem_cons.1 hc
    have hstep := eventStep_step p o e
    rw [Runs.run_cons, ih hes hc]
    generalize step p o e = o' at hstep
    cases hstep with
    | tick j => exact absurd rfl (he j)
    | cubeLive x y t => exact absurd rfl (hce x y t)
    | _ => rfl

namespace ControlLoop

section loop

variable {g : Motion} {v : Eyesight} {q start : ℝ × ℝ} {i : Period} {w : ControlLoop} {z : ℂ}
  {t : ℝ}

/-- What the tick of the period goes by. -/
structure Seen (v : Eyesight) (q : ℝ × ℝ) (i : Period) (w : ControlLoop) (z : ℂ) (t : ℝ) :
    Prop where
  sees : v.Sees q w.robot z
  live : (w.told i).node.cubeLive = some (z.re, z.im, t)
  fresh : i.tick.clock - t ≤ (Params.default : Params ℝ).cubeLiveTimeout

theorem In.seen (h : w.In .pickupAlign) (hi : i.Regular) (hv : i.Sighted v q) :
    ∃ z t, w.Seen v q i z t := by
  have hplaced := h.placed_eq rfl i
  have hdetects := hv w.robot
  have htold : w.told i = Runs.run (step .default) w.node (i.messages w.robot) := by
    rw [told, hplaced]
  have htimed := hi.once w.robot
  generalize i.messages w.robot = es at hdetects htold htimed
  cases hdetects with
  | seen earlier later z t hz hfresh hlast =>
    refine ⟨z, t, hz, ?_, hfresh⟩
    have hearlier : ∀ e ∈ earlier, ∀ j, e ≠ .tick j := fun e he =>
      htimed e (List.mem_append_left _ (List.mem_append_left _ he))
    have hlater : ∀ e ∈ later, ∀ j, e ≠ .tick j := fun e he =>
      htimed e (List.mem_append_right _ he)
    obtain ⟨hr, _⟩ := kept_run (p := .default) hearlier h.raised
    rw [htold, Runs.run_append, same_live_run hlater hlast, Runs.run_concat, step, hr]
    rfl

variable (g) in
theorem In.ticked_align (h : w.In .pickupAlign) (hi : i.Regular) :
    w.ticked g i = (w.told i).node.pickupAlign .default (i.tickIn g w.robot) := by
  rw [h.ticked_eq g hi (by simp), h.placed_eq rfl, Node.handle, h.told_mode hi]

theorem getOdomPose_tickIn (g : Motion) (i : Period) (r : Robot) :
    getOdomPose (i.tickIn g r).odomTf = some (movePoint g (r.x, r.y)) := rfl

/-- Servoing on the key. -/
structure Aligning (v : Eyesight) (q : ℝ × ℝ) (w : ControlLoop) : Prop
    extends w.In .pickupAlign where
  idle : w.node.node.lungeActive = false
  view : |w.robot.bearing q| ≤ v.half
  far : v.near ≤ ‖w.robot.sees q‖

/-- How far the robot is from where a lunge started. -/
noncomputable def advanced (start : ℝ × ℝ) (w : ControlLoop) : ℝ :=
  ‖toPlane (w.robot.x, w.robot.y) - toPlane start‖

/-- How far the key is from there. -/
noncomputable def distance (start q : ℝ × ℝ) : ℝ := ‖toPlane q - toPlane start‖

/-- A lunge from `start`. The key was seen ahead there, and what is off of its bearing in every
period adds up with the way. -/
structure Lunging (g : Motion) (v : Eyesight) (start q : ℝ × ℝ) (w : ControlLoop) : Prop
    extends w.In .pickupAlign where
  active : w.node.node.lungeActive = true
  begun : w.node.node.lungeStart = some (movePoint g start)
  dist : |w.node.node.lungeDist - (distance start q - 0.207)| ≤ v.rangeError
  close : distance start q ≤ 0.9 + v.rangeError
  ahead : |w.robot.bearing q| ≤
    0.08 + v.bearingError + 8.5 * v.bearingError * (distance start q - ‖w.robot.sees q‖)
  closer : 0.99 * w.advanced start ≤ distance start q - ‖w.robot.sees q‖
  short : w.advanced start < w.node.node.lungeDist + 0.015

/-- The jaws close on the key: it is ahead, and as far away as they reach. -/
structure Gripping (v : Eyesight) (q : ℝ × ℝ) (w : ControlLoop) : Prop
    extends w.In .pickupClose where
  closing : w.node.node.out.getLast? = some (.gripper .close)
  still : lastTwist w.node.node.out = some .zero
  ahead : |w.robot.bearing q| ≤ 0.08 + 8 * v.bearingError
  low : 0.192 - v.rangeError ≤ ‖w.robot.sees q‖
  high : ‖w.robot.sees q‖ ≤ 0.215 + v.rangeError

theorem norm_sees_eq (r : Robot) (q : ℝ × ℝ) : ‖r.sees q‖ = distance (r.x, r.y) q := by
  rw [distance, Robot.sees_eq, norm_mul, norm_heading, one_mul]

/-- The key keeps its place while the robot lunges. -/
theorem distance_le (start q : ℝ × ℝ) (w : ControlLoop) :
    distance start q ≤ ‖w.robot.sees q‖ + w.advanced start := by
  rw [norm_sees_eq]
  exact norm_sub_le_norm_sub_add_norm_sub _ _ _

/-- Before the lunge, turns bring the bearing down and advances the distance. -/
noncomputable def toLunge (q : ℝ × ℝ) (w : ControlLoop) : ℝ :=
  |w.robot.bearing q| + ‖w.robot.sees q‖

/-- The servoing goes on under a command of its own. -/
theorem Aligning.driven (h : w.Aligning v q) (hi : i.Regular) {linear angular : ℝ} {cap : Bool}
    (hw : w.ticked g i = .ok ((w.told i).node.drive .default linear angular cap)) :
    (w.period g i).In .pickupAlign ∧ (w.period g i).node.node.lungeActive = false ∧
      (w.period g i).robot.sees q =
        heading (-((driveTwist .default linear angular cap).angularZ / 4)) *
          (w.robot.sees q - ((driveTwist .default linear angular cap).linearX / 4 : ℝ)) := by
  have hmode := h.told_mode hi
  refine ⟨h.next hw hmode, ?_, ?_⟩
  · rw [h.period_drive hi rfl hmode hw]
    exact (h.told_kept hi).2.lungeActive.trans h.idle
  · rw [h.period_drive hi rfl hmode hw]
    exact w.robot.sees_follow q _

theorem Aligning.turned (h : w.Aligning v q) (hi : i.Regular) (hz : w.Seen v q i z t)
    (hb : |z.arg| > 0.08)
    (hw : w.ticked g i = .ok ((w.told i).node.drive .default 0 (1.5 * z.arg) true)) :
    (w.period g i).Aligning v q ∧ (w.period g i).toLunge q + 0.01 ≤ w.toLunge q := by
  have hpi := Complex.abs_arg_le_pi (w.robot.sees q)
  have hoff := (hz.sees.bearing h.view).trans v.bearingError_le
  have hturn := abs_turn_le hb hoff
  obtain ⟨hpicking, hidle, hseen⟩ := h.driven hi hw
  have hstill : (driveTwist .default 0 (1.5 * z.arg) true : Twist ℝ).linearX / 4 =
      0 := by
    norm_num [driveTwist, clamp, Params.default]
  have hangular : (driveTwist .default 0 (1.5 * z.arg) true :
      Twist ℝ).angularZ / 4 = clamp (1.5 * z.arg) (-0.6) 0.6 / 4 := rfl
  rw [hstill, hangular, Complex.ofReal_zero, sub_zero] at hseen
  have hnorm : ‖(w.period g i).robot.sees q‖ = ‖w.robot.sees q‖ := by
    rw [hseen, norm_mul, norm_heading, one_mul]
  have hbearing : |(w.period g i).robot.bearing q| ≤
      |w.robot.bearing q - clamp (1.5 * z.arg) (-0.6) 0.6 / 4| := by
    rw [Robot.bearing_eq, Robot.bearing_eq, hseen]
    rw [Robot.bearing_eq] at hturn
    exact abs_arg_turn_le (by linarith)
  refine ⟨⟨hpicking, hidle, by linarith [h.view], hnorm.ge.trans' h.far⟩, ?_⟩
  rw [toLunge, toLunge, hnorm]
  linarith

/-- An advance of 0.015 m in a period, with the turn that goes with it. -/
theorem sees_advance {r r' : Robot} {b δ : ℝ} (hb : |b - r.bearing q| ≤ δ) (hδ : δ ≤ 0.005)
    (hr : |r.bearing q| ≤ 0.12) (hfar : 0.157 ≤ ‖r.sees q‖)
    (hr' : r'.sees q = heading (-(b / 8)) * (r.sees q - (0.015 : ℝ))) :
    |r'.bearing q| ≤ |r.bearing q| + δ / 8 ∧ ‖r'.sees q‖ ≤ ‖r.sees q‖ - 0.99 * 0.015 ∧
      ‖r.sees q‖ - 0.015 ≤ ‖r'.sees q‖ := by
  have hnorm : ‖r'.sees q‖ = ‖r.sees q - (0.015 : ℝ)‖ := by
    rw [hr', norm_mul, norm_heading, one_mul]
  refine ⟨?_, ?_, ?_⟩
  · rw [Robot.bearing_eq, hr']
    exact abs_arg_advance_turn_le hr hfar hb hδ
  · rw [hnorm]
    exact norm_advance_le hr hfar
  · have htriangle := norm_sub_norm_le (r.sees q) ((0.015 : ℝ) : ℂ)
    rw [Complex.norm_real, Real.norm_of_nonneg (by norm_num)] at htriangle
    rw [hnorm]
    exact htriangle

theorem Aligning.advances (h : w.Aligning v q) (hi : i.Regular) (hz : w.Seen v q i z t)
    (hb : |z.arg| ≤ 0.08) (hr : 0.9 < ‖z‖)
    (hw : w.ticked g i = .ok ((w.told i).node.drive .default (0.5 * (‖z‖ - 0.177))
      (0.5 * z.arg) true)) :
    (w.period g i).Aligning v q ∧ (w.period g i).toLunge q + 0.01 ≤ w.toLunge q := by
  have hoff := hz.sees.bearing h.view
  have hoff' := abs_le.1 (hz.sees.range h.view h.far)
  have hδ := v.bearingError_le
  have hreach := v.reach
  have hengaged := v.engaged
  have hε := v.rangeError_le
  obtain ⟨hpicking, hidle, hseen⟩ := h.driven hi hw
  -- beyond 0.9 m the advance is always the largest
  have hlinear : (driveTwist .default (0.5 * (‖z‖ - 0.177))
      (0.5 * z.arg) true : Twist ℝ).linearX / 4 = 0.015 := by
    have hcap : clamp (0.5 * (‖z‖ - 0.177)) (-0.06) 0.06 = (0.06 : ℝ) := by
      rw [clamp_of_nonneg (by norm_num) (by linarith), min_eq_left (by linarith)]
    have hcap' : (driveTwist .default (0.5 * (‖z‖ - 0.177))
      (0.5 * z.arg) true : Twist ℝ).linearX = 0.06 := hcap
    rw [hcap']
    norm_num
  rw [hlinear, angular_half true _ (by linarith)] at hseen
  have hahead := hz.sees.abs_bearing_le h.view
  obtain ⟨hbearing, hcloser, hfar⟩ :=
    sees_advance hoff hδ (by linarith) (by linarith [hoff'.2]) hseen
  refine ⟨⟨hpicking, hidle, ?_, ?_⟩, ?_⟩
  · linarith [v.wide]
  · linarith [hoff'.2]
  · rw [toLunge, toLunge]
    linarith

/-- The tick that freezes the rest of the way. -/
theorem Aligning.freezes (h : w.Aligning v q) (hi : i.Regular) (hz : w.Seen v q i z t)
    (hb : |z.arg| ≤ 0.08) (hr : ‖z‖ ≤ 0.9)
    (hw : w.ticked g i = .ok { (w.told i).node with
      lungeActive := true
      lungeStart := some (movePoint g (w.robot.x, w.robot.y))
      lungeDist := max 0 (‖z‖ - 0.177 - 0.03) }.stop) :
    (w.period g i).Lunging g v (w.robot.x, w.robot.y) q := by
  have hoff := hz.sees.range h.view h.far
  have hrange := abs_le.1 hoff
  have hengaged := v.engaged
  have hfar := h.far
  have hdist : max 0 (‖z‖ - 0.177 - 0.03) = ‖z‖ - 0.207 := by
    rw [max_eq_right (by linarith)]
    ring
  have hhere : w.advanced (w.robot.x, w.robot.y) = 0 := by
    rw [advanced, sub_self, norm_zero]
  have hin := h.next hw (h.told_mode hi)
  rw [period_still hi hw (.inr (lastTwist_stop _)), h.placed_eq rfl] at hin ⊢
  refine ⟨hin, rfl, rfl, ?_, ?_, ?_, ?_, ?_⟩
  · rw [← norm_sees_eq]
    change |max 0 (‖z‖ - 0.177 - 0.03) - _| ≤ _
    rw [hdist, sub_sub_sub_cancel_right]
    exact hoff
  · rw [← norm_sees_eq]
    linarith
  · rw [← norm_sees_eq, sub_self, mul_zero, add_zero]
    exact (hz.sees.abs_bearing_le h.view).trans (add_le_add_left hb _)
  · rw [← norm_sees_eq, sub_self]
    change 0.99 * w.advanced (w.robot.x, w.robot.y) ≤ 0
    rw [hhere, mul_zero]
  · change w.advanced (w.robot.x, w.robot.y) < max 0 (‖z‖ - 0.177 - 0.03) + 0.015
    rw [hhere, hdist]
    linarith

variable (g) in
theorem aligning_step (h : w.Aligning v q) (hi : i.Regular) (hv : i.Sighted v q) :
    (∃ start, (w.period g i).Lunging g v start q) ∨
      (w.period g i).Aligning v q ∧ (w.period g i).toLunge q + 0.01 ≤ w.toLunge q := by
  obtain ⟨z, t, hz⟩ := h.seen hi hv
  have hidle := (h.told_kept hi).2.lungeActive.trans h.idle
  have hw := h.ticked_align g hi
  rw [pickupAlign_eq (i := i.tickIn g w.robot) hidle hz.live hz.fresh
    (getOdomPose_tickIn g i w.robot)] at hw
  by_cases hb : |z.arg| > 0.08
  · rw [if_pos hb] at hw
    exact .inr (h.turned hi hz hb hw)
  rw [if_neg hb] at hw
  rw [not_lt] at hb
  by_cases hr : ‖z‖ ≤ 0.9
  · rw [if_pos hr] at hw
    exact .inl ⟨_, h.freezes hi hz hb hr hw⟩
  · rw [if_neg hr] at hw
    exact .inr (h.advances hi hz hb (not_le.1 hr) hw)

theorem advanced_follow (start : ℝ × ℝ) (w : ControlLoop) (o : Outcome ℝ) (t : Twist ℝ) :
    advanced start ⟨o, w.robot.follow t⟩ ≤ w.advanced start + |t.linearX / 4| := by
  have hstep : ‖((t.linearX / 4 : ℝ) : ℂ) * heading w.robot.yaw‖ = |t.linearX / 4| := by
    rw [norm_mul, norm_heading, mul_one, Complex.norm_real, Real.norm_eq_abs]
  rw [advanced, Robot.toPlane_follow, add_sub_right_comm, ← hstep]
  exact norm_add_le _ _

theorem Lunging.way_le (h : w.Lunging g v start q) :
    distance start q - ‖w.robot.sees q‖ ≤ 0.81 := by
  have hε := v.rangeError_le
  have hdist := abs_le.1 h.dist
  have hdistance := distance_le start q w
  have hclose := h.close
  have hshort := h.short
  linarith

/-- What the tolerances leave of the bearing on the way. -/
theorem Lunging.bearing_le (h : w.Lunging g v start q) :
    |w.robot.bearing q| ≤ 0.08 + 7.9 * v.bearingError := by
  have hahead := h.ahead
  have hδ := v.bearingError_nonneg
  have hmul := mul_le_mul_of_nonneg_left h.way_le hδ
  linarith

/-- The lunge ends where the jaws reach the key. -/
theorem Lunging.ends (h : w.Lunging g v start q) (hi : i.Regular) {s : Node ℝ}
    (hend : w.node.node.lungeDist ≤ w.advanced start)
    (hw : w.ticked g i =
      .ok ({ s.stop with lungeActive := false }.engageCube (i.tickIn g w.robot))) :
    (w.period g i).Gripping v q := by
  have hε := v.rangeError_le
  have hdist := abs_le.1 h.dist
  have hdistance := distance_le start q w
  have hclose := h.close
  have hcloser := h.closer
  have hshort := h.short
  have hδ := v.bearingError_nonneg
  have hlast : lastTwist
      ({ s.stop with lungeActive := false }.engageCube (i.tickIn g w.robot)).out = some .zero := by
    rw [Node.engageCube, Node.gripperClose, Node.emit, lastTwist_append_silent rfl]
    exact (lastTwist_transition .pickupClose _).trans (lastTwist_stop s)
  have hin := h.next hw rfl
  rw [period_still hi hw (.inr hlast), h.placed_eq rfl] at hin ⊢
  refine ⟨hin, List.getLast?_concat, hlast, ?_, ?_, ?_⟩
  · exact h.bearing_le.trans (by linarith)
  · linarith
  · linarith

/-- The lunge goes on. -/
theorem Lunging.advances (h : w.Lunging g v start q) (hi : i.Regular) (hz : w.Seen v q i z t)
    (hway : w.advanced start < w.node.node.lungeDist)
    (hw : w.ticked g i =
      .ok ((w.told i).node.drive .default 0.06 (0.5 * z.arg) false)) :
    (w.period g i).Lunging g v start q ∧
      ‖(w.period g i).robot.sees q‖ + 0.01 ≤ ‖w.robot.sees q‖ := by
  have hε := v.rangeError_le
  have hδ := v.bearingError_le
  have hdist := abs_le.1 h.dist
  have hdistance := distance_le start q w
  have hclose := h.close
  have hcloser := h.closer
  have hahead := h.bearing_le
  have hview : |w.robot.bearing q| ≤ v.half := by linarith [v.wide]
  have hoff := hz.sees.bearing hview
  have hturn := hz.sees.abs_arg_le hview
  have hlinear : (driveTwist .default 0.06 (0.5 * z.arg) false : Twist ℝ).linearX / 4 = 0.015 := by
    have hfull : (driveTwist .default 0.06 (0.5 * z.arg) false : Twist ℝ).linearX = 0.06 := rfl
    rw [hfull]
    norm_num
  have hseen := w.robot.sees_follow q (driveTwist .default 0.06 (0.5 * z.arg) false)
  rw [hlinear, angular_half false _ (by linarith)] at hseen
  obtain ⟨hbearing, hless, _⟩ := sees_advance hoff hδ (by linarith) (by linarith) hseen
  have hmode := h.told_mode hi
  have hkept := (h.told_kept hi).2
  have hin := h.next hw hmode
  rw [h.period_drive hi rfl hmode hw] at hin ⊢
  have hstep := advanced_follow start w
    (.ok ((w.told i).node.drive .default 0.06 (0.5 * z.arg) false))
    (driveTwist .default 0.06 (0.5 * z.arg) false)
  rw [hlinear, abs_of_nonneg (by norm_num)] at hstep
  have hgrow := mul_le_mul_of_nonneg_left hless v.bearingError_nonneg
  refine ⟨⟨hin, hkept.lungeActive.trans h.active, hkept.lungeStart.trans h.begun, ?_, hclose, ?_,
    by linarith, ?_⟩, by linarith⟩
  · change |(w.told i).node.lungeDist - _| ≤ _
    rw [hkept.lungeDist]
    exact h.dist
  · linarith [h.ahead, v.bearingError_nonneg]
  · change _ < (w.told i).node.lungeDist + _
    rw [hkept.lungeDist]
    linarith

theorem lunging_step (h : w.Lunging g v start q) (hi : i.Regular) (hv : i.Sighted v q) :
    (w.period g i).Gripping v q ∨ (w.period g i).Lunging g v start q ∧
      ‖(w.period g i).robot.sees q‖ + 0.01 ≤ ‖w.robot.sees q‖ := by
  obtain ⟨z, t, hz⟩ := h.seen hi hv
  have hkept := (h.told_kept hi).2
  have hw := h.ticked_align g hi
  have hmoved : ‖toPlane (movePoint g (w.robot.x, w.robot.y)) - toPlane (movePoint g start)‖ =
      w.advanced start := norm_movePoint_sub g _ _
  rw [pickupLunge_eq (i := i.tickIn g w.robot) (hkept.lungeActive.trans h.active) hz.live hz.fresh
    (getOdomPose_tickIn g i w.robot) (hkept.lungeStart.trans h.begun), hmoved,
    hkept.lungeDist] at hw
  by_cases hend : w.node.node.lungeDist ≤ w.advanced start
  · rw [if_pos hend] at hw
    exact .inl (h.ends hi hend hw)
  · rw [if_neg hend] at hw
    exact .inr (h.advances hi hz (not_le.1 hend) hw)

end loop

section run

variable {g : Motion} {v : Eyesight} {q : ℝ × ℝ} {w : ControlLoop} {ins : Nat → Period}

/-- In every period of the servoing the key is seen. -/
structure Watched (g : Motion) (v : Eyesight) (q : ℝ × ℝ) (w : ControlLoop) (ins : Nat → Period) :
    Prop where
  regular : ∀ n, (ins n).Regular
  sighted : ∀ n, (w.after g ins n).node.node.mode = .pickupAlign → (ins n).Sighted v q

theorem aligning_leads (hw : Watched g v q w ins) :
    Temporal.LeadsTo (w.after g ins) (Aligning v q) fun w => ∃ start, w.Lunging g v start q :=
  .of_rank (toLunge q) (by norm_num : (0 : ℝ) < 0.01)
    (fun _ _ => add_nonneg (abs_nonneg _) (norm_nonneg _))
    fun n h => aligning_step g h (hw.regular n) (hw.sighted n h.mode)

theorem lunging_leads (hw : Watched g v q w ins) :
    Temporal.LeadsTo (w.after g ins) (fun w => ∃ start, w.Lunging g v start q) (Gripping v q) := by
  refine .of_rank (fun w => ‖w.robot.sees q‖) (by norm_num : (0 : ℝ) < 0.01)
    (fun _ _ => norm_nonneg _) fun n hn => ?_
  obtain ⟨start, h⟩ := hn
  exact (lunging_step h (hw.regular n) (hw.sighted n h.mode)).imp_right
    fun ⟨h', hless⟩ => ⟨⟨start, h'⟩, hless⟩

/-- The two phases of the servoing. -/
inductive Servoing (g : Motion) (v : Eyesight) (q : ℝ × ℝ) (w : ControlLoop) : Prop where
  | aligning (h : w.Aligning v q)
  | lunging (start : ℝ × ℝ) (h : w.Lunging g v start q)

theorem Servoing.toIn (h : w.Servoing g v q) : w.In .pickupAlign := by
  cases h with
  | aligning h => exact h.toIn
  | lunging start h => exact h.toIn

theorem Servoing.view (h : w.Servoing g v q) : |w.robot.bearing q| ≤ v.half := by
  cases h with
  | aligning h => exact h.view
  | lunging start h => linarith [h.bearing_le, v.bearingError_le, v.wide]

theorem servoing_step {i : Period} (h : w.Servoing g v q) (hi : i.Regular) (hv : i.Sighted v q) :
    (w.period g i).Servoing g v q ∨ (w.period g i).Gripping v q := by
  cases h with
  | aligning h =>
    obtain ⟨start, hnext⟩ | ⟨hstay, -⟩ := aligning_step g h hi hv
    · exact .inl (.lunging start hnext)
    · exact .inl (.aligning hstay)
  | lunging start h =>
    obtain hnext | ⟨hstay, -⟩ := lunging_step h hi hv
    · exact .inr hnext
    · exact .inl (.lunging start hstay)

theorem servoing_leads (hw : Watched g v q w ins) :
    Temporal.LeadsTo (w.after g ins) (Servoing g v q) (Gripping v q) := by
  intro n hn
  cases hn with
  | aligning hn => exact ((aligning_leads hw).trans (lunging_leads hw)) n hn
  | lunging start hn => exact lunging_leads hw n ⟨start, hn⟩

/-- Wherever in its view the detector sees the key, `_pickup_align` closes the jaws on it after
finitely many ticks, and nothing else happens until then. -/
theorem pickup_closes_on_key (es : List (Event ℝ)) (r : Robot)
    (hr : (missionRun .default es).raised = none)
    (hm : (missionRun .default es).node.mode = .pickupAlign)
    (hl : (missionRun .default es).node.lungeActive = false) (hview : |r.bearing q| ≤ v.half)
    (hfar : v.near ≤ ‖r.sees q‖) (hw : Watched g v q ⟨missionRun .default es, r⟩ ins) :
    ∃ n, (after g ⟨missionRun .default es, r⟩ ins (n + 1)).Gripping v q ∧
      ∀ k ≤ n, (after g ⟨missionRun .default es, r⟩ ins k).In .pickupAlign ∧
        |(after g ⟨missionRun .default es, r⟩ ins k).robot.bearing q| ≤ v.half := by
  have hstart : Servoing g v q ⟨missionRun .default es, r⟩ :=
    .aligning ⟨⟨hr, missionRun_equipped .default es, hm⟩, hl, hview, hfar⟩
  generalize (⟨missionRun .default es, r⟩ : ControlLoop) = w at hstart hw
  obtain ⟨m, -, hm, hbefore⟩ := (servoing_leads hw).straight (n := 0) hstart fun m hm =>
    servoing_step hm (hw.regular m) (hw.sighted m hm.toIn.mode)
  cases m with
  | zero => cases hstart.toIn.mode.symm.trans hm.mode
  | succ n =>
    refine ⟨n, hm, fun k hk => ?_⟩
    have hservoing := hbefore k k.zero_le (Nat.lt_succ_of_le hk)
    exact ⟨hservoing.toIn, hservoing.view⟩

/-- A detector that reports the key 4 cm too far away and a little too far to the left. -/
noncomputable def skewed : Eyesight where
  half := 1.6
  near := 0.8
  bearingError := 0.005
  rangeError := 0.04
  bearingError_nonneg := by norm_num
  bearingError_le := by norm_num
  rangeError_le := by norm_num
  wide := by norm_num
  engaged := by norm_num
  reach := by norm_num

noncomputable def reportedAt (q : ℝ × ℝ) (r : Robot) : ℂ :=
  ((‖r.sees q‖ + 0.04 : ℝ) : ℂ) * heading (r.bearing q + 0.005)

theorem skewed_sees (q : ℝ × ℝ) (r : Robot) : skewed.Sees q r (reportedAt q r) := by
  constructor
  · intro hr
    have hhalf : |r.bearing q| ≤ 1.6 := hr
    obtain ⟨hlow, hhigh⟩ := abs_le.1 hhalf
    have hpi := Real.two_le_pi
    have harg : (reportedAt q r).arg = r.bearing q + 0.005 := by
      rw [reportedAt, Complex.arg_real_mul _ (by positivity)]
      exact arg_heading ⟨by linarith, by linarith⟩
    rw [harg, add_sub_cancel_left, abs_of_nonneg (by norm_num)]
    exact le_rfl
  · intro _ _
    rw [reportedAt, norm_mul, norm_heading, mul_one, Complex.norm_real,
      Real.norm_of_nonneg (by positivity), add_sub_cancel_left, abs_of_nonneg (by norm_num)]
    exact le_rfl

/-- From the origin it has a key at (1, 1) in view, too far away for the lunge. -/
theorem skewed_view : |(⟨0, 0, 0⟩ : Robot).bearing (1, 1)| ≤ skewed.half ∧
    skewed.near ≤ ‖(⟨0, 0, 0⟩ : Robot).sees (1, 1)‖ := by
  have hseen : (⟨0, 0, 0⟩ : Robot).sees (1, 1) = ⟨1, 1⟩ := by
    rw [Robot.sees_eq]
    apply Complex.ext
    · simp [toPlane, heading]
    · simp [toPlane, heading]
  rw [Robot.bearing_eq, hseen]
  constructor
  · have hright := Complex.abs_arg_le_pi_div_two_iff.2 (by norm_num : (0 : ℝ) ≤ (⟨1, 1⟩ : ℂ).re)
    have hpi := Real.pi_lt_d2
    have hhalf : skewed.half = 1.6 := rfl
    linarith
  · have hre := Complex.re_le_norm ⟨1, 1⟩
    have hnear : skewed.near = 0.8 := rfl
    norm_num at hre
    linarith

/-- The periods of a detector whose messages come half a second before the tick. -/
noncomputable def detected (n : Nat) : Period where
  messages r :=
    [.target .plate 0 1, .cubeLive 1 0 0] ++
      [.cubeLive (reportedAt (1, 1) r).re (reportedAt (1, 1) r).im (n * 0.25 - 0.5)] ++
        [.target .cube n 0]
  driven := ⟨0, 0, 0⟩
  moved := Robot.follow
  tick := { tickAtOrigin with clock := n * 0.25 }

theorem detected_regular (n : Nat) : (detected n).Regular := by
  refine ⟨fun r e he j => ?_, fun r t => rfl⟩
  simp only [detected, List.mem_append, List.mem_cons, List.not_mem_nil, or_false] at he
  obtain ((rfl | rfl) | rfl) | rfl := he <;> simp

theorem detected_sighted (n : Nat) : (detected n).Sighted skewed (1, 1) := by
  intro r
  apply Detects.seen
  · exact skewed_sees (1, 1) r
  · norm_num [detected, Params.default]
  · intro e he
    obtain rfl := List.mem_singleton.1 he
    simp

theorem pickup_closes_on_key_abeam :
    ∃ n, (after ⟨1, 0⟩ ⟨missionRun .default (promptArrival ++ [.tick openReply]), ⟨0, 0, 0⟩⟩
        detected (n + 1)).Gripping skewed (1, 1) ∧
      ∀ k ≤ n, (after ⟨1, 0⟩ ⟨missionRun .default (promptArrival ++ [.tick openReply]), ⟨0, 0, 0⟩⟩
          detected k).In .pickupAlign ∧
        |(after ⟨1, 0⟩ ⟨missionRun .default (promptArrival ++ [.tick openReply]), ⟨0, 0, 0⟩⟩
          detected k).robot.bearing (1, 1)| ≤ skewed.half := by
  obtain ⟨s, hrun, hs⟩ := missionRun_promptArrival .default
  have hopened : missionRun .default (promptArrival ++ [.tick openReply]) =
      .ok (s.stop.transition .pickupAlign) := by
    rw [missionRun_concat, hrun, step_ok_tick,
      tick_opened default_usual.timeout hs.started hs.mode hs.actionT]
  refine pickup_closes_on_key _ ⟨0, 0, 0⟩ ?_ ?_ ?_ skewed_view.1 skewed_view.2
    ⟨detected_regular, fun n _ => detected_sighted n⟩
  · rw [hopened]
    rfl
  · rw [hopened]
    rfl
  · rw [hopened]
    exact hs.lunge

end run

end ControlLoop

end EscapeRoom
