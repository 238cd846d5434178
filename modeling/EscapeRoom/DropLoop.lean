import EscapeRoom.ControlLoop
import EscapeRoom.DropAccuracy

namespace EscapeRoom
set_option autoImplicit true

open Planar

/-- No message moves the plate that is stored at `q`. -/
def Event.Settled (q : ℝ × ℝ) : Event ℝ → Prop
  | .target .plate x y => PyMath.hypot (x - q.1) (y - q.2) ≤ 0.1
  | _ => True

def Period.Settled (q : ℝ × ℝ) (i : Period) : Prop := ∀ r, ∀ e ∈ i.messages r, e.Settled q

theorem EventStep.plate_kept {p : Params ℝ} {o o' : Outcome ℝ} (h : EventStep p o e o')
    (he : e.Settled q) (hq : o.node.targets .plate = some q) :
    o'.node.targets .plate = some q := by
  cases h with
  | tick i h =>
    rw [h.perception.targets]
    exact hq
  | target name x y hd =>
    have hne : .plate ≠ name := by
      intro hname
      subst hname
      exact (hd _ _ hq).not_ge he
    exact (Node.setTarget_targets_of_ne hne x y o.node).trans hq
  | _ => exact hq

theorem plate_kept_run {p : Params ℝ} {o : Outcome ℝ} {es : List (Event ℝ)}
    (hes : ∀ e ∈ es, e.Settled q) (hq : o.node.targets .plate = some q) :
    (Runs.run (step p) o es).node.targets .plate = some q := by
  induction es generalizing o with
  | nil => exact hq
  | cons e es ih =>
    obtain ⟨he, hes⟩ := List.forall_mem_cons.1 hes
    exact ih hes ((eventStep_step p o e).plate_kept he hq)

namespace Robot

/-- The robot `d` behind where it is. -/
noncomputable def back (r : Robot) (d : ℝ) : Robot :=
  ⟨r.x - d * Real.cos r.yaw, r.y - d * Real.sin r.yaw, r.yaw⟩

variable (r : Robot) (d : ℝ)

theorem back_zero : r.back 0 = r := by
  simp [back]

theorem toPlane_back : toPlane ((r.back d).x, (r.back d).y) =
    toPlane (r.x, r.y) - d * heading r.yaw := by
  apply Complex.ext
  · simp [toPlane, back, heading]
  · simp [toPlane, back, heading]

/-- A period of `_drop_backup`. -/
theorem follow_back : (r.back d).follow (driveTwist .default (-0.06) 0 false) =
    r.back (d + 0.015) := by
  have hlinear : (driveTwist .default (-0.06) 0 false : Twist ℝ).linearX = -0.06 := rfl
  have hangular : (driveTwist .default (-0.06) 0 false : Twist ℝ).angularZ = 0 := by
    norm_num [driveTwist, clamp, Params.default]
  simp only [follow, back, hlinear, hangular, mk.injEq]
  refine ⟨by ring, by ring, by ring⟩

/-- Arrived at the plate, the carried key is over it. -/
theorem Arrived.near {r : Robot} {q : ℝ × ℝ} (h : r.Arrived q) :
    ‖r.sees q - (0.207 : ℝ)‖ ≤ cornerError := by
  obtain ⟨hb, he⟩ := h
  rw [r.excess_eq] at he
  have hbase := plateInBase_congr (heading_arg_heading r.yaw) r.x r.y q.1 q.2
  have hover : HandsOver { Node.init with targets := fun _ => some q, mode := .dropAlign }
      { tickAtOrigin with mapTf := some r.transform } r.x r.y (heading r.yaw).arg q := by
    apply handsOver_of_tests r.getRobotPose_transform rfl rfl
    · rw [hbase]
      exact hb
    · rw [hbase]
      exact he
  have hle := hover.keyError_le
  rwa [keyError, norm_sub_carriedKey, hbase] at hle

end Robot

namespace ControlLoop

section drop

variable {g : Motion} {i : Period} {w : ControlLoop} {q : ℝ × ℝ} {r : Robot} {t : ℝ} {k : Nat}

/-- Servoing on the plate at `q`. -/
structure Delivering (q : ℝ × ℝ) (w : ControlLoop) : Prop extends w.In .dropAlign where
  plate : w.node.node.targets .plate = some q

/-- The jaws open at `r`, since the time `t`. -/
structure Dropping (r : Robot) (t : ℝ) (w : ControlLoop) : Prop extends w.In .dropOpen where
  place : w.robot = r
  since : w.node.node.actionT = t

/-- `k` ticks into backing away from `r`. -/
structure Backing (g : Motion) (r : Robot) (k : Nat) (w : ControlLoop) : Prop
    extends w.In .dropBackup where
  begun : w.node.node.backupStart = some (movePoint g (r.x, r.y))
  place : w.robot = r.back (k * 0.015)
  short : k ≤ 17

/-- The mission is over, and the robot at rest where it is. -/
structure Parked (r : Robot) (w : ControlLoop) : Prop extends w.In .done where
  place : w.robot = r
  still : lastTwist w.node.node.out = some .zero

theorem In.plate_told (h : w.In m) (hm : m.navigates = false) (hq : i.Settled q)
    (hplate : w.node.node.targets .plate = some q) :
    (w.told i).node.targets .plate = some q := by
  rw [told, h.placed_eq hm]
  exact plate_kept_run (hq w.robot) hplate

variable (g) in
theorem ticked_plate (hplate : (w.told i).node.targets .plate = some q) :
    (w.ticked g i).node.targets .plate = some q := by
  have htick := eventStep_step .default (w.told i) (.tick (i.tickIn g (w.placed i)))
  exact htick.plate_kept trivial hplate

/-- A period under a command of `_drop_align`. -/
theorem Delivering.driven (h : w.Delivering q) (hi : i.Regular) (hq : i.Settled q)
    {linear angular : ℝ}
    (hw : w.ticked g i = .ok ((w.told i).node.drive .default linear angular true)) :
    (w.period g i).Delivering q ∧
      (w.period g i).robot = w.robot.follow (driveTwist .default linear angular true) := by
  have hmode := h.told_mode hi
  have hin := h.next hw hmode
  have hplate := ticked_plate g (h.plate_told rfl hq h.plate)
  rw [hw] at hplate
  rw [h.period_drive hi rfl hmode hw] at hin ⊢
  exact ⟨⟨hin, hplate⟩, rfl⟩

variable (g) in
theorem delivering_step (h : w.Delivering q) (hi : i.Regular) (hq : i.Settled q) :
    (∃ r t, r.Arrived q ∧ (w.period g i).Dropping r t) ∨
      (w.period g i).Delivering q ∧ (w.period g i).robot.toGo q + 0.001 ≤ w.robot.toGo q := by
  have hw := h.ticked_eq g hi (by simp)
  have hdrop : (w.told i).node.dropAlign .default (i.tickIn g w.robot) = _ :=
    dropAlign_eq (h.plate_told rfl hq h.plate) w.robot (i.tickIn g w.robot)
  rw [h.placed_eq rfl, Node.handle, h.told_mode hi] at hw
  dsimp only at hw
  rw [hdrop] at hw
  by_cases hb : |w.robot.bearing q| > 0.08
  · rw [if_pos hb] at hw
    obtain ⟨hstay, hrobot⟩ := h.driven hi hq hw
    exact .inr ⟨hstay, (approaches_turn hb hrobot).2⟩
  rw [if_neg hb] at hw
  rw [not_lt] at hb
  by_cases he : |w.robot.excess q| ≤ 0.03
  · rw [if_pos he] at hw
    have hin := h.next hw rfl
    have hlast : lastTwist ({ (w.told i).node.stop.transition .dropOpen with
        actionT := (i.tickIn g w.robot).clock }.gripperOpen).out = some .zero := by
      rw [Node.gripperOpen, Node.emit, lastTwist_append_silent rfl]
      exact (lastTwist_transition .dropOpen _).trans (lastTwist_stop _)
    rw [period_still hi hw (.inr hlast), h.placed_eq rfl] at hin ⊢
    exact .inl ⟨w.robot, i.tick.clock, ⟨hb, he⟩, hin, rfl, rfl⟩
  · rw [if_neg he] at hw
    obtain ⟨hstay, hrobot⟩ := h.driven hi hq hw
    exact .inr ⟨hstay, (approaches_drive hb he hrobot).2⟩

variable (g) in
/-- The jaws stay over the plate until they are open, four seconds at most. -/
theorem dropping_step (h : w.Dropping r t) (hi : i.Regular) :
    (w.period g i).Backing g r 0 ∨ (w.period g i).Dropping r t ∧ i.tick.clock < t + 4 := by
  have hw := h.ticked_eq g hi (by simp)
  have hsince : (w.told i).node.stop.actionT = t := (h.told_kept hi).2.actionT.trans h.since
  have hodom : getOdomPose (i.tickIn g w.robot).odomTf =
      some (movePoint g (w.robot.x, w.robot.y)) := rfl
  have hclock : (i.tickIn g w.robot).clock = i.tick.clock := rfl
  rw [h.placed_eq rfl, Node.handle, h.told_mode hi] at hw
  simp only [Node.dropOpen, hsince, hodom, hclock] at hw
  cases hg : gripperReached .open (i.tick.clock - t) (Params.default : Params ℝ).gripperTimeout
      (i.tickIn g w.robot).gripperState with
  | false =>
    rw [hg] at hw
    have hin := h.next hw (h.told_mode hi)
    rw [period_still hi hw (.inr (lastTwist_stop _)), h.placed_eq rfl] at hin ⊢
    exact .inr ⟨⟨hin, h.place, hsince⟩, early_of_waiting hg⟩
  | true =>
    rw [hg] at hw
    have hin := h.next hw rfl
    have hlast : lastTwist ({ (w.told i).node.stop.setCubeVisible true with
        backupStart := some (movePoint g (w.robot.x, w.robot.y)) }.transition .dropBackup).out =
          some .zero := by
      rw [lastTwist_transition, Node.setCubeVisible, Node.emit, lastTwist_append_silent rfl]
      exact lastTwist_stop _
    rw [period_still hi hw (.inr hlast), h.placed_eq rfl] at hin ⊢
    refine .inl ⟨hin, ?_, ?_, by simp⟩
    · exact congrArg (fun r : Robot => some (movePoint g (r.x, r.y))) h.place
    · rw [Nat.cast_zero, zero_mul, r.back_zero]
      exact h.place

theorem Backing.away (h : w.Backing g r k) :
    ‖toPlane (w.robot.x, w.robot.y) - toPlane (r.x, r.y)‖ = k * 0.015 := by
  rw [h.place, Robot.toPlane_back, sub_sub_cancel_left, norm_neg, norm_mul, norm_heading, mul_one,
    Complex.norm_real]
  exact Real.norm_of_nonneg (by positivity)

/-- How far `_drop_backup` finds the robot gone. -/
theorem Backing.gone (h : w.Backing g r k) :
    PyMath.hypot ((movePoint g (w.robot.x, w.robot.y)).1 - (movePoint g (r.x, r.y)).1)
      ((movePoint g (w.robot.x, w.robot.y)).2 - (movePoint g (r.x, r.y)).2) = k * 0.015 := by
  rw [hypot_sub, norm_movePoint_sub, h.away]

theorem backing_step (h : w.Backing g r k) (hi : i.Regular) :
    (w.period g i).Parked (r.back 0.255) ∨ (w.period g i).Backing g r (k + 1) := by
  have hw := h.ticked_eq g hi (by simp)
  have hbegun : (w.told i).node.backupStart = some (movePoint g (r.x, r.y)) :=
    (h.told_kept hi).2.backupStart.trans h.begun
  have hodom : getOdomPose (i.tickIn g w.robot).odomTf =
      some (movePoint g (w.robot.x, w.robot.y)) := rfl
  have hdist : (Params.default : Params ℝ).dropBackupDist = 0.25 := rfl
  have hspeed : (Params.default : Params ℝ).parkMaxSpeed = 0.06 := rfl
  rw [h.placed_eq rfl, Node.handle, h.told_mode hi] at hw
  simp only [Node.dropBackup, hodom, hbegun, h.gone, hdist, hspeed] at hw
  by_cases hd : (k * 0.015 : ℝ) ≥ 0.25
  · rw [if_pos hd] at hw
    -- 0.25 is a bit more than 16 advances
    have hk : k = 17 := by
      have hlow : (16 : ℝ) < k := by linarith
      exact le_antisymm h.short (Nat.cast_lt.1 (by exact_mod_cast hlow))
    have hin := h.next hw rfl
    have hlast : lastTwist ((w.told i).node.stop.transition .done).out = some .zero :=
      (lastTwist_transition .done _).trans (lastTwist_stop _)
    rw [period_still hi hw (.inr hlast), h.placed_eq rfl] at hin ⊢
    refine .inl ⟨hin, h.place.trans ?_, hlast⟩
    rw [hk]
    norm_num
  · rw [if_neg hd] at hw
    have hk : k < 17 := by
      have hhigh : (k : ℝ) < 17 := by linarith
      exact_mod_cast hhigh
    have hmode := h.told_mode hi
    have hin := h.next hw hmode
    rw [h.period_drive hi rfl hmode hw] at hin ⊢
    have hnext : ((k + 1 : Nat) : ℝ) * 0.015 = k * 0.015 + 0.015 := by
      push_cast
      ring
    refine .inr ⟨hin, hbegun, ?_, hk⟩
    rw [h.place, r.follow_back, hnext]

variable (g) in
/-- After the end nothing happens any more. -/
theorem parked_step (h : w.Parked r) (hi : i.Regular) : (w.period g i).Parked r := by
  have hw := h.ticked_eq g hi (by simp)
  have hmode := h.told_mode hi
  rw [h.placed_eq rfl, Node.handle, hmode] at hw
  have hlast : lastTwist (w.told i).node.out = some .zero := by
    rw [(h.told_kept hi).2.out]
    exact h.still
  have hin := h.next hw hmode
  rw [period_still hi hw (.inr hlast), h.placed_eq rfl] at hin ⊢
  exact ⟨hin, h.place, hlast⟩

end drop

section run

variable {g : Motion} {w : ControlLoop} {q : ℝ × ℝ} {r : Robot} {ins : Nat → Period}

/-- The stored plate stays where it is, and time goes on. -/
structure Ongoing (q : ℝ × ℝ) (ins : Nat → Period) : Prop where
  regular : ∀ n, (ins n).Regular
  settled : ∀ n, (ins n).Settled q
  clock : ∀ t : ℝ, ∃ n, ∀ m, n ≤ m → t ≤ (ins m).tick.clock

/-- From the servoing to the end: the robot lets go at `r` and backs away straight. -/
inductive Releasing (g : Motion) (q : ℝ × ℝ) (r : Robot) (w : ControlLoop) : Prop where
  | delivering (h : w.Delivering q)
  | dropping (t : ℝ) (h : w.Dropping r t)
  | backing (k : Nat) (h : w.Backing g r k)

theorem delivering_leads (hins : Ongoing q ins) :
    Temporal.LeadsTo (w.after g ins) (Delivering q) fun w =>
      ∃ r t, r.Arrived q ∧ w.Dropping r t :=
  .of_rank (fun w => w.robot.toGo q) (by norm_num : (0 : ℝ) < 0.001)
    (fun _ _ => add_nonneg (abs_nonneg _) (abs_nonneg _))
    fun n h => delivering_step g h (hins.regular n) (hins.settled n)

theorem dropping_leads (hins : Ongoing q ins) :
    Temporal.LeadsTo (w.after g ins) (fun w => ∃ t, w.Dropping r t) (Backing g r 0) :=
  wait_leads hins.clock fun _ n h => dropping_step g h (hins.regular n)

theorem backing_leads (hins : Ongoing q ins) :
    Temporal.LeadsTo (w.after g ins) (fun w => ∃ k, w.Backing g r k) (Parked (r.back 0.255)) := by
  refine .of_rank (fun w => 0.255 - ‖toPlane (w.robot.x, w.robot.y) - toPlane (r.x, r.y)‖)
    (by norm_num : (0 : ℝ) < 0.015) (fun n hn => ?_) fun n hn => ?_
  · obtain ⟨k, h⟩ := hn
    have hk : (k : ℝ) ≤ 17 := by exact_mod_cast h.short
    rw [h.away]
    linarith
  · obtain ⟨k, h⟩ := hn
    refine (backing_step h (hins.regular n)).imp_right fun h' => ⟨⟨_, h'⟩, ?_⟩
    rw [h.away, h'.away]
    push_cast
    linarith

theorem parked_after (hins : Ongoing q ins) {n m : Nat} (h : (w.after g ins n).Parked r)
    (hm : n ≤ m) : (w.after g ins m).Parked r := by
  induction m, hm using Nat.le_induction with
  | base => exact h
  | succ m _ ih => exact parked_step g ih (hins.regular m)

/-- The jaws open and the robot backs away. -/
theorem release_ends (hins : Ongoing q ins) {n : Nat} (h : (w.after g ins n).Dropping r t) :
    ∃ m, n ≤ m ∧ (w.after g ins m).Parked (r.back 0.255) ∧
      ∀ k, n ≤ k → k < m → (w.after g ins k).Releasing g q r := by
  obtain ⟨m, hnm, hm, hdropping⟩ := (dropping_leads hins).straight ⟨t, h⟩ fun m hm => by
    obtain ⟨t', hm⟩ := hm
    exact (dropping_step g hm (hins.regular m)).symm.imp_left fun hstay => ⟨t', hstay.1⟩
  obtain ⟨m', hmm', hm', hbacking⟩ := (backing_leads hins).straight ⟨0, hm⟩ fun m hm => by
    obtain ⟨k, hm⟩ := hm
    exact (backing_step hm (hins.regular m)).symm.imp_left fun hnext => ⟨k + 1, hnext⟩
  refine ⟨m', hnm.trans hmm', hm', fun k hnk hk => ?_⟩
  obtain hkm | hmk := lt_or_ge k m
  · obtain ⟨t', hk'⟩ := hdropping k hnk hkm
    exact .dropping t' hk'
  · obtain ⟨j, hk'⟩ := hbacking k hmk hk
    exact .backing j hk'

theorem quarters_pass (t : ℝ) : ∃ n : Nat, ∀ m : Nat, n ≤ m → t ≤ m * 0.25 := by
  obtain ⟨n, hn⟩ := exists_nat_ge (t / 0.25)
  refine ⟨n, fun m hm => ?_⟩
  have hcast : (n : ℝ) ≤ m := by exact_mod_cast hm
  have ht : t ≤ n * 0.25 := (div_le_iff₀ (by norm_num)).1 hn
  exact ht.trans (mul_le_mul_of_nonneg_right hcast (by norm_num))

end run

end ControlLoop

end EscapeRoom
