import EscapeRoom.AlignLoop
import EscapeRoom.DeadMan
import EscapeRoom.Library.Temporal
import EscapeRoom.MapFrame

namespace EscapeRoom
set_option autoImplicit true

open Planar

/-- What the rest of the system does in one period of the node's timer: what the node is told before
the timer fires, wherever the robot is by then, where Nav2 has driven the robot, and where a command
of the node's takes it. -/
structure Period where
  messages : Robot → List (Event ℝ)
  driven : Robot
  moved : Robot → Twist ℝ → Robot
  tick : TickIn ℝ

/-- Both poses are told as they are. The odometry starts from another place and heading than the
map. -/
noncomputable def Period.tickIn (g : Motion) (i : Period) (r : Robot) : TickIn ℝ :=
  { i.tick with mapTf := some r.transform, odomTf := some (r.moved g).transform }

/-- The timer fires once in a period, and the base does what it is told: ahead, then the turn. -/
structure Period.Regular (i : Period) : Prop where
  once : ∀ r, ∀ e ∈ i.messages r, ∀ j, e ≠ .tick j
  moves : ∀ r t, i.moved r t = r.follow t

/-- The node and the robot it is on. -/
structure ControlLoop where
  node : Outcome ℝ
  robot : Robot

namespace ControlLoop

/-- Where the robot is when the timer fires: in the modes of Nav2 that is who drives. -/
noncomputable def placed (w : ControlLoop) (i : Period) : Robot :=
  if w.node.node.mode.navigates then i.driven else w.robot

/-- The node when the timer fires. -/
noncomputable def told (w : ControlLoop) (i : Period) : Outcome ℝ :=
  Runs.run (step .default) w.node (i.messages (w.placed i))

noncomputable def ticked (g : Motion) (w : ControlLoop) (i : Period) : Outcome ℝ :=
  step .default (w.told i) (.tick (i.tickIn g (w.placed i)))

/-- One period: Nav2 drives, the node is told and ticks, and its last command drives. -/
noncomputable def period (g : Motion) (w : ControlLoop) (i : Period) : ControlLoop where
  node := w.ticked g i
  robot :=
    if (w.ticked g i).node.mode.navigates then w.placed i
    else i.moved (w.placed i) ((lastTwist (w.ticked g i).node.out).getD .zero)

noncomputable def after (g : Motion) (w : ControlLoop) (ins : Nat → Period) : Nat → ControlLoop
  | 0 => w
  | n + 1 => (w.after g ins n).period g (ins n)

end ControlLoop

/-- What only the timer's callback touches. -/
structure Kept (s s' : Node ℝ) : Prop where
  started : s'.started = s.started
  mode : s'.mode = s.mode
  actionT : s'.actionT = s.actionT
  lungeActive : s'.lungeActive = s.lungeActive
  lungeStart : s'.lungeStart = s.lungeStart
  lungeDist : s'.lungeDist = s.lungeDist
  backupStart : s'.backupStart = s.backupStart
  out : s'.out = s.out

theorem Kept.refl (s : Node ℝ) : Kept s s := ⟨rfl, rfl, rfl, rfl, rfl, rfl, rfl, rfl⟩

theorem Kept.trans {s s' s'' : Node ℝ} (h : Kept s s') (h' : Kept s' s'') : Kept s s'' where
  started := h'.started.trans h.started
  mode := h'.mode.trans h.mode
  actionT := h'.actionT.trans h.actionT
  lungeActive := h'.lungeActive.trans h.lungeActive
  lungeStart := h'.lungeStart.trans h.lungeStart
  lungeDist := h'.lungeDist.trans h.lungeDist
  backupStart := h'.backupStart.trans h.backupStart
  out := h'.out.trans h.out

section messages

variable {p : Params ℝ} {o o' : Outcome ℝ} {e : Event ℝ} {es : List (Event ℝ)}

theorem EventStep.kept (h : EventStep p o e o') (hr : o.raised = none) (he : ∀ j, e ≠ .tick j) :
    o'.raised = none ∧ Kept o.node o'.node := by
  cases h with
  | ended => exact ⟨hr, .refl _⟩
  | tick j => exact absurd rfl (he j)
  | _ => exact ⟨rfl, rfl, rfl, rfl, rfl, rfl, rfl, rfl, rfl⟩

theorem kept_run (hes : ∀ e ∈ es, ∀ j, e ≠ .tick j) (hr : o.raised = none) :
    (Runs.run (step p) o es).raised = none ∧ Kept o.node (Runs.run (step p) o es).node := by
  induction es generalizing o with
  | nil => exact ⟨hr, .refl _⟩
  | cons e es ih =>
    obtain ⟨he, hes⟩ := List.forall_mem_cons.1 hes
    obtain ⟨hr', hkept⟩ := (eventStep_step p o e).kept hr he
    obtain ⟨hr'', hkept'⟩ := ih hes hr'
    exact ⟨hr'', hkept.trans hkept'⟩

theorem equipped_run (h : Equipped o.node) (es : List (Event ℝ)) :
    Equipped (Runs.run (step p) o es).node :=
  Runs.invariant (I := fun o : Outcome ℝ => Equipped o.node) h
    (fun o e => (eventStep_step p o e).equipped) es

end messages

theorem norm_movePoint_sub (g : Motion) (q r : ℝ × ℝ) :
    ‖toPlane (movePoint g q) - toPlane (movePoint g r)‖ = ‖toPlane q - toPlane r‖ := by
  rw [toPlane_movePoint, toPlane_movePoint, g.apply_sub, norm_mul, norm_heading, one_mul]

theorem lastTwist_transition (m : State) (s : Node ℝ) :
    lastTwist (s.transition m).out = lastTwist s.out :=
  lastTwist_append_silent (navOnly_cancels s.nav).twists_eq

/-- A wait for the gripper that goes on has not run into its timeout. -/
theorem early_of_waiting {target : GripperTarget} {clock t : ℝ} {reply : Option Int}
    (h : gripperReached target (clock - t) (Params.default : Params ℝ).gripperTimeout reply =
      false) : clock < t + 4 := by
  by_contra! hlate
  have htimeout : (Params.default : Params ℝ).gripperTimeout ≤ clock - t := by
    norm_num [Params.default]
    linarith
  cases h.symm.trans (if_pos htimeout)

@[simp] theorem Robot.follow_zero (r : Robot) : r.follow .zero = r := by
  simp [follow, Twist.zero]

namespace ControlLoop

variable {g : Motion} {i : Period} {w : ControlLoop} {m m' : State}

/-- In a mode, without an exception so far. -/
structure In (m : State) (w : ControlLoop) : Prop where
  raised : w.node.raised = none
  equipped : Equipped w.node.node
  mode : w.node.node.mode = m

theorem In.placed_eq (h : w.In m) (hm : m.navigates = false) (i : Period) :
    w.placed i = w.robot := by
  rw [placed, h.mode, hm]
  rfl

theorem In.told_kept (h : w.In m) (hi : i.Regular) :
    (w.told i).raised = none ∧ Kept w.node.node (w.told i).node :=
  kept_run (hi.once _) h.raised

theorem In.told_equipped (h : w.In m) (i : Period) : Equipped (w.told i).node :=
  equipped_run h.equipped _

theorem In.told_mode (h : w.In m) (hi : i.Regular) : (w.told i).node.mode = m :=
  (h.told_kept hi).2.mode.trans h.mode

variable (g) in
theorem ticked_handle (hr : (w.told i).raised = none) (hs : (w.told i).node.started = true) :
    w.ticked g i = (w.told i).node.handle .default (i.tickIn g (w.placed i)) := by
  rw [ticked, step_tick hr, Node.tick, hs]
  rfl

variable (g) in
theorem In.ticked_eq (h : w.In m) (hi : i.Regular) (hm : m ≠ .explore) :
    w.ticked g i = (w.told i).node.handle .default (i.tickIn g (w.placed i)) := by
  have hmode := h.told_mode hi
  exact ticked_handle g (h.told_kept hi).1 ((h.told_equipped i).started (by rwa [hmode]))

variable (g) in
theorem In.ticked_equipped (h : w.In m) (i : Period) : Equipped (w.ticked g i).node :=
  (eventStep_step .default (w.told i) _).equipped (h.told_equipped i)

/-- A period whose tick ends without an exception. -/
theorem In.next (h : w.In m) (hw : w.ticked g i = .ok s) (hm : s.mode = m') :
    (w.period g i).In m' := by
  have hequipped := h.ticked_equipped g i
  rw [hw] at hequipped
  constructor
  · rw [period, hw]
    rfl
  · rw [period, hw]
    exact hequipped
  · rw [period, hw]
    exact hm

/-- A command of the node's drives the wheels. -/
theorem In.period_drive (h : w.In m) (hi : i.Regular) (hm : m.navigates = false) {s : Node ℝ}
    (hs : s.mode = m) {linear angular : ℝ} {cap : Bool}
    (hw : w.ticked g i = .ok (s.drive .default linear angular cap)) :
    w.period g i = ⟨.ok (s.drive .default linear angular cap),
      w.robot.follow (driveTwist .default linear angular cap)⟩ := by
  have hlast : lastTwist (s.drive .default linear angular cap).out =
      some (driveTwist .default linear angular cap) := lastTwist_append rfl
  have hmode : (s.drive .default linear angular cap).mode.navigates = false := by
    rw [← hm, ← hs]
    rfl
  rw [period, hw, Outcome.ok, hlast, hmode, h.placed_eq hm, Option.getD_some, hi.moves]
  rfl

/-- After a stop, or with Nav2 at the wheel, the robot waits where it is. -/
theorem period_still {s : Node ℝ} (hi : i.Regular) (hw : w.ticked g i = .ok s)
    (hs : s.mode.navigates = true ∨ lastTwist s.out = some .zero) :
    w.period g i = ⟨.ok s, w.placed i⟩ := by
  rw [period, hw, Outcome.ok]
  cases hm : s.mode.navigates with
  | true => rfl
  | false =>
    rw [hm] at hs
    rw [hs.resolve_left (by simp), Option.getD_some, hi.moves, Robot.follow_zero]
    rfl

/-- A wait that began at some time and ends after four seconds at the latest. -/
theorem wait_leads {ins : Nat → Period} {P : ℝ → ControlLoop → Prop} {Q : ControlLoop → Prop}
    (hclock : ∀ t : ℝ, ∃ n, ∀ m, n ≤ m → t ≤ (ins m).tick.clock)
    (hstep : ∀ t n, P t (w.after g ins n) → Q (w.after g ins (n + 1)) ∨
      P t (w.after g ins (n + 1)) ∧ (ins n).tick.clock < t + 4) :
    Temporal.LeadsTo (w.after g ins) (fun w => ∃ t, P t w) Q := by
  intro n hn
  obtain ⟨t, h⟩ := hn
  refine Temporal.LeadsTo.of_progress (fun n => t + 4 ≤ (ins n).tick.clock)
    (fun n h => ?_) (fun n h hlate => ?_) (fun n _ => ?_) n h
  · exact (hstep t n h).symm.imp_left And.left
  · exact (hstep t n h).resolve_right fun hstay => hstay.2.not_ge hlate
  · obtain ⟨m, hm⟩ := hclock (t + 4)
    exact ⟨max n m, le_max_left n m, hm _ (le_max_right n m)⟩

end ControlLoop

end EscapeRoom
