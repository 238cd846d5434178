import EscapeRoom.DropLoop
import EscapeRoom.LungeEnd
import EscapeRoom.PickupLoop

namespace EscapeRoom
set_option autoImplicit true

open Planar

theorem TickStep.started {p : Params ℝ} {i : TickIn ℝ} {s : Node ℝ} (h : TickStep p i s o)
    (hs : s.started = true) : o.node.started = true := by
  have hgo {sender : Sender} {name : TargetName} {s' : Node ℝ} (hg : NavGo i sender name s' o)
      (hs : s'.started = true) : o.node.started = true := by
    obtain ⟨nav, cs, _, he⟩ := hg.frame
    rw [he]
    exact hs
  cases h with
  | start => rfl
  | exploreDone _ _ _ hg => exact hgo hg hs
  | keyRetry _ _ _ hg => exact hgo hg hs
  | plateRetry _ _ _ hg => exact hgo hg hs
  | closed _ _ hg => exact hgo hg hs
  | _ => exact hs

/-- What the node was told of the map and the landmarks stays known, and once started it is. -/
structure Informed (s s' : Node ℝ) : Prop where
  map : s.currentMap.isSome = true → s'.currentMap.isSome = true
  targets : ∀ name, (s.targets name).isSome = true → (s'.targets name).isSome = true
  started : s.started = true → s'.started = true

theorem Informed.refl (s : Node ℝ) : Informed s s := ⟨id, fun _ => id, id⟩

theorem Informed.trans {s s' s'' : Node ℝ} (h : Informed s s') (h' : Informed s' s'') :
    Informed s s'' :=
  ⟨h'.map ∘ h.map, fun name => h'.targets name ∘ h.targets name, h'.started ∘ h.started⟩

section told

variable {p : Params ℝ} {o o' : Outcome ℝ} {e : Event ℝ} {es : List (Event ℝ)}

theorem EventStep.informed (h : EventStep p o e o') : Informed o.node o'.node := by
  cases h with
  | ended => exact .refl _
  | tick i h =>
    refine ⟨fun hmap => ?_, fun name hname => ?_, h.started⟩
    · rw [h.perception.currentMap]
      exact hmap
    · rw [h.perception.targets]
      exact hname
  | map grid => exact ⟨fun _ => rfl, fun _ => id, id⟩
  | target name x y =>
    refine ⟨id, fun name' hname' => ?_, id⟩
    by_cases hname : name' = name
    · subst hname
      rw [Outcome.ok, Node.setTarget_targets_self]
      rfl
    · rw [Outcome.ok, Node.setTarget_targets_of_ne hname]
      exact hname'
  | _ => exact ⟨id, fun _ => id, id⟩

theorem informed_run (o : Outcome ℝ) (es : List (Event ℝ)) :
    Informed o.node (Runs.run (step p) o es).node :=
  Runs.invariant (I := fun o' : Outcome ℝ => Informed o.node o'.node) (.refl _)
    (fun o' e h => h.trans (eventStep_step p o' e).informed) es

/-- A message is heard, and what it tells stays known. -/
theorem heard_run (hes : ∀ e ∈ es, ∀ j, e ≠ .tick j) (hr : o.raised = none) (he : e ∈ es) :
    ∃ o₁ : Outcome ℝ, o₁.raised = none ∧
      Informed (step p o₁ e).node (Runs.run (step p) o es).node := by
  obtain ⟨es₁, es₂, rfl⟩ := List.append_of_mem he
  refine ⟨Runs.run (step p) o es₁, (kept_run (fun e he => hes e ?_) hr).1, ?_⟩
  · exact List.mem_append_left _ he
  · rw [Runs.run_append, Runs.run_cons]
    exact informed_run _ es₂

theorem map_heard {grid : OccupancyGrid ℝ} (hr : o.raised = none) :
    (step p o (.map grid)).node.currentMap.isSome = true := by
  have hstep := eventStep_step p o (.map grid)
  generalize step p o (.map grid) = o' at hstep
  cases hstep with
  | ended he => simp [hr] at he
  | map => rfl

theorem target_heard {name : TargetName} {x y : ℝ} (hr : o.raised = none) :
    ((step p o (.target name x y)).node.targets name).isSome = true := by
  have hstep := eventStep_step p o (.target name x y)
  generalize step p o (.target name x y) = o' at hstep
  cases hstep with
  | ended he => simp [hr] at he
  | near _ _ _ ox oy ht =>
    rw [Outcome.ok, ht]
    rfl
  | target =>
    rw [Outcome.ok, Node.setTarget_targets_self]
    rfl

theorem targetCount_of_known {s : Node ℝ} (h : ∀ name, (s.targets name).isSome = true) :
    s.targetCount = 3 := by
  rw [Node.targetCount, List.filter_eq_self.2 fun name _ => h name]
  rfl

end told

/-- A message about the plate puts it near `c`. -/
def Event.PlateNear (c : ℝ × ℝ) : Event ℝ → Prop
  | .target .plate x y => PyMath.hypot (x - c.1) (y - c.2) ≤ 0.05
  | _ => True

namespace ControlLoop

section phases

variable {g : Motion} {v : Eyesight} {key c q : ℝ × ℝ} {i : Period} {w : ControlLoop} {m : State}
  {t : ℝ}

/-- What holds in every mode. -/
structure Sound (c : ℝ × ℝ) (o : Outcome ℝ) : Prop where
  unharmed : Unharmed o
  equipped : Equipped o.node
  plate : ∀ q, o.node.targets .plate = some q → PyMath.hypot (q.1 - c.1) (q.2 - c.2) ≤ 0.05

theorem sound_step {p : Params ℝ} {o : Outcome ℝ} {e : Event ℝ} (h : Sound c o)
    (hsized : ∀ grid, e = .map grid → grid.WellSized) (hplate : e.PlateNear c) :
    Sound c (step p o e) := by
  have hstep := eventStep_step p o e
  refine ⟨hstep.unharmed h.equipped h.unharmed hsized, hstep.equipped h.equipped, fun q hq => ?_⟩
  generalize step p o e = o' at hstep hq
  cases hstep with
  | tick i htick =>
    rw [htick.perception.targets] at hq
    exact h.plate q hq
  | target name x y =>
    by_cases hname : name = .plate
    · subst hname
      rw [Outcome.ok, Node.setTarget_targets_self] at hq
      cases hq
      exact hplate
    · rw [Outcome.ok, Node.setTarget_targets_of_ne (Ne.symm hname)] at hq
      exact h.plate q hq
  | _ => exact h.plate q hq

/-- The messages of a period about the map and the plate are what they should be. -/
structure Faithful (c : ℝ × ℝ) (i : Period) : Prop where
  sized : ∀ r grid, .map grid ∈ i.messages r → grid.WellSized
  plate : ∀ r, ∀ e ∈ i.messages r, e.PlateNear c

theorem sound_told (h : Sound c w.node) (hi : Faithful c i) : Sound c (w.told i) := by
  have hmeet : Runs.StepsMeet (step .default)
      (fun _ e => (∀ grid, e = .map grid → grid.WellSized) ∧ e.PlateNear c) w.node
        (i.messages (w.placed i)) := by
    apply Runs.stepsMeet_of_forall
    intro e he _
    refine ⟨fun grid hgrid => ?_, hi.plate _ e he⟩
    subst hgrid
    exact hi.sized _ grid he
  exact Runs.invariant_of_stepsMeet h (fun o e ho he => sound_step ho he.1 he.2) hmeet

variable (g) in
theorem sound_period (h : Sound c w.node) (hi : Faithful c i) : Sound c (w.period g i).node :=
  sound_step (p := .default) (e := .tick (i.tickIn g (w.placed i))) (sound_told h hi)
    (fun grid hgrid => by cases hgrid) trivial

theorem Sound.toIn (h : Sound c w.node) (hm : w.node.node.mode = m) : w.In m :=
  ⟨h.unharmed.raised, h.equipped, hm⟩

variable (g) in
/-- A period keeps its mode or ends in the next one. -/
theorem In.advance (h : w.In m) (hi : i.Regular) :
    (w.period g i).node.node.mode = m ∨ m.next = some (w.period g i).node.node.mode := by
  obtain ⟨cs, _, hstep⟩ := step_mission .default (w.told i) (.tick (i.tickIn g (w.placed i)))
  rw [h.told_mode hi] at hstep
  exact hstep.hands_eq.imp And.left And.left

variable (g) in
/-- `_is_ready` holds. -/
theorem starts (hr : (w.told i).raised = none)
    (hmap : (w.told i).node.currentMap.isSome = true) (hready : i.tick.serverReady = true) :
    (w.ticked g i).node.started = true := by
  cases hstarted : (w.told i).node.started with
  | true => exact (eventStep_step .default (w.told i) _).informed.started hstarted
  | false =>
    have hpose := (w.placed i).getRobotPose_transform
    have hisReady : (w.told i).node.isReady (i.tickIn g (w.placed i)) = true := by
      simp [Node.isReady, Period.tickIn, hready, hmap, hpose]
    rw [ticked, step_tick hr, Node.tick, hstarted, if_pos (by simp), if_pos hisReady]
    rfl

variable (g) in
theorem explore_ends (h : w.In .explore) (hi : i.Regular)
    (hstarted : (w.told i).node.started = true) (hcount : (w.told i).node.targetCount = 3) :
    (w.period g i).node.node.mode = .goToKey := by
  have hw := ticked_handle g (h.told_kept hi).1 hstarted
  rw [Node.handle, h.told_mode hi] at hw
  dsimp only [Node.explore] at hw
  rw [if_pos hcount] at hw
  rw [period, hw]
  exact (navGo_navGoToKey .default (i.tickIn g (w.placed i))
    ((w.told i).node.transition .goToKey)).nav.1

/-- When the timer fires, the client has heard of its goal's success. -/
structure Reported (i : Period) (w : ControlLoop) : Prop where
  idle : (w.told i).node.nav.client.active = false
  succeeded : (w.told i).node.nav.client.succeeded = true

/-- On the way to the key, wherever Nav2 has the robot. -/
theorem goToKey_waits (h : w.In .goToKey) (hi : i.Regular) (hn : ¬ w.Reported i) :
    (w.period g i).node.node.mode = .goToKey := by
  have hmode := h.told_mode hi
  have hw := h.ticked_eq g hi (by simp)
  rw [Node.handle, hmode] at hw
  dsimp only [Node.goToKey] at hw
  rw [period, hw]
  split
  · exact hmode
  · rename_i ha
    split
    · exact (navGo_navGoToKey .default _ _).nav.1.trans hmode
    · rename_i hs
      exact absurd ⟨by simpa using ha, by simpa using hs⟩ hn

/-- Standing before the key while the jaws open, since the time `t`. -/
structure Opening (v : Eyesight) (key : ℝ × ℝ) (t : ℝ) (w : ControlLoop) : Prop
    extends w.In .pickupOpen where
  since : w.node.node.actionT = t
  idle : w.node.node.lungeActive = false
  view : |w.robot.bearing key| ≤ v.half
  far : v.near ≤ ‖w.robot.sees key‖

/-- The pose that Nav2 reports as reached has the key in view. -/
structure InView (v : Eyesight) (key : ℝ × ℝ) (r : Robot) : Prop where
  ahead : |r.bearing key| ≤ v.half
  far : v.near ≤ ‖r.sees key‖

variable (g) in
theorem goToKey_ticked (h : w.In .goToKey) (hi : i.Regular) (hn : w.Reported i) :
    w.ticked g i = .ok ({ { (w.told i).node.stop with lungeActive := false, lungeStart := none
      }.transition .pickupOpen with actionT := i.tick.clock }.gripperOpen) := by
  rw [h.ticked_eq g hi (by simp), Node.handle, h.told_mode hi]
  dsimp only [Node.goToKey]
  rw [if_neg (by simp [hn.idle]), if_neg (by simp [hn.succeeded])]
  rfl

theorem goToKey_arrives (h : w.In .goToKey) (hi : i.Regular) (hn : w.Reported i)
    (hv : InView v key (w.placed i)) : (w.period g i).Opening v key i.tick.clock := by
  have hw := goToKey_ticked g h hi hn
  have hin := h.next hw rfl
  have hlast : lastTwist ({ { (w.told i).node.stop with lungeActive := false, lungeStart := none
      }.transition .pickupOpen with actionT := i.tick.clock }.gripperOpen).out = some .zero := by
    rw [Node.gripperOpen, Node.emit, lastTwist_append_silent rfl]
    exact (lastTwist_transition .pickupOpen _).trans (lastTwist_stop _)
  rw [period_still hi hw (.inr hlast)] at hin ⊢
  exact ⟨hin, rfl, rfl, hv.ahead, hv.far⟩

variable (g) in
theorem opening_step (h : w.Opening v key t) (hi : i.Regular) :
    (w.period g i).Aligning v key ∨ (w.period g i).Opening v key t ∧ i.tick.clock < t + 4 := by
  have hkept := (h.told_kept hi).2
  have hsince : (w.told i).node.stop.actionT = t := hkept.actionT.trans h.since
  have hidle : (w.told i).node.lungeActive = false := hkept.lungeActive.trans h.idle
  have hclock : (i.tickIn g w.robot).clock = i.tick.clock := rfl
  have hw := h.ticked_eq g hi (by simp)
  rw [h.placed_eq rfl, Node.handle, h.told_mode hi] at hw
  simp only [Node.pickupOpen, hsince, hclock] at hw
  cases hg : gripperReached .open (i.tick.clock - t) (Params.default : Params ℝ).gripperTimeout
      (i.tickIn g w.robot).gripperState with
  | false =>
    rw [hg] at hw
    have hin := h.next hw (h.told_mode hi)
    rw [period_still hi hw (.inr (lastTwist_stop _)), h.placed_eq rfl] at hin ⊢
    exact .inr ⟨⟨hin, hsince, hidle, h.view, h.far⟩, early_of_waiting hg⟩
  | true =>
    rw [hg] at hw
    have hin := h.next hw rfl
    have hlast := (lastTwist_transition .pickupAlign _).trans (lastTwist_stop (w.told i).node)
    rw [period_still hi hw (.inr hlast), h.placed_eq rfl] at hin ⊢
    exact .inl ⟨hin, hidle, h.view, h.far⟩

/-- Holding still while the jaws close, since the time `t`. -/
structure Closing (t : ℝ) (w : ControlLoop) : Prop extends w.In .pickupClose where
  since : w.node.node.actionT = t

variable (g) in
theorem closing_step (h : w.Closing t) (hi : i.Regular) :
    (w.period g i).node.node.mode = .goToPlate ∨
      (w.period g i).Closing t ∧ i.tick.clock < t + 4 := by
  have hsince : (w.told i).node.stop.actionT = t := (h.told_kept hi).2.actionT.trans h.since
  have hclock : (i.tickIn g w.robot).clock = i.tick.clock := rfl
  have hw := h.ticked_eq g hi (by simp)
  rw [h.placed_eq rfl, Node.handle, h.told_mode hi] at hw
  simp only [Node.pickupClose, hsince, hclock] at hw
  cases hg : gripperReached .close (i.tick.clock - t) (Params.default : Params ℝ).gripperTimeout
      (i.tickIn g w.robot).gripperState with
  | false =>
    rw [hg] at hw
    have hin := h.next hw (h.told_mode hi)
    rw [period_still hi hw (.inr (lastTwist_stop _))] at hin ⊢
    exact .inr ⟨⟨hin, hsince⟩, early_of_waiting hg⟩
  | true =>
    rw [hg] at hw
    left
    rw [period, hw]
    exact (navGo_navGoToPlate (i.tickIn g w.robot)
      (((w.told i).node.stop.setCubeVisible false).transition .goToPlate)).nav.1

/-- On the way to the plate, wherever Nav2 has the robot. -/
theorem goToPlate_waits (h : w.In .goToPlate) (hi : i.Regular) (hn : ¬ w.Reported i) :
    (w.period g i).node.node.mode = .goToPlate := by
  have hmode := h.told_mode hi
  have hw := h.ticked_eq g hi (by simp)
  rw [Node.handle, hmode] at hw
  dsimp only [Node.goToPlate] at hw
  rw [period, hw]
  split
  · exact hmode
  · rename_i ha
    split
    · exact (navGo_navGoToPlate _ _).nav.1.trans hmode
    · rename_i hs
      exact absurd ⟨by simpa using ha, by simpa using hs⟩ hn

variable (g) in
theorem goToPlate_ticked (h : w.In .goToPlate) (hi : i.Regular) (hn : w.Reported i) :
    w.ticked g i = .ok ((w.told i).node.stop.transition .dropAlign) := by
  rw [h.ticked_eq g hi (by simp), Node.handle, h.told_mode hi]
  dsimp only [Node.goToPlate]
  rw [if_neg (by simp [hn.idle]), if_neg (by simp [hn.succeeded])]

theorem goToPlate_arrives (h : w.In .goToPlate) (hi : i.Regular) (hn : w.Reported i) :
    (w.period g i).node.node.mode = .dropAlign := by
  rw [period, goToPlate_ticked g h hi hn]
  rfl

end phases

section run

variable {g : Motion} {v : Eyesight} {key c : ℝ × ℝ} {w : ControlLoop} {ins : Nat → Period}

/-- What the rest of the system is trusted with over a run. Some map and each landmark are told of
at some time, and the server is there again and again. On a leg of Nav2 the client hears of a
success in the end, and on the leg to the key the robot is then where the detector sees it. -/
structure Served (g : Motion) (v : Eyesight) (key c : ℝ × ℝ) (w : ControlLoop)
    (ins : Nat → Period) : Prop where
  regular : ∀ n, (ins n).Regular
  faithful : ∀ n, Faithful c (ins n)
  clock : ∀ t : ℝ, ∃ n, ∀ m, n ≤ m → t ≤ (ins m).tick.clock
  ready : ∀ n, ∃ m, n ≤ m ∧ (ins m).tick.serverReady = true
  mapped : ∃ n grid, .map grid ∈ (ins n).messages ((w.after g ins n).placed (ins n))
  found : ∀ name, ∃ n x y,
    .target name x y ∈ (ins n).messages ((w.after g ins n).placed (ins n))
  arrives : ∀ n, (w.after g ins n).node.node.mode = .goToKey ∨
      (w.after g ins n).node.node.mode = .goToPlate →
    ∃ m, n ≤ m ∧ (w.after g ins m).Reported (ins m)
  view : ∀ n, (w.after g ins n).node.node.mode = .goToKey →
    (w.after g ins n).Reported (ins n) → InView v key ((w.after g ins n).placed (ins n))
  sighted : ∀ n, (w.after g ins n).node.node.mode = .pickupAlign → (ins n).Sighted v key

variable (g) in
theorem sound_after (hf : ∀ n, Faithful c (ins n)) (h : Sound c w.node) (n : Nat) :
    Sound c (w.after g ins n).node := by
  induction n with
  | zero => exact h
  | succ n ih => exact sound_period g ih (hf n)

variable (g) in
theorem ticked_informed (w : ControlLoop) (i : Period) :
    Informed (w.told i).node (w.ticked g i).node :=
  (eventStep_step .default (w.told i) _).informed

theorem after_informed {n m : Nat} (hnm : n ≤ m) : Informed (w.after g ins n).node.node
    ((w.after g ins m).told (ins m)).node := by
  induction m, hnm using Nat.le_induction with
  | base => exact informed_run (w.after g ins n).node _
  | succ m _ ih =>
    have hnext : (w.after g ins (m + 1)).node = (w.after g ins m).ticked g (ins m) := rfl
    have hlast := informed_run (p := .default) (w.after g ins (m + 1)).node
      ((ins (m + 1)).messages ((w.after g ins (m + 1)).placed (ins (m + 1))))
    rw [hnext] at hlast
    exact (ih.trans (ticked_informed g _ _)).trans hlast

theorem told_informed {n m : Nat} (hnm : n < m) : Informed ((w.after g ins n).told (ins n)).node
    ((w.after g ins m).told (ins m)).node :=
  (ticked_informed g (w.after g ins n) (ins n)).trans (after_informed hnm)

/-- From some period on the node knows all it needs to leave for the key. -/
theorem informed_from (hs : Served g v key c w ins) (h : Sound c w.node) :
    ∃ n, ∀ m, n < m → ((w.after g ins m).told (ins m)).node.currentMap.isSome = true ∧
      ((w.after g ins m).told (ins m)).node.targetCount = 3 := by
  have hheard {n : Nat} {e : Event ℝ}
      (he : e ∈ (ins n).messages ((w.after g ins n).placed (ins n))) :=
    heard_run (p := .default) ((hs.regular n).once _)
      (sound_after g hs.faithful h n).unharmed.raised he
  obtain ⟨a, grid, hgrid⟩ := hs.mapped
  obtain ⟨o, hr, hmap⟩ := hheard hgrid
  choose b x y hb using hs.found
  refine ⟨max a (max (b .cube) (max (b .plate) (b .door))), fun m hm => ⟨?_, ?_⟩⟩
  · have ha : a < m := (le_max_left _ _).trans_lt hm
    exact (hmap.trans (told_informed ha)).map (map_heard hr)
  · apply targetCount_of_known
    intro name
    obtain ⟨o, hr, htarget⟩ := hheard (hb name)
    have hname : b name < m := by cases name <;> omega
    exact (htarget.trans (told_informed hname)).targets name (target_heard hr)

theorem started_from (hs : Served g v key c w ins) (h : Sound c w.node) :
    ∃ n, ∀ m, n < m → ((w.after g ins m).told (ins m)).node.started = true := by
  obtain ⟨n, hn⟩ := informed_from hs h
  obtain ⟨m, hnm, hready⟩ := hs.ready (n + 1)
  refine ⟨m, fun k hk => (after_informed (Nat.succ_le_of_lt hk)).started ?_⟩
  have hraised := (sound_told (sound_after g hs.faithful h m) (hs.faithful m)).unharmed.raised
  exact starts g hraised (hn m hnm).1 hready

/-- The look around ends. -/
theorem explore_leads (hs : Served g v key c w ins) (h : Sound c w.node) :
    Temporal.LeadsTo (w.after g ins) (In .explore) (In .goToKey) := by
  obtain ⟨a, ha⟩ := started_from hs h
  obtain ⟨b, hb⟩ := informed_from hs h
  refine .of_progress (fun n => ((w.after g ins n).told (ins n)).node.started = true ∧
    ((w.after g ins n).told (ins n)).node.targetCount = 3) (fun n hn => ?_) (fun n hn hgo => ?_)
    fun n _ => ?_
  · have hsound := sound_after g hs.faithful h (n + 1)
    obtain hstay | hnext := hn.advance g (hs.regular n)
    · exact .inl (hsound.toIn hstay)
    · exact .inr (hsound.toIn (Option.some.inj hnext).symm)
  · exact (sound_after g hs.faithful h (n + 1)).toIn (explore_ends g hn (hs.regular n) hgo.1 hgo.2)
  · refine ⟨max n (max a b + 1), le_max_left _ _, ha _ ?_, (hb _ ?_).2⟩ <;> omega

theorem goToKey_leads (hs : Served g v key c w ins) (h : Sound c w.node) :
    Temporal.LeadsTo (w.after g ins) (In .goToKey) fun w => ∃ t, w.Opening v key t := by
  refine .of_wait (fun n => (w.after g ins n).Reported (ins n)) (fun n hn hgo => ?_)
    (fun n hn hgo => ?_) fun n hn => hs.arrives n (.inl hn.mode)
  · exact (sound_after g hs.faithful h (n + 1)).toIn (goToKey_waits hn (hs.regular n) hgo)
  · exact ⟨_, goToKey_arrives hn (hs.regular n) hgo (hs.view n hn.mode hgo)⟩

theorem opening_leads (hs : Served g v key c w ins) :
    Temporal.LeadsTo (w.after g ins) (fun w => ∃ t, w.Opening v key t) (Aligning v key) :=
  wait_leads hs.clock fun _ n hn => opening_step g hn (hs.regular n)

/-- The key is gripped in the end. -/
theorem gripping_leads (hs : Served g v key c w ins) (h : Sound c w.node) :
    Temporal.LeadsTo (w.after g ins) (In .explore) (Gripping v key) := by
  have hwatched : Watched g v key w ins := ⟨hs.regular, hs.sighted⟩
  exact (((explore_leads hs h).trans (goToKey_leads hs h)).trans (opening_leads hs)).trans
    ((aligning_leads hwatched).trans (lunging_leads hwatched))

/-- Servoing on the plate, which is stored near `c`. -/
def Nearing (c : ℝ × ℝ) (w : ControlLoop) : Prop :=
  ∃ q : ℝ × ℝ, PyMath.hypot (q.1 - c.1) (q.2 - c.2) ≤ 0.05 ∧ w.Delivering q

/-- The phases in which the jaws hold the key. -/
inductive Carrying (c : ℝ × ℝ) (w : ControlLoop) : Prop where
  | closing (t : ℝ) (h : w.Closing t)
  | toPlate (h : w.In .goToPlate)
  | nearing (h : w.Nearing c)

/-- The jaws open at `r`, with the key over the plate. -/
structure Release (c : ℝ × ℝ) (r : Robot) (t : ℝ) (w : ControlLoop) : Prop
    extends w.Dropping r t where
  near : ‖r.sees c - (0.207 : ℝ)‖ ≤ cornerError + 0.05

/-- The plate as it is stored, and as it is. -/
theorem Dropping.release {q : ℝ × ℝ} {r : Robot} {t : ℝ} (h : w.Dropping r t) (hr : r.Arrived q)
    (hq : PyMath.hypot (q.1 - c.1) (q.2 - c.2) ≤ 0.05) : w.Release c r t := by
  refine ⟨h, ?_⟩
  have hoff : ‖r.sees c - r.sees q‖ ≤ 0.05 := by
    rw [hypot_sub, norm_sub_rev] at hq
    rw [r.sees_eq, r.sees_eq, ← mul_sub, norm_mul, norm_heading, one_mul, sub_sub_sub_cancel_right]
    exact hq
  have htriangle := norm_sub_le_norm_sub_add_norm_sub (r.sees c) (r.sees q) (0.207 : ℝ)
  linarith [hr.near]

theorem ongoing (hs : Served g v key c w ins) {q : ℝ × ℝ}
    (hq : PyMath.hypot (q.1 - c.1) (q.2 - c.2) ≤ 0.05) : Ongoing q ins := by
  refine ⟨hs.regular, fun n r e he => ?_, hs.clock⟩
  have hnear := (hs.faithful n).plate r e he
  cases e with
  | target name x y =>
    cases name with
    | plate =>
      have htriangle := hypot_triangle (x, y) c q
      have hsymm : PyMath.hypot (c.1 - q.1) (c.2 - q.2) ≤ (0.05 : ℝ) := by
        rw [hypot_sub, norm_sub_rev, ← hypot_sub]
        exact hq
      have hxy : PyMath.hypot (x - c.1) (y - c.2) ≤ 0.05 := hnear
      exact htriangle.trans (by linarith)
    | _ => trivial
  | _ => trivial

/-- `_drop_align` begins with the plate stored where it is. -/
theorem Sound.nearing (h : Sound c w.node) (hm : w.node.node.mode = .dropAlign) : w.Nearing c := by
  have hknown := h.equipped.targets (by simp [hm]) .plate
  obtain ⟨q, hq⟩ := Option.isSome_iff_exists.1 hknown
  exact ⟨q, h.plate q hq, h.toIn hm, hq⟩

theorem nearing_step (hs : Served g v key c w ins) {n : Nat} (hn : (w.after g ins n).Nearing c) :
    (w.after g ins (n + 1)).Nearing c ∨ ∃ r t, (w.after g ins (n + 1)).Release c r t := by
  obtain ⟨q, hq, hn⟩ := hn
  obtain ⟨r, t, hr, hnext⟩ | ⟨hstay, -⟩ :=
    delivering_step g hn (hs.regular n) ((ongoing hs hq).settled n)
  · exact .inr ⟨r, t, hnext.release hr hq⟩
  · exact .inl ⟨q, hq, hstay⟩

theorem carrying_step (hs : Served g v key c w ins) (h : Sound c w.node) {n : Nat}
    (hn : (w.after g ins n).Carrying c) : (w.after g ins (n + 1)).Carrying c ∨
      ∃ r t, (w.after g ins (n + 1)).Release c r t := by
  have hsound := sound_after g hs.faithful h (n + 1)
  cases hn with
  | closing t hn =>
    obtain hnext | ⟨hstay, -⟩ := closing_step g hn (hs.regular n)
    · exact .inl (.toPlate (hsound.toIn hnext))
    · exact .inl (.closing t hstay)
  | toPlate hn =>
    by_cases hgo : (w.after g ins n).Reported (ins n)
    · exact .inl (.nearing (hsound.nearing (goToPlate_arrives hn (hs.regular n) hgo)))
    · exact .inl (.toPlate (hsound.toIn (goToPlate_waits hn (hs.regular n) hgo)))
  | nearing hn => exact (nearing_step hs hn).imp_left .nearing

theorem closing_leads (hs : Served g v key c w ins) (h : Sound c w.node) :
    Temporal.LeadsTo (w.after g ins) (fun w => ∃ t, w.Closing t) (In .goToPlate) :=
  wait_leads hs.clock fun _ n hn =>
    (closing_step g hn (hs.regular n)).imp_left (sound_after g hs.faithful h (n + 1)).toIn

theorem goToPlate_leads (hs : Served g v key c w ins) (h : Sound c w.node) :
    Temporal.LeadsTo (w.after g ins) (In .goToPlate) (Nearing c) := by
  refine .of_wait (fun n => (w.after g ins n).Reported (ins n)) (fun n hn hgo => ?_)
    (fun n hn hgo => ?_) fun n hn => hs.arrives n (.inr hn.mode)
  · exact (sound_after g hs.faithful h (n + 1)).toIn (goToPlate_waits hn (hs.regular n) hgo)
  · have hm := goToPlate_arrives (g := g) hn (hs.regular n) hgo
    exact (sound_after g hs.faithful h (n + 1)).nearing hm

theorem nearing_leads (hs : Served g v key c w ins) :
    Temporal.LeadsTo (w.after g ins) (Nearing c) fun w => ∃ r t, w.Release c r t := by
  intro n hn
  obtain ⟨q, hq, hn⟩ := hn
  obtain ⟨m, hnm, r, t, hr, hm⟩ := delivering_leads (ongoing hs hq) n hn
  exact ⟨m, hnm, r, t, hm.release hr hq⟩

theorem carrying_leads (hs : Served g v key c w ins) (h : Sound c w.node) :
    Temporal.LeadsTo (w.after g ins) (Carrying c) fun w => ∃ r t, w.Release c r t := by
  have hplate := (goToPlate_leads hs h).trans (nearing_leads hs)
  intro n hn
  cases hn with
  | closing t hn => exact ((closing_leads hs h).trans hplate) n ⟨t, hn⟩
  | toPlate hn => exact hplate n hn
  | nearing hn => exact nearing_leads hs n hn

theorem sound_init (c : ℝ × ℝ) : Sound c (.ok .init) := by
  refine ⟨⟨rfl, fun grid hgrid => ?_⟩, missionRun_equipped .default [], fun q hq => ?_⟩
  · cases hgrid
  · cases hq

/-- From power-on the key gets onto the plate. -/
theorem mission_completes (r₀ : Robot) (hs : Served g v key c ⟨.ok .init, r₀⟩ ins) :
    (∀ n, (after g ⟨.ok .init, r₀⟩ ins n).node.raised = none) ∧
      ∃ (r : Robot) (t : ℝ) (k j n : Nat), k ≤ j ∧ j ≤ n ∧
        (after g ⟨.ok .init, r₀⟩ ins k).Gripping v key ∧
        (∀ l, k ≤ l → l < j → (after g ⟨.ok .init, r₀⟩ ins l).Carrying c) ∧
        (after g ⟨.ok .init, r₀⟩ ins j).Release c r t ∧
        ∀ l, n ≤ l → (after g ⟨.ok .init, r₀⟩ ins l).Parked (r.back 0.255) := by
  have hstart : Sound c (⟨.ok .init, r₀⟩ : ControlLoop).node := sound_init c
  have hexplore : In .explore ⟨.ok .init, r₀⟩ := hstart.toIn rfl
  generalize (⟨.ok .init, r₀⟩ : ControlLoop) = w at hs hstart hexplore
  refine ⟨fun n => (sound_after g hs.faithful hstart n).unharmed.raised, ?_⟩
  obtain ⟨k, -, hk⟩ := gripping_leads hs hstart 0 hexplore
  have hclosing : (w.after g ins k).Closing _ := ⟨hk.toIn, rfl⟩
  obtain ⟨j, hkj, ⟨r, t, hj⟩, hcarrying⟩ :=
    (carrying_leads hs hstart).straight (.closing _ hclosing) fun m hm => carrying_step hs hstart hm
  have hongoing : Ongoing c ins := by
    apply ongoing hs
    rw [hypot_sub, sub_self, norm_zero]
    norm_num
  obtain ⟨n, hjn, hn, -⟩ := release_ends hongoing hj.toDropping
  exact ⟨r, t, k, j, n, hkj, hjn, hk, hcarrying, hj, fun l hl => parked_after hongoing hn hl⟩

/-- Nav2 answers within a period: it accepts a goal, ends it well and says so. -/
def answers : List NavEvent :=
  [.accept 0, .response 0, .finish 0 .succeeded, .result 0,
    .accept 1, .response 1, .finish 1 .succeeded, .result 1]

/-- Everything is told in every period, and Nav2 has the robot at the origin. -/
noncomputable def promptly (n : Nat) : Period where
  messages r :=
    [.map frontierStrip, .target .cube 1 1, seePlate, seeDoor] ++
      [.cubeLive (reportedAt (1, 1) r).re (reportedAt (1, 1) r).im (n * 0.25)] ++
        answers.map .nav
  driven := ⟨0, 0, 0⟩
  moved := Robot.follow
  tick := { tickAtOrigin with clock := n * 0.25 }

/-- The goals of that mission, period by period. -/
inductive Prompt : State → NavLink (NavRequest ℝ) → Prop where
  | none : Prompt .explore {}
  | key (r : NavRequest ℝ) : Prompt .goToKey (.send true r (.cancel {}))
  | picking (hm : m = .pickupOpen ∨ m = .pickupAlign ∨ m = .pickupClose) (r : NavRequest ℝ) :
      Prompt m ⟨{}, [⟨r, .ended .succeeded .result, false, true⟩]⟩
  | plate (r r' : NavRequest ℝ) :
      Prompt .goToPlate
        (.send true r' (.cancel ⟨{}, [⟨r, .ended .succeeded .result, false, true⟩]⟩))
  | later (hm : m = .dropAlign ∨ m = .dropOpen ∨ m = .dropBackup ∨ m = .done)
      (nav : NavLink (NavRequest ℝ)) : Prompt m nav

theorem mem_promptly {n : Nat} {r : Robot} {e : Event ℝ} (he : e ∈ (promptly n).messages r) :
    e = .map frontierStrip ∨ e = .target .cube 1 1 ∨ e = .target .plate 0 1 ∨
      e = .target .door 5 5 ∨ (∃ x y t, e = .cubeLive x y t) ∨ ∃ a, e = .nav a := by
  simp only [promptly, List.mem_append, List.mem_map, List.mem_cons, List.not_mem_nil,
    or_false] at he
  obtain ((rfl | rfl | rfl | rfl) | rfl) | ⟨a, -, rfl⟩ := he <;> simp [seePlate, seeDoor]

theorem promptly_regular (n : Nat) : (promptly n).Regular := by
  refine ⟨fun r e he j => ?_, fun r t => rfl⟩
  obtain rfl | rfl | rfl | rfl | ⟨x, y, t, rfl⟩ | ⟨a, rfl⟩ := mem_promptly he <;> simp

theorem promptly_faithful (n : Nat) : Faithful (0, 1) (promptly n) := by
  constructor
  · intro r grid he
    obtain h | h | h | h | ⟨x, y, t, h⟩ | ⟨a, h⟩ := mem_promptly he <;> cases h
    rfl
  · intro r e he
    obtain rfl | rfl | rfl | rfl | ⟨x, y, t, rfl⟩ | ⟨a, rfl⟩ := mem_promptly he
    case inr.inr.inl =>
      have hsame : PyMath.hypot (0 - 0) (1 - 1) ≤ (0.05 : ℝ) := by
        rw [sub_self, sub_self, hypot_zero_right le_rfl]
        norm_num
      exact hsame
    all_goals trivial

theorem promptly_sighted (n : Nat) : (promptly n).Sighted skewed (1, 1) := by
  intro r
  apply Detects.seen
  · exact skewed_sees (1, 1) r
  · norm_num [promptly, Params.default]
  · intro e he
    obtain ⟨a, -, rfl⟩ := List.mem_map.1 he
    simp

section prompt

variable {w : ControlLoop} {n : Nat}

theorem onTarget_nav (name : TargetName) (x y : ℝ) (s : Node ℝ) :
    (s.onTarget name x y).nav = s.nav := by
  unfold Node.onTarget
  split
  · split
    · rfl
    · rfl
  · rfl

theorem told_nav (hr : w.node.raised = none) : (w.told (promptly n)).node.nav =
    answers.foldl NavLink.step w.node.node.nav := by
  obtain ⟨⟨s, raised⟩, robot⟩ := w
  cases hr
  change answers.foldl NavLink.step ((((s.onMap frontierStrip).onTarget .cube 1 1).onTarget
    .plate 0 1).onTarget .door 5 5).nav = _
  rw [onTarget_nav, onTarget_nav, onTarget_nav]
  rfl

theorem In.promptly_known (h : w.In m) (name : TargetName) :
    ((w.told (promptly n)).node.targets name).isSome = true := by
  have hheard {x y : ℝ} (he : .target name x y ∈ (promptly n).messages (w.placed (promptly n))) :
      ((w.told (promptly n)).node.targets name).isSome = true := by
    obtain ⟨o, hr, htold⟩ := heard_run (p := .default) ((promptly_regular n).once _) h.raised he
    exact htold.targets name (target_heard hr)
  cases name with
  | cube => exact hheard (x := 1) (y := 1) (by simp [promptly])
  | plate => exact hheard (x := 0) (y := 1) (by simp [promptly, seePlate])
  | door => exact hheard (x := 5) (y := 5) (by simp [promptly, seeDoor])

variable {g : Motion} {m : State}

theorem prompt_reported (h : w.In m) (hp : Prompt m w.node.node.nav)
    (hm : m = .goToKey ∨ m = .goToPlate) : w.Reported (promptly n) := by
  have htold := told_nav (n := n) h.raised
  generalize w.node.node.nav = nav at hp htold
  cases hp with
  | none => simp at hm
  | key r => exact ⟨congrArg (·.client.active) htold, congrArg (·.client.succeeded) htold⟩
  | picking hm' =>
    obtain rfl | rfl := hm
    · simp at hm'
    · simp at hm'
  | plate r r' => exact ⟨congrArg (·.client.active) htold, congrArg (·.client.succeeded) htold⟩
  | later hm' =>
    obtain rfl | rfl := hm
    · simp at hm'
    · simp at hm'

/-- Before the jaws close on the key the goals stay as they are. -/
theorem Prompt.picks {i : TickIn ℝ} {s : Node ℝ} {m' : State} {nav : NavLink (NavRequest ℝ)}
    (h : NavStep i s m' nav) (hm : s.mode = .pickupOpen ∨ s.mode = .pickupAlign)
    (hadvance : m' = s.mode ∨ s.mode.next = some m') {r : NavRequest ℝ}
    (hnav : s.nav = ⟨{}, [⟨r, .ended .succeeded .result, false, true⟩]⟩) : Prompt m' nav := by
  have hcancel : s.nav.cancel = ⟨{}, [⟨r, .ended .succeeded .result, false, true⟩]⟩ := by
    rw [hnav]
    rfl
  have hm' : m' = .pickupOpen ∨ m' = .pickupAlign ∨ m' = .pickupClose := by
    obtain rfl | hnext := hadvance
    · exact hm.imp_right .inl
    · obtain hm | hm := hm
      · rw [hm] at hnext
        exact .inr (.inl (Option.some.inj hnext).symm)
      · rw [hm] at hnext
        exact .inr (.inr (Option.some.inj hnext).symm)
  have hstay : ¬ m'.navigates = true := by
    obtain rfl | rfl | rfl := hm' <;> simp [State.navigates]
  cases h with
  | keep =>
    rw [hnav]
    exact .picking hm' r
  | send hnavigates => exact absurd hnavigates hstay
  | leave =>
    rw [hcancel]
    exact .picking hm' r
  | enter henter => exact absurd henter.navigates hstay
  | enterSend henter => exact absurd henter.navigates hstay

variable (g) in
/-- In that mission the goals take the same course in every period. -/
theorem prompt_step (h : w.In m) (hp : Prompt m w.node.node.nav) :
    Prompt (w.ticked g (promptly n)).node.mode (w.ticked g (promptly n)).node.nav := by
  have hi := promptly_regular n
  have htold := told_nav (n := n) h.raised
  have hpose := (w.placed (promptly n)).getRobotPose_transform
  have hadvance : (w.ticked g (promptly n)).node.mode = m ∨
      m.next = some (w.ticked g (promptly n)).node.mode := h.advance g hi
  have hmode := h.told_mode hi
  have hraised := (h.told_kept hi).1
  have hreported := prompt_reported (n := n) h hp
  generalize w.node.node.nav = nav at hp htold
  cases hp with
  | none =>
    have hnone : (w.told (promptly n)).node.nav = {} := htold
    cases hstarted : (w.told (promptly n)).node.started with
    | false =>
      rw [ticked, step_tick hraised, Node.tick, hstarted, if_pos (by simp)]
      split
      · change Prompt (w.told (promptly n)).node.mode (w.told (promptly n)).node.nav
        rw [hmode, hnone]
        exact .none
      · rw [Outcome.ok, hmode, hnone]
        exact .none
    | true =>
      have hcube := h.promptly_known (n := n) .cube
      obtain ⟨q, hq⟩ := Option.isSome_iff_exists.1 hcube
      rw [ticked_handle g hraised hstarted, Node.handle, hmode]
      dsimp only [Node.explore]
      rw [if_pos (targetCount_of_known h.promptly_known),
        Node.navGoToKey_eq (s := (w.told (promptly n)).node.transition .goToKey) hpose hq]
      change Prompt .goToKey (.send true _ (w.told (promptly n)).node.nav.cancel)
      rw [hnone]
      exact .key _
  | key r =>
    rw [goToKey_ticked g h hi (hreported (.inl rfl))]
    change Prompt .pickupOpen (w.told (promptly n)).node.nav.cancel
    rw [htold]
    exact .picking (.inl rfl) r
  | picking hm r =>
    have hnav : (w.told (promptly n)).node.nav =
      ⟨{}, [⟨r, .ended .succeeded .result, false, true⟩]⟩ := htold
    by_cases hclose : m = .pickupClose
    · subst hclose
      obtain ⟨q, hq⟩ := Option.isSome_iff_exists.1 (h.promptly_known (n := n) .plate)
      rw [h.ticked_eq g hi (by simp), Node.handle, hmode]
      dsimp only [Node.pickupClose]
      split
      · rw [Node.navGoToPlate_eq (s := ((w.told (promptly n)).node.stop.setCubeVisible
          false).transition .goToPlate) hpose hq]
        change Prompt .goToPlate (.send true _ (w.told (promptly n)).node.nav.cancel)
        rw [hnav]
        exact .plate r _
      · change Prompt (w.told (promptly n)).node.mode (w.told (promptly n)).node.nav
        rw [hnav, hmode]
        exact .picking (.inr (.inr rfl)) r
    · have hstep := (tickStep_tick .default ((promptly n).tickIn g (w.placed (promptly n)))
        (w.told (promptly n)).node).nav
      rw [← hmode] at hadvance hm hclose
      rw [ticked, step_tick hraised] at hadvance ⊢
      exact Prompt.picks hstep (hm.imp_right fun hm => hm.resolve_right hclose) hadvance hnav
  | plate r r' =>
    rw [goToPlate_ticked g h hi (hreported (.inr rfl))]
    exact .later (.inl rfl) _
  | later hm' =>
    apply Prompt.later
    obtain hstay | hnext := hadvance
    · rw [hstay]
      exact hm'
    · obtain rfl | rfl | rfl | rfl := hm'
      · exact .inr (.inl (Option.some.inj hnext).symm)
      · exact .inr (.inr (.inl (Option.some.inj hnext).symm))
      · exact .inr (.inr (.inr (Option.some.inj hnext).symm))
      · cases hnext

variable (g) in
theorem sound_promptly (n : Nat) :
    Sound (0, 1) (after g ⟨.ok .init, ⟨0, 0, 0⟩⟩ promptly n).node :=
  sound_after (w := ⟨.ok .init, ⟨0, 0, 0⟩⟩) g promptly_faithful (sound_init (0, 1)) n

theorem prompt_after (n : Nat) :
    Prompt (after g ⟨.ok .init, ⟨0, 0, 0⟩⟩ promptly n).node.node.mode
      (after g ⟨.ok .init, ⟨0, 0, 0⟩⟩ promptly n).node.node.nav := by
  induction n with
  | zero => exact .none
  | succ n ih =>
    exact prompt_step g ((sound_promptly g n).toIn rfl) ih

variable (g) in
theorem promptly_served :
    Served g skewed (1, 1) (0, 1) ⟨.ok .init, ⟨0, 0, 0⟩⟩ promptly where
  regular := promptly_regular
  faithful := promptly_faithful
  clock := quarters_pass
  ready n := ⟨n, le_rfl, rfl⟩
  mapped := ⟨0, frontierStrip, by simp [promptly]⟩
  found name := by
    refine ⟨0, ?_⟩
    cases name with
    | cube => exact ⟨1, 1, by simp [promptly]⟩
    | plate => exact ⟨0, 1, by simp [promptly, seePlate]⟩
    | door => exact ⟨5, 5, by simp [promptly, seeDoor]⟩
  arrives n hm :=
    ⟨n, le_rfl, prompt_reported ((sound_promptly g n).toIn rfl) (prompt_after n) hm⟩
  view n hm _ := by
    rw [placed, hm]
    exact ⟨skewed_view.1, skewed_view.2⟩
  sighted n _ := promptly_sighted n

end prompt

theorem mission_completes_promptly :
    (∀ n, (after ⟨1, 0⟩ ⟨.ok .init, ⟨0, 0, 0⟩⟩ promptly n).node.raised = none) ∧
      ∃ (r : Robot) (t : ℝ) (k j n : Nat), k ≤ j ∧ j ≤ n ∧
        (after ⟨1, 0⟩ ⟨.ok .init, ⟨0, 0, 0⟩⟩ promptly k).Gripping skewed (1, 1) ∧
        (∀ l, k ≤ l → l < j → (after ⟨1, 0⟩ ⟨.ok .init, ⟨0, 0, 0⟩⟩ promptly l).Carrying (0, 1)) ∧
        (after ⟨1, 0⟩ ⟨.ok .init, ⟨0, 0, 0⟩⟩ promptly j).Release (0, 1) r t ∧
        ∀ l, n ≤ l → (after ⟨1, 0⟩ ⟨.ok .init, ⟨0, 0, 0⟩⟩ promptly l).Parked (r.back 0.255) :=
  mission_completes ⟨0, 0, 0⟩ (promptly_served ⟨1, 0⟩)

end run

end ControlLoop

end EscapeRoom
