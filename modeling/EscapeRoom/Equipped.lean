import EscapeRoom.EffectTrace
import EscapeRoom.FrontierScan

namespace EscapeRoom
set_option autoImplicit true
set_option linter.unusedSectionVars false

variable {R : Type}

/-- The data that the handlers read without looking, in the states in which they read them. -/
structure Equipped (s : Node R) : Prop where
  map : s.started = true → ∃ grid, s.currentMap = some grid
  started : s.mode ≠ .explore → s.started = true
  targets : s.mode ≠ .explore → ∀ name, (s.targets name).isSome = true
  lunge : s.lungeActive = true → ∃ start, s.lungeStart = some start
  backup : s.mode = .dropBackup → ∃ start, s.backupStart = some start

theorem targets_of_count {s : Node R} (h : s.targetCount = 3) (name : TargetName) :
    (s.targets name).isSome = true := by
  have hall : ∀ name ∈ [TargetName.cube, .plate, .door], (s.targets name).isSome = true := by
    apply List.filter_eq_self.1
    apply List.Sublist.eq_of_length List.filter_sublist
    exact h
  apply hall
  cases name with
  | cube => exact .head _
  | plate => exact .tail _ (.head _)
  | door => exact .tail _ (.tail _ (.head _))

/-- The invariant is not about the clock, the goals or the commands. -/
theorem Equipped.keep {s : Node R} (h : Equipped s) (actionT : R) (nav : NavLink (NavRequest R))
    (out : List (Cmd R)) : Equipped { s with actionT := actionT, nav := nav, out := out } :=
  ⟨h.map, h.started, h.targets, h.lunge, h.backup⟩

/-- A change of mode by a node that has started and knows the landmarks. -/
theorem Equipped.move {s : Node R} (h : Equipped s) (hs : s.started = true)
    (ht : ∀ name, (s.targets name).isSome = true) (m : State)
    (hb : m = .dropBackup → ∃ start, s.backupStart = some start) : Equipped (s.transition m) :=
  ⟨h.map, fun _ => hs, fun _ => ht, h.lunge, hb⟩

theorem Equipped.leave {s : Node R} (h : Equipped s) (hm : s.mode ≠ .explore) (m : State)
    (hb : m = .dropBackup → ∃ start, s.backupStart = some start) : Equipped (s.transition m) :=
  h.move (h.started hm) (h.targets hm) m hb

variable [Field R] [PyMath R]

theorem NavGo.equipped {i : TickIn R} {s : Node R} (h : NavGo i sender name s o)
    (hs : Equipped s) (hm : s.mode ≠ .explore) : o.raised = none ∧ Equipped o.node := by
  cases h with
  | noPose => exact ⟨rfl, hs⟩
  | noTarget ht =>
    have htarget := hs.targets hm name
    rw [ht] at htarget
    cases htarget
  | sent => exact ⟨rfl, hs.keep _ _ _⟩

variable [LinearOrder R]

/-- The grid in store is not of the size it announces. -/
def BadMap (s : Node R) : Prop := ∃ grid, s.currentMap = some grid ∧ ¬ grid.WellSized

/-- Only a grid of the wrong size can make a tick raise. -/
theorem TickStep.equipped {p : Params R} {i : TickIn R} {s : Node R} (h : TickStep p i s o)
    (hs : Equipped s) : (o.raised = none ∨ BadMap s) ∧ Equipped o.node := by
  have hstop : Equipped s.stop := hs.keep _ _ _
  cases h with
  | start _ hr =>
    refine ⟨.inl rfl, ⟨fun _ => ?_, fun _ => rfl, hs.targets, hs.lunge, hs.backup⟩⟩
    rw [Node.isReady, Bool.and_eq_true, Bool.and_eq_true] at hr
    exact Option.isSome_iff_exists.1 hr.1.2
  | exploreDone hstart hm ht hg =>
    apply And.imp_left .inl
    apply hg.equipped
    · apply hs.move hstart (targets_of_count ht)
      intro he
      cases he
    · intro he
      cases he
  | exploreNoMap hstart _ hmap =>
    obtain ⟨grid, hgrid⟩ := hs.map hstart
    rw [hmap] at hgrid
    cases hgrid
  | exploreBadMap _ grid hmap e he =>
    exact ⟨.inr ⟨grid, hmap, fun hg => computeFrontiers_ok _ hg e he⟩, hs⟩
  | exploreSend => exact ⟨.inl rfl, hs.keep _ _ _⟩
  | keyRetry hm _ _ hg =>
    apply And.imp_left .inl
    apply hg.equipped hs
    simp [hm]
  | keyReached hm =>
    have hreset : Equipped { s.stop with lungeActive := false, lungeStart := none } := by
      refine ⟨hs.map, hs.started, hs.targets, fun he => ?_, hs.backup⟩
      cases he
    have hmoved := hreset.leave (m := .pickupOpen) (by simp [hm]) (by simp)
    exact ⟨.inl rfl, hmoved.keep _ _ _⟩
  | plateRetry hm _ _ hg =>
    apply And.imp_left .inl
    apply hg.equipped hs
    simp [hm]
  | plateReached hm => exact ⟨.inl rfl, hstop.leave (by simp [hm]) _ (by simp)⟩
  | openWait => exact ⟨.inl rfl, hstop⟩
  | opened hm => exact ⟨.inl rfl, hstop.leave (by simp [hm]) _ (by simp)⟩
  | closeWait => exact ⟨.inl rfl, hstop⟩
  | closed hm _ hg =>
    have hshown : Equipped (s.stop.setCubeVisible false) := hstop.keep _ _ _
    apply And.imp_left .inl
    apply hg.equipped
    · apply hshown.leave
      · simp [hm]
      · simp
    · intro he
      cases he
  | dropNoPlate hm ht =>
    have htarget := hs.targets (by simp [hm]) .plate
    rw [ht] at htarget
    cases htarget
  | dropTurn => exact ⟨.inl rfl, hs.keep _ _ _⟩
  | dropRelease hm =>
    have hmoved := hstop.leave (m := .dropOpen) (by simp [hm]) (by simp)
    exact ⟨.inl rfl, hmoved.keep _ _ _⟩
  | dropMove => exact ⟨.inl rfl, hs.keep _ _ _⟩
  | releaseWait => exact ⟨.inl rfl, hstop⟩
  | released hm start =>
    have hstart : Equipped { s.stop.setCubeVisible true with backupStart := some start } :=
      ⟨hs.map, hs.started, hs.targets, hs.lunge, fun _ => ⟨start, rfl⟩⟩
    refine ⟨.inl rfl, hstart.leave ?_ _ fun _ => ⟨start, rfl⟩⟩
    simp [hm]
  | backupNoStart hm hb =>
    obtain ⟨start, hstart⟩ := hs.backup hm
    rw [hb] at hstart
    cases hstart
  | backupDone hm => exact ⟨.inl rfl, hstop.leave (by simp [hm]) _ (by simp)⟩
  | backupMove => exact ⟨.inl rfl, hs.keep _ _ _⟩
  | lungeNoStart _ hl hb =>
    obtain ⟨start, hstart⟩ := hs.lunge hl
    rw [hb] at hstart
    cases hstart
  | lungeEnd hm =>
    have hidle : Equipped { s.stop with lungeActive := false } := by
      refine ⟨hs.map, hs.started, hs.targets, fun he => ?_, hs.backup⟩
      cases he
    have hmoved := hidle.leave (m := .pickupClose) (by simp [hm]) (by simp)
    exact ⟨.inl rfl, hmoved.keep _ _ _⟩
  | lungeMove => exact ⟨.inl rfl, hs.keep _ _ _⟩
  | alignTurn => exact ⟨.inl rfl, hs.keep _ _ _⟩
  | alignFreeze _ _ _ _ _ _ _ _ _ start =>
    exact ⟨.inl rfl, hs.map, hs.started, hs.targets, fun _ => ⟨start, rfl⟩, hs.backup⟩
  | alignMove => exact ⟨.inl rfl, hs.keep _ _ _⟩
  | _ => exact ⟨.inl rfl, hs⟩

theorem Equipped.setTarget {s : Node R} (h : Equipped s) (name : TargetName) (x y : R) :
    Equipped (s.setTarget name x y) := by
  refine ⟨h.map, h.started, fun hm name' => ?_, h.lunge, h.backup⟩
  by_cases hn : name' = name
  · rw [hn, Node.setTarget_targets_self]
    rfl
  · rw [Node.setTarget_targets_of_ne hn]
    exact h.targets hm name'

theorem EventStep.equipped {p : Params R} (h : EventStep p o e o') (hs : Equipped o.node) :
    Equipped o'.node := by
  cases h with
  | ended => exact hs
  | tick i h => exact (h.equipped hs).2
  | map grid => exact ⟨fun _ => ⟨grid, rfl⟩, hs.started, hs.targets, hs.lunge, hs.backup⟩
  | near => exact hs
  | target name x y => exact hs.setTarget name x y
  | cubeLive => exact ⟨hs.map, hs.started, hs.targets, hs.lunge, hs.backup⟩
  | nav => exact ⟨hs.map, hs.started, hs.targets, hs.lunge, hs.backup⟩

theorem missionRun_equipped (p : Params R) (es : List (Event R)) :
    Equipped (missionRun p es).node := by
  apply missionRun_invariant (fun o => Equipped o.node) _ fun o e => (eventStep_step p o e).equipped
  constructor
  · intro hs
    cases hs
  · intro hm
    exact absurd rfl hm
  · intro hm
    exact absurd rfl hm
  · intro hl
    cases hl
  · intro hm
    cases hm

/-- Nothing has been raised, and the grid in store is of the size it announces. -/
structure Unharmed (o : Outcome R) : Prop where
  raised : o.raised = none
  sized : ∀ grid, o.node.currentMap = some grid → grid.WellSized

theorem EventStep.unharmed {p : Params R} (h : EventStep p o e o') (hs : Equipped o.node)
    (ho : Unharmed o) (he : ∀ grid, e = .map grid → grid.WellSized) : Unharmed o' := by
  cases h with
  | ended => exact ho
  | tick i h =>
    constructor
    · rcases (h.equipped hs).1 with hr | ⟨grid, hmap, hbad⟩
      · exact hr
      · exact absurd (ho.sized grid hmap) hbad
    · intro grid hmap
      apply ho.sized
      rw [← h.perception.currentMap]
      exact hmap
  | map grid =>
    refine ⟨rfl, fun grid' hmap => ?_⟩
    cases hmap
    exact he grid rfl
  | near => exact ⟨rfl, ho.sized⟩
  | target => exact ⟨rfl, ho.sized⟩
  | cubeLive => exact ⟨rfl, ho.sized⟩
  | nav => exact ⟨rfl, ho.sized⟩

/-- No run whose grids have the announced size raises, nor does any tick after it. -/
theorem never_raises (p : Params R) (es : List (Event R))
    (hg : ∀ grid, Event.map grid ∈ es → grid.WellSized) :
    (missionRun p es).raised = none ∧ Equipped (missionRun p es).node ∧
      ∀ i, ((missionRun p es).node.tick p i).raised = none := by
  have hmeet : Runs.StepsMeet (step p) (fun _ e => ∀ grid, e = .map grid → grid.WellSized)
      (.ok .init) es := by
    apply Runs.stepsMeet_of_forall
    rintro e hmem _ grid rfl
    exact hg grid hmem
  have hinit : Unharmed (.ok .init : Outcome R) := by
    refine ⟨rfl, fun grid hmap => ?_⟩
    cases hmap
  have hstep : ∀ (o : Outcome R) e, Equipped o.node ∧ Unharmed o →
      (∀ grid, e = .map grid → grid.WellSized) →
        Equipped (step p o e).node ∧ Unharmed (step p o e) := by
    rintro o e ⟨hs, ho⟩ he
    exact ⟨(eventStep_step p o e).equipped hs, (eventStep_step p o e).unharmed hs ho he⟩
  obtain ⟨hequipped, hok⟩ := Runs.invariant_of_stepsMeet
    (I := fun o : Outcome R => Equipped o.node ∧ Unharmed o)
    ⟨missionRun_equipped p [], hinit⟩ hstep hmeet
  refine ⟨hok.raised, hequipped, fun i => ?_⟩
  rcases ((tickStep_tick p i _).equipped hequipped).1 with h | ⟨grid, hmap, hbad⟩
  · exact h
  · exact absurd (hok.sized grid hmap) hbad

theorem never_raises_backingAway :
    (missionRun Params.default (promptArrival ++ carrying ++ backingAway)).raised = none ∧
      Equipped (missionRun Params.default (promptArrival ++ carrying ++ backingAway)).node ∧
        ∀ i, ((missionRun Params.default (promptArrival ++ carrying ++ backingAway)).node.tick
          Params.default i).raised = none := by
  apply never_raises
  intro grid h
  obtain rfl : grid = frontierStrip := by
    simpa [promptArrival, carrying, backingAway, seeCube, seePlate, seeDoor] using h
  rfl

end EscapeRoom
