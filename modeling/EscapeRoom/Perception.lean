import EscapeRoom.Equipped

namespace EscapeRoom
set_option autoImplicit true
set_option linter.unusedSectionVars false

/-- The stores that only perception writes. -/
structure Sight (R : Type) where
  targets : TargetName → Option (R × R)
  currentMap : Option (OccupancyGrid R)
  cubeLive : Option (R × R × R)

def Node.sight (s : Node R) : Sight R := ⟨s.targets, s.currentMap, s.cubeLive⟩

def Node.withSight (v : Sight R) (s : Node R) : Node R :=
  { s with targets := v.targets, currentMap := v.currentMap, cubeLive := v.cubeLive }

def Outcome.withSight (v : Sight R) (o : Outcome R) : Outcome R := ⟨o.node.withSight v, o.raised⟩

/-- `PICKUP_CLOSE` or later. -/
def State.carries : State → Bool
  | .explore | .goToKey | .pickupOpen | .pickupAlign => false
  | _ => true

/-- Two stores that agree on what a node in mode `m` may still read. -/
structure Sight.Agrees (m : State) (v w : Sight R) : Prop where
  plate : w.targets .plate = v.targets .plate
  cube : m.carries = false → w.targets .cube = v.targets .cube
  live : m.carries = false → w.cubeLive = v.cubeLive
  door : m = .explore → (w.targets .door).isSome = (v.targets .door).isSome
  map : m = .explore → w.currentMap = v.currentMap

section handlers

variable {R : Type} [Field R] [LinearOrder R] [PyMath R] {p : Params R} {i : TickIn R}
  {s : Node R} {v : Sight R}

theorem navGoToKey_withSight (h : v.targets .cube = s.targets .cube) :
    (s.withSight v).navGoToKey p i = (s.navGoToKey p i).withSight v := by
  have hc : (s.withSight v).targets .cube = s.targets .cube := h
  simp only [Node.navGoToKey, hc]
  cases getRobotPose i.mapTf with
  | none => rfl
  | some pose =>
    cases s.targets .cube with
    | none => rfl
    | some cube => rfl

theorem navGoToPlate_withSight (h : v.targets .plate = s.targets .plate) :
    (s.withSight v).navGoToPlate i = (s.navGoToPlate i).withSight v := by
  have hp : (s.withSight v).targets .plate = s.targets .plate := h
  simp only [Node.navGoToPlate, hp]
  cases getRobotPose i.mapTf with
  | none => rfl
  | some pose =>
    cases s.targets .plate with
    | none => rfl
    | some plate => rfl

theorem targetCount_withSight (hc : v.targets .cube = s.targets .cube)
    (hp : v.targets .plate = s.targets .plate)
    (hd : (v.targets .door).isSome = (s.targets .door).isSome) :
    (s.withSight v).targetCount = s.targetCount := by
  have hseen : (fun name => ((s.withSight v).targets name).isSome) =
      fun name => (s.targets name).isSome := by
    funext name
    cases name with
    | cube => exact congrArg Option.isSome hc
    | plate => exact congrArg Option.isSome hp
    | door => exact hd
  rw [Node.targetCount, hseen, Node.targetCount]

theorem explore_withSight (hc : v.targets .cube = s.targets .cube)
    (hcount : (s.withSight v).targetCount = s.targetCount)
    (hmap : v.currentMap = s.currentMap) :
    (s.withSight v).explore p i = (s.explore p i).withSight v := by
  have hm : (s.withSight v).currentMap = s.currentMap := hmap
  have hn : (s.withSight v).nav = s.nav := rfl
  simp only [Node.explore, hcount, hm, hn]
  by_cases h3 : s.targetCount = 3
  · rw [if_pos h3, if_pos h3]
    exact navGoToKey_withSight (s := s.transition .goToKey) hc
  · rw [if_neg h3, if_neg h3]
    cases s.nav.client.active with
    | true => rfl
    | false =>
      cases s.currentMap with
      | none => rfl
      | some grid =>
        dsimp only
        cases computeFrontiers p.setOrder grid with
        | error e => rfl
        | ok frontiers =>
          by_cases hf : frontiers = []
          · simp only [hf]
            rfl
          · simp only [if_neg hf]
            cases getRobotPose i.mapTf with
            | none => rfl
            | some pose =>
              dsimp only
              cases pyMin (fun f => PyMath.hypot (f.1 - pose.1) (f.2 - pose.2.1)) frontiers with
              | none => rfl
              | some f => rfl

theorem goToKey_withSight (h : v.targets .cube = s.targets .cube) :
    (s.withSight v).goToKey p i = (s.goToKey p i).withSight v := by
  have hn : (s.withSight v).nav = s.nav := rfl
  simp only [Node.goToKey, hn]
  cases s.nav.client.active with
  | true => rfl
  | false =>
    cases s.nav.client.succeeded with
    | true => rfl
    | false => exact navGoToKey_withSight h

theorem goToPlate_withSight (h : v.targets .plate = s.targets .plate) :
    (s.withSight v).goToPlate i = (s.goToPlate i).withSight v := by
  have hn : (s.withSight v).nav = s.nav := rfl
  simp only [Node.goToPlate, hn]
  cases s.nav.client.active with
  | true => rfl
  | false =>
    cases s.nav.client.succeeded with
    | true => rfl
    | false => exact navGoToPlate_withSight h

theorem pickupOpen_withSight : (s.withSight v).pickupOpen p i = (s.pickupOpen p i).withSight v := by
  have ha : (s.withSight v).stop.actionT = s.stop.actionT := rfl
  simp only [Node.pickupOpen, ha]
  split
  · rfl
  · rfl

theorem pickupClose_withSight (h : v.targets .plate = s.targets .plate) :
    (s.withSight v).pickupClose p i = (s.pickupClose p i).withSight v := by
  have ha : (s.withSight v).stop.actionT = s.stop.actionT := rfl
  simp only [Node.pickupClose, ha]
  split
  · exact navGoToPlate_withSight (s := (s.stop.setCubeVisible false).transition .goToPlate) h
  · rfl

theorem dropAlign_withSight (h : v.targets .plate = s.targets .plate) :
    (s.withSight v).dropAlign p i = (s.dropAlign p i).withSight v := by
  have hp : (s.withSight v).targets .plate = s.targets .plate := h
  simp only [Node.dropAlign, hp]
  cases getRobotPose i.mapTf with
  | none => rfl
  | some pose =>
    cases s.targets .plate with
    | none => rfl
    | some plate =>
      dsimp only
      split
      · rfl
      · split
        · rfl
        · rfl

theorem dropOpen_withSight : (s.withSight v).dropOpen p i = (s.dropOpen p i).withSight v := by
  have ha : (s.withSight v).stop.actionT = s.stop.actionT := rfl
  simp only [Node.dropOpen, ha]
  split
  · rfl
  · cases getOdomPose i.odomTf with
    | none => rfl
    | some start => rfl

theorem dropBackup_withSight :
    (s.withSight v).dropBackup p i = (s.dropBackup p i).withSight v := by
  have hb : (s.withSight v).backupStart = s.backupStart := rfl
  simp only [Node.dropBackup, hb]
  cases getOdomPose i.odomTf with
  | none => rfl
  | some pose =>
    cases s.backupStart with
    | none => rfl
    | some start =>
      dsimp only
      split
      · rfl
      · rfl

theorem cubeFresh_withSight (h : v.cubeLive = s.cubeLive) :
    (s.withSight v).cubeFresh p i = s.cubeFresh p i := by
  have hc : (s.withSight v).cubeLive = s.cubeLive := h
  rw [Node.cubeFresh, hc, Node.cubeFresh]

theorem lungeBearing_withSight (h : v.cubeLive = s.cubeLive) :
    (s.withSight v).lungeBearing p i = s.lungeBearing p i := by
  have hc : (s.withSight v).cubeLive = s.cubeLive := h
  rw [Node.lungeBearing, hc, cubeFresh_withSight h, Node.lungeBearing]

theorem pickupLunge_withSight (h : v.cubeLive = s.cubeLive) :
    (s.withSight v).pickupLunge p i = (s.pickupLunge p i).withSight v := by
  have hs : (s.withSight v).lungeStart = s.lungeStart := rfl
  have hd : (s.withSight v).lungeDist = s.lungeDist := rfl
  simp only [Node.pickupLunge, hs, hd, lungeBearing_withSight h]
  cases getOdomPose i.odomTf with
  | none => rfl
  | some pose =>
    cases s.lungeStart with
    | none => rfl
    | some start =>
      dsimp only
      split
      · rfl
      · rfl

theorem pickupAlign_withSight (h : v.cubeLive = s.cubeLive) :
    (s.withSight v).pickupAlign p i = (s.pickupAlign p i).withSight v := by
  have hl : (s.withSight v).lungeActive = s.lungeActive := rfl
  have hc : (s.withSight v).cubeLive = s.cubeLive := h
  simp only [Node.pickupAlign, hl, hc, cubeFresh_withSight h]
  split
  · exact pickupLunge_withSight h
  · split
    · rfl
    · cases hlive : s.cubeLive with
      | none => rfl
      | some c =>
        have hv : v.cubeLive = some c := h.trans hlive
        dsimp only
        split
        · rfl
        · split
          · cases getOdomPose i.odomTf with
            | none => rfl
            | some start =>
              simp only [Outcome.withSight, Node.withSight, Outcome.ok, Node.stop, Node.emit, hv]
          · rfl

/-- A tick does the same on any two stores that agree on what its mode reads. -/
theorem tick_withSight (hs : Equipped s) (h : Sight.Agrees s.mode s.sight v) :
    (s.withSight v).tick p i = (s.tick p i).withSight v := by
  have hstart : (s.withSight v).started = s.started := rfl
  have hmode : (s.withSight v).mode = s.mode := rfl
  cases hrun : s.started with
  | false =>
    have hm : s.mode = .explore := by
      by_contra hm
      have hon := hs.started hm
      rw [hrun] at hon
      cases hon
    have hmap : (s.withSight v).currentMap = s.currentMap := h.map hm
    have hready : (s.withSight v).isReady i = s.isReady i := by
      rw [Node.isReady, hmap, Node.isReady]
    simp only [Node.tick, hstart, hrun, hready]
    cases s.isReady i with
    | false => rfl
    | true => rfl
  | true =>
    simp only [Node.tick, hstart, hrun, Node.handle, hmode]
    cases hm : s.mode with
    | explore =>
      rw [hm] at h
      apply explore_withSight (h.cube rfl) _ (h.map rfl)
      exact targetCount_withSight (h.cube rfl) h.plate (h.door rfl)
    | goToKey =>
      rw [hm] at h
      exact goToKey_withSight (h.cube rfl)
    | pickupOpen => exact pickupOpen_withSight
    | pickupAlign =>
      rw [hm] at h
      exact pickupAlign_withSight (h.live rfl)
    | pickupClose => exact pickupClose_withSight h.plate
    | goToPlate => exact goToPlate_withSight h.plate
    | dropAlign => exact dropAlign_withSight h.plate
    | dropOpen => exact dropOpen_withSight
    | dropBackup => exact dropBackup_withSight
    | done => rfl

end handlers

variable {R : Type} [Field R] [LinearOrder R] [PyMath R]

/-- What `_on_target` makes of the stored position. -/
def noteTarget (old : Option (R × R)) (x y : R) : Option (R × R) :=
  match old with
  | some (ox, oy) => if PyMath.hypot (x - ox) (y - oy) ≤ 0.1 then old else some (x, y)
  | none => some (x, y)

/-- What a message of perception makes of the stores. -/
def Sight.note (v : Sight R) : Event R → Sight R
  | .map grid => { v with currentMap := some grid }
  | .target name x y =>
    { v with targets := Function.update v.targets name (noteTarget (v.targets name) x y) }
  | .cubeLive x y clock => { v with cubeLive := some (x, y, clock) }
  | .tick _ | .nav _ => v

def Event.perceives : Event R → Bool
  | .map _ | .target _ _ _ | .cubeLive _ _ _ => true
  | _ => false

theorem noteTarget_isSome (old : Option (R × R)) (x y : R) :
    (noteTarget old x y).isSome = true := by
  unfold noteTarget
  split
  · split
    · rfl
    · rfl
  · rfl

theorem onTarget_eq (name : TargetName) (x y : R) (s : Node R) :
    s.onTarget name x y =
      { s with targets := Function.update s.targets name (noteTarget (s.targets name) x y) } := by
  cases ht : s.targets name with
  | none =>
    simp only [Node.onTarget, ht, noteTarget]
    rfl
  | some old =>
    obtain ⟨ox, oy⟩ := old
    simp only [Node.onTarget, ht, noteTarget]
    split
    · rw [← ht, Function.update_eq_self]
    · rfl

/-- A message of perception only changes the stores. -/
theorem step_perceives {p : Params R} {o : Outcome R} {e : Event R} (hr : o.raised = none)
    (he : e.perceives = true) : step p o e = o.withSight (o.node.sight.note e) := by
  cases e with
  | tick => cases he
  | nav => cases he
  | map grid =>
    rw [step, hr, Outcome.withSight, hr]
    rfl
  | target name x y =>
    rw [step, hr, Outcome.withSight, hr]
    exact congrArg Outcome.ok (onTarget_eq name x y o.node)
  | cubeLive =>
    rw [step, hr, Outcome.withSight, hr]
    rfl

/-- Messages that a node in mode `m` may get or miss: of the cube and the door once the key is
being carried, and maps once the exploration is over. -/
inductive Irrelevant (m : State) : Event R → Prop where
  | cube (hm : m.carries = true) (x y : R) : Irrelevant m (.target .cube x y)
  | door (hm : m.carries = true) (x y : R) : Irrelevant m (.target .door x y)
  | cubeLive (hm : m.carries = true) (x y clock : R) : Irrelevant m (.cubeLive x y clock)
  | map (hm : m ≠ .explore) (grid : OccupancyGrid R) : Irrelevant m (.map grid)

/-- Two sequences of callbacks that differ in the coordinates of door messages, and in messages
that are irrelevant at the moment they come. -/
inductive Aligned (p : Params R) :
    Outcome R → Outcome R → List (Event R) → List (Event R) → Prop where
  | nil : Aligned p o o' [] []
  | same (e : Event R) (h : Aligned p (step p o e) (step p o' e) es es') :
      Aligned p o o' (e :: es) (e :: es')
  | door (x y x' y' : R) (h : Aligned p (step p o (.target .door x y))
        (step p o' (.target .door x' y')) es es') :
      Aligned p o o' (.target .door x y :: es) (.target .door x' y' :: es')
  | left (e : Event R) (hi : Irrelevant o.node.mode e) (h : Aligned p (step p o e) o' es es') :
      Aligned p o o' (e :: es) es'
  | right (e : Event R) (hi : Irrelevant o'.node.mode e) (h : Aligned p o (step p o' e) es es') :
      Aligned p o o' es (e :: es')

section agreement

variable {m : State} {v w : Sight R}

theorem Irrelevant.perceives {e : Event R} (h : Irrelevant m e) : e.perceives = true := by
  cases h with
  | cube => rfl
  | door => rfl
  | cubeLive => rfl
  | map => rfl

theorem Sight.Agrees.refl (m : State) (v : Sight R) : Agrees m v v :=
  ⟨rfl, fun _ => rfl, fun _ => rfl, fun _ => rfl, fun _ => rfl⟩

theorem Sight.Agrees.symm (h : Agrees m v w) : Agrees m w v :=
  ⟨h.plate.symm, fun hm => (h.cube hm).symm, fun hm => (h.live hm).symm,
    fun hm => (h.door hm).symm, fun hm => (h.map hm).symm⟩

theorem Sight.Agrees.trans (h : Agrees m v w) {u : Sight R} (h' : Agrees m w u) : Agrees m v u :=
  ⟨h'.plate.trans h.plate, fun hm => (h'.cube hm).trans (h.cube hm),
    fun hm => (h'.live hm).trans (h.live hm), fun hm => (h'.door hm).trans (h.door hm),
    fun hm => (h'.map hm).trans (h.map hm)⟩

theorem carries_ne_explore (hm : m.carries = true) : m ≠ .explore := by
  rintro rfl
  cases hm

/-- An irrelevant message leaves a store that agrees with the one before it. -/
theorem Irrelevant.agrees {e : Event R} (h : Irrelevant m e) (v : Sight R) :
    Sight.Agrees m v (v.note e) := by
  cases h with
  | cube hm x y =>
    refine ⟨rfl, fun hm' => ?_, fun _ => rfl, fun _ => rfl, fun _ => rfl⟩
    rw [hm] at hm'
    cases hm'
  | door hm x y =>
    exact ⟨rfl, fun _ => rfl, fun _ => rfl, fun he => absurd he (carries_ne_explore hm),
      fun _ => rfl⟩
  | cubeLive hm x y clock =>
    refine ⟨rfl, fun _ => rfl, fun hm' => ?_, fun _ => rfl, fun _ => rfl⟩
    rw [hm] at hm'
    cases hm'
  | map hm grid =>
    exact ⟨rfl, fun _ => rfl, fun _ => rfl, fun _ => rfl, fun he => absurd he hm⟩

theorem Sight.Agrees.door_note (h : Agrees m v w) (x y x' y' : R) :
    Agrees m (v.note (.target .door x y)) (w.note (.target .door x' y')) := by
  refine ⟨h.plate, h.cube, h.live, fun _ => ?_, h.map⟩
  exact (noteTarget_isSome _ x' y').trans (noteTarget_isSome _ x y).symm

theorem Sight.Agrees.note (h : Agrees m v w) (e : Event R) : Agrees m (v.note e) (w.note e) := by
  cases e with
  | tick => exact h
  | nav => exact h
  | map grid => exact ⟨h.plate, h.cube, h.live, h.door, fun _ => rfl⟩
  | cubeLive x y clock => exact ⟨h.plate, h.cube, fun _ => rfl, h.door, h.map⟩
  | target name x y =>
    cases name with
    | door => exact h.door_note x y x y
    | cube =>
      refine ⟨h.plate, fun hm => ?_, h.live, h.door, h.map⟩
      exact congrArg (noteTarget · x y) (h.cube hm)
    | plate => exact ⟨congrArg (noteTarget · x y) h.plate, h.cube, h.live, h.door, h.map⟩

theorem Sight.Agrees.next {m' : State} (h : Agrees m v w) (hm : m.next = some m') :
    Agrees m' v w := by
  refine ⟨h.plate, fun hc => h.cube ?_, fun hc => h.live ?_, fun he => ?_, fun he => ?_⟩
  · cases m <;> cases hm <;> first | rfl | cases hc
  · cases m <;> cases hm <;> first | rfl | cases hc
  · cases m <;> cases hm <;> cases he
  · cases m <;> cases hm <;> cases he

end agreement

/-- Two nodes that differ in nothing but stores that the node will not read again. -/
def Similar (o o' : Outcome R) : Prop :=
  ∃ v, o' = o.withSight v ∧ Sight.Agrees o.node.mode o.node.sight v

def Event.isTick : Event R → Bool
  | .tick _ => true
  | _ => false

/-- The mode and all the commands so far, after each tick. -/
def tickTrace (p : Params R) (o : Outcome R) : List (Event R) → List (State × List (Cmd R))
  | [] => []
  | e :: es =>
    (if e.isTick then [((step p o e).node.mode, (step p o e).node.out)] else []) ++
      tickTrace p (step p o e) es

section runs

variable {p : Params R} {o o' : Outcome R}

theorem step_raised {err : PyError} (hr : o.raised = some err) (e : Event R) : step p o e = o := by
  unfold step
  exact if_pos (by rw [hr]; rfl)

theorem step_nav (hr : o.raised = none) (e : NavEvent) :
    step p o (.nav e) = .ok { o.node with nav := o.node.nav.step e } := by
  rw [step, hr]
  rfl

theorem Similar.observed (h : Similar o o') :
    o'.node.mode = o.node.mode ∧ o'.node.out = o.node.out ∧ o'.raised = o.raised := by
  obtain ⟨v, rfl, _⟩ := h
  exact ⟨rfl, rfl, rfl⟩

theorem Similar.left {e : Event R} (h : Similar o o') (hi : Irrelevant o.node.mode e) :
    Similar (step p o e) o' := by
  cases hr : o.raised with
  | some err =>
    rw [step_raised hr]
    exact h
  | none =>
    rw [step_perceives hr hi.perceives]
    obtain ⟨v, rfl, hv⟩ := h
    exact ⟨v, rfl, (hi.agrees _).symm.trans hv⟩

theorem Similar.right {e : Event R} (h : Similar o o') (hi : Irrelevant o'.node.mode e) :
    Similar o (step p o' e) := by
  cases hr : o'.raised with
  | some err =>
    rw [step_raised hr]
    exact h
  | none =>
    rw [step_perceives hr hi.perceives]
    obtain ⟨v, rfl, hv⟩ := h
    exact ⟨v.note e, rfl, hv.trans (hi.agrees v)⟩

theorem Similar.step_of_running (h : Similar o o') (e e' : Event R)
    (hstep : o.raised = none → o'.raised = none → Similar (step p o e) (step p o' e')) :
    Similar (step p o e) (step p o' e') := by
  have hr' := h.observed.2.2
  cases hr : o.raised with
  | some err =>
    rw [step_raised hr, step_raised (hr'.trans hr)]
    exact h
  | none => exact hstep hr (hr'.trans hr)

theorem Similar.perceive {e e' : Event R} (h : Similar o o') (he : e.perceives = true)
    (he' : e'.perceives = true)
    (hn : ∀ v w, Sight.Agrees o.node.mode v w → Sight.Agrees o.node.mode (v.note e) (w.note e')) :
    Similar (step p o e) (step p o' e') := by
  apply h.step_of_running
  intro hr hr'
  rw [step_perceives hr he, step_perceives hr' he']
  obtain ⟨v, rfl, hv⟩ := h
  exact ⟨v.note e', rfl, hn _ _ hv⟩

variable [IsStrictOrderedRing R]

theorem Similar.tick (h : Similar o o') (hs : Equipped o.node) (i : TickIn R) :
    Similar (step p o (.tick i)) (step p o' (.tick i)) := by
  apply h.step_of_running
  intro hr hr'
  have hmode := step_hands p o (.tick i)
  rw [step_tick hr] at hmode
  rw [step_tick hr, step_tick hr']
  obtain ⟨v, rfl, hv⟩ := h
  refine ⟨v, tick_withSight hs hv, ?_⟩
  obtain ⟨ht, hmap, hlive⟩ := (tickStep_tick p i o.node).perception
  rw [Node.sight, ht, hmap, hlive]
  rcases hmode with ⟨hm, _⟩ | ⟨hm, _⟩
  · rw [hm]
    exact hv
  · exact hv.next hm

theorem Similar.same (h : Similar o o') (hs : Equipped o.node) (e : Event R) :
    Similar (step p o e) (step p o' e) := by
  cases e with
  | tick i => exact h.tick hs i
  | map => exact h.perceive rfl rfl fun _ _ hv => hv.note _
  | target => exact h.perceive rfl rfl fun _ _ hv => hv.note _
  | cubeLive => exact h.perceive rfl rfl fun _ _ hv => hv.note _
  | nav e =>
    apply h.step_of_running
    intro hr hr'
    rw [step_nav hr, step_nav hr']
    obtain ⟨v, rfl, hv⟩ := h
    exact ⟨v, rfl, hv⟩

theorem step_mode_perceives {e : Event R} (h : e.perceives = true) :
    (step p o e).node.mode = o.node.mode := by
  by_contra hm
  obtain ⟨i, rfl⟩ := step_mode_tick p o e hm
  cases h

theorem perceives_not_tick {e : Event R} (h : e.perceives = true) : e.isTick = false := by
  cases e with
  | tick => cases h
  | _ => rfl

theorem tickTrace_perceives {e : Event R} (h : e.perceives = true) (es : List (Event R)) :
    tickTrace p o (e :: es) = tickTrace p (step p o e) es := by
  rw [tickTrace, perceives_not_tick h]
  rfl

theorem Aligned.refl (o o' : Outcome R) (es : List (Event R)) : Aligned p o o' es es := by
  induction es generalizing o o' with
  | nil => exact .nil
  | cons e es ih => exact .same e (ih _ _)

theorem Aligned.append (h : Aligned p o o' es es')
    (h' : Aligned p (Runs.run (step p) o es) (Runs.run (step p) o' es') fs fs') :
    Aligned p o o' (es ++ fs) (es' ++ fs') := by
  induction h with
  | nil => exact h'
  | same e _ ih => exact .same e (ih h')
  | door x y x' y' _ ih => exact .door x y x' y' (ih h')
  | left e hi _ ih => exact .left e hi (ih h')
  | right e hi _ ih => exact .right e hi (ih h')

/-- Aligned sequences lead from similar nodes through the same ticks to similar nodes. -/
theorem Aligned.similar (h : Aligned p o o' es es') (hs : Equipped o.node) (hsim : Similar o o') :
    tickTrace p o es = tickTrace p o' es' ∧
      Similar (Runs.run (step p) o es) (Runs.run (step p) o' es') := by
  induction h with
  | nil => exact ⟨rfl, hsim⟩
  | same e _ ih =>
    have hstep := hsim.same (p := p) hs e
    obtain ⟨htrace, hrun⟩ := ih ((eventStep_step p _ e).equipped hs) hstep
    obtain ⟨hm, ho, _⟩ := hstep.observed
    refine ⟨?_, hrun⟩
    rw [tickTrace, tickTrace, htrace, hm, ho]
  | @door o o' es es' x y x' y' _ ih =>
    have hstep : Similar (step p o (.target .door x y)) (step p o' (.target .door x' y')) :=
      hsim.perceive rfl rfl fun _ _ hv => hv.door_note x y x' y'
    obtain ⟨htrace, hrun⟩ := ih ((eventStep_step p _ _).equipped hs) hstep
    refine ⟨?_, hrun⟩
    rw [tickTrace_perceives rfl, tickTrace_perceives rfl]
    exact htrace
  | left e hi _ ih =>
    obtain ⟨htrace, hrun⟩ := ih ((eventStep_step p _ e).equipped hs) (hsim.left hi)
    refine ⟨?_, hrun⟩
    rw [tickTrace_perceives hi.perceives]
    exact htrace
  | right e hi _ ih =>
    obtain ⟨htrace, hrun⟩ := ih hs (hsim.right hi)
    refine ⟨?_, hrun⟩
    rw [tickTrace_perceives hi.perceives]
    exact htrace

/-- Perception that no longer matters changes neither the modes nor the commands of a run. -/
theorem perception_irrelevant (p : Params R) (es es' : List (Event R))
    (h : Aligned p (.ok .init) (.ok .init) es es') :
    tickTrace p (.ok .init) es = tickTrace p (.ok .init) es' ∧
      (missionRun p es).node.mode = (missionRun p es').node.mode ∧
        (missionRun p es).node.out = (missionRun p es').node.out := by
  obtain ⟨htrace, hrun⟩ :=
    h.similar (missionRun_equipped p []) ⟨Node.init.sight, rfl, .refl _ _⟩
  obtain ⟨hm, ho, _⟩ := hrun.observed
  exact ⟨htrace, hm.symm, ho.symm⟩

end runs

/-- As `promptArrival`, with the door seen elsewhere and a map that comes after the exploration. -/
noncomputable def otherDoor : List (Event ℝ) :=
  [.map frontierStrip, seeCube, seePlate, .target .door 0 (-1), .tick tickAtOrigin,
    .tick tickAtOrigin, .nav (.accept 0), .nav (.response 0), .map ⟨0, 0, 0, 0, 0, [1]⟩,
    .nav (.finish 0 .succeeded), .nav (.result 0), .tick tickAtOrigin]

theorem aligned_otherDoor :
    Aligned Params.default (.ok .init) (.ok .init) promptArrival otherDoor := by
  apply Aligned.same
  apply Aligned.same
  apply Aligned.same
  apply Aligned.door
  apply Aligned.same
  apply Aligned.same
  apply Aligned.same
  apply Aligned.same
  apply Aligned.right
  · exact .map (by decide +kernel) _
  apply Aligned.same
  apply Aligned.same
  apply Aligned.same
  exact .nil

/-- As the run to the drop, with the door seen elsewhere, a map after the exploration, and the key
in the gripper seen by the camera on the way. -/
noncomputable def keyInView : List (Event ℝ) :=
  otherDoor ++ carrying ++
    ([.target .cube 1 1, .cubeLive 1 0 0, .target .door 1 0] ++ backingAway)

theorem aligned_keyInView : Aligned Params.default (.ok .init) (.ok .init)
    (promptArrival ++ carrying ++ backingAway) keyInView := by
  have hcarrying : Aligned Params.default (.ok .init) (.ok .init) (promptArrival ++ carrying)
      (otherDoor ++ carrying) := aligned_otherDoor.append (.refl _ _ _)
  have hsimilar := (hcarrying.similar (missionRun_equipped .default [])
    ⟨Node.init.sight, rfl, .refl _ _⟩).2
  obtain ⟨s, hrun, _, hm, _⟩ := missionRun_keyCarried default_usual
  have hcarries : (missionRun Params.default (otherDoor ++ carrying)).node.mode.carries = true := by
    rw [missionRun, hsimilar.observed.1, ← missionRun, hrun]
    exact congrArg State.carries hm
  apply hcarrying.append
  apply Aligned.right
  · exact .cube hcarries 1 1
  apply Aligned.right
  · refine .cubeLive ?_ 1 0 0
    rw [step_mode_perceives rfl]
    exact hcarries
  apply Aligned.right
  · refine .door ?_ 1 0
    rw [step_mode_perceives rfl, step_mode_perceives rfl]
    exact hcarries
  exact .refl _ _ _

theorem perception_irrelevant_keyInView :
    tickTrace Params.default (.ok .init) (promptArrival ++ carrying ++ backingAway) =
        tickTrace Params.default (.ok .init) keyInView ∧
      (missionRun Params.default (promptArrival ++ carrying ++ backingAway)).node.mode =
          (missionRun Params.default keyInView).node.mode ∧
        (missionRun Params.default (promptArrival ++ carrying ++ backingAway)).node.out =
          (missionRun Params.default keyInView).node.out :=
  perception_irrelevant Params.default _ keyInView aligned_keyInView

end EscapeRoom
