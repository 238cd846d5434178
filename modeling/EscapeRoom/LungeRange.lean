import EscapeRoom.DeadMan
import EscapeRoom.Detector

namespace EscapeRoom
set_option autoImplicit true
set_option linter.unusedSectionVars false

/-- A camera image, the delivery of a live sample, or another callback of the node. -/
inductive SystemEvent (R : Type) where
  | frame (fr : Frame R)
  | deliver (n : Nat) (clock : R)
  | tick (i : TickIn R)
  | map (grid : OccupancyGrid R)
  | target (name : TargetName) (x y : R)
  | nav (e : NavEvent)

/-- A callback that no camera image is behind. -/
def Event.toSystem : Event R → Option (SystemEvent R)
  | .tick i => some (.tick i)
  | .map grid => some (.map grid)
  | .target name x y => some (.target name x y)
  | .nav e => some (.nav e)
  | .cubeLive _ _ _ => none

/-- The node, the live samples on their way to it with the frames they are from, and the frame
of the sample that the node holds. -/
structure System (R : Type) where
  node : Outcome R
  flying : List (Frame R × R × R)
  source : Option (Frame R)

def DetectorMsg.live? : DetectorMsg R → Option (R × R)
  | .cubeLive x y => some (x, y)
  | .pose _ _ => none

variable {R : Type} [Field R] [LinearOrder R] [PyMath R]

def liveSamples (fov : R) (fr : Frame R) : List (R × R) :=
  (onImage fov fr).filterMap DetectorMsg.live?

/-- The height of the cube's blob is cut off by an edge of the image. -/
def Frame.cubeClipped (fr : Frame R) : Bool :=
  (fr.detect .cube).any fun d => clipped d.cy d.hPx fr.height

/-- A clipped frame whose sample passes the bearing and range tests of the lunge. -/
def Frame.misleads (p : Params R) (fov : R) (fr : Frame R) : Bool :=
  fr.cubeClipped && (liveSamples fov fr).any fun sample => cubeAhead p sample.1 sample.2

def System.init : System R := ⟨.ok .init, [], none⟩

/-- Samples arrive in any order, or never. -/
def systemStep (p : Params R) (fov : R) (y : System R) : SystemEvent R → System R
  | .frame fr => { y with flying := y.flying ++ (liveSamples fov fr).map fun s => (fr, s) }
  | .deliver n clock =>
    match y.flying[n]? with
    | some (fr, bx, by_) =>
      { node := step p y.node (.cubeLive bx by_ clock)
        flying := y.flying.eraseIdx n
        source := if y.node.raised.isSome then y.source else some fr }
    | none => y
  | .tick i => { y with node := step p y.node (.tick i) }
  | .map grid => { y with node := step p y.node (.map grid) }
  | .target name tx ty => { y with node := step p y.node (.target name tx ty) }
  | .nav e => { y with node := step p y.node (.nav e) }

def systemRun (p : Params R) (fov : R) (es : List (SystemEvent R)) : System R :=
  Runs.run (systemStep p fov) .init es

theorem systemRun_concat (p : Params R) (fov : R) (es : List (SystemEvent R)) (e : SystemEvent R) :
    systemRun p fov (es ++ [e]) = systemStep p fov (systemRun p fov es) e :=
  Runs.run_concat _ _ _ _

/-- Every tick that starts the lunge does so on a sample of a frame that was not clipped. -/
def LungeValid (p : Params R) (fov : R) (es : List (SystemEvent R)) : Prop :=
  ∀ pre i, pre ++ [.tick i] <+: es → (systemRun p fov pre).node.node.lungeActive = false →
    (systemRun p fov (pre ++ [.tick i])).node.node.lungeActive = true →
      ∃ fr, (systemRun p fov pre).source = some fr ∧ fr.cubeClipped = false

/-- A tick of the visual servoing that has odometry does not find the sample of a misleading
frame as its fresh detection. -/
def Unmisled (p : Params R) (fov : R) (y : System R) : SystemEvent R → Prop
  | .tick i => y.node.raised = none → y.node.node.mode = .pickupAlign →
      y.node.node.lungeActive = false → y.node.node.cubeFresh p i = true →
        (getOdomPose i.odomTf).isSome = true → ∀ fr, y.source = some fr → fr.misleads p fov = false
  | _ => True

/-- The tick starts the lunge. -/
def Node.freezes (p : Params R) (i : TickIn R) (s : Node R) : Bool :=
  decide (s.mode = .pickupAlign) && s.cubeFresh p i &&
    s.cubeLive.any (fun c => cubeAhead p c.1 c.2.1) && (getOdomPose i.odomTf).isSome

theorem NavGo.lunge {i : TickIn R} {s : Node R} (h : NavGo i sender name s o) :
    o.node.lungeActive = s.lungeActive := by
  cases h with
  | noPose => rfl
  | noTarget => rfl
  | sent => rfl

theorem TickStep.lunge {p : Params R} {i : TickIn R} {s : Node R} (h : TickStep p i s o)
    (hs : Equipped s) (hl : s.lungeActive = false) : o.node.lungeActive = s.freezes p i := by
  have hoff {m : State} (hm : s.mode = m) (hne : m ≠ .pickupAlign) : s.freezes p i = false := by
    simp [Node.freezes, hm, hne]
  have hstill (hn : s.started = false) : s.freezes p i = false := by
    cases hm : decide (s.mode = .pickupAlign) with
    | false => simp [Node.freezes, hm]
    | true =>
      have hstart := hs.started (by simp [of_decide_eq_true hm])
      rw [hn] at hstart
      cases hstart
  cases h with
  | notReady hn => exact hl.trans (hstill hn).symm
  | start hn => exact hl.trans (hstill hn).symm
  | exploreDone _ hm _ hg => exact hg.lunge.trans (hl.trans (hoff hm (by simp)).symm)
  | keyRetry hm _ _ hg => exact hg.lunge.trans (hl.trans (hoff hm (by simp)).symm)
  | plateRetry hm _ _ hg => exact hg.lunge.trans (hl.trans (hoff hm (by simp)).symm)
  | closed hm _ hg => exact hg.lunge.trans (hl.trans (hoff hm (by simp)).symm)
  | keyReached hm => exact (hoff hm (by simp)).symm
  | lungeBlind _ hl' => rw [hl] at hl'; cases hl'
  | lungeNoStart _ hl' => rw [hl] at hl'; cases hl'
  | lungeEnd _ hl' => rw [hl] at hl'; cases hl'
  | lungeMove _ hl' => rw [hl] at hl'; cases hl'
  | alignStale hm _ hf => exact hl.trans (by simp [Node.freezes, hf])
  | alignTurn hm _ hf bx by_ t hc hb =>
    exact hl.trans (by simp [Node.freezes, hc, cubeAhead, not_le.2 hb])
  | alignNoOdom hm _ hf bx by_ t hc hb hr hp => exact hl.trans (by simp [Node.freezes, hp])
  | alignFreeze hm _ hf bx by_ t hc hb hr start hp =>
    exact (by simp [Node.freezes, hm, hf, hc, cubeAhead, hb, hr, hp] : s.freezes p i = true).symm
  | alignMove hm _ hf bx by_ t hc hb hr =>
    exact hl.trans (by simp [Node.freezes, hc, cubeAhead, not_le.2 hr])
  | _ => exact hl.trans (hoff ‹s.mode = _› (by simp)).symm

theorem Node.freezes_iff {p : Params R} {i : TickIn R} {s : Node R} : s.freezes p i = true ↔
    s.mode = .pickupAlign ∧ s.cubeFresh p i = true ∧
      (∃ bx by_ t, s.cubeLive = some (bx, by_, t) ∧ cubeAhead p bx by_ = true) ∧
        (getOdomPose i.odomTf).isSome = true := by
  simp only [Node.freezes, Bool.and_eq_true, decide_eq_true_eq, Option.any_eq_true, Prod.exists,
    and_assoc]

theorem EventStep.keeps_cubeLive {p : Params R} (h : EventStep p o e o')
    (he : ∀ bx by_ t, e ≠ .cubeLive bx by_ t) : o'.node.cubeLive = o.node.cubeLive := by
  cases h with
  | tick i h => exact h.perception.cubeLive
  | cubeLive bx by_ t => exact absurd rfl (he bx by_ t)
  | _ => rfl

section samples

variable {fov : R} {fr : Frame R}

theorem live_publishLandmark (t : Target R) (d : Detection R) :
    (publishLandmark fov t d fr).filterMap DetectorMsg.live? = [] := by
  unfold publishLandmark
  split
  · split <;> rfl
  · split
    · rfl
    · split <;> rfl

theorem live_publishCube (d : Detection R) :
    (publishCube fov d fr).filterMap DetectorMsg.live? = (fr.toBase.map fun bl =>
      let b := bl (mono fov d cubeTarget.heightM fr.width fr.height)
      (b.x, b.y)).toList := by
  unfold publishCube
  split
  · rename_i hb
    rw [hb]
    rfl
  · rename_i hb
    rw [hb]
    split
    · split <;> rfl
    · rfl

/-- A frame sends at most one live sample, that of its cube in `base_link`. -/
theorem liveSamples_eq : liveSamples fov fr = ((fr.detect .cube).bind fun d =>
    fr.toBase.map fun bl =>
      let b := bl (mono fov d cubeTarget.heightM fr.width fr.height)
      (b.x, b.y)).toList := by
  have hlandmark : ∀ t : Target R, ((fr.detect t.name).elim [] fun d =>
      publishLandmark fov t d fr).filterMap DetectorMsg.live? = [] := by
    intro t
    cases fr.detect t.name with
    | none => rfl
    | some d => exact live_publishLandmark t d
  rw [liveSamples, onImage, List.filterMap_append]
  simp only [List.flatMap_cons, List.flatMap_nil, List.filterMap_append, hlandmark,
    List.append_nil]
  cases fr.detect .cube with
  | none => rfl
  | some d => exact live_publishCube d

theorem liveSamples_mem (h : sample ∈ liveSamples fov fr) : liveSamples fov fr = [sample] := by
  rw [liveSamples_eq] at h ⊢
  rw [Option.mem_toList] at h
  rw [h]
  rfl

end samples

/-- Every live sample is that of the frame it is said to be from. -/
structure Sourced (fov : R) (y : System R) : Prop where
  equipped : Equipped y.node.node
  flying : ∀ fr sample, (fr, sample) ∈ y.flying → liveSamples fov fr = [sample]
  held : ∀ bx by_ t, y.node.node.cubeLive = some (bx, by_, t) →
    ∃ fr, y.source = some fr ∧ liveSamples fov fr = [(bx, by_)]

theorem Sourced.other {p : Params R} {fov : R} {y : System R} (h : Sourced fov y) (e : Event R)
    (he : ∀ bx by_ t, e ≠ .cubeLive bx by_ t) :
    Sourced fov { y with node := step p y.node e } := by
  have hstep := eventStep_step p y.node e
  refine ⟨hstep.equipped h.equipped, h.flying, fun bx by_ t hc => h.held bx by_ t ?_⟩
  rw [← hstep.keeps_cubeLive he]
  exact hc

theorem systemStep_sourced {p : Params R} {fov : R} (y : System R) (e : SystemEvent R)
    (h : Sourced fov y) : Sourced fov (systemStep p fov y e) := by
  cases e with
  | frame fr =>
    refine ⟨h.equipped, fun fr' sample hs => ?_, h.held⟩
    rcases List.mem_append.1 hs with hs | hs
    · exact h.flying fr' sample hs
    · obtain ⟨sample', hmem, heq⟩ := List.mem_map.1 hs
      cases heq
      exact liveSamples_mem hmem
  | deliver n clock =>
    simp only [systemStep]
    split
    · rename_i fr bx by_ hget
      have hsample := h.flying fr (bx, by_) (List.mem_of_getElem? hget)
      refine ⟨(eventStep_step p y.node _).equipped h.equipped, fun fr' sample hs => ?_, ?_⟩
      · exact h.flying fr' sample (List.mem_of_mem_eraseIdx hs)
      · intro bx' by' t hc
        dsimp only [step] at hc ⊢
        split
        · rename_i hr
          rw [if_pos hr] at hc
          exact h.held bx' by' t hc
        · rename_i hr
          rw [if_neg hr] at hc
          cases hc
          exact ⟨fr, rfl, hsample⟩
    · exact h
  | tick i => exact h.other (.tick i) (by simp)
  | map grid => exact h.other (.map grid) (by simp)
  | target name x y => exact h.other (.target name x y) (by simp)
  | nav e => exact h.other (.nav e) (by simp)

theorem systemRun_sourced (p : Params R) (fov : R) (es : List (SystemEvent R)) :
    Sourced fov (systemRun p fov es) := by
  apply Runs.invariant _ systemStep_sourced
  refine ⟨missionRun_equipped p [], fun fr sample hs => ?_, fun bx by_ t hc => ?_⟩
  · cases hs
  · cases hc

/-- A tick starts the lunge on a valid range exactly when it is not misled. -/
theorem Sourced.tick {p : Params R} {fov : R} {y : System R} (h : Sourced fov y) (i : TickIn R) :
    (y.node.node.lungeActive = false → (step p y.node (.tick i)).node.lungeActive = true →
      ∃ fr, y.source = some fr ∧ fr.cubeClipped = false) ↔ Unmisled p fov y (.tick i) := by
  constructor
  · intro hvalid hr hm hl hf hp fr hfr
    cases hmis : fr.misleads p fov with
    | false => rfl
    | true =>
      rw [Frame.misleads, Bool.and_eq_true] at hmis
      obtain ⟨hclip, hahead⟩ := hmis
      cases hc : y.node.node.cubeLive with
      | none => rw [Node.cubeFresh, hc] at hf; cases hf
      | some c =>
        obtain ⟨bx, by_, t⟩ := c
        obtain ⟨fr', hfr', hsample⟩ := h.held bx by_ t hc
        cases hfr.symm.trans hfr'
        rw [hsample, List.any_cons, List.any_nil, Bool.or_false] at hahead
        have hfreeze : y.node.node.freezes p i = true :=
          Node.freezes_iff.2 ⟨hm, hf, ⟨bx, by_, t, hc, hahead⟩, hp⟩
        obtain ⟨fr', hfr', hno⟩ := hvalid hl (by
          rw [step_tick hr, (tickStep_tick p i _).lunge h.equipped hl]
          exact hfreeze)
        cases hfr.symm.trans hfr'
        rw [hclip] at hno
        cases hno
  · intro hok hl hl'
    cases hr : y.node.raised with
    | some =>
      rw [step, hr] at hl'
      exact absurd (hl.symm.trans hl') (by simp)
    | none =>
      rw [step_tick hr, (tickStep_tick p i _).lunge h.equipped hl] at hl'
      obtain ⟨hm, hf, ⟨bx, by_, t, hc, hahead⟩, hp⟩ := Node.freezes_iff.1 hl'
      obtain ⟨fr, hfr, hsample⟩ := h.held bx by_ t hc
      have hmis := hok hr hm hl hf hp fr hfr
      rw [Frame.misleads, hsample, List.any_cons, List.any_nil, Bool.or_false, hahead,
        Bool.and_true] at hmis
      exact ⟨fr, hfr, hmis⟩

/-- The lunge is committed on valid ranges in exactly the runs in which no tick is misled. -/
theorem lunge_valid_iff (p : Params R) (fov : R) (es : List (SystemEvent R)) :
    LungeValid p fov es ↔ Runs.StepsMeet (systemStep p fov) (Unmisled p fov) .init es := by
  rw [Runs.stepsMeet_iff_prefix]
  constructor
  · intro h pre e hp
    cases e with
    | tick i =>
      apply (systemRun_sourced p fov pre).tick i |>.1
      have hpre := h pre i hp
      rw [systemRun_concat] at hpre
      exact hpre
    | _ => trivial
  · intro h pre i hp
    have hpre := ((systemRun_sourced p fov pre).tick i).2 (h pre (.tick i) hp)
    rw [systemRun_concat]
    exact hpre

/-- The cube's blob runs over the lower edge of an image of 640 by 480 pixels. -/
noncomputable def cutFrame : Frame ℝ where
  width := 640
  height := 480
  detect := fun name => if name = .cube then some ⟨320, 416, 100, 128⟩ else none
  toBase := some fun pt => ⟨pt.z, -pt.x, -pt.y⟩
  toMap := fun _ => none

noncomputable def rightAngle : ℝ := Real.pi / 2.0

/-- As `promptArrival`, and the jaws open. -/
noncomputable def jawsOpen : List (SystemEvent ℝ) :=
  promptArrival.filterMap Event.toSystem ++ [.tick openReply]

/-- The clipped frame is the only one that reaches the node before its next tick. -/
noncomputable def cutLunge : List (SystemEvent ℝ) :=
  jawsOpen ++ [.frame cutFrame] ++ [.deliver 0 0] ++ [.tick tickAtOrigin]

theorem cutFrame_clipped : cutFrame.cubeClipped = true := by
  have h : clipped (416 : ℝ) 128 480 = true := by norm_num [clipped]
  simpa [Frame.cubeClipped, cutFrame] using h

theorem liveSamples_cutFrame : liveSamples rightAngle cutFrame = [(0.5, 0)] := by
  have htan : (PyMath.tan (rightAngle / 2.0) : ℝ) = 1 := by
    have hangle : rightAngle / 2.0 = Real.pi / 4 := by
      rw [rightAngle, div_div]
      norm_num
    rw [hangle]
    exact Real.tan_pi_div_four
  have hf : fPix rightAngle 640 480 = 320 := by
    rw [fPix, htan]
    norm_num
  rw [liveSamples_eq]
  simp only [cutFrame, if_true, Option.bind_some, Option.map_some, Option.toList_some, mono, hf,
    cubeTarget]
  norm_num

theorem cubeAhead_half : cubeAhead (.default : Params ℝ) 0.5 0 = true := by
  have hbearing : (PyMath.atan2 0 0.5 : ℝ) = 0 := atan2_zero_left (by norm_num)
  have hrange : (PyMath.hypot 0.5 0 : ℝ) = 0.5 := hypot_zero_right (by norm_num)
  rw [cubeAhead, hbearing, hrange]
  norm_num [Params.default]

/-- Without camera images the system is the node. -/
theorem systemRun_toSystem (fov : ℝ) (es : List (Event ℝ))
    (h : ∀ e ∈ es, e.toSystem.isSome = true) (y : System ℝ) :
    Runs.run (systemStep .default fov) y (es.filterMap Event.toSystem) =
      { y with node := Runs.run (step .default) y.node es } := by
  induction es generalizing y with
  | nil => rfl
  | cons e es ih =>
    obtain ⟨he, hes⟩ := List.forall_mem_cons.1 h
    cases e with
    | cubeLive => cases he
    | tick i => exact ih hes _
    | map grid => exact ih hes _
    | target name tx ty => exact ih hes _
    | nav e => exact ih hes _

theorem systemRun_delivered : ∃ s : Node ℝ,
    systemRun .default rightAngle (jawsOpen ++ [.frame cutFrame] ++ [.deliver 0 0]) =
      ⟨.ok s, [], some cutFrame⟩ ∧
    s.mode = .pickupAlign ∧ s.lungeActive = false ∧ s.cubeLive = some (0.5, 0, 0) := by
  obtain ⟨s, hrun, hs⟩ := missionRun_promptArrival .default
  have hsystem : systemRun .default rightAngle (promptArrival.filterMap Event.toSystem) =
      ⟨.ok s, [], none⟩ := by
    rw [← hrun]
    exact systemRun_toSystem rightAngle promptArrival (by decide +kernel) .init
  refine ⟨(s.stop.transition .pickupAlign).onCubeLive 0.5 0 0, ?_, rfl, hs.lunge, rfl⟩
  rw [systemRun_concat, systemRun_concat, jawsOpen, systemRun_concat, hsystem]
  simp only [systemStep, liveSamples_cutFrame]
  rw [step_ok_tick, tick_opened default_usual.timeout hs.started hs.mode hs.actionT]
  rfl

theorem not_lunge_valid : ¬ LungeValid Params.default rightAngle cutLunge := by
  intro h
  obtain ⟨s, hrun, hm, hl, hc⟩ := systemRun_delivered
  have hsourced := systemRun_sourced .default rightAngle
    (jawsOpen ++ [.frame cutFrame] ++ [.deliver 0 0])
  rw [hrun] at hsourced
  have hfresh : s.cubeFresh .default tickAtOrigin = true := by
    norm_num [Node.cubeFresh, hc, tickAtOrigin, Params.default]
  have hfreeze : s.freezes .default tickAtOrigin = true :=
    Node.freezes_iff.2 ⟨hm, hfresh, ⟨_, _, _, hc, cubeAhead_half⟩, rfl⟩
  have hactive := ((tickStep_tick .default tickAtOrigin s).lunge hsourced.equipped hl).trans hfreeze
  obtain ⟨fr, hfr, hclip⟩ := h _ tickAtOrigin List.prefix_rfl (by rw [hrun]; exact hl) (by
    rw [systemRun_concat, hrun]
    exact hactive)
  rw [hrun] at hfr
  cases hfr
  rw [cutFrame_clipped] at hclip
  cases hclip

end EscapeRoom
