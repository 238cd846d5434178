import EscapeRoom.Explorer

namespace EscapeRoom
set_option autoImplicit true
set_option linter.unusedSectionVars false

variable {R : Type} [Field R] [PyMath R]

/-- How `_nav_go_to_key` and `_nav_go_to_plate` end. -/
inductive NavGo (i : TickIn R) (sender : Sender) (name : TargetName) (s : Node R) :
    Outcome R → Prop where
  | noPose (hp : getRobotPose i.mapTf = none) : NavGo i sender name s (.ok s)
  | noTarget (ht : s.targets name = none) : NavGo i sender name s (.raise .keyError s)
  | sent (x y yaw : R) (ht : (s.targets name).isSome) :
      NavGo i sender name s (.ok (s.sendTo i sender x y yaw))

theorem navGo_navGoToKey (p : Params R) (i : TickIn R) (s : Node R) :
    NavGo i .navGoToKey .cube s (s.navGoToKey p i) := by
  unfold Node.navGoToKey
  split
  · exact .noPose ‹_›
  · split
    · exact .noTarget ‹_›
    · rename_i hc
      exact .sent _ _ _ (by rw [hc]; rfl)

theorem navGo_navGoToPlate (i : TickIn R) (s : Node R) :
    NavGo i .navGoToPlate .plate s (s.navGoToPlate i) := by
  unfold Node.navGoToPlate
  split
  · exact .noPose ‹_›
  · split
    · exact .noTarget ‹_›
    · rename_i hc
      exact .sent _ _ _ (by rw [hc]; rfl)

variable [LinearOrder R]

/-- Every way a tick can go, one rule for each path through `_tick` and its handlers. -/
inductive TickStep (p : Params R) (i : TickIn R) (s : Node R) : Outcome R → Prop where
  | notReady (hs : s.started = false) : TickStep p i s (.ok s)
  | start (hs : s.started = false) (hr : s.isReady i = true) :
      TickStep p i s (.ok { s with started := true })
  | exploreDone (hs : s.started = true) (hm : s.mode = .explore) (ht : s.targetCount = 3)
      (hg : NavGo i .navGoToKey .cube (s.transition .goToKey) o) : TickStep p i s o
  | exploreBusy (hm : s.mode = .explore) (ha : s.nav.client.active = true) : TickStep p i s (.ok s)
  | exploreNoMap (hs : s.started = true) (hm : s.mode = .explore) (hmap : s.currentMap = none) :
      TickStep p i s (.raise .attributeError s)
  | exploreBadMap (hm : s.mode = .explore) (grid : OccupancyGrid R)
      (hmap : s.currentMap = some grid) (e : PyError)
      (he : computeFrontiers p.setOrder grid = .error e) : TickStep p i s (.raise e s)
  | exploreFull (hm : s.mode = .explore) : TickStep p i s (.ok s)
  | exploreNoPose (hm : s.mode = .explore) : TickStep p i s (.ok s)
  | exploreSend (hm : s.mode = .explore) (ha : s.nav.client.active = false) (x y yaw : R) :
      TickStep p i s (.ok (s.sendTo i .explore x y yaw))
  | keyBusy (hm : s.mode = .goToKey) (ha : s.nav.client.active = true) : TickStep p i s (.ok s)
  | keyRetry (hm : s.mode = .goToKey) (ha : s.nav.client.active = false)
      (hs : s.nav.client.succeeded = false) (hg : NavGo i .navGoToKey .cube s o) : TickStep p i s o
  | keyReached (hm : s.mode = .goToKey) (ha : s.nav.client.active = false)
      (hs : s.nav.client.succeeded = true) :
      TickStep p i s (.ok ({ { s.stop with lungeActive := false, lungeStart := none }.transition
        .pickupOpen with actionT := i.clock }.gripperOpen))
  | plateBusy (hm : s.mode = .goToPlate) (ha : s.nav.client.active = true) : TickStep p i s (.ok s)
  | plateRetry (hm : s.mode = .goToPlate) (ha : s.nav.client.active = false)
      (hs : s.nav.client.succeeded = false) (hg : NavGo i .navGoToPlate .plate s o) :
      TickStep p i s o
  | plateReached (hm : s.mode = .goToPlate) (ha : s.nav.client.active = false)
      (hs : s.nav.client.succeeded = true) : TickStep p i s (.ok (s.stop.transition .dropAlign))
  | openWait (hm : s.mode = .pickupOpen) : TickStep p i s (.ok s.stop)
  | opened (hm : s.mode = .pickupOpen)
      (hg : gripperReached .open (i.clock - s.actionT) p.gripperTimeout i.gripperState = true) :
      TickStep p i s (.ok (s.stop.transition .pickupAlign))
  | closeWait (hm : s.mode = .pickupClose) : TickStep p i s (.ok s.stop)
  | closed (hm : s.mode = .pickupClose)
      (hr : gripperReached .close (i.clock - s.actionT) p.gripperTimeout i.gripperState = true)
      (hg : NavGo i .navGoToPlate .plate ((s.stop.setCubeVisible false).transition .goToPlate) o) :
      TickStep p i s o
  | dropBlind (hm : s.mode = .dropAlign) (hp : getRobotPose i.mapTf = none) : TickStep p i s (.ok s)
  | dropNoPlate (hm : s.mode = .dropAlign) (ht : s.targets .plate = none) :
      TickStep p i s (.raise .keyError s)
  | dropTurn (hm : s.mode = .dropAlign) (rx ry ryaw px py : R)
      (hp : getRobotPose i.mapTf = some (rx, ry, ryaw)) (ht : s.targets .plate = some (px, py))
      (hb : p.alignYawTol < |PyMath.atan2 (Node.plateInBase rx ry ryaw px py).2
        (Node.plateInBase rx ry ryaw px py).1|) :
      TickStep p i s (.ok (s.drive p 0 (p.alignKp * PyMath.atan2
        (Node.plateInBase rx ry ryaw px py).2 (Node.plateInBase rx ry ryaw px py).1) true))
  | dropRelease (hm : s.mode = .dropAlign) (rx ry ryaw px py : R)
      (hp : getRobotPose i.mapTf = some (rx, ry, ryaw)) (ht : s.targets .plate = some (px, py))
      (hb : |PyMath.atan2 (Node.plateInBase rx ry ryaw px py).2
        (Node.plateInBase rx ry ryaw px py).1| ≤ p.alignYawTol)
      (he : |PyMath.hypot (Node.plateInBase rx ry ryaw px py).1
        (Node.plateInBase rx ry ryaw px py).2 -
          (p.pickupEngageDist + p.pickupLungeMargin)| ≤ 0.03) :
      TickStep p i s (.ok { s.stop.transition .dropOpen with actionT := i.clock }.gripperOpen)
  | dropMove (hm : s.mode = .dropAlign) (rx ry ryaw px py : R)
      (hp : getRobotPose i.mapTf = some (rx, ry, ryaw)) (ht : s.targets .plate = some (px, py))
      (hb : |PyMath.atan2 (Node.plateInBase rx ry ryaw px py).2
        (Node.plateInBase rx ry ryaw px py).1| ≤ p.alignYawTol)
      (he : 0.03 < |PyMath.hypot (Node.plateInBase rx ry ryaw px py).1
        (Node.plateInBase rx ry ryaw px py).2 - (p.pickupEngageDist + p.pickupLungeMargin)|) :
      TickStep p i s (.ok (s.drive p
        (0.5 * (PyMath.hypot (Node.plateInBase rx ry ryaw px py).1
          (Node.plateInBase rx ry ryaw px py).2 - (p.pickupEngageDist + p.pickupLungeMargin)))
        (0.5 * PyMath.atan2 (Node.plateInBase rx ry ryaw px py).2
          (Node.plateInBase rx ry ryaw px py).1) true))
  | releaseWait (hm : s.mode = .dropOpen) : TickStep p i s (.ok s.stop)
  | released (hm : s.mode = .dropOpen) (start : R × R) (hp : getOdomPose i.odomTf = some start)
      (hg : gripperReached .open (i.clock - s.actionT) p.gripperTimeout i.gripperState = true) :
      TickStep p i s
        (.ok ({ s.stop.setCubeVisible true with backupStart := some start }.transition .dropBackup))
  | backupBlind (hm : s.mode = .dropBackup) (hp : getOdomPose i.odomTf = none) :
      TickStep p i s (.ok s)
  | backupNoStart (hm : s.mode = .dropBackup) (hb : s.backupStart = none) :
      TickStep p i s (.raise .typeError s)
  | backupDone (hm : s.mode = .dropBackup) (pose start : R × R)
      (hp : getOdomPose i.odomTf = some pose) (hb : s.backupStart = some start)
      (hd : p.dropBackupDist ≤ PyMath.hypot (pose.1 - start.1) (pose.2 - start.2)) :
      TickStep p i s (.ok (s.stop.transition .done))
  | backupMove (hm : s.mode = .dropBackup) (pose start : R × R)
      (hp : getOdomPose i.odomTf = some pose) (hb : s.backupStart = some start)
      (hd : PyMath.hypot (pose.1 - start.1) (pose.2 - start.2) < p.dropBackupDist) :
      TickStep p i s (.ok (s.drive p (-p.parkMaxSpeed) 0 false))
  | lungeBlind (hm : s.mode = .pickupAlign) (hl : s.lungeActive = true)
      (hp : getOdomPose i.odomTf = none) : TickStep p i s (.ok s)
  | lungeNoStart (hm : s.mode = .pickupAlign) (hl : s.lungeActive = true)
      (hb : s.lungeStart = none) : TickStep p i s (.raise .typeError s)
  | lungeEnd (hm : s.mode = .pickupAlign) (hl : s.lungeActive = true) (pose start : R × R)
      (hp : getOdomPose i.odomTf = some pose) (hb : s.lungeStart = some start)
      (hd : s.lungeDist ≤ PyMath.hypot (pose.1 - start.1) (pose.2 - start.2)) :
      TickStep p i s (.ok ({ s.stop with lungeActive := false }.engageCube i))
  | lungeMove (hm : s.mode = .pickupAlign) (hl : s.lungeActive = true) (pose start : R × R)
      (hp : getOdomPose i.odomTf = some pose) (hb : s.lungeStart = some start)
      (hd : PyMath.hypot (pose.1 - start.1) (pose.2 - start.2) < s.lungeDist) :
      TickStep p i s (.ok (s.drive p p.parkMaxSpeed (0.5 * s.lungeBearing p i) false))
  | alignStale (hm : s.mode = .pickupAlign) (hl : s.lungeActive = false)
      (hf : s.cubeFresh p i = false) : TickStep p i s (.ok s)
  | alignTurn (hm : s.mode = .pickupAlign) (hl : s.lungeActive = false)
      (hf : s.cubeFresh p i = true) (bx by_ t : R) (hc : s.cubeLive = some (bx, by_, t))
      (hb : p.alignYawTol < |PyMath.atan2 by_ bx|) :
      TickStep p i s (.ok (s.drive p 0 (p.alignKp * PyMath.atan2 by_ bx) true))
  | alignNoOdom (hm : s.mode = .pickupAlign) (hl : s.lungeActive = false)
      (hf : s.cubeFresh p i = true) (bx by_ t : R) (hc : s.cubeLive = some (bx, by_, t))
      (hb : |PyMath.atan2 by_ bx| ≤ p.alignYawTol)
      (hr : PyMath.hypot bx by_ ≤ p.pickupLungeStart) (hp : getOdomPose i.odomTf = none) :
      TickStep p i s (.ok s)
  | alignFreeze (hm : s.mode = .pickupAlign) (hl : s.lungeActive = false)
      (hf : s.cubeFresh p i = true) (bx by_ t : R) (hc : s.cubeLive = some (bx, by_, t))
      (hb : |PyMath.atan2 by_ bx| ≤ p.alignYawTol)
      (hr : PyMath.hypot bx by_ ≤ p.pickupLungeStart) (start : R × R)
      (hp : getOdomPose i.odomTf = some start) :
      TickStep p i s (.ok { s with
        lungeActive := true
        lungeStart := some start
        lungeDist := max 0 (PyMath.hypot bx by_ - p.pickupEngageDist - p.pickupLungeMargin) }.stop)
  | alignMove (hm : s.mode = .pickupAlign) (hl : s.lungeActive = false)
      (hf : s.cubeFresh p i = true) (bx by_ t : R) (hc : s.cubeLive = some (bx, by_, t))
      (hb : |PyMath.atan2 by_ bx| ≤ p.alignYawTol)
      (hr : p.pickupLungeStart < PyMath.hypot bx by_) :
      TickStep p i s (.ok (s.drive p (0.5 * (PyMath.hypot bx by_ - p.pickupEngageDist))
        (0.5 * PyMath.atan2 by_ bx) true))
  | done (hm : s.mode = .done) : TickStep p i s (.ok s)

section handlers

variable (p : Params R) (i : TickIn R) (s : Node R)

theorem tickStep_explore (hs : s.started = true) (hm : s.mode = .explore) :
    TickStep p i s (s.explore p i) := by
  unfold Node.explore
  split
  · exact .exploreDone hs hm ‹_› (navGo_navGoToKey p i _)
  split
  · exact .exploreBusy hm ‹_›
  rename_i ha
  split
  · exact .exploreNoMap hs hm ‹_›
  split
  · exact .exploreBadMap hm _ ‹_› _ ‹_›
  split
  · exact .exploreFull hm
  split
  · exact .exploreNoPose hm
  split
  · exact absurd ((pyMin_eq_none _ _).1 ‹_›) ‹¬_ = []›
  · exact .exploreSend hm (by simpa using ha) _ _ _

theorem tickStep_goToKey (hm : s.mode = .goToKey) : TickStep p i s (s.goToKey p i) := by
  unfold Node.goToKey
  split
  · exact .keyBusy hm ‹_›
  rename_i ha
  split
  · rename_i hs
    exact .keyRetry hm (by simpa using ha) (by simpa using hs) (navGo_navGoToKey p i s)
  · rename_i hs
    exact .keyReached hm (by simpa using ha) (by simpa using hs)

theorem tickStep_goToPlate (hm : s.mode = .goToPlate) : TickStep p i s (s.goToPlate i) := by
  unfold Node.goToPlate
  split
  · exact .plateBusy hm ‹_›
  rename_i ha
  split
  · rename_i hs
    exact .plateRetry hm (by simpa using ha) (by simpa using hs) (navGo_navGoToPlate i s)
  · rename_i hs
    exact .plateReached hm (by simpa using ha) (by simpa using hs)

theorem tickStep_pickupOpen (hm : s.mode = .pickupOpen) : TickStep p i s (s.pickupOpen p i) := by
  unfold Node.pickupOpen
  dsimp only
  split
  · exact .opened hm ‹_›
  · exact .openWait hm

theorem tickStep_pickupClose (hm : s.mode = .pickupClose) :
    TickStep p i s (s.pickupClose p i) := by
  unfold Node.pickupClose
  dsimp only
  split
  · exact .closed hm ‹_› (navGo_navGoToPlate i _)
  · exact .closeWait hm

theorem tickStep_dropAlign (hm : s.mode = .dropAlign) : TickStep p i s (s.dropAlign p i) := by
  unfold Node.dropAlign
  split
  · exact .dropBlind hm ‹_›
  rename_i hp
  split
  · exact .dropNoPlate hm ‹_›
  rename_i ht
  dsimp only
  split
  · exact .dropTurn hm _ _ _ _ _ hp ht ‹_›
  rename_i hb
  split
  · exact .dropRelease hm _ _ _ _ _ hp ht (le_of_not_gt hb) ‹_›
  · rename_i he
    exact .dropMove hm _ _ _ _ _ hp ht (le_of_not_gt hb) (lt_of_not_ge he)

theorem tickStep_dropOpen (hm : s.mode = .dropOpen) : TickStep p i s (s.dropOpen p i) := by
  unfold Node.dropOpen
  dsimp only
  split
  · exact .releaseWait hm
  rename_i hg
  split
  · exact .releaseWait hm
  · exact .released hm _ ‹_› (by simpa [Node.stop, Node.emit] using hg)

theorem tickStep_dropBackup (hm : s.mode = .dropBackup) : TickStep p i s (s.dropBackup p i) := by
  unfold Node.dropBackup
  split
  · exact .backupBlind hm ‹_›
  rename_i hp
  split
  · exact .backupNoStart hm ‹_›
  rename_i hb
  dsimp only
  split
  · exact .backupDone hm _ _ hp hb ‹_›
  · rename_i hd
    exact .backupMove hm _ _ hp hb (lt_of_not_ge hd)

theorem tickStep_pickupLunge (hm : s.mode = .pickupAlign) (hl : s.lungeActive = true) :
    TickStep p i s (s.pickupLunge p i) := by
  unfold Node.pickupLunge
  split
  · exact .lungeBlind hm hl ‹_›
  rename_i hp
  split
  · exact .lungeNoStart hm hl ‹_›
  rename_i hb
  dsimp only
  split
  · exact .lungeEnd hm hl _ _ hp hb ‹_›
  · rename_i hd
    exact .lungeMove hm hl _ _ hp hb (lt_of_not_ge hd)

theorem tickStep_pickupAlign (hm : s.mode = .pickupAlign) :
    TickStep p i s (s.pickupAlign p i) := by
  unfold Node.pickupAlign
  split
  · exact tickStep_pickupLunge p i s hm ‹_›
  rename_i hl
  have hl : s.lungeActive = false := by simpa using hl
  split
  · rename_i hf
    exact .alignStale hm hl (by simpa using hf)
  rename_i hf
  have hf : s.cubeFresh p i = true := by simpa using hf
  split
  · rename_i hc
    simp [Node.cubeFresh, hc] at hf
  rename_i hc
  dsimp only
  split
  · exact .alignTurn hm hl hf _ _ _ hc ‹_›
  rename_i hb
  have hb := le_of_not_gt hb
  split
  · rename_i hr
    split
    · exact .alignNoOdom hm hl hf _ _ _ hc hb hr ‹_›
    · exact .alignFreeze hm hl hf _ _ _ hc hb hr _ ‹_›
  · rename_i hr
    exact .alignMove hm hl hf _ _ _ hc hb (lt_of_not_ge hr)

theorem tickStep_tick : TickStep p i s (s.tick p i) := by
  unfold Node.tick
  split
  · rename_i hs
    have hs : s.started = false := by simpa using hs
    split
    · exact .start hs ‹_›
    · exact .notReady hs
  · rename_i hs
    have hs : s.started = true := by simpa using hs
    unfold Node.handle
    split
    · exact tickStep_explore p i s hs ‹_›
    · exact tickStep_goToKey p i s ‹_›
    · exact tickStep_goToPlate p i s ‹_›
    · exact tickStep_pickupOpen p i s ‹_›
    · exact tickStep_pickupAlign p i s ‹_›
    · exact tickStep_pickupClose p i s ‹_›
    · exact tickStep_dropAlign p i s ‹_›
    · exact tickStep_dropOpen p i s ‹_›
    · exact tickStep_dropBackup p i s ‹_›
    · exact .done ‹_›

end handlers

/-- Two nodes with the same perception: targets, map and live detection. -/
structure SamePerception (s s' : Node R) : Prop where
  targets : s'.targets = s.targets
  currentMap : s'.currentMap = s.currentMap
  cubeLive : s'.cubeLive = s.cubeLive

theorem NavGo.perception {i : TickIn R} {s : Node R} (h : NavGo i sender name s o) :
    SamePerception s o.node := by
  cases h with
  | noPose => exact ⟨rfl, rfl, rfl⟩
  | noTarget => exact ⟨rfl, rfl, rfl⟩
  | sent => exact ⟨rfl, rfl, rfl⟩

/-- Only messages change what the node has seen. -/
theorem TickStep.perception {p : Params R} {i : TickIn R} {s : Node R} (h : TickStep p i s o) :
    SamePerception s o.node := by
  cases h with
  | exploreDone _ _ _ hg => exact ⟨hg.perception.1, hg.perception.2, hg.perception.3⟩
  | keyRetry _ _ _ hg => exact hg.perception
  | plateRetry _ _ _ hg => exact hg.perception
  | closed _ _ hg => exact ⟨hg.perception.1, hg.perception.2, hg.perception.3⟩
  | _ => exact ⟨rfl, rfl, rfl⟩

/-- Every way a callback can go. -/
inductive EventStep (p : Params R) (o : Outcome R) : Event R → Outcome R → Prop where
  | ended (he : o.raised.isSome = true) : EventStep p o e o
  | tick (i : TickIn R) (h : TickStep p i o.node o') : EventStep p o (.tick i) o'
  | map (grid : OccupancyGrid R) : EventStep p o (.map grid) (.ok (o.node.onMap grid))
  | near (name : TargetName) (x y : R) (ox oy : R) (ht : o.node.targets name = some (ox, oy))
      (hd : PyMath.hypot (x - ox) (y - oy) ≤ 0.1) : EventStep p o (.target name x y) (.ok o.node)
  | target (name : TargetName) (x y : R) (hd : ∀ ox oy, o.node.targets name = some (ox, oy) →
        0.1 < PyMath.hypot (x - ox) (y - oy)) :
      EventStep p o (.target name x y) (.ok (o.node.setTarget name x y))
  | cubeLive (x y clock : R) :
      EventStep p o (.cubeLive x y clock) (.ok (o.node.onCubeLive x y clock))
  | nav (e : NavEvent) : EventStep p o (.nav e) (.ok { o.node with nav := o.node.nav.step e })

theorem eventStep_step (p : Params R) (o : Outcome R) (e : Event R) :
    EventStep p o e (step p o e) := by
  unfold step
  split
  · exact .ended ‹_›
  · cases e with
    | tick i => exact .tick i (tickStep_tick p i o.node)
    | map grid => exact .map grid
    | target name x y =>
      simp only [Node.onTarget]
      split
      · rename_i ht
        split
        · exact .near name x y _ _ ht ‹_›
        · rename_i hd
          apply EventStep.target name x y
          intro ox oy ho
          cases ht.symm.trans ho
          exact lt_of_not_ge hd
      · rename_i ht
        apply EventStep.target name x y
        intro ox oy ho
        cases ht.symm.trans ho
    | cubeLive x y clock => exact .cubeLive x y clock
    | nav e => exact .nav e

end EscapeRoom
