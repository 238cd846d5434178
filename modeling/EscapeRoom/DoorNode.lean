import Mathlib
import EscapeRoom.DoorController
import EscapeRoom.Library.Runs
import EscapeRoom.Simulator

namespace EscapeRoom
set_option autoImplicit true
set_option linter.unusedSectionVars false

open Tiling

structure ObjectConfig (R : Type) where
  size : R × R × R
  position : R × R × R
  color : Option (R × R × R)

structure ObstacleConfig (R : Type) extends ObjectConfig R where
  type : String

/-- What the builder reads of a scenario, the robot aside. -/
structure Scenario (R : Type) where
  room : RoomConfig R
  obstacles : List (ObstacleConfig R)
  targetCube : Option (ObjectConfig R)
  pressurePlate : Option (ObjectConfig R)

inductive BuildError (R : Type) where
  | scene (e : SceneError R)
  | unknownObstacleType (type : String)

/-- The parameters of `DoorController`; its period and its logging are left out. -/
structure DoorNodeParams (R : Type) extends DoorParams R where
  cubeAlias : String
  plateAlias : String
  doorAlias : String
  openDistance : R

/-- The controller with the objects it has found, by their handles. -/
structure DoorNode {R : Type} (sim : Simulator R) extends DoorController R where
  cube : sim.Handle
  plate : sim.Handle
  door : sim.Handle
  doorClosedPos : R × R × R
  doorOpenPos : R × R × R

/-- The key is carried about, and the controller ticks, which may fail to reach the simulator. -/
inductive SceneEvent (R : Type) where
  | carried (pos : R × R × R)
  | tick (reached : Bool)

section model

variable {R : Type} [Field R]

/-- `primitives` are the names of the simulator's `primitiveshape_` constants. -/
def buildObstacle (primitives : List String) (obs : ObstacleConfig R) (idx : Nat) :
    Except (BuildError R) (Shape R) :=
  if obs.type ∈ primitives then
    .ok { size := obs.size, center := obs.position, color := obs.color.getD (0.4, 0.4, 0.5),
          name := "Obstacle_" ++ toString idx }
  else .error (.unknownObstacleType obs.type)

def buildTargetCube (cfg : ObjectConfig R) : Shape R where
  size := cfg.size
  center := cfg.position
  color := cfg.color.getD (0.9, 0.2, 0.9)
  name := "TargetCube"
  static := false

def buildPressurePlate (cfg : ObjectConfig R) : Shape R where
  size := cfg.size
  center := cfg.position
  color := cfg.color.getD (0.1, 0.8, 0.2)
  name := "PressurePlate"
  respondable := false

/-- `main` of the builder, from the cleared scene on. -/
def buildScene [LinearOrder R] (primitives : List String) (cfg : Scenario R) :
    Except (BuildError R) (List (Shape R)) := do
  let walls ← (buildWalls cfg.room).mapError .scene
  let doors ← (buildDoors cfg.room).mapError .scene
  let obstacles ← cfg.obstacles.zipIdx.mapM fun (obs, i) => buildObstacle primitives obs i
  return walls ++ doors ++ obstacles ++ (cfg.targetCube.map buildTargetCube).toList ++
    (cfg.pressurePlate.map buildPressurePlate).toList

def DoorNodeParams.default : DoorNodeParams R where
  xyMargin := 0.05
  zMaxOffset := 0.15
  latch := true
  cubeAlias := "/TargetCube"
  plateAlias := "/PressurePlate"
  doorAlias := "/Door_0"
  openDistance := 0

/-- A position as the controller reads it. -/
def point (pos : R × R × R) : Point R := ⟨pos.1, pos.2.1, pos.2.2⟩

namespace DoorNode

variable [LinearOrder R] {sim : Simulator R}

def halfExtentsXyz (sim : Simulator R) (s : sim.State) (handle : sim.Handle) :
    Option (R × R × R) := do
  let (low, high) ← sim.getObjectBbox s handle
  return ((high.1 - low.1) / 2.0, (high.2.1 - low.2.1) / 2.0, (high.2.2 - low.2.2) / 2.0)

/-- The constructor, which raises if an object is missing. -/
def init (sim : Simulator R) (p : DoorNodeParams R) (s : sim.State) : Option (DoorNode sim) := do
  let cube ← sim.getObject s p.cubeAlias
  let plate ← sim.getObject s p.plateAlias
  let door ← sim.getObject s p.doorAlias
  let plateBbox ← halfExtentsXyz sim s plate
  let doorBbox ← halfExtentsXyz sim s door
  let doorHeight := 2.0 * doorBbox.2.2
  let openDistance := if p.openDistance ≤ 0 then doorHeight + 0.05 else p.openDistance
  let (x, y, z) ← sim.getObjectPosition s door
  return {
    plateBboxXy := (plateBbox.1, plateBbox.2.1)
    isOpen := false
    cube := cube
    plate := plate
    door := door
    doorClosedPos := (x, y, z)
    doorOpenPos := (x, y, z - openDistance) }

/-- `open_door` and `close_door`. -/
def obey (n : DoorNode sim) (s : sim.State) : DoorCmd → sim.State
  | .openDoor => sim.set s n.door (.objectPosition n.doorOpenPos)
  | .closeDoor => sim.set s n.door (.objectPosition n.doorClosedPos)

/-- The positions that a tick asks for. -/
def query (n : DoorNode sim) (s : sim.State) (reached : Bool) : Option (Point R × Point R) :=
  if reached then do
    let cube ← sim.getObjectPosition s n.cube
    let plate ← sim.getObjectPosition s n.plate
    return (point cube, point plate)
  else none

/-- One tick of the controller. -/
def look (p : DoorParams R) (reached : Bool) (n : DoorNode sim) (s : sim.State) :
    DoorNode sim × sim.State :=
  let (c, cmds) := n.toDoorController.tick p (n.query s reached)
  ({ n with toDoorController := c }, cmds.foldl n.obey s)

/-- The simulator goes on by itself: the key gets somewhere, and other objects may move, but no
static one does. -/
structure Carries (sim : Simulator R) (cube : sim.Handle) (pos : R × R × R) (s s' : sim.State) :
    Prop where
  cube : sim.objects s' cube = (sim.objects s cube).map ({ · with center := pos })
  static : ∀ h o, sim.objects s h = some o → o.static = true → sim.objects s' h = some o

/-- One step of the controller or the simulator. -/
inductive Step (p : DoorParams R) :
    DoorNode sim × sim.State → SceneEvent R → DoorNode sim × sim.State → Prop where
  | carried {n : DoorNode sim} {s s' : sim.State} {pos : R × R × R}
      (h : Carries sim n.cube pos s s') : Step p (n, s) (.carried pos) (n, s')
  | tick (n : DoorNode sim) (s : sim.State) (reached : Bool) :
      Step p (n, s) (.tick reached) (n.look p reached s)

inductive Run (p : DoorParams R) :
    DoorNode sim × sim.State → List (SceneEvent R) → DoorNode sim × sim.State → Prop where
  | nil (w : DoorNode sim × sim.State) : Run p w [] w
  | cons {w w' w'' : DoorNode sim × sim.State} {e : SceneEvent R} {es : List (SceneEvent R)}
      (h : Step p w e w') (hs : Run p w' es w'') : Run p w (e :: es) w''

end DoorNode

end model

section scene

variable {R : Type} [Field R]

/-- The first letter of its alias tells what kind of object a shape is. -/
def Shape.Marked (c : Char) (s : Shape R) : Prop := s.name.toList.head? = some c

theorem Shape.Marked.ne {c : Char} {s : Shape R} (h : s.Marked c) {name : String}
    (hname : name.toList.head? ≠ some c) : s.name ≠ name := by
  rintro rfl
  exact hname h

/-- An object that the controller does not look for. -/
structure Shape.Plain (s : Shape R) : Prop where
  door : s.name ≠ "Door_0"
  cube : s.name ≠ "TargetCube"
  plate : s.name ≠ "PressurePlate"

theorem Shape.Marked.plain {c : Char} {s : Shape R} (h : s.Marked c)
    (hc : c ≠ 'D' ∧ c ≠ 'T' ∧ c ≠ 'P') : s.Plain := by
  obtain ⟨hd, ht, hp⟩ := hc
  refine ⟨h.ne fun heq => hd ?_, h.ne fun heq => ht ?_, h.ne fun heq => hp ?_⟩
  · exact (Option.some.inj (Eq.trans (by decide) heq)).symm
  · exact (Option.some.inj (Eq.trans (by decide) heq)).symm
  · exact (Option.some.inj (Eq.trans (by decide) heq)).symm

theorem marked_append {c : Char} (pre post : String) (h : pre.toList.head? = some c) :
    (pre ++ post).toList.head? = some c := by
  rw [String.toList_append, List.head?_append, h]
  rfl

section built

variable [LinearOrder R] [IsStrictOrderedRing R] {room : RoomConfig R}

theorem buildWalls_marked {walls : List (Shape R)} (h : buildWalls room = .ok walls) :
    ∀ s ∈ walls, s.Marked 'W' ∧ s.static = true := by
  obtain ⟨shapess, hloop, rfl⟩ := buildWalls_eq_ok h
  intro s hs
  obtain ⟨shapes, hshapes, hs⟩ := List.mem_flatten.1 hs
  obtain ⟨x, hx, hbuilt⟩ := exists_of_mem_forall₂ hloop hshapes
  obtain ⟨found, _, rfl⟩ := buildWall_eq_ok hbuilt
  obtain ⟨y, _, rfl⟩ := List.mem_map.1 hs
  have halias : x.1.aliasName.toList.head? = some 'W' := by
    have hwall := (wallOf_eq hx).1
    simp only [wallLayout, List.mem_cons, List.not_mem_nil, or_false] at hwall
    have hletters : ∀ name ∈ ["WallNorth", "WallEast", "WallSouth", "WallWest"],
        name.toList.head? = some 'W' := by decide
    obtain hw | hw | hw | hw := hwall <;> rw [hw] <;> exact hletters _ (by simp)
  exact ⟨marked_append _ _ (marked_append _ _ halias), rfl⟩

theorem buildDoor_name {door : DoorConfig R} {idx : Nat} {s : Shape R}
    (h : buildDoor room door idx = .ok s) :
    s.name = "Door_" ++ toString idx ∧ s.static = true := by
  unfold buildDoor at h
  split at h
  · cases h; exact ⟨rfl, rfl⟩
  split at h
  · cases h; exact ⟨rfl, rfl⟩
  split at h
  · cases h; exact ⟨rfl, rfl⟩
  split at h
  · cases h; exact ⟨rfl, rfl⟩
  · cases h

theorem door_name_ne {idx : Nat} (h : idx ≠ 0) : "Door_" ++ toString idx ≠ "Door_0" := by
  intro heq
  have hzero : "Door_" ++ toString idx = "Door_" ++ toString 0 := heq
  rw [String.append_right_inj] at hzero
  exact h (Nat.repr_injective hzero)

/-- The panel of the first door comes first, and it alone has its name. -/
theorem buildDoors_plain {door : DoorConfig R} {doors : List (DoorConfig R)}
    (hdoors : room.doors = door :: doors) {panels : List (Shape R)}
    (h : buildDoors room = .ok panels) :
    ∃ panel rest, panels = panel :: rest ∧ panel.name = "Door_0" ∧ panel.static = true ∧
      ∀ s ∈ rest, s.Plain ∧ s.static = true := by
  rw [buildDoors, mapM_eq_ok_iff, hdoors, List.zipIdx_cons, List.forall₂_cons_left_iff] at h
  obtain ⟨panel, rest, hpanel, hrest, rfl⟩ := h
  obtain ⟨hname, hstatic⟩ := buildDoor_name hpanel
  refine ⟨panel, rest, rfl, hname, hstatic, fun s hs => ?_⟩
  obtain ⟨x, hmem, hx⟩ := exists_of_mem_forall₂ hrest hs
  have hidx : x.2 ≠ 0 := by
    have hle := (List.mem_zipIdx (x := x.1) (i := x.2) hmem).1
    omega
  obtain ⟨hname, hstatic⟩ := buildDoor_name hx
  have hmarked : s.Marked 'D' := by
    rw [Shape.Marked, hname]
    exact marked_append _ _ (by decide)
  refine ⟨⟨?_, hmarked.ne (by decide), hmarked.ne (by decide)⟩, hstatic⟩
  rw [hname]
  exact door_name_ne hidx

theorem buildObstacle_marked {primitives : List String} {obs : ObstacleConfig R} {idx : Nat}
    {s : Shape R} (h : buildObstacle primitives obs idx = .ok s) : s.Marked 'O' := by
  unfold buildObstacle at h
  split at h
  · cases h
    exact marked_append _ _ (by decide)
  · cases h

theorem mapError_eq_ok {f : ε → ε'} {x : Except ε α} {a : α} :
    x.mapError f = .ok a ↔ x = .ok a := by
  cases x <;> simp [Except.mapError]

theorem buildScene_eq_ok {primitives : List String} {cfg : Scenario R} {scene : List (Shape R)}
    (h : buildScene primitives cfg = .ok scene) :
    ∃ walls panels obstacles, buildWalls cfg.room = .ok walls ∧ buildDoors cfg.room = .ok panels ∧
      (∀ s ∈ obstacles, s.Marked 'O') ∧
      scene = walls ++ panels ++ obstacles ++ (cfg.targetCube.map buildTargetCube).toList ++
        (cfg.pressurePlate.map buildPressurePlate).toList := by
  rw [buildScene] at h
  cases hwalls : (buildWalls cfg.room).mapError BuildError.scene with
  | error e => rw [hwalls] at h; cases h
  | ok walls =>
    cases hpanels : (buildDoors cfg.room).mapError BuildError.scene with
    | error e => rw [hwalls, hpanels] at h; cases h
    | ok panels =>
      cases hobstacles : cfg.obstacles.zipIdx.mapM
          fun x => buildObstacle primitives x.1 x.2 with
      | error e => rw [hwalls, hpanels] at h; exact absurd (hobstacles ▸ h) nofun
      | ok obstacles =>
        rw [hwalls, hpanels] at h
        have hscene := hobstacles ▸ h
        refine ⟨walls, panels, obstacles, mapError_eq_ok.1 hwalls, mapError_eq_ok.1 hpanels, ?_,
          (Except.ok.inj hscene).symm⟩
        intro s hs
        obtain ⟨x, _, hx⟩ := exists_of_mem_forall₂ (mapM_eq_ok_iff.1 hobstacles) hs
        exact buildObstacle_marked hx

end built

end scene

section run

variable {R : Type} [Field R] {sim : Simulator R} {s : sim.State} {walls between : List (Shape R)}
  {panel cube plate : Shape R}

theorem forall₂_append_right {P : α → β → Prop} {xs : List α} {ys zs : List β}
    (h : List.Forall₂ P xs (ys ++ zs)) :
    ∃ us vs, xs = us ++ vs ∧ List.Forall₂ P us ys ∧ List.Forall₂ P vs zs :=
  ⟨xs.take ys.length, xs.drop ys.length, (List.take_append_drop _ _).symm,
    List.forall₂_take_append _ _ _ h, List.forall₂_drop_append _ _ _ h⟩

/-- The handles of a scene's first door, its key and its plate, and of the other objects. -/
structure Handles (sim : Simulator R) where
  walls : List sim.Handle
  between : List sim.Handle
  door : sim.Handle
  cube : sim.Handle
  plate : sim.Handle

def Handles.all (hs : Handles sim) : List sim.Handle :=
  hs.walls ++ hs.door :: (hs.between ++ [hs.cube, hs.plate])

/-- The handles tell the objects of a scene apart. -/
structure Handles.Fit (hs : Handles sim) (s : sim.State) (walls between : List (Shape R))
    (panel cube plate : Shape R) : Prop where
  nodup : hs.all.Nodup
  walls : List.Forall₂ (fun h o => sim.objects s h = some o) hs.walls walls
  between : List.Forall₂ (fun h o => sim.objects s h = some o) hs.between between
  door : sim.objects s hs.door = some panel
  cube : sim.objects s hs.cube = some cube
  plate : sim.objects s hs.plate = some plate

theorem fit_of_holds {handles : List sim.Handle}
    (h : sim.Holds s handles (walls ++ panel :: (between ++ [cube, plate]))) :
    ∃ hs : Handles sim, handles = hs.all ∧ hs.Fit s walls between panel cube plate := by
  obtain ⟨hnodup, hobjects, -⟩ := h
  obtain ⟨ws, rest, rfl, hws, hrest⟩ := forall₂_append_right hobjects
  obtain ⟨d, rest', hd, hrest', rfl⟩ := List.forall₂_cons_right_iff.1 hrest
  obtain ⟨bs, last, rfl, hbs, hlast⟩ := forall₂_append_right hrest'
  obtain ⟨c, last', hc, hlast', rfl⟩ := List.forall₂_cons_right_iff.1 hlast
  obtain ⟨p, none, hp, hnone, rfl⟩ := List.forall₂_cons_right_iff.1 hlast'
  obtain rfl := List.forall₂_nil_right_iff.1 hnone
  exact ⟨⟨ws, bs, d, c, p⟩, rfl, hnodup, hws, hbs, hd, hc, hp⟩

/-- The names by which the constructor finds the objects of a scene. -/
structure Named (walls between : List (Shape R)) (panel cube plate : Shape R) : Prop where
  walls : ∀ o ∈ walls, o.Plain
  between : ∀ o ∈ between, o.Plain
  panel : panel.name = "Door_0"
  cube : cube.name = "TargetCube"
  plate : plate.name = "PressurePlate"

theorem Named.sort (hn : Named walls between panel cube plate) {hs : Handles sim}
    (hfit : hs.Fit s walls between panel cube plate)
    (h : sim.Holds s hs.all (walls ++ panel :: (between ++ [cube, plate]))) {h' : sim.Handle}
    {o : Shape R} (ho : sim.objects s h' = some o) : o.Plain ∨ (h' = hs.door ∧ o = panel) ∨
      (h' = hs.cube ∧ o = cube) ∨ (h' = hs.plate ∧ o = plate) := by
  by_cases hmem : h' ∈ hs.all
  · simp only [Handles.all, List.mem_append, List.mem_cons, List.not_mem_nil, or_false] at hmem
    obtain hmem | rfl | hmem | rfl | rfl := hmem
    · obtain ⟨o', hmem', ho'⟩ := exists_of_mem_forall₂ hfit.walls.flip hmem
      obtain rfl := Option.some.inj (ho.symm.trans ho')
      exact .inl (hn.walls o hmem')
    · exact .inr (.inl ⟨rfl, Option.some.inj (ho.symm.trans hfit.door)⟩)
    · obtain ⟨o', hmem', ho'⟩ := exists_of_mem_forall₂ hfit.between.flip hmem
      obtain rfl := Option.some.inj (ho.symm.trans ho')
      exact .inl (hn.between o hmem')
    · exact .inr (.inr (.inl ⟨rfl, Option.some.inj (ho.symm.trans hfit.cube)⟩))
    · exact .inr (.inr (.inr ⟨rfl, Option.some.inj (ho.symm.trans hfit.plate)⟩))
  · have hne := h.alone h' o ho hmem
    refine .inl ⟨?_, ?_, ?_⟩
    · exact hn.panel ▸ hne panel (by simp)
    · exact hn.cube ▸ hne cube (by simp)
    · exact hn.plate ▸ hne plate (by simp)

variable {hs : Handles sim}

theorem Named.getObject_door (hn : Named walls between panel cube plate) (hsim : sim.Lawful)
    (hfit : hs.Fit s walls between panel cube plate)
    (h : sim.Holds s hs.all (walls ++ panel :: (between ++ [cube, plate]))) :
    sim.getObject s "/Door_0" = some hs.door := by
  have hget := hsim.getObject s hs.door panel hfit.door fun h' o ho hname => by
    rw [hn.panel] at hname
    obtain hplain | ⟨rfl, -⟩ | ⟨-, rfl⟩ | ⟨-, rfl⟩ := hn.sort hfit h ho
    · exact absurd hname hplain.door
    · rfl
    · exact absurd (hn.cube.symm.trans hname) (by decide)
    · exact absurd (hn.plate.symm.trans hname) (by decide)
  rwa [hn.panel] at hget

theorem Named.getObject_cube (hn : Named walls between panel cube plate) (hsim : sim.Lawful)
    (hfit : hs.Fit s walls between panel cube plate)
    (h : sim.Holds s hs.all (walls ++ panel :: (between ++ [cube, plate]))) :
    sim.getObject s "/TargetCube" = some hs.cube := by
  have hget := hsim.getObject s hs.cube cube hfit.cube fun h' o ho hname => by
    rw [hn.cube] at hname
    obtain hplain | ⟨-, rfl⟩ | ⟨rfl, -⟩ | ⟨-, rfl⟩ := hn.sort hfit h ho
    · exact absurd hname hplain.cube
    · exact absurd (hn.panel.symm.trans hname) (by decide)
    · rfl
    · exact absurd (hn.plate.symm.trans hname) (by decide)
  rwa [hn.cube] at hget

theorem Named.getObject_plate (hn : Named walls between panel cube plate) (hsim : sim.Lawful)
    (hfit : hs.Fit s walls between panel cube plate)
    (h : sim.Holds s hs.all (walls ++ panel :: (between ++ [cube, plate]))) :
    sim.getObject s "/PressurePlate" = some hs.plate := by
  have hget := hsim.getObject s hs.plate plate hfit.plate fun h' o ho hname => by
    rw [hn.plate] at hname
    obtain hplain | ⟨-, rfl⟩ | ⟨-, rfl⟩ | ⟨rfl, -⟩ := hn.sort hfit h ho
    · exact absurd hname hplain.plate
    · exact absurd (hn.panel.symm.trans hname) (by decide)
    · exact absurd (hn.cube.symm.trans hname) (by decide)
    · rfl
  rwa [hn.plate] at hget

variable [LinearOrder R] [IsStrictOrderedRing R]

theorem halfExtents_eq (a : R) : (a / 2.0 - -(a / 2.0)) / 2.0 = a / 2.0 := by
  rw [sub_neg_eq_add, half_add_half]

namespace DoorNode

theorem halfExtentsXyz_eq (hsim : sim.Lawful) {handle : sim.Handle} {o : Shape R}
    (ho : sim.objects s handle = some o) : halfExtentsXyz sim s handle =
      some (o.size.1 / 2.0, o.size.2.1 / 2.0, o.size.2.2 / 2.0) := by
  rw [halfExtentsXyz, hsim.getObjectBbox s handle o ho]
  dsimp only [Option.bind_eq_bind, Option.bind_some]
  rw [halfExtents_eq, halfExtents_eq, halfExtents_eq]
  rfl

/-- The parameters for a scene of the builder, with a way for the door that clears the opening. -/
structure Usual (height : R) (p : DoorNodeParams R) : Prop where
  cubeAlias : p.cubeAlias = "/TargetCube"
  plateAlias : p.plateAlias = "/PressurePlate"
  doorAlias : p.doorAlias = "/Door_0"
  openDistance : p.openDistance ≤ 0 ∨ height ≤ p.openDistance

/-- What the constructor makes of the objects of a scene. -/
structure Made (p : DoorNodeParams R) (hs : Handles sim) (panel plate : Shape R)
    (n : DoorNode sim) : Prop where
  atDoor : n.door = hs.door
  atCube : n.cube = hs.cube
  atPlate : n.plate = hs.plate
  isOpen : n.isOpen = false
  plateBboxXy : n.plateBboxXy = (plate.size.1 / 2.0, plate.size.2.1 / 2.0)
  closedPos : n.doorClosedPos = panel.center
  openPos : n.doorOpenPos = (panel.center.1, panel.center.2.1, panel.center.2.2 -
    if p.openDistance ≤ 0 then 2.0 * (panel.size.2.2 / 2.0) + 0.05 else p.openDistance)

theorem init_made (hn : Named walls between panel cube plate) (hsim : sim.Lawful)
    (hfit : hs.Fit s walls between panel cube plate)
    (h : sim.Holds s hs.all (walls ++ panel :: (between ++ [cube, plate]))) {height : R}
    {p : DoorNodeParams R} (hp : Usual height p) :
    ∃ n, init sim p s = some n ∧ n.Made p hs panel plate := by
  rw [init, hp.cubeAlias, hp.plateAlias, hp.doorAlias, hn.getObject_cube hsim hfit h,
    hn.getObject_plate hsim hfit h, hn.getObject_door hsim hfit h]
  dsimp only [Option.bind_eq_bind, Option.bind_some]
  rw [halfExtentsXyz_eq hsim hfit.plate, halfExtentsXyz_eq hsim hfit.door,
    hsim.getObjectPosition s hs.door panel hfit.door]
  exact ⟨_, rfl, rfl, rfl, rfl, rfl, rfl, rfl, rfl⟩

/-- The key at a position is on the plate. -/
def pressed (p : DoorParams R) (n : DoorNode sim) (plate : Shape R) (pos : R × R × R) : Bool :=
  n.toDoorController.triggered p (point pos) (point plate.center)

/-- What the controller is for: the door is open while, or once, the key is on the plate. -/
def hold (latch : Bool) (onPlate : R × R × R → Bool) (s : Bool × (R × R × R)) :
    SceneEvent R → Bool × (R × R × R)
  | .carried pos => (s.1, pos)
  | .tick reached => (if reached then onPlate s.2 || (s.1 && latch) else s.1, s.2)

/-- The controller and the scene, the door open or not and the key somewhere: the door and the key
apart, whatever is static is as it was. -/
structure Staged (n₀ : DoorNode sim) (s₀ : sim.State) (panel cube : Shape R)
    (w : Bool × (R × R × R)) (n : DoorNode sim) (s : sim.State) : Prop where
  node : n = { n₀ with isOpen := w.1 }
  door : sim.objects s n₀.door =
    some { panel with center := if w.1 then n₀.doorOpenPos else n₀.doorClosedPos }
  cube : sim.objects s n₀.cube = some { cube with center := w.2 }
  rest : ∀ h o, h ≠ n₀.door → sim.objects s₀ h = some o → o.static = true →
    sim.objects s h = some o

variable {p : DoorParams R} {n n₀ : DoorNode sim} {s s' s₀ : sim.State} {w : Bool × (R × R × R)}

/-- A tick moves the door just when it is not where it should be. -/
theorem look_eq {reached : Bool} {pos : R × R × R}
    (hquery : n.query s reached = if reached then some (point pos, point plate.center) else none) :
    n.look p reached s =
      let isOpen := (hold p.latch (n.pressed p plate) (n.isOpen, pos) (.tick reached)).1
      ({ n with isOpen },
        if isOpen = n.isOpen then s
        else sim.set s n.door
          (.objectPosition (if isOpen then n.doorOpenPos else n.doorClosedPos))) := by
  obtain ⟨⟨bbox, isOpen⟩, c, pl, d, closedPos, openPos⟩ := n
  rw [look, hquery]
  cases reached with
  | false => simp [DoorController.tick, hold]
  | true =>
    dsimp only [DoorController.tick]
    cases hpressed : DoorController.triggered p ⟨bbox, isOpen⟩ (point pos) (point plate.center) <;>
      cases isOpen <;> cases hlatch : p.latch <;>
      simp [hold, pressed, hpressed, obey]

/-- The controller has found its objects; door and plate do not move by themselves. -/
structure Found (n₀ : DoorNode sim) (s₀ : sim.State) (panel cube plate : Shape R) : Prop where
  atDoor : sim.objects s₀ n₀.door = some panel
  atCube : sim.objects s₀ n₀.cube = some cube
  atPlate : sim.objects s₀ n₀.plate = some plate
  cube_ne : n₀.cube ≠ n₀.door
  plate_ne : n₀.plate ≠ n₀.door
  doorStatic : panel.static = true
  plateStatic : plate.static = true

theorem Staged.carried (h : Staged n₀ s₀ panel cube w n s) (hf : n₀.Found s₀ panel cube plate)
    {pos : R × R × R} (hc : Carries sim n.cube pos s s') :
    Staged n₀ s₀ panel cube (w.1, pos) n s' := by
  obtain ⟨hnode, hdoor, hcube, hrest⟩ := h
  refine ⟨hnode, hc.static _ _ hdoor hf.doorStatic, ?_, fun h o hne ho hs => ?_⟩
  · have hkey := hc.cube
    rw [hnode] at hkey
    rw [hkey, hcube]
    rfl
  · exact hc.static h o (hrest h o hne ho hs) hs

theorem Staged.query (h : Staged n₀ s₀ panel cube w n s) (hf : n₀.Found s₀ panel cube plate)
    (hsim : sim.Lawful) (reached : Bool) : n.query s reached =
      if reached then some (point w.2, point plate.center) else none := by
  have hplate := h.rest _ _ hf.plate_ne hf.atPlate hf.plateStatic
  rw [h.node, DoorNode.query]
  dsimp only
  rw [hsim.getObjectPosition _ _ _ h.cube, hsim.getObjectPosition _ _ _ hplate]
  rfl

theorem Staged.tick (h : Staged n₀ s₀ panel cube w n s) (hf : n₀.Found s₀ panel cube plate)
    (hsim : sim.Lawful) (reached : Bool) :
    Staged n₀ s₀ panel cube (hold p.latch (n₀.pressed p plate) w (.tick reached))
      (n.look p reached s).1 (n.look p reached s).2 := by
  rw [look_eq (h.query hf hsim reached)]
  obtain ⟨hnode, hdoor, hcube, hrest⟩ := h
  obtain ⟨isOpen, pos⟩ := w
  subst hnode
  change Staged n₀ s₀ panel cube
    ((hold p.latch (n₀.pressed p plate) (isOpen, pos) (.tick reached)).1, pos) _ _
  dsimp only at hdoor hcube ⊢
  have hsame : ({ n₀ with isOpen } : DoorNode sim).pressed p plate = n₀.pressed p plate := rfl
  rw [hsame]
  generalize (hold p.latch (n₀.pressed p plate) (isOpen, pos) (.tick reached)).1 = isOpen'
  split
  · rename_i heq
    subst heq
    exact ⟨rfl, hdoor, hcube, hrest⟩
  · refine ⟨rfl, ?_, ?_, fun h o hne ho hs => ?_⟩
    · rw [hsim.set_self, hdoor]
      rfl
    · rw [hsim.set_other _ _ _ _ hf.cube_ne, hcube]
    · rw [hsim.set_other _ _ _ _ hne]
      exact hrest h o hne ho hs

theorem Staged.run (h : Staged n₀ s₀ panel cube w n s) (hf : n₀.Found s₀ panel cube plate)
    (hsim : sim.Lawful) {es : List (SceneEvent R)} {n' : DoorNode sim}
    (hrun : Run p (n, s) es (n', s')) :
    Staged n₀ s₀ panel cube (Runs.run (hold p.latch (n₀.pressed p plate)) w es) n' s' := by
  induction es generalizing w n s with
  | nil =>
    cases hrun
    exact h
  | cons e es ih =>
    rw [Runs.run_cons]
    cases hrun with
    | cons hstep hrun =>
      cases hstep with
      | carried hc => exact ih (h.carried hf hc) hrun
      | tick _ _ reached => exact ih (h.tick hf hsim reached) hrun

/-- What the looks that reach the simulator find, in order: whether the key is on the plate. -/
def looks (onPlate : R × R × R → Bool) : R × R × R → List (SceneEvent R) → List Bool
  | _, [] => []
  | _, .carried pos :: es => looks onPlate pos es
  | pos, .tick true :: es => onPlate pos :: looks onPlate pos es
  | pos, .tick false :: es => looks onPlate pos es

/-- Whether the door is open after these looks. -/
def opened (latch : Bool) (found : List Bool) : Bool :=
  if latch then found.any id else found.getLast?.getD false

theorem hold_run (latch : Bool) (onPlate : R × R × R → Bool) (s : Bool × (R × R × R))
    (es : List (SceneEvent R)) :
    (Runs.run (hold latch onPlate) s es).1 =
      (looks onPlate s.2 es).foldl (fun o found => found || (o && latch)) s.1 := by
  induction es generalizing s with
  | nil => rfl
  | cons e es ih =>
    rw [Runs.run_cons, ih]
    cases e with
    | carried pos => rfl
    | tick reached => cases reached <;> rfl

theorem foldl_looks (latch : Bool) (o : Bool) (found : List Bool) :
    found.foldl (fun o found => found || (o && latch)) o =
      if latch then o || found.any id else found.getLast?.getD o := by
  induction found generalizing o with
  | nil => cases latch <;> simp
  | cons b found ih =>
    rw [List.foldl_cons, ih]
    cases latch with
    | true => cases b <;> simp
    | false => simp [List.getLast?_cons]

end DoorNode

end run

section opening

variable {R : Type} [Field R] [LinearOrder R] [IsStrictOrderedRing R] {room : RoomConfig R}

/-- One door is out of the way, and everything else is closed. -/
structure Passable (room : RoomConfig R) (door : DoorConfig R) (shapes : List (Shape R)) :
    Prop where
  free : ∀ a ∈ (doorPiece room door).inner, ∀ s ∈ shapes, a ∉ s.piece.carrier
  closed : ∀ p ∈ room.ring, (p.1, p.2, 0) ∉ (doorPiece room door).carrier →
    ∃ s ∈ shapes, Standing room s ∧ p ∈ s.footprint

theorem Standing.solid {s t : Shape R} (ht : Standing room t) : s.piece.Solid t.piece := by
  have hpos {a b : R} (hb : 0 < b) : a - b / 2.0 < a + b / 2.0 := by
    have hhalf : 0 < b / 2.0 := by positivity
    linarith
  exact (Piece.solid_interval (hpos ht.sizeX)).prod
    ((Piece.solid_interval (hpos ht.sizeY)).prod (Piece.solid_interval (hpos ht.sizeZ)))

theorem built_tiles (hw : 0 < room.width) (hl : 0 < room.length) (ht : 0 < room.wallThickness)
    (hh : 0 < room.height)
    (hdoors : ∀ d ∈ room.doors, 0 < d.width ∧ 0 ≤ d.wallSide ∧ d.wallSide ≤ 3)
    {walls panels : List (Shape R)} (h : buildWalls room = .ok walls)
    (hpanels : buildDoors room = .ok panels) :
    Tiles ((walls ++ panels).map Shape.piece)
        (.unions (room.sides.map fun x => wholeWall room x.1)) ∧
      panels.map Shape.piece = room.doors.map (doorPiece room) ∧
      ∀ s ∈ walls ++ panels, Standing room s := by
  have hwidth : ∀ d ∈ room.doors, 0 < d.width := fun d hd => (hdoors d hd).1
  obtain ⟨panels', hpanels', hpieces, hstanding⟩ := buildDoors_eq_ok ht hh hdoors
  obtain rfl := Except.ok.inj (hpanels.symm.trans hpanels')
  obtain ⟨shapess, hloop, rfl⟩ := buildWalls_eq_ok h
  have htiles := walls_tile (fun x hx => hx) (length_pos hw hl ht) hwidth (sides_apart hw hl) hloop
  refine ⟨?_, hpieces, fun s hs => ?_⟩
  · apply htiles.perm
    rw [List.map_append, hpieces]
    exact ((doorsOn_perm fun d hd => (hdoors d hd).2).map _).append_left _
  · obtain hs | hs := List.mem_append.1 hs
    · obtain ⟨shapes, hshapes, hs⟩ := List.mem_flatten.1 hs
      obtain ⟨x, hx, hbuilt⟩ := exists_of_mem_forall₂ hloop hshapes
      exact buildWall_standing ht hh hwidth (length_pos hw hl ht x hx) hbuilt s hs
    · exact hstanding s hs

/-- Lowered by the height of the room, the panel of a door leaves its opening free. -/
theorem passable_of_lowered (hw : 0 < room.width) (hl : 0 < room.length)
    (ht : 0 < room.wallThickness) (hh : 0 < room.height) {walls rest : List (Shape R)}
    {panel : Shape R} {door : DoorConfig R}
    (htiles : Tiles ((walls ++ panel :: rest).map Shape.piece)
      (.unions (room.sides.map fun x => wholeWall room x.1)))
    (hpanel : panel.piece = doorPiece room door)
    (hstand : ∀ s ∈ walls ++ panel :: rest, Standing room s) {d : R} (hd : room.height ≤ d) :
    Passable room door
      (walls ++ { panel with
        center := (panel.center.1, panel.center.2.1, panel.center.2.2 - d) } :: rest) := by
  have hin := hstand panel (List.mem_append_right _ List.mem_cons_self)
  have hapart := htiles.apart
  rw [List.pairwise_map, List.pairwise_append, List.pairwise_cons] at hapart
  obtain ⟨-, ⟨hrest, -⟩, hwalls⟩ := hapart
  constructor
  · intro a ha s hs hmem
    rw [← hpanel] at ha
    obtain hs | hs := List.mem_append.1 hs
    · have hstanding := hstand s (List.mem_append_left _ hs)
      have hapart (b) (hb : b ∈ panel.piece.inner) (hb' : b ∈ s.piece.inner) : False :=
        hwalls s hs panel List.mem_cons_self b hb' hb
      exact hstanding.solid hapart a ha hmem
    obtain rfl | hs := List.mem_cons.1 hs
    · have hlow : a.2.2 ≤ panel.center.2.2 - d + panel.size.2.2 / 2.0 := hmem.2.2.2
      have hhigh : panel.center.2.2 - panel.size.2.2 / 2.0 < a.2.2 := ha.2.2.1
      have hfloor := hin.floor
      have hceiling := hin.ceiling
      linarith
    · have hstanding := hstand s (List.mem_append_right _ (List.mem_cons_of_mem _ hs))
      exact hstanding.solid (hrest s hs) a ha hmem
  · intro p hp hout
    rw [← hpanel] at hout
    rw [← mem_walls hw hl hh ht, htiles.covers] at hp
    obtain ⟨_, hpiece, hmem⟩ := hp
    obtain ⟨s, hs, rfl⟩ := List.mem_map.1 hpiece
    have hstanding := hstand s hs
    refine ⟨s, ?_, hstanding, (mem_piece hstanding hh).1 hmem⟩
    obtain hs | hs := List.mem_append.1 hs
    · exact List.mem_append_left _ hs
    · obtain rfl | hs := List.mem_cons.1 hs
      · exact absurd hmem hout
      · exact List.mem_append_right _ (List.mem_cons_of_mem _ hs)

theorem encloses_of_tiles (hw : 0 < room.width) (hl : 0 < room.length)
    (ht : 0 < room.wallThickness) (hh : 0 < room.height) {shapes : List (Shape R)}
    (htiles : Tiles (shapes.map Shape.piece) (.unions (room.sides.map fun x => wholeWall room x.1)))
    (hstand : ∀ s ∈ shapes, Standing room s) : Encloses room shapes := by
  refine ⟨List.pairwise_map.1 htiles.apart, hstand, fun p => ?_⟩
  rw [← mem_walls hw hl hh ht, htiles.covers]
  simp only [List.mem_map, exists_exists_and_eq_and]
  exact exists_congr fun s => and_congr_right fun hs => (mem_piece (hstand s hs) hh).symm

/-- A room that has been built, with a key in it and the plate that opens its first door. -/
structure Ready (cfg : Scenario R) (door : DoorConfig R) (cube plate : ObjectConfig R) : Prop where
  width : 0 < cfg.room.width
  length : 0 < cfg.room.length
  wallThickness : 0 < cfg.room.wallThickness
  height : 0 < cfg.room.height
  doors : ∀ d ∈ cfg.room.doors, 0 < d.width ∧ 0 ≤ d.wallSide ∧ d.wallSide ≤ 3
  first : cfg.room.doors.head? = some door
  cube : cfg.targetCube = some cube
  plate : cfg.pressurePlate = some plate

/-- The key is over the plate, up to the margin. -/
def ObjectConfig.pressedAt (plate : ObjectConfig R) (p : DoorParams R) (pos : R × R × R) : Bool :=
  DoorController.triggered p ⟨(plate.size.1 / 2.0, plate.size.2.1 / 2.0), false⟩ (point pos)
    (point plate.position)

theorem DoorNode.Usual.clears {p : DoorNodeParams R} {o : Shape R} (h : Usual room.height p)
    (ho : Standing room o) : room.height ≤
      if p.openDistance ≤ 0 then 2.0 * (o.size.2.2 / 2.0) + 0.05 else p.openDistance := by
  have hfloor := ho.floor
  have hceiling := ho.ceiling
  split
  · have htwo : (2.0 : R) = 2 := by norm_num
    have hmargin : (0 : R) ≤ 0.05 := by norm_num
    rw [htwo] at *
    linarith
  · exact h.openDistance.resolve_left ‹_›

theorem Ready.layout {primitives : List String} {cfg : Scenario R} {door : DoorConfig R}
    {cube plate : ObjectConfig R} (h : Ready cfg door cube plate) {scene : List (Shape R)}
    (hbuilt : buildScene primitives cfg = .ok scene) :
    ∃ walls panel rest obstacles, buildWalls cfg.room = .ok walls ∧
      buildDoors cfg.room = .ok (panel :: rest) ∧ panel.piece = doorPiece cfg.room door ∧
      Named walls (rest ++ obstacles) panel (buildTargetCube cube) (buildPressurePlate plate) ∧
      (∀ o ∈ walls ++ panel :: rest, o.static = true) ∧ scene =
        walls ++ panel ::
        ((rest ++ obstacles) ++ [buildTargetCube cube, buildPressurePlate plate]) := by
  obtain ⟨walls, panels, obstacles, hwalls, hpanels, hobstacles, hscene⟩ := buildScene_eq_ok hbuilt
  obtain ⟨doors, hdoors⟩ : ∃ doors, cfg.room.doors = door :: doors :=
    List.head?_eq_some_iff.1 h.first
  obtain ⟨panel, rest, rfl, hname, hstatic, hrest⟩ := buildDoors_plain hdoors hpanels
  obtain ⟨_, hpieces, _⟩ := built_tiles h.width h.length h.wallThickness h.height h.doors hwalls
    hpanels
  refine ⟨walls, panel, rest, obstacles, hwalls, hpanels, ?_, ?_, ?_, ?_⟩
  · rw [hdoors, List.map_cons, List.map_cons] at hpieces
    exact (List.cons.inj hpieces).1
  · refine ⟨fun o ho => (buildWalls_marked hwalls o ho).1.plain (by decide), fun o ho => ?_, hname,
      rfl, rfl⟩
    obtain ho | ho := List.mem_append.1 ho
    · exact (hrest o ho).1
    · exact (hobstacles o ho).plain (by decide)
  · rw [List.forall_mem_append, List.forall_mem_cons]
    exact ⟨fun o ho => (buildWalls_marked hwalls o ho).2, hstatic, fun o ho => (hrest o ho).2⟩
  · rw [hscene, h.cube, h.plate]
    simp

/-- The room as a run leaves it: closed until a look finds the key on the plate. -/
def Secured (room : RoomConfig R) (door : DoorConfig R) (built now : List (Shape R))
    (isOpen : Bool) : Prop :=
  if isOpen then Passable room door now else now = built ∧ Encloses room now

theorem filterMap_objects {sim : Simulator R} {s : sim.State} {handles : List sim.Handle}
    {shapes : List (Shape R)}
    (h : List.Forall₂ (fun h o => sim.objects s h = some o) handles shapes) :
    handles.filterMap (sim.objects s) = shapes := by
  induction h with
  | nil => rfl
  | cons ho _ ih => rw [List.filterMap_cons_some ho, ih]

namespace DoorNode

variable {sim : Simulator R} {s s' : sim.State} {p : DoorNodeParams R} {n n' : DoorNode sim}
  {hs : Handles sim} {walls between : List (Shape R)} {panel cube plate : Shape R}

theorem Made.found (h : n.Made p hs panel plate) (hfit : hs.Fit s walls between panel cube plate)
    (hpanel : panel.static = true) (hplate : plate.static = true) :
    n.Found s panel cube plate := by
  have hnodup := hfit.nodup
  rw [Handles.all, List.nodup_append, List.nodup_cons] at hnodup
  obtain ⟨-, ⟨hdoor, -⟩, -⟩ := hnodup
  rw [List.mem_append, List.mem_cons, List.mem_singleton, not_or, not_or] at hdoor
  obtain ⟨hatDoor, hatCube, hatPlate, -, -, -, -⟩ := h
  refine ⟨hatDoor ▸ hfit.door, hatCube ▸ hfit.cube, hatPlate ▸ hfit.plate, ?_, ?_, hpanel, hplate⟩
  · rw [hatCube, hatDoor]
    exact Ne.symm hdoor.2.1
  · rw [hatPlate, hatDoor]
    exact Ne.symm hdoor.2.2

theorem Made.staged (h : n.Made p hs panel plate)
    (hfit : hs.Fit s walls between panel cube plate) :
    Staged n s panel cube (false, cube.center) n s := by
  have hopen := h.isOpen
  have hclosed := h.closedPos
  refine ⟨?_, ?_, ?_, fun _ _ _ ho _ => ho⟩
  · rw [← hopen]
  · rw [h.atDoor, hfit.door, if_neg Bool.false_ne_true, hclosed]
  · rw [h.atCube, hfit.cube]

/-- What is static is where it was, but for the door. -/
theorem Staged.kept {w : Bool × (R × R × R)} (h : Staged n s panel cube w n' s')
    {handles : List sim.Handle} {shapes : List (Shape R)}
    (hobjects : List.Forall₂ (fun h o => sim.objects s h = some o) handles shapes)
    (hne : n.door ∉ handles) (hstatic : ∀ o ∈ shapes, o.static = true) :
    List.Forall₂ (fun h o => sim.objects s' h = some o) handles shapes := by
  induction hobjects with
  | nil => exact .nil
  | cons ho _ ih =>
    rw [List.mem_cons, not_or] at hne
    rw [List.forall_mem_cons] at hstatic
    exact .cons (h.rest _ _ (Ne.symm hne.1) ho hstatic.1) (ih hne.2 hstatic.2)

theorem Made.pressed_eq {plate : ObjectConfig R}
    (h : n.Made p hs panel (buildPressurePlate plate)) :
    n.pressed p.toDoorParams (buildPressurePlate plate) = plate.pressedAt p.toDoorParams := by
  have hbbox := h.plateBboxXy
  obtain ⟨⟨bbox, isOpen⟩, c, pl, d, closedPos, openPos⟩ := n
  dsimp only at hbbox
  subst hbbox
  rfl

/-- The walls and the panels after a run: all as they were, but for the first panel. -/
theorem Staged.built {w : Bool × (R × R × R)} (h : Staged n s panel cube w n' s')
    (hmade : n.Made p hs panel plate) {rest obstacles : List (Shape R)}
    (hfit : hs.Fit s walls (rest ++ obstacles) panel cube plate)
    (hstatic : ∀ o ∈ walls ++ panel :: rest, o.static = true) :
    (hs.all.take (walls ++ panel :: rest).length).filterMap (sim.objects s') =
      walls ++ { panel with center := if w.1 then n.doorOpenPos else n.doorClosedPos } :: rest := by
  obtain ⟨bs, os, hbetween, hbs, -⟩ := forall₂_append_right hfit.between
  have htake : hs.all.take (walls ++ panel :: rest).length = hs.walls ++ hs.door :: bs := by
    have hall : hs.all = (hs.walls ++ hs.door :: bs) ++ (os ++ [hs.cube, hs.plate]) := by
      simp [Handles.all, hbetween]
    have hlength : (walls ++ panel :: rest).length = (hs.walls ++ hs.door :: bs).length := by
      simp [hfit.walls.length_eq, hbs.length_eq]
    rw [hall, hlength, List.take_left]
  have hnodup := hfit.nodup
  rw [Handles.all, List.nodup_middle, List.nodup_cons, hbetween] at hnodup
  have hdoor := hnodup.1
  simp only [List.mem_append, not_or] at hdoor
  rw [List.forall_mem_append, List.forall_mem_cons] at hstatic
  rw [← hmade.atDoor] at hdoor
  rw [htake]
  apply filterMap_objects
  refine List.rel_append (h.kept hfit.walls hdoor.1 hstatic.1) (.cons ?_ ?_)
  · rw [← hmade.atDoor]
    exact h.door
  · exact h.kept hbs hdoor.2.1.1 hstatic.2.2

end DoorNode

/-- In a scene of the builder the controller starts, and in every run of it the room is closed until
a look finds the key on the plate; then its first door is out of the way, and only that. -/
theorem room_opens {sim : Simulator R} (hsim : sim.Lawful) {primitives : List String}
    {cfg : Scenario R} {door : DoorConfig R} {cube plate : ObjectConfig R}
    (hready : Ready cfg door cube plate) {scene : List (Shape R)}
    (hbuilt : buildScene primitives cfg = .ok scene) {p : DoorNodeParams R}
    (hp : DoorNode.Usual cfg.room.height p) {s : sim.State} {handles : List sim.Handle}
    (hholds : sim.Holds s handles scene) :
    ∃ walls panels node, buildWalls cfg.room = .ok walls ∧ buildDoors cfg.room = .ok panels ∧
      DoorNode.init sim p s = some node ∧
      ∀ (events : List (SceneEvent R)) (node' : DoorNode sim) (s' : sim.State),
        DoorNode.Run p.toDoorParams (node, s) events (node', s') →
          Secured cfg.room door (walls ++ panels)
            ((handles.take (walls ++ panels).length).filterMap (sim.objects s'))
            (DoorNode.opened p.latch
              (DoorNode.looks (plate.pressedAt p.toDoorParams) cube.position events)) := by
  obtain ⟨walls, panel, rest, obstacles, hwalls, hpanels, hpanel, hnamed, hstatic, rfl⟩ :=
    hready.layout hbuilt
  obtain ⟨hs, rfl, hfit⟩ := fit_of_holds hholds
  obtain ⟨node, hinit, hmade⟩ := DoorNode.init_made hnamed hsim hfit hholds hp
  refine ⟨walls, panel :: rest, node, hwalls, hpanels, hinit, fun events node' s' hrun => ?_⟩
  have hpanelStatic := hstatic panel (List.mem_append_right _ List.mem_cons_self)
  have hstaged := (hmade.staged hfit).run (hmade.found hfit hpanelStatic rfl) hsim hrun
  have hopened : (Runs.run (DoorNode.hold p.latch (node.pressed p.toDoorParams
      (buildPressurePlate plate))) (false, (buildTargetCube cube).center) events).1 =
        DoorNode.opened p.latch
          (DoorNode.looks (plate.pressedAt p.toDoorParams) cube.position events) := by
    rw [DoorNode.hold_run, DoorNode.foldl_looks, DoorNode.opened, Bool.false_or, hmade.pressed_eq]
    rfl
  rw [hstaged.built hmade hfit hstatic, hopened, Secured]
  obtain ⟨htiles, -, hstand⟩ := built_tiles hready.width hready.length hready.wallThickness
    hready.height hready.doors hwalls hpanels
  split
  · rw [hmade.openPos]
    exact passable_of_lowered hready.width hready.length hready.wallThickness hready.height htiles
      hpanel hstand (hp.clears (hstand panel (List.mem_append_right _ List.mem_cons_self)))
  · rw [hmade.closedPos]
    exact ⟨rfl, encloses_of_tiles hready.width hready.length hready.wallThickness hready.height
      htiles hstand⟩

/-- The easy scenario. -/
def easy : Scenario ℚ where
  room := ⟨5, 4, 0.5, 0.05, [⟨0, 0, 0.8, some (0.1, 0.3, 0.9)⟩]⟩
  obstacles := [⟨⟨(0.5, 0.5, 0.5), (0, 0, 0.25), none⟩, "cuboid"⟩,
    ⟨⟨(0.5, 0.5, 0.6), (1.5, -1, 0.3), none⟩, "cylinder"⟩,
    ⟨⟨(0.4, 0.4, 0.4), (-1, 1.2, 0.2), none⟩, "cuboid"⟩]
  targetCube := some ⟨(0.03, 0.03, 0.2), (1.8, 1.5, 0.1), some (0.9, 0, 0.9)⟩
  pressurePlate := some ⟨(0.3, 0.3, 0.002), (-1.5, 1.5, 0.001), some (0.1, 0.8, 0.2)⟩

theorem easy_ready : Ready easy ⟨0, 0, 0.8, some (0.1, 0.3, 0.9)⟩
    ⟨(0.03, 0.03, 0.2), (1.8, 1.5, 0.1), some (0.9, 0, 0.9)⟩
    ⟨(0.3, 0.3, 0.002), (-1.5, 1.5, 0.001), some (0.1, 0.8, 0.2)⟩ where
  width := by norm_num [easy]
  length := by norm_num [easy]
  wallThickness := by norm_num [easy]
  height := by norm_num [easy]
  doors := by norm_num [easy]
  first := rfl
  cube := rfl
  plate := rfl

theorem room_opens_easy : ∃ (scene : List (Shape ℚ)) (handles : List Nat),
    buildScene ["cuboid", "cylinder"] easy = .ok scene ∧ ∃ walls panels node,
      buildWalls easy.room = .ok walls ∧ buildDoors easy.room = .ok panels ∧
      DoorNode.init .listed .default (scene.foldl Simulator.listed.makeShape []) = some node ∧
      ∀ (events : List (SceneEvent ℚ)) (node' : DoorNode .listed) (s' : List (Shape ℚ)),
        DoorNode.Run DoorParams.default (node, scene.foldl Simulator.listed.makeShape []) events
            (node', s') →
          Secured easy.room ⟨0, 0, 0.8, some (0.1, 0.3, 0.9)⟩ (walls ++ panels)
            ((handles.take (walls ++ panels).length).filterMap (Simulator.listed.objects s'))
            (DoorNode.opened true (DoorNode.looks (ObjectConfig.pressedAt
              ⟨(0.3, 0.3, 0.002), (-1.5, 1.5, 0.001), some (0.1, 0.8, 0.2)⟩ .default)
                (1.8, 1.5, 0.1) events)) := by
  have hbuilt : (buildScene ["cuboid", "cylinder"] easy).isOk = true := by decide +kernel
  cases h : buildScene ["cuboid", "cylinder"] easy with
  | error e =>
    rw [h] at hbuilt
    cases hbuilt
  | ok scene =>
    obtain ⟨handles, hholds⟩ := Simulator.holds_made Simulator.listed_lawful scene []
      fun h o ho => by cases ho
    exact ⟨scene, handles, rfl, room_opens Simulator.listed_lawful easy_ready h
      ⟨rfl, rfl, rfl, .inl le_rfl⟩ hholds⟩

end opening

end EscapeRoom
