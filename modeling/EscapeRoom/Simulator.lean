import Mathlib.Data.List.Induction
import EscapeRoom.ClosedRoom

namespace EscapeRoom
set_option autoImplicit true
set_option linter.unusedSectionVars false

/-- The properties of an object that are set through the API, one function for each. -/
inductive Setting (R : Type) where
  | objectPosition (pos : R × R × R)
  | shapeColor (color : R × R × R)
  | static (value : Bool)
  | respondable (value : Bool)
  | objectAlias (name : String)

def Setting.apply (o : Shape R) : Setting R → Shape R
  | .objectPosition pos => { o with center := pos }
  | .shapeColor color => { o with color }
  | .static value => { o with static := value }
  | .respondable value => { o with respondable := value }
  | .objectAlias name => { o with name }

/-- The functions of the simulator's API that builder and door controller call; `none` stands for an
exception. `objects` is what a state of the simulator holds, which its callers only see through the
API. -/
structure Simulator (R : Type) where
  State : Type
  Handle : Type
  objects : State → Handle → Option (Shape R)
  createPrimitiveShape : State → R × R × R → State × Handle
  set : State → Handle → Setting R → State
  getObject : State → String → Option Handle
  getObjectPosition : State → Handle → Option (R × R × R)
  /-- `getObjectFloatParam` at the minima and at the maxima of the bounding box. -/
  getObjectBbox : State → Handle → Option ((R × R × R) × (R × R × R))

namespace Simulator

variable {R : Type} [Field R]

/-- The API as it is documented. The path of an object is only certain if it has no namesake. -/
structure Lawful (sim : Simulator R) : Prop where
  create_fresh : ∀ s size, sim.objects s (sim.createPrimitiveShape s size).2 = none
  create_self : ∀ s size, ∃ o, o.size = size ∧
    sim.objects (sim.createPrimitiveShape s size).1 (sim.createPrimitiveShape s size).2 = some o
  create_other : ∀ s size h, h ≠ (sim.createPrimitiveShape s size).2 →
    sim.objects (sim.createPrimitiveShape s size).1 h = sim.objects s h
  set_self : ∀ s h x, sim.objects (sim.set s h x) h = (sim.objects s h).map (Setting.apply · x)
  set_other : ∀ s h x h', h' ≠ h → sim.objects (sim.set s h x) h' = sim.objects s h'
  getObject : ∀ s h o, sim.objects s h = some o →
    (∀ h' o', sim.objects s h' = some o' → o'.name = o.name → h' = h) →
      sim.getObject s ("/" ++ o.name) = some h
  getObjectPosition : ∀ s h o, sim.objects s h = some o → sim.getObjectPosition s h = some o.center
  getObjectBbox : ∀ s h o, sim.objects s h = some o → sim.getObjectBbox s h =
    some ((-(o.size.1 / 2.0), -(o.size.2.1 / 2.0), -(o.size.2.2 / 2.0)),
      (o.size.1 / 2.0, o.size.2.1 / 2.0, o.size.2.2 / 2.0))

/-- `make_shape` of the builder. -/
def makeShape (sim : Simulator R) (s : sim.State) (shape : Shape R) : sim.State :=
  let (s, handle) := sim.createPrimitiveShape s shape.size
  let s := sim.set s handle (.objectPosition shape.center)
  let s := sim.set s handle (.shapeColor shape.color)
  let s := sim.set s handle (.static shape.static)
  let s := sim.set s handle (.respondable shape.respondable)
  sim.set s handle (.objectAlias shape.name)

/-- The shapes of a list are in a state, each under a handle of its own, and nothing else has their
names. -/
structure Holds (sim : Simulator R) (s : sim.State) (handles : List sim.Handle)
    (shapes : List (Shape R)) : Prop where
  nodup : handles.Nodup
  objects : List.Forall₂ (fun h o => sim.objects s h = some o) handles shapes
  alone : ∀ h o, sim.objects s h = some o → h ∉ handles → ∀ shape ∈ shapes, o.name ≠ shape.name

variable {sim : Simulator R} {s : sim.State}

theorem makeShape_objects (hsim : sim.Lawful) (s : sim.State) (shape : Shape R) :
    ∃ handle, sim.objects s handle = none ∧
      sim.objects (sim.makeShape s shape) handle = some shape ∧
      ∀ h, h ≠ handle → sim.objects (sim.makeShape s shape) h = sim.objects s h := by
  obtain ⟨o, hsize, ho⟩ := hsim.create_self s shape.size
  refine ⟨(sim.createPrimitiveShape s shape.size).2, hsim.create_fresh s shape.size, ?_, ?_⟩
  · rw [makeShape]
    simp only [hsim.set_self, ho, Option.map_some, Setting.apply, hsize]
  · intro h hne
    rw [makeShape]
    simp only [hsim.set_other _ _ _ _ hne, hsim.create_other _ _ _ hne]

theorem fold_makeShape (hsim : sim.Lawful) (shapes : List (Shape R)) (s : sim.State) :
    ∃ handles : List sim.Handle, handles.Nodup ∧
      List.Forall₂ (fun h o => sim.objects (shapes.foldl sim.makeShape s) h = some o) handles
        shapes ∧
      ∀ h, h ∉ handles → sim.objects (shapes.foldl sim.makeShape s) h = sim.objects s h := by
  induction shapes using List.reverseRecOn with
  | nil => exact ⟨[], List.nodup_nil, .nil, fun _ _ => rfl⟩
  | append_singleton shapes shape ih =>
    obtain ⟨handles, hnodup, hobjects, hrest⟩ := ih
    rw [List.foldl_append, List.foldl_cons, List.foldl_nil]
    generalize shapes.foldl sim.makeShape s = s' at hobjects hrest ⊢
    obtain ⟨handle, hfresh, hself, hother⟩ := makeShape_objects hsim s' shape
    have hnew : handle ∉ handles := by
      intro hmem
      obtain ⟨o, -, ho⟩ := exists_of_mem_forall₂ hobjects.flip hmem
      exact absurd (ho.symm.trans hfresh) (Option.some_ne_none o)
    have hkept : List.Forall₂ (fun h o => sim.objects (sim.makeShape s' shape) h = some o) handles
        shapes := by
      refine List.Forall₂.imp (fun h o ho => ?_) hobjects
      rw [hother h, ho]
      rintro rfl
      exact absurd (ho.symm.trans hfresh) (Option.some_ne_none o)
    refine ⟨handles ++ [handle], ?_, ?_, ?_⟩
    · rw [List.nodup_append]
      refine ⟨hnodup, List.nodup_singleton _, fun h hmem h' hmem' => ?_⟩
      rw [List.mem_singleton.1 hmem']
      exact ne_of_mem_of_not_mem hmem hnew
    · exact List.rel_append hkept (.cons hself .nil)
    · intro h hmem
      rw [List.mem_append, not_or, List.mem_singleton] at hmem
      rw [hother h hmem.2, hrest h hmem.1]

/-- What the builder makes in a scene that was cleared of namesakes. -/
theorem holds_made (hsim : sim.Lawful) (shapes : List (Shape R)) (s : sim.State)
    (hcleared : ∀ h o, sim.objects s h = some o → ∀ shape ∈ shapes, o.name ≠ shape.name) :
    ∃ handles, sim.Holds (shapes.foldl sim.makeShape s) handles shapes := by
  obtain ⟨handles, hnodup, hobjects, hrest⟩ := fold_makeShape hsim shapes s
  refine ⟨handles, hnodup, hobjects, fun h o ho hmem => ?_⟩
  rw [hrest h hmem] at ho
  exact hcleared h o ho

/-- A simulator whose handles count its objects. -/
def listed : Simulator R where
  State := List (Shape R)
  Handle := Nat
  objects s h := s[h]?
  createPrimitiveShape s size := (s ++ [⟨size, (0, 0, 0), (0, 0, 0), "", true, true⟩], s.length)
  set s h x := s.modify h (Setting.apply · x)
  getObject s path := s.findIdx? fun o => "/" ++ o.name == path
  getObjectPosition s h := s[h]?.map (·.center)
  getObjectBbox s h := s[h]?.map fun o =>
    ((-(o.size.1 / 2.0), -(o.size.2.1 / 2.0), -(o.size.2.2 / 2.0)),
      (o.size.1 / 2.0, o.size.2.1 / 2.0, o.size.2.2 / 2.0))

theorem getElem?_concat_ne (s : List (Shape R)) (o : Shape R) {h : Nat} (hne : h ≠ s.length) :
    (s ++ [o])[h]? = s[h]? := by
  obtain hlt | hlong := Nat.lt_or_gt_of_ne hne
  · exact List.getElem?_append_left hlt
  · rw [List.getElem?_eq_none (by simp; omega), List.getElem?_eq_none hlong.le]

theorem findIdx?_alone {s : List (Shape R)} {h : Nat} {o : Shape R} (ho : s[h]? = some o)
    (halone : ∀ h' o', s[h']? = some o' → o'.name = o.name → h' = h) :
    (s.findIdx? fun x => "/" ++ x.name == "/" ++ o.name) = some h := by
  obtain ⟨hlt, rfl⟩ := List.getElem?_eq_some_iff.1 ho
  refine List.findIdx?_eq_some_iff_getElem.2 ⟨hlt, beq_self_eq_true _, fun j hj heq => ?_⟩
  have hname := (String.append_right_inj _).1 (beq_iff_eq.1 heq)
  exact hj.ne (halone j _ (List.getElem?_eq_getElem (hj.trans hlt)) hname)

theorem listed_lawful : (listed : Simulator R).Lawful where
  create_fresh _ _ := List.getElem?_eq_none le_rfl
  create_self _ _ := ⟨_, rfl, List.getElem?_concat_length⟩
  create_other _ _ _ hne := getElem?_concat_ne _ _ hne
  set_self _ h x := List.getElem?_modify_eq (Setting.apply · x) h _
  set_other _ _ x _ hne := List.getElem?_modify_ne (Setting.apply · x) _ (Ne.symm hne)
  getObject _ _ _ ho halone := findIdx?_alone ho halone
  getObjectPosition _ _ _ ho := congrArg (Option.map Shape.center) ho
  getObjectBbox _ _ _ ho := congrArg (Option.map _) ho

end Simulator

end EscapeRoom
