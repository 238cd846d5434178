import Mathlib.Data.List.Basic

namespace EscapeRoom
set_option autoImplicit true

/-- The terminal statuses of `action_msgs/GoalStatus` that Nav2 reports. -/
inductive GoalStatus where
  | succeeded
  | aborted
  | canceled
deriving DecidableEq, Repr

/-- The fields of `NavClient`; a goal handle is the number of its goal in sending order. -/
structure NavClient where
  active : Bool := false
  handle : Option Nat := none
  succeeded : Bool := false
  canceled : Bool := false
deriving DecidableEq, Repr

def NavClient.send (c : NavClient) : NavClient :=
  { c with active := true, succeeded := false, canceled := false }

def NavClient.cancel (c : NavClient) : NavClient where
  active := false
  handle := none
  succeeded := false
  canceled := if c.handle.isSome then true else c.canceled

def NavClient.onGoalAccepted (c : NavClient) (handle : Nat) (accepted : Bool) : NavClient :=
  if !accepted then { c with active := false } else { c with handle := some handle }

def NavClient.onNavResult (_ : NavClient) (status : GoalStatus) : NavClient where
  active := false
  handle := none
  succeeded := decide (status = .succeeded)
  canceled := false

/-- Whether `_on_nav_result` warns: a cancel that was asked for is not a failure. -/
def NavClient.warnsOn (c : NavClient) (status : GoalStatus) : Bool :=
  decide (status ≠ .succeeded) && !(c.canceled && decide (status = .canceled))

/-- Which callbacks of an ended goal have run on the client's side. -/
inductive Told where
  | nothing
  | response
  | result
deriving DecidableEq, Repr

/-- How far a goal has come at the server, and what the client's callbacks know of it: a rejected
or running goal has no result to tell, and a goal under decision has nothing to tell at all. -/
inductive Progress where
  | pending
  | rejected (told : Bool)
  | executing (told : Bool)
  | ended (status : GoalStatus) (told : Told)
deriving DecidableEq, Repr

/-- One goal on its way through the action server. The last two fields are history: whether
`cancel_goal_async` was called on its handle, and whether any `cancel` call followed its `send`. -/
structure Goal (γ : Type) where
  request : γ
  progress : Progress := .pending
  cancelRequested : Bool := false
  cancelCalled : Bool := false
deriving DecidableEq, Repr

/-- The response on its way to the client, with its `accepted` flag. -/
def Progress.responseDue : Progress → Option Bool
  | .rejected false => some false
  | .executing false => some true
  | .ended _ .nothing => some true
  | _ => none

/-- The result on its way to the client; `get_result_async` is only called by the response
callback of an accepted goal. -/
def Progress.resultDue : Progress → Option GoalStatus
  | .ended status .response => some status
  | _ => none

def Progress.hearResponse : Progress → Progress
  | .rejected _ => .rejected true
  | .executing _ => .executing true
  | .ended status .nothing => .ended status .response
  | p => p

def Progress.hearResult : Progress → Progress
  | .ended status _ => .ended status .result
  | p => p

def Progress.accept : Progress → Progress
  | .pending => .executing false
  | p => p

def Progress.reject : Progress → Progress
  | .pending => .rejected false
  | p => p

def Progress.finish (status : GoalStatus) : Progress → Progress
  | .executing told => .ended status (if told then .response else .nothing)
  | p => p

/-- The rejection or the result of the goal has reached the client. -/
def Progress.closed : Progress → Bool
  | .rejected true => true
  | .ended _ .result => true
  | _ => false

def Progress.reportedStatus : Progress → Option GoalStatus
  | .ended status .result => some status
  | _ => none

/-- The server has neither rejected nor ended the goal. -/
def Progress.live : Progress → Bool
  | .pending | .executing _ => true
  | _ => false

/-- Not rejected, not ended at the server, and no cancel request on its way for it. -/
def Goal.outstanding (g : Goal γ) : Bool := g.progress.live && !g.cancelRequested

def Goal.advance (f : Progress → Progress) (g : Goal γ) : Goal γ :=
  { g with progress := f g.progress }

theorem Progress.eq_of_accepted {p : Progress} (h : p.responseDue = some true) :
    p = .executing false ∨ ∃ status, p = .ended status .nothing := by
  cases p with
  | executing told =>
    cases told with
    | false => exact .inl rfl
    | true => cases h
  | ended status told =>
    cases told with
    | nothing => exact .inr ⟨status, rfl⟩
    | _ => cases h
  | rejected told => cases told <;> cases h
  | pending => cases h

theorem Progress.eq_of_rejected {p : Progress} (h : p.responseDue = some false) :
    p = .rejected false := by
  cases p with
  | rejected told =>
    cases told with
    | false => rfl
    | true => cases h
  | executing told => cases told <;> cases h
  | ended status told => cases told <;> cases h
  | pending => cases h

theorem Progress.eq_of_result {p : Progress} (h : p.resultDue = some status) :
    p = .ended status .response := by
  cases p with
  | ended status' told =>
    cases told with
    | response =>
      cases h
      rfl
    | _ => cases h
  | _ => cases h

/-- The client together with every goal it ever sent, oldest first. -/
structure NavLink (γ : Type) where
  client : NavClient := {}
  goals : List (Goal γ) := []
deriving DecidableEq, Repr

/-- What the action server does, and the two callbacks it causes on the client. -/
inductive NavEvent where
  | accept (id : Nat)
  | reject (id : Nat)
  | finish (id : Nat) (status : GoalStatus)
  | response (id : Nat)
  | result (id : Nat)
deriving DecidableEq, Repr

/-- `send` returns without doing anything while the server is not there. -/
def NavLink.send (serverReady : Bool) (request : γ) (l : NavLink γ) : NavLink γ :=
  if serverReady then
    { client := l.client.send, goals := l.goals ++ [{ request := request }] }
  else l

def NavLink.cancel (l : NavLink γ) : NavLink γ :=
  let goals := l.goals.map fun g => { g with cancelCalled := true }
  { client := l.client.cancel
    goals := match l.client.handle with
      | some id => goals.modify id fun g => { g with cancelRequested := true }
      | none => goals }

/-- The response callback of goal `id`. -/
def NavLink.deliverResponse (id : Nat) (l : NavLink γ) : NavLink γ :=
  match l.goals[id]?.bind (·.progress.responseDue) with
  | some accepted =>
    { client := l.client.onGoalAccepted id accepted
      goals := l.goals.modify id (Goal.advance .hearResponse) }
  | none => l

/-- The result callback of goal `id`. -/
def NavLink.deliverResult (id : Nat) (l : NavLink γ) : NavLink γ :=
  match l.goals[id]?.bind (·.progress.resultDue) with
  | some status =>
    { client := l.client.onNavResult status
      goals := l.goals.modify id (Goal.advance .hearResult) }
  | none => l

/-- One event of the action protocol; an event that is not due changes nothing. -/
def NavLink.step (l : NavLink γ) : NavEvent → NavLink γ
  | .accept id => { l with goals := l.goals.modify id (Goal.advance .accept) }
  | .reject id => { l with goals := l.goals.modify id (Goal.advance .reject) }
  | .finish id status => { l with goals := l.goals.modify id (Goal.advance (.finish status)) }
  | .response id => l.deliverResponse id
  | .result id => l.deliverResult id

end EscapeRoom
