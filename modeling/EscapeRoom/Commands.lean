import Mathlib.Algebra.Order.BigOperators.Group.List
import EscapeRoom.Library.Pacing
import EscapeRoom.Library.Runs
import EscapeRoom.Server

namespace EscapeRoom.Sim
set_option autoImplicit true

open Rounding

/-- The rounding of a `float`, but for its largest and its smallest numbers. -/
def f32 (x : ℚ) : ℚ := toDigits 24 x

theorem f32_within : Within (1 / 2 ^ 24) f32 := by
  intro x
  have h := toDigits_within 24 x
  norm_num at h ⊢
  exact h

theorem f32_nonneg {x : ℚ} (h : 0 ≤ x) : 0 ≤ f32 x := by
  have hround := f32_within x
  rw [abs_of_nonneg h] at hround
  linarith [(abs_le.1 hround).1]

theorem three_lt_f32 {x : ℚ} (h : 3 + 1 / 2 ^ 22 < x) : 3 < f32 x := by
  have hpos : 0 ≤ x := by linarith
  have hround := f32_within x
  rw [abs_of_nonneg hpos] at hround
  linarith [(abs_le.1 hround).1]

theorem f32_le_three {x : ℚ} (h : x ≤ 3 - 1 / 2 ^ 22) : f32 x ≤ 3 := by
  have hround := f32_within x
  obtain hneg | hpos := le_total x 0
  · rw [abs_of_nonpos hneg] at hround
    linarith [(abs_le.1 hround).2]
  · rw [abs_of_nonneg hpos] at hround
    linarith [(abs_le.1 hround).2]

/-- The subjects that `Commands` registers, by their uids. -/
def subjectUids : List (BitVec 64) :=
  [0x0002000949a4009c, 0x00020009c14cb7c5, 0x000200096b986306, 0x00020009a7985b8d,
    0x00020009eeb7cece, 0x000200094a2c6d55, 0x000200094fcb1146, 0x000200096862229f,
    0x0002000988223568, 0x0002000926abd64d, 0x00020009124d156a, 0x000200095f0059e7,
    0x0002000986e4c05a, 0x00020009f79b3c97, 0x00020009eebb9ffc]

structure AddSubMsg where
  nodeId : Byte
  msgId : Byte
  subMode : Byte
  subUidList : List (BitVec 64)
  subFreq : BitVec 16

def AddSubMsg.key (r : AddSubMsg) : Nat := keyFrom r.nodeId r.msgId

/-- A publisher; without a deadline it waits forever. -/
structure Topic where
  request : AddSubMsg
  subject : BitVec 64
  active : Bool
  deadline : Option ℚ

namespace Topic

def start (t : Topic) : Topic := { t with active := true, deadline := some 0 }

def freq (t : Topic) : Nat := t.request.subFreq.toNat

/-- A `float` loop that has not ended after so many turns never does. -/
def turns : Nat := 2 ^ 32

def interval (t : Topic) : ℚ := f32 (1 / t.freq)

/-- The number of messages a step publishes. A frequency of zero makes for an infinite deadline. -/
def doStep (timeStep : ℚ) (t : Topic) : Nat × Topic :=
  match t.active, t.deadline with
  | true, some deadline =>
    let deadline := f32 (deadline - timeStep)
    if t.freq = 0 then
      if deadline ≤ 0 then (1, { t with deadline := none })
      else (0, { t with deadline := some deadline })
    else
      let due := Pacing.catchUp f32 t.interval turns deadline
      (due.1, { t with deadline := some due.2 })
  | _, _ => (0, t)

end Topic

/-- The publishers by key, the messages each key has published, and the connection. -/
structure Commands where
  publishers : Nat → Option Topic
  pushed : Nat → Nat
  lastHeartbeat : ℚ
  time : ℚ
  connected : Bool

inductive Message where
  | addSubMsg (request : AddSubMsg)
  | delMsg (nodeId msgId : Byte)
  | sdkHeartBeat
  | setSdkMode (enable : Bool)
  | subscribeAddNode
  | subNodeReset
  | doStep (timeStep : ℚ)

namespace Commands

/-- The time of the last heartbeat is not set before the first connection. -/
def new : Commands where
  publishers _ := none
  pushed _ := 0
  lastHeartbeat := 0
  time := 0
  connected := false

/-- `emplace` leaves a publisher that the key has already, and `start` then restarts it. -/
def emplace (request : AddSubMsg) (uid : BitVec 64) (c : Commands) : Commands :=
  let topic := (c.publishers request.key).getD ⟨request, uid, false, none⟩
  { c with publishers := Function.update c.publishers request.key (some topic.start) }

def createPublisher (request : AddSubMsg) (c : Commands) (uid : BitVec 64) : Commands :=
  if uid ∈ subjectUids then c.emplace request uid else c

def stopPublisher (nodeId msgId : Byte) (c : Commands) : Commands :=
  { c with publishers := Function.update c.publishers (keyFrom nodeId msgId) none }

def unconnect (c : Commands) : Commands :=
  { c with publishers := fun _ => none, connected := false }

def doStep (timeStep : ℚ) (c : Commands) : Commands :=
  let c := { c with
    publishers := fun key => (c.publishers key).map fun topic => (topic.doStep timeStep).2
    pushed := fun key => c.pushed key +
      ((c.publishers key).map fun topic => (topic.doStep timeStep).1).getD 0
    time := f32 (c.time + timeStep) }
  if c.connected && decide (3 < f32 (c.time - c.lastHeartbeat)) then c.unconnect else c

def step (c : Commands) : Message → Commands
  | .addSubMsg request => request.subUidList.foldl (createPublisher request) c
  | .delMsg nodeId msgId => c.stopPublisher nodeId msgId
  | .sdkHeartBeat => { c with lastHeartbeat := c.time }
  | .setSdkMode enable => if enable then c else { c with publishers := fun _ => none }
  | .subscribeAddNode => { c with lastHeartbeat := c.time, connected := true }
  | .subNodeReset => c.unconnect
  | .doStep timeStep => c.doStep timeStep

def run (messages : List Message) : Commands := Runs.run step new messages

end Commands

/-- The subject that a subscription gets: the first one that is known. -/
def AddSubMsg.subject? (r : AddSubMsg) : Option (BitVec 64) :=
  r.subUidList.find? fun uid => decide (uid ∈ subjectUids)

namespace Message

/-- The message subscribes to a known subject under the key. -/
def Subscribes (key : Nat) : Message → Prop
  | .addSubMsg request => request.key = key ∧ request.subject?.isSome = true
  | _ => False

def timeStep : Message → ℚ
  | .doStep timeStep => timeStep
  | _ => 0

def isStep : Message → Bool
  | .doStep _ => true
  | _ => false

end Message

def elapsed (messages : List Message) : ℚ := (messages.map Message.timeStep).sum

theorem elapsed_concat (messages : List Message) (m : Message) :
    elapsed (messages ++ [m]) = elapsed messages + m.timeStep := by
  simp [elapsed]

def steps (messages : List Message) : Nat := messages.countP Message.isStep

theorem steps_concat (messages : List Message) (m : Message) :
    steps (messages ++ [m]) = steps messages + if m.isStep then 1 else 0 := by
  rw [steps, steps, List.countP_append, List.countP_singleton]

/-- How far a publisher may be ahead or behind: every step and every message of its may cost it one
rounding. -/
def lag (limit : ℚ) (freq count : Nat) : ℚ := 1 / 2 ^ 23 * (limit + 2 / freq) * count

/-- The number of messages that a publisher of the given frequency has published when it is `time`
since its start: the latest one was due by then, and the next one was not. -/
def Due (freq : Nat) (limit time : ℚ) (steps n : Nat) : Prop :=
  if steps = 0 then n = 0
  else if freq = 0 then n = 1
  else (n - 1) / freq - lag limit freq (steps + n + 1) ≤ time ∧
    time < n / freq + lag limit freq (steps + n + 1)

namespace Topic

/-- A publisher as it stands some time after its start, with what it has published since. -/
inductive Paced (t : Topic) (limit time : ℚ) : Nat → Nat → Prop where
  | started (ha : t.active = true) (hd : t.deadline = some 0) (ht : time = 0) :
      Paced t limit time 0 0
  | paced {steps n : Nat} {deadline : ℚ} (ha : t.active = true) (hf : t.freq ≠ 0)
      (hs : steps ≠ 0) (hd : t.deadline = some deadline)
      (hat : Pacing.At f32 (1 / 2 ^ 24) t.interval (2 * limit) time steps n deadline)
      (hpos : 0 < deadline) : Paced t limit time steps n
  | once {steps : Nat} (ha : t.active = true) (hf : t.freq = 0) (hs : steps ≠ 0)
      (hd : t.deadline = none) : Paced t limit time steps 1

variable {t : Topic} {limit time timeStep : ℚ} {steps n : Nat}

theorem interval_near (t : Topic) : |t.interval - 1 / t.freq| ≤ 1 / 2 ^ 24 * (1 / t.freq) := by
  have h := f32_within (1 / t.freq)
  rwa [abs_of_nonneg (show (0 : ℚ) ≤ 1 / t.freq by positivity)] at h

theorem countable (hf : t.freq ≠ 0) (hlimit : limit ≤ 60) :
    Pacing.Countable (1 / 2 ^ 24) t.interval (2 * limit) f32 := by
  have hnear := abs_le.1 t.interval_near
  have hfreq : (t.freq : ℚ) ≤ 65535 := by exact_mod_cast Nat.le_of_lt_succ t.request.subFreq.isLt
  have hpos : (0 : ℚ) < t.freq := by exact_mod_cast Nat.pos_of_ne_zero hf
  have hlow : (1 : ℚ) / 65535 ≤ 1 / t.freq := one_div_le_one_div_of_le hpos hfreq
  exact ⟨f32_within, fun x y hx h => toDigits_le (by norm_num) hx h, by norm_num, by norm_num,
    by linarith, by linarith⟩

theorem Paced.count (h : t.Paced limit time steps n) (hpos : 0 ≤ limit) (hlimit : limit ≤ 60) :
    Due t.freq limit time steps n := by
  cases h with
  | started => rw [Due, if_pos rfl]
  | paced ha hf hs hd hat hdead =>
    rw [Due, if_neg hs, if_neg hf]
    obtain ⟨hlow, hhigh⟩ := hat.count (countable hf hlimit) (by linarith) hdead
    have hi := (countable hf hlimit).interval
    obtain ⟨hless, hmore⟩ := abs_le.1 t.interval_near
    have hcount : (0 : ℚ) ≤ steps + n + 1 := by positivity
    have hn : (0 : ℚ) ≤ n := n.cast_nonneg
    have hgap : (0 : ℚ) ≤ 1 / t.freq := by positivity
    have htimes : ((n : ℚ) + 1) * (1 / t.freq) ≤ (steps + n + 1) * (1 / t.freq) :=
      mul_le_mul_of_nonneg_right (by linarith [(steps.cast_nonneg : (0 : ℚ) ≤ steps)]) hgap
    have herr : (steps + n + 1) * t.interval ≤ (steps + n + 1) * (3 / 2 * (1 / t.freq)) :=
      mul_le_mul_of_nonneg_left (by linarith) hcount
    have hleast : n * ((1 - 1 / 2 ^ 24) * (1 / t.freq)) ≤ n * t.interval :=
      mul_le_mul_of_nonneg_left (by linarith) hn
    have hmost : n * t.interval ≤ n * ((1 + 1 / 2 ^ 24) * (1 / t.freq)) :=
      mul_le_mul_of_nonneg_left (by linarith) hn
    rw [lag, div_eq_mul_one_div _ (t.freq : ℚ), div_eq_mul_one_div (n : ℚ),
      div_eq_mul_one_div 2 (t.freq : ℚ)]
    push_cast
    constructor
    · linarith
    · linarith
  | once ha hf hs hd => rw [Due, if_neg hs, if_pos hf]

theorem paced_tick {deadline : ℚ} (ha : t.active = true) (hf : t.freq ≠ 0)
    (hd : t.deadline = some deadline)
    (hat : Pacing.At f32 (1 / 2 ^ 24) t.interval (2 * limit) time steps n deadline)
    (hpos : 0 ≤ timeStep) (hstep : timeStep ≤ limit) (hlimit : limit ≤ 60) :
    (t.doStep timeStep).2.Paced limit (time + timeStep) (steps + 1)
      (n + (t.doStep timeStep).1) := by
  have hcount := countable hf hlimit
  have hfuel : 2 * limit < turns * (t.interval / 2) := by
    have hcounts := hcount.counts
    rw [turns]
    norm_num at hcounts ⊢
    linarith [hcount.interval]
  obtain ⟨hat', hdead⟩ := hat.step hcount hpos (by linarith) hfuel
  have hdo : t.doStep timeStep =
      (let due := Pacing.catchUp f32 t.interval turns (f32 (deadline - timeStep))
      (due.1, { t with deadline := some due.2 })) := by
    simp only [doStep, ha, hd]
    rw [if_neg hf]
  rw [hdo]
  exact .paced ha hf (Nat.succ_ne_zero _) rfl hat' hdead

theorem Paced.step (h : t.Paced limit time steps n) (hpos : 0 ≤ timeStep)
    (hstep : timeStep ≤ limit) (hlimit : limit ≤ 60) :
    (t.doStep timeStep).2.Paced limit (time + timeStep) (steps + 1)
      (n + (t.doStep timeStep).1) := by
  cases h with
  | started ha hd ht =>
    by_cases hf : t.freq = 0
    · have hround := f32_within (0 - timeStep)
      have hdue : f32 (0 - timeStep) ≤ 0 := by
        rw [zero_sub, abs_neg, abs_of_nonneg hpos] at hround
        have hle := (abs_le.1 hround).2
        rw [zero_sub]
        linarith
      have hdo : t.doStep timeStep = (1, { t with deadline := none }) := by
        simp only [doStep, ha, hd]
        rw [if_pos hf, if_pos hdue]
      rw [hdo]
      exact .once ha hf (Nat.succ_ne_zero _) rfl
    · have hat : Pacing.At f32 (1 / 2 ^ 24) t.interval (2 * limit) time 0 0 0 := by
        rw [ht]
        exact Pacing.at_start (countable hf hlimit)
      exact paced_tick ha hf hd hat hpos hstep hlimit
  | paced ha hf hs hd hat hdead => exact paced_tick ha hf hd hat hpos hstep hlimit
  | once ha hf hs hd =>
    have hdo : t.doStep timeStep = (0, t) := by
      simp only [doStep, ha, hd]
    rw [hdo]
    exact .once ha hf (Nat.succ_ne_zero _) hd

end Topic

namespace Commands

variable {c : Commands} {key : Nat} {t : Topic} {m : Message} {limit : ℚ}

theorem emplace_publishers (request : AddSubMsg) (uid : BitVec 64) (c : Commands) :
    (c.emplace request uid).publishers = Function.update c.publishers request.key
      (some ((c.publishers request.key).getD ⟨request, uid, false, none⟩).start) := rfl

theorem stopPublisher_publishers (nodeId msgId : Byte) (c : Commands) :
    (c.stopPublisher nodeId msgId).publishers =
      Function.update c.publishers (keyFrom nodeId msgId) none := rfl

theorem emplace_emplace (request : AddSubMsg) (uid uid' : BitVec 64) (c : Commands) :
    (c.emplace request uid).emplace request uid' = c.emplace request uid := by
  simp only [emplace, Function.update_self, Option.getD_some, Function.update_idem]
  rfl

theorem createPublisher_all (request : AddSubMsg) (uids : List (BitVec 64)) (c : Commands) :
    uids.foldl (createPublisher request) c =
      match uids.find? fun uid => decide (uid ∈ subjectUids) with
      | none => c
      | some uid => c.emplace request uid := by
  induction uids generalizing c with
  | nil => rfl
  | cons uid uids ih =>
    rw [List.foldl_cons, ih, List.find?_cons]
    by_cases huid : uid ∈ subjectUids
    · rw [createPublisher, if_pos huid, decide_eq_true huid]
      cases uids.find? fun uid => decide (uid ∈ subjectUids) with
      | none => rfl
      | some uid' => exact c.emplace_emplace request uid uid'
    · rw [createPublisher, if_neg huid, decide_eq_false huid]

theorem step_addSubMsg (request : AddSubMsg) (c : Commands) :
    c.step (.addSubMsg request) =
      match request.subject? with
      | none => c
      | some uid => c.emplace request uid :=
  createPublisher_all request request.subUidList c

/-- What a message does to the publisher of a key. -/
inductive Seen (key : Nat) (c : Commands) (m : Message) (c' : Commands) : Prop where
  | subscribed (hm : m.Subscribes key) {t : Topic} (ht : c'.publishers key = some t.start)
      (ho : ∀ t', c.publishers key = some t' → t = t')
      (hn : c.publishers key = none → m = .addSubMsg t.request ∧
        t.request.subject? = some t.subject) (hp : c'.pushed key = c.pushed key)
  | gone (hm : ¬ m.Subscribes key) (hn : c'.publishers key = none)
  | left (hm : ¬ m.Subscribes key) (hs : m.isStep = false) (ht : m.timeStep = 0)
      (hk : c'.publishers key = c.publishers key) (hp : c'.pushed key = c.pushed key)
  | stepped (dt : ℚ) (hm : m = .doStep dt)
      (hk : c'.publishers key = (c.publishers key).map fun t => (t.doStep dt).2)
      (hp : c'.pushed key = c.pushed key + ((c.publishers key).map fun t => (t.doStep dt).1).getD 0)

theorem step_seen (key : Nat) (c : Commands) (m : Message) : Seen key c m (c.step m) := by
  cases m with
  | addSubMsg request =>
    rw [step_addSubMsg]
    cases huid : request.subject? with
    | none => exact .left (fun h => by simp [Message.Subscribes, huid] at h) rfl rfl rfl rfl
    | some uid =>
      dsimp only
      by_cases hkey : request.key = key
      · refine .subscribed ⟨hkey, by rw [huid]; rfl⟩ (t := (c.publishers key).getD
          ⟨request, uid, false, none⟩) ?_ ?_ ?_ rfl
        · rw [emplace_publishers, hkey, Function.update_self]
        · intro t' ht'
          rw [ht', Option.getD_some]
        · intro hnone
          rw [hnone, Option.getD_none]
          exact ⟨rfl, huid⟩
      · refine .left (fun h => hkey h.1) rfl rfl ?_ rfl
        rw [emplace_publishers, Function.update_of_ne (Ne.symm hkey)]
  | delMsg nodeId msgId =>
    by_cases hkey : keyFrom nodeId msgId = key
    · refine .gone id ?_
      rw [step, stopPublisher_publishers, hkey, Function.update_self]
    · refine .left id rfl rfl ?_ rfl
      rw [step, stopPublisher_publishers, Function.update_of_ne (Ne.symm hkey)]
  | sdkHeartBeat => exact .left id rfl rfl rfl rfl
  | setSdkMode enable =>
    cases enable with
    | false => exact .gone id rfl
    | true => exact .left id rfl rfl rfl rfl
  | subscribeAddNode => exact .left id rfl rfl rfl rfl
  | subNodeReset => exact .gone id rfl
  | doStep dt =>
    rw [step, doStep]
    dsimp only
    split
    · exact .gone id rfl
    · exact .stepped dt rfl rfl rfl

/-- The last subscription of a key in a run, and what it has published since. -/
structure Since (limit : ℚ) (key : Nat) (messages : List Message) (t : Topic) : Prop where
  split : ∃ before request after, messages = before ++ .addSubMsg request :: after ∧
    Message.Subscribes key (.addSubMsg request) ∧ (∀ m ∈ after, ¬ m.Subscribes key) ∧
    ∃ n, t.Paced limit (elapsed after) (steps after) n ∧
      (run messages).pushed key = (run (before ++ [.addSubMsg request])).pushed key + n

theorem run_concat (messages : List Message) (m : Message) :
    run (messages ++ [m]) = (run messages).step m := Runs.run_concat _ _ _ _

theorem Since.concat {messages : List Message} (h : Since limit key messages t)
    (hm : ¬ m.Subscribes key) {t' : Topic} {k : Nat}
    (hp : (run (messages ++ [m])).pushed key = (run messages).pushed key + k)
    (ht : ∀ time steps n, t.Paced limit time steps n →
      t'.Paced limit (time + m.timeStep) (steps + if m.isStep then 1 else 0) (n + k)) :
    Since limit key (messages ++ [m]) t' := by
  obtain ⟨before, request, after, hsplit, hsub, hafter, n, hpaced, hn⟩ := h.split
  refine ⟨before, request, after ++ [m], ?_, hsub, ?_, n + k, ?_, ?_⟩
  · rw [hsplit, List.append_assoc, List.cons_append]
  · intro m' hm'
    obtain hold | hnew := List.mem_append.1 hm'
    · exact hafter m' hold
    · rw [List.mem_singleton.1 hnew]
      exact hm
  · have hlast := ht _ _ _ hpaced
    rw [elapsed_concat, steps_concat]
    exact hlast
  · rw [hp, hn, Nat.add_assoc]

theorem since_run {messages : List Message} (hlimit : limit ≤ 60)
    (hpos : ∀ m ∈ messages, 0 ≤ m.timeStep ∧ m.timeStep ≤ limit)
    (ht : (run messages).publishers key = some t) : Since limit key messages t := by
  induction messages using List.reverseRecOn generalizing t with
  | nil => cases ht
  | append_singleton messages m ih =>
    rw [List.forall_mem_append, List.forall_mem_singleton] at hpos
    have hseen := step_seen key (run messages) m
    rw [← run_concat] at hseen
    cases hseen with
    | subscribed hm ht' ho hn hp =>
      cases m with
      | addSubMsg request =>
        rw [ht] at ht'
        cases ht'
        refine ⟨messages, request, [], rfl, hm, by simp, 0,
          .started rfl rfl rfl, rfl⟩
      | _ => exact absurd hm id
    | gone hm hn => rw [ht] at hn; cases hn
    | left hm hs htime hk hp =>
      rw [ht] at hk
      refine (ih hpos.1 hk.symm).concat (k := 0) hm hp fun time steps n h => ?_
      rw [htime, hs, add_zero, if_neg Bool.false_ne_true, add_zero]
      exact h
    | stepped dt hm hk hp =>
      subst hm
      rw [ht] at hk
      cases hold : (run messages).publishers key with
      | none => rw [hold] at hk; cases hk
      | some t₀ =>
        rw [hold] at hk hp
        cases hk
        refine (ih hpos.1 hold).concat id hp fun time steps n h => ?_
        rw [Message.isStep, if_pos rfl]
        exact h.step hpos.2.1 hpos.2.2 hlimit

/-- A publisher that is there at the end of a run has published on time since its last
subscription, whatever other messages came between. -/
theorem pushes_paced {messages : List Message} (hlimit : 0 ≤ limit ∧ limit ≤ 60)
    (hpos : ∀ m ∈ messages, 0 ≤ m.timeStep ∧ m.timeStep ≤ limit)
    (ht : (run messages).publishers key = some t) :
    ∃ before request after n, messages = before ++ .addSubMsg request :: after ∧
      Message.Subscribes key (.addSubMsg request) ∧ (∀ m ∈ after, ¬ m.Subscribes key) ∧
      (run messages).pushed key = (run (before ++ [.addSubMsg request])).pushed key + n ∧
      Due t.freq limit (elapsed after) (steps after) n := by
  obtain ⟨before, request, after, hsplit, hsub, hafter, n, hpaced, hn⟩ :=
    (since_run hlimit.2 hpos ht).split
  exact ⟨before, request, after, n, hsplit, hsub, hafter, hn, hpaced.count hlimit.1 hlimit.2⟩

/-- A subscription to the velocity. -/
def velocitySub : AddSubMsg := ⟨2, 1, 0, [0x0002000949a4009c], 5⟩

theorem pushes_paced_velocity :
    ∃ before request after n, [.addSubMsg velocitySub, .doStep (1 / 20), .doStep (1 / 20)] =
        before ++ .addSubMsg request :: after ∧
      Message.Subscribes velocitySub.key (.addSubMsg request) ∧
      (∀ m ∈ after, ¬ m.Subscribes velocitySub.key) ∧
      (run [.addSubMsg velocitySub, .doStep (1 / 20), .doStep (1 / 20)]).pushed velocitySub.key =
        (run (before ++ [.addSubMsg request])).pushed velocitySub.key + n ∧
      Due 5 1 (elapsed after) (steps after) n :=
  pushes_paced (by norm_num) (by norm_num [Message.timeStep])
    (t := (((Topic.mk velocitySub 0x0002000949a4009c true (some 0)).doStep (1 / 20)).2.doStep
      (1 / 20)).2) rfl

theorem doStep_request (dt : ℚ) (t : Topic) : (t.doStep dt).2.request = t.request ∧
    (t.doStep dt).2.subject = t.subject := by
  rw [Topic.doStep]
  split
  · dsimp only
    split
    · split
      · exact ⟨rfl, rfl⟩
      · exact ⟨rfl, rfl⟩
    · exact ⟨rfl, rfl⟩
  · exact ⟨rfl, rfl⟩

/-- The subscription that a publisher goes back to, from which on it has always been there. -/
structure Founded (key : Nat) (messages : List Message) (t : Topic) : Prop where
  split : ∃ before after, messages = before ++ .addSubMsg t.request :: after ∧
    (run before).publishers key = none ∧ t.request.subject? = some t.subject ∧
    ∀ pre, pre <+: after →
      ((run (before ++ .addSubMsg t.request :: pre)).publishers key).isSome = true

theorem Founded.concat {messages : List Message} (h : Founded key messages t) (m : Message)
    {t' : Topic} (ht : t'.request = t.request ∧ t'.subject = t.subject)
    (hm : (run (messages ++ [m])).publishers key = some t') : Founded key (messages ++ [m]) t' := by
  obtain ⟨before, after, hsplit, hnone, hsubject, hpre⟩ := h.split
  rw [← ht.1, ← ht.2] at hsubject
  rw [← ht.1] at hsplit hpre
  have happend : messages ++ [m] = before ++ .addSubMsg t'.request :: (after ++ [m]) := by
    rw [hsplit, List.append_assoc, List.cons_append]
  refine ⟨before, after ++ [m], happend, hnone, hsubject, fun pre hp => ?_⟩
  obtain rfl | hp := List.prefix_concat_iff.1 hp
  · rw [← happend, hm]
    rfl
  · exact hpre pre hp

/-- A publisher keeps the subject and the frequency of the first subscription since its key was
free; to subscribe anew changes neither. -/
theorem first_subscription_rules {messages : List Message}
    (ht : (run messages).publishers key = some t) :
    ∃ before after, messages = before ++ .addSubMsg t.request :: after ∧
      (run before).publishers key = none ∧ t.request.subject? = some t.subject ∧
      ∀ pre, pre <+: after →
        ((run (before ++ .addSubMsg t.request :: pre)).publishers key).isSome = true := by
  suffices h : Founded key messages t from h.split
  induction messages using List.reverseRecOn generalizing t with
  | nil => cases ht
  | append_singleton messages m ih =>
    have hseen := step_seen key (run messages) m
    rw [← run_concat] at hseen
    cases hseen with
    | subscribed hm ht' ho hn hp =>
      have hstart := ht
      rw [ht'] at hstart
      cases hstart
      cases hold : (run messages).publishers key with
      | none =>
        obtain ⟨rfl, hsubject⟩ := hn hold
        refine ⟨messages, [], rfl, hold, hsubject, fun pre hp => ?_⟩
        rw [List.prefix_nil.1 hp]
        exact Option.isSome_iff_exists.2 ⟨_, ht⟩
      | some t₀ =>
        obtain rfl := ho t₀ hold
        exact (ih hold).concat m ⟨rfl, rfl⟩ ht
    | gone hm hn => rw [ht] at hn; cases hn
    | left hm hs htime hk hp =>
      rw [ht] at hk
      exact (ih hk.symm).concat m ⟨rfl, rfl⟩ ht
    | stepped dt hm hk hp =>
      rw [ht] at hk
      cases hold : (run messages).publishers key with
      | none => rw [hold] at hk; cases hk
      | some t₀ =>
        rw [hold] at hk
        cases hk
        exact (ih hold).concat m (doStep_request dt t₀) ht

theorem first_subscription_rules_velocity :
    ∃ before after, [.addSubMsg velocitySub, .addSubMsg { velocitySub with subFreq := 50 }] =
        before ++ .addSubMsg velocitySub :: after ∧
      (run before).publishers velocitySub.key = none ∧
      velocitySub.subject? = some 0x0002000949a4009c ∧
      ∀ pre, pre <+: after →
        ((run (before ++ .addSubMsg velocitySub :: pre)).publishers velocitySub.key).isSome =
          true :=
  first_subscription_rules (t := ⟨velocitySub, 0x0002000949a4009c, true, some 0⟩) rfl

/-- The client shows that it is there. -/
def ShowsLife : Message → Prop
  | .sdkHeartBeat => True
  | .subscribeAddNode => True
  | _ => False

/-- How far the clock may be off after the messages; every step costs it one rounding. -/
def skew (start : ℚ) (messages : List Message) : ℚ :=
  drift (1 / 2 ^ 24) (steps messages) (start + elapsed messages)

/-- The clock after messages without a sign of life. -/
structure Clocked (c : Commands) (messages : List Message) (c' : Commands) : Prop where
  lastHeartbeat : c'.lastHeartbeat = c.lastHeartbeat
  time : |c'.time - (c.time + elapsed messages)| ≤ skew c.time messages

theorem doStep_clock (c : Commands) (dt : ℚ) : (c.doStep dt).time = f32 (c.time + dt) ∧
    (c.doStep dt).lastHeartbeat = c.lastHeartbeat := by
  rw [doStep]
  dsimp only
  split
  · exact ⟨rfl, rfl⟩
  · exact ⟨rfl, rfl⟩

theorem step_clock (hm : ¬ ShowsLife m) : (c.step m).lastHeartbeat = c.lastHeartbeat ∧
    (c.step m).time = if m.isStep then f32 (c.time + m.timeStep) else c.time := by
  cases m with
  | addSubMsg request =>
    rw [step_addSubMsg]
    cases request.subject? with
    | none => exact ⟨rfl, rfl⟩
    | some uid => exact ⟨rfl, rfl⟩
  | delMsg nodeId msgId => exact ⟨rfl, rfl⟩
  | sdkHeartBeat => exact absurd trivial hm
  | setSdkMode enable =>
    cases enable with
    | true => exact ⟨rfl, rfl⟩
    | false => exact ⟨rfl, rfl⟩
  | subscribeAddNode => exact absurd trivial hm
  | subNodeReset => exact ⟨rfl, rfl⟩
  | doStep dt => exact (c.doStep_clock dt).symm

theorem timeStep_of_not_isStep {m : Message} (h : ¬ m.isStep = true) : m.timeStep = 0 := by
  cases m with
  | doStep dt => exact absurd rfl h
  | _ => rfl

theorem elapsed_nonneg {messages : List Message} (hpos : ∀ m ∈ messages, 0 ≤ m.timeStep) :
    0 ≤ elapsed messages := by
  refine List.sum_nonneg fun t ht => ?_
  obtain ⟨m, hm, rfl⟩ := List.mem_map.1 ht
  exact hpos m hm

theorem clocked_run {messages : List Message} (hc : 0 ≤ c.time)
    (hpos : ∀ m ∈ messages, 0 ≤ m.timeStep) (hm : ∀ m ∈ messages, ¬ ShowsLife m) :
    Clocked c messages (Runs.run step c messages) := by
  induction messages using List.reverseRecOn with
  | nil => exact ⟨rfl, by simp [Runs.run, elapsed, steps, skew, drift]⟩
  | append_singleton messages m ih =>
    rw [List.forall_mem_append, List.forall_mem_singleton] at hpos hm
    obtain ⟨hlast, htime⟩ := ih hpos.1 hm.1
    obtain ⟨hlast', htime'⟩ := step_clock (c := Runs.run step c messages) hm.2
    rw [Runs.run_concat]
    refine ⟨hlast'.trans hlast, ?_⟩
    rw [htime', skew, elapsed_concat, steps_concat, ← add_assoc]
    split
    · exact f32_within.add_near (by norm_num) (add_nonneg hc (elapsed_nonneg hpos.1)) hpos.2 htime
    · rename_i hstep
      rw [timeStep_of_not_isStep hstep, add_zero, add_zero]
      exact htime

theorem doStep_connected (hc : c.connected = true) (dt : ℚ) :
    (3 < f32 ((c.doStep dt).time - c.lastHeartbeat) ∧ (c.doStep dt).connected = false ∧
        ∀ key, (c.doStep dt).publishers key = none) ∨
      (f32 ((c.doStep dt).time - c.lastHeartbeat) ≤ 3 ∧ (c.doStep dt).connected = true) := by
  rw [(c.doStep_clock dt).1, doStep]
  dsimp only
  rw [hc, Bool.true_and]
  obtain hlate | htime := lt_or_ge 3 (f32 (f32 (c.time + dt) - c.lastHeartbeat))
  · rw [decide_eq_true hlate, if_pos rfl]
    exact .inl ⟨hlate, rfl, fun _ => rfl⟩
  · rw [decide_eq_false htime.not_gt, if_neg Bool.false_ne_true]
    exact .inr ⟨htime, rfl⟩

theorem step_unconnected (hc : c.connected = false) (hm : ¬ ShowsLife m) :
    (c.step m).connected = false := by
  cases m with
  | addSubMsg request =>
    rw [step_addSubMsg]
    cases request.subject? with
    | none => exact hc
    | some uid => exact hc
  | delMsg nodeId msgId => exact hc
  | sdkHeartBeat => exact absurd trivial hm
  | setSdkMode enable =>
    cases enable with
    | true => exact hc
    | false => exact hc
  | subscribeAddNode => exact absurd trivial hm
  | subNodeReset => rfl
  | doStep dt =>
    rw [step, doStep]
    dsimp only
    rw [hc, Bool.false_and, if_neg Bool.false_ne_true]

/-- A message that is neither a step nor the client's reset leaves the connection as it is. -/
theorem step_connected (hc : c.connected = true) (hstep : ¬ m.isStep = true)
    (hreset : m ≠ .subNodeReset) : (c.step m).connected = true := by
  cases m with
  | addSubMsg request =>
    rw [step_addSubMsg]
    cases request.subject? with
    | none => exact hc
    | some uid => exact hc
  | delMsg nodeId msgId => exact hc
  | sdkHeartBeat => exact hc
  | setSdkMode enable =>
    cases enable with
    | true => exact hc
    | false => exact hc
  | subscribeAddNode => rfl
  | subNodeReset => exact absurd rfl hreset
  | doStep dt => exact absurd rfl hstep

/-- What a run without a sign of life comes to from a connected state. -/
inductive Fading (c : Commands) (messages : List Message) (c' : Commands) : Prop where
  | connected (hc : c'.connected = true)
      (hw : elapsed messages = 0 ∨ f32 (c'.time - c'.lastHeartbeat) ≤ 3)
  | lost (hc : c'.connected = false) (before : List Message) (hp : before <+: messages)
      (hb : (Runs.run step c before).connected = false)
      (hn : ∀ key, (Runs.run step c before).publishers key = none)

theorem fading_run {messages : List Message} (hc : c.connected = true)
    (hm : ∀ m ∈ messages, ¬ ShowsLife m) :
    Fading c messages (Runs.run step c messages) := by
  induction messages using List.reverseRecOn with
  | nil => exact .connected hc (.inl (by simp [elapsed]))
  | append_singleton messages m ih =>
    rw [List.forall_mem_append, List.forall_mem_singleton] at hm
    have hrun : Runs.run step c (messages ++ [m]) = (Runs.run step c messages).step m :=
      Runs.run_concat _ _ _ _
    cases ih hm.1 with
    | lost hc' before hp hb hn =>
      rw [hrun]
      exact .lost (step_unconnected hc' hm.2) before (hp.trans (List.prefix_append _ _)) hb hn
    | connected hc' hw =>
      by_cases hstep : m.isStep = true
      · cases m with
        | doStep dt =>
          rw [hrun]
          obtain ⟨-, hlost, hgone⟩ | ⟨htime, hstill⟩ := doStep_connected hc' dt
          · exact .lost hlost (messages ++ [.doStep dt]) List.prefix_rfl (hrun ▸ hlost)
              (hrun ▸ hgone)
          · refine .connected hstill (.inr ?_)
            rw [step, ((Runs.run step c messages).doStep_clock dt).2]
            exact htime
        | _ => cases hstep
      · by_cases hreset : m = .subNodeReset
        · subst hreset
          rw [hrun]
          refine .lost rfl (messages ++ [.subNodeReset]) List.prefix_rfl ?_ ?_
          · rw [hrun]
            rfl
          · rw [hrun]
            exact fun _ => rfl
        · rw [hrun]
          refine .connected (step_connected hc' hstep hreset) ?_
          obtain ⟨hlast, htime⟩ := step_clock (c := Runs.run step c messages) hm.2
          rw [elapsed_concat, timeStep_of_not_isStep hstep, add_zero, hlast, htime, if_neg hstep]
          exact hw

/-- While the last heartbeat is recent only the client ends a connection. -/
theorem stays_connected {messages : List Message} (hc : c.connected = true) (htime : 0 ≤ c.time)
    (hlast : c.lastHeartbeat = c.time) (hpos : ∀ m ∈ messages, 0 ≤ m.timeStep)
    (hm : ∀ m ∈ messages, ¬ ShowsLife m) (hreset : .subNodeReset ∉ messages)
    (hshort : elapsed messages + skew c.time messages ≤ 3 - 1 / 2 ^ 22) :
    (Runs.run step c messages).connected = true := by
  induction messages using List.reverseRecOn with
  | nil => exact hc
  | append_singleton messages m ih =>
    have hclock := clocked_run htime hpos hm
    rw [List.forall_mem_append, List.forall_mem_singleton] at hpos hm
    rw [List.mem_append, not_or, List.mem_singleton] at hreset
    have hless : elapsed messages + skew c.time messages ≤ 3 - 1 / 2 ^ 22 := by
      refine le_trans (add_le_add ?_ (drift_mono (by norm_num) ?_ ?_ ?_)) hshort
      · rw [elapsed_concat]
        exact le_add_of_nonneg_right hpos.2
      · rw [steps_concat]
        exact Nat.le_add_right _ _
      · exact add_nonneg htime (elapsed_nonneg hpos.1)
      · rw [elapsed_concat, ← add_assoc]
        exact le_add_of_nonneg_right hpos.2
    have hc' := ih hpos.1 hm.1 hreset.1 hless
    rw [Runs.run_concat] at ⊢ hclock
    by_cases hstep : m.isStep = true
    · cases m with
      | doStep dt =>
        obtain ⟨hlate, -⟩ | ⟨-, hstill⟩ := doStep_connected hc' dt
        · rw [step] at hclock
          have hnear := abs_le.1 hclock.time
          have hlast' := (clocked_run htime hpos.1 hm.1).lastHeartbeat
          rw [hlast', hlast] at hlate
          exact absurd hlate (f32_le_three (by linarith)).not_gt
        · exact hstill
      | _ => cases hstep
    · exact step_connected hc' hstep (Ne.symm hreset.2)

theorem time_nonneg {messages : List Message} (hpos : ∀ m ∈ messages, 0 ≤ m.timeStep) :
    0 ≤ (run messages).time := by
  induction messages using List.reverseRecOn with
  | nil => exact le_rfl
  | append_singleton messages m ih =>
    rw [List.forall_mem_append, List.forall_mem_singleton] at hpos
    rw [run_concat]
    by_cases hm : ShowsLife m
    · cases m with
      | sdkHeartBeat => exact ih hpos.1
      | subscribeAddNode => exact ih hpos.1
      | _ => exact absurd hm id
    · rw [(step_clock hm).2]
      split
      · exact f32_nonneg (add_nonneg (ih hpos.1) hpos.2)
      · exact ih hpos.1

theorem step_showsLife (hm : ShowsLife m) :
    (c.step m).lastHeartbeat = (c.step m).time ∧ (c.step m).time = c.time := by
  cases m with
  | sdkHeartBeat => exact ⟨rfl, rfl⟩
  | subscribeAddNode => exact ⟨rfl, rfl⟩
  | _ => exact absurd hm id

/-- Three seconds after its last sign of life a client has lost the connection and all that it had
subscribed to, and not before that unless it asks for it. -/
theorem watchdog (before messages : List Message) (hm : ShowsLife m)
    (hc : (run (before ++ [m])).connected = true)
    (hpos : ∀ m ∈ before ++ messages, 0 ≤ m.timeStep)
    (hsilent : ∀ m ∈ messages, ¬ ShowsLife m) :
    (3 + 1 / 2 ^ 22 + skew (run (before ++ [m])).time messages < elapsed messages →
      (∃ pre, pre <+: messages ∧ (run (before ++ [m] ++ pre)).connected = false ∧
        ∀ key, (run (before ++ [m] ++ pre)).publishers key = none) ∧
      (run (before ++ [m] ++ messages)).connected = false) ∧
    (elapsed messages + skew (run (before ++ [m])).time messages ≤ 3 - 1 / 2 ^ 22 →
      .subNodeReset ∉ messages → (run (before ++ [m] ++ messages)).connected = true) := by
  rw [List.forall_mem_append] at hpos
  have happend : ∀ pre, run (before ++ [m] ++ pre) = Runs.run step (run (before ++ [m])) pre :=
    fun pre => Runs.run_append _ _ _ _
  rw [run_concat] at hc happend ⊢
  obtain ⟨hlast, htime⟩ := step_showsLife (c := run before) hm
  have hstart : 0 ≤ ((run before).step m).time := htime ▸ time_nonneg hpos.1
  constructor
  · intro hlong
    have hclock := clocked_run hstart hpos.2 hsilent
    have hnear := abs_le.1 hclock.time
    have hskew : 0 ≤ skew ((run before).step m).time messages := (abs_nonneg _).trans hclock.time
    simp only [happend]
    cases fading_run hc hsilent with
    | lost hc' pre hp hb hn => exact ⟨⟨pre, hp, hb, hn⟩, hc'⟩
    | connected hc' hw =>
      obtain hzero | htest := hw
      · linarith
      · rw [hclock.lastHeartbeat, hlast] at htest
        exact absurd htest (three_lt_f32 (by linarith)).not_ge
  · intro hshort hreset
    rw [happend]
    exact stays_connected hc hstart hlast hpos.2 hsilent hreset hshort

theorem watchdog_silence :
    (run ([] ++ [.subscribeAddNode] ++ [.doStep 2])).connected = true ∧
      (run ([] ++ [.subscribeAddNode] ++ [.doStep 2, .doStep 2])).connected = false :=
  ⟨(watchdog [] [.doStep 2] (m := .subscribeAddNode) trivial rfl (by simp [Message.timeStep])
      (by simp [ShowsLife])).2 (by
        norm_num [elapsed, skew, drift, steps, List.countP_cons, Message.timeStep,
          Message.isStep, run, Runs.run, step, new])
      (by simp),
    ((watchdog [] [.doStep 2, .doStep 2] (m := .subscribeAddNode) trivial rfl
      (by simp [Message.timeStep]) (by simp [ShowsLife])).1 (by
        norm_num [elapsed, skew, drift, steps, List.countP_cons, Message.timeStep,
          Message.isStep, run, Runs.run, step, new])).2⟩

end Commands

end EscapeRoom.Sim
