import Mathlib.Data.List.Basic
import Mathlib.Logic.Function.Basic
import EscapeRoom.Protocol

namespace EscapeRoom
set_option autoImplicit true

def keyFrom (set cmd : Byte) : Nat := cmd.toNat + 256 * set.toNat

theorem keyFrom_inj {set cmd set' cmd' : Byte} (h : keyFrom set cmd = keyFrom set' cmd') :
    set = set' ∧ cmd = cmd' := by
  have hcmd := cmd.isLt
  have hcmd' := cmd'.isLt
  rw [keyFrom, keyFrom] at h
  exact ⟨BitVec.eq_of_toNat_eq (by omega), BitVec.eq_of_toNat_eq (by omega)⟩

/-- What a response says of acknowledgements. -/
structure Acks where
  isAck : Byte
  needAck : Byte

def ResponseT.acks (r : ResponseT) : Acks := ⟨r.isAck, r.needAck⟩

def ResponseT.withAcks (acks : Acks) (r : ResponseT) : ResponseT :=
  { r with isAck := acks.isAck, needAck := acks.needAck }

/-- What `answer` makes of a request: the payload of the response, if it is valid. Of the other
fields of the response, which it is handed by reference, only the acknowledgements are ever set. -/
abbrev Answer (σ : Type) := RequestT → List Byte → Acks → σ → Option (Acks × List Byte) × σ

abbrev Callback (σ : Type) := Byte → Byte → BitVec 16 → Byte → List Byte → σ → List Byte × σ

/-- The callback that `register_message` stores. -/
def messageCallback (set cmd : Byte) (answer : Answer σ) : Callback σ :=
  fun sender receiver seqId attri buffer robot =>
    let request : RequestT := ⟨attri, sender, receiver, seqId⟩
    let response := ResponseT.ofRequest request
    match answer request buffer response.acks robot with
    | (some (acks, payload), robot') =>
      ((response.withAcks acks).encodeMsg payload set cmd, robot')
    | (none, robot') => ([], robot')

abbrev Callbacks (σ : Type) := Nat → Option (Callback σ)

def Callbacks.registerMessage (set cmd : Byte) (answer : Answer σ) (callbacks : Callbacks σ) :
    Callbacks σ :=
  Function.update callbacks (keyFrom set cmd) (some (messageCallback set cmd answer))

/-- The messages of a server, in the order of registration. -/
def Callbacks.ofMessages (messages : List (Byte × Byte × Answer σ)) : Callbacks σ :=
  messages.foldl (fun callbacks m => callbacks.registerMessage m.1 m.2.1 m.2.2) fun _ => none

structure Server (σ : Type) where
  data : Buffer
  callbacks : Callbacks σ
  robot : σ

namespace Server

def answerRequest (length : Nat) (s : Server σ) : List Byte × Server σ :=
  match decodeRequest s.data length with
  | none => ([], s)
  | some d =>
    match s.callbacks (keyFrom d.cmdSet d.cmdId) with
    | none => ([], s)
    | some callback =>
      let reply := callback d.sender d.receiver d.seqId d.attri d.payload s.robot
      (reply.1, { s with robot := reply.2 })

/-- One datagram; the socket cuts off what does not fit, and an empty one is dropped. The bytes
returned are sent back unless there are none. -/
def receive (datagram : List Byte) (s : Server σ) : List Byte × Server σ :=
  if datagram = [] then ([], s)
  else answerRequest (min datagram.length 1024) { s with data := s.data.fill datagram }

end Server

/-- Every callback is that of one of the messages, registered under its key. -/
def Callbacks.Of (messages : List (Byte × Byte × Answer σ)) (callbacks : Callbacks σ) : Prop :=
  ∀ set cmd callback, callbacks (keyFrom set cmd) = some callback →
    ∃ answer, (set, cmd, answer) ∈ messages ∧ callback = messageCallback set cmd answer

theorem Callbacks.Of.register {messages : List (Byte × Byte × Answer σ)} {callbacks : Callbacks σ}
    (h : callbacks.Of messages) {m : Byte × Byte × Answer σ} (hm : m ∈ messages) :
    (callbacks.registerMessage m.1 m.2.1 m.2.2).Of messages := by
  intro set cmd callback hget
  by_cases hkey : keyFrom set cmd = keyFrom m.1 m.2.1
  · obtain ⟨rfl, rfl⟩ := keyFrom_inj hkey
    rw [registerMessage, Function.update_self] at hget
    exact ⟨m.2.2, hm, (Option.some.inj hget).symm⟩
  · rw [registerMessage, Function.update_of_ne hkey] at hget
    exact h set cmd callback hget

theorem Callbacks.of_ofMessages (messages : List (Byte × Byte × Answer σ)) :
    (Callbacks.ofMessages messages).Of messages := by
  have hall : ∀ (registered : List (Byte × Byte × Answer σ)) (callbacks : Callbacks σ),
      (∀ m ∈ registered, m ∈ messages) → callbacks.Of messages → (registered.foldl
        (fun callbacks m => callbacks.registerMessage m.1 m.2.1 m.2.2) callbacks).Of messages := by
    intro registered
    induction registered with
    | nil => exact fun _ _ h => h
    | cons m registered ih =>
      intro callbacks hmem h
      obtain ⟨hm, hmem⟩ := List.forall_mem_cons.1 hmem
      exact ih _ hmem (h.register hm)
  apply hall messages _ fun _ hm => hm
  intro set cmd callback hget
  cases hget

def Decoded.request (d : Decoded) : RequestT := ⟨d.attri, d.sender, d.receiver, d.seqId⟩

/-- The response to a request, before it is answered. -/
def Decoded.response (d : Decoded) : ResponseT := .ofRequest d.request

/-- The attribute byte of a response: an acknowledgement if one was asked for. -/
theorem attri_response (d : Decoded) :
    d.response.attri = if d.request.needAck then 0x80 else 0x20 := by
  rw [ResponseT.attri, Decoded.response, ResponseT.ofRequest]
  cases d.request.needAck <;> rfl

/-- The reply to a request, as its sender decodes it. -/
structure Replies (d : Decoded) (acks : Acks) (reply payload : List Byte) : Prop where
  encoded : reply = (d.response.withAcks acks).encodeMsg payload d.cmdSet d.cmdId
  decoded : payload.length ≤ 1010 → ∀ buffer : Buffer, ∃ rest,
    decodeRequest (buffer.fill reply) reply.length = some ⟨d.cmdSet, d.cmdId, d.seqId,
      (d.response.withAcks acks).attri, d.receiver, d.sender, payload ++ rest⟩
  asked : acks = d.response.acks →
    (d.response.withAcks acks).attri = if d.request.needAck then 0x80 else 0x20

theorem replies_encodeMsg (d : Decoded) (acks : Acks) (payload : List Byte) :
    Replies d acks ((d.response.withAcks acks).encodeMsg payload d.cmdSet d.cmdId) payload := by
  refine ⟨rfl, fun hlen buffer => ?_, ?_⟩
  · have hread := readout_encodeMsg (d.response.withAcks acks) payload d.cmdSet d.cmdId buffer hlen
    exact ⟨_, (headed_encodeMsg _ _ _ _ buffer).decode.trans (congrArg some hread)⟩
  · rintro rfl
    exact attri_response d

namespace Server

variable {s : Server σ} {datagram : List Byte}

/-- The answer of a registered message to the request that a server has decoded. -/
structure Answered (messages : List (Byte × Byte × Answer σ)) (s : Server σ) (datagram : List Byte)
    (d : Decoded) (acks : Acks) (payload : List Byte) : Prop where
  request : decodeRequest (s.data.fill datagram) (min datagram.length 1024) = some d
  answer : ∃ answer, (d.cmdSet, d.cmdId, answer) ∈ messages ∧
    answer d.request d.payload d.response.acks s.robot =
      (some (acks, payload), (s.receive datagram).2.robot)

/-- Whatever a server sends back is the reply to the request that it decoded: with its set, its
command and its sequence number, addressed the other way round. What it says of acknowledgements is
what the request asked for, unless the answer has set that. -/
theorem replies_match {messages : List (Byte × Byte × Answer σ)}
    (hs : s.callbacks = Callbacks.ofMessages messages) (h : (s.receive datagram).1 ≠ []) :
    ∃ d acks payload, Answered messages s datagram d acks payload ∧
      Replies d acks (s.receive datagram).1 payload := by
  have hof := Callbacks.of_ofMessages messages
  rw [← hs] at hof
  have hsome : datagram ≠ [] := by
    intro hnil
    rw [receive, if_pos hnil] at h
    exact h rfl
  have hreceive : s.receive datagram = answerRequest (min datagram.length 1024)
      { s with data := s.data.fill datagram } := by
    rw [receive, if_neg hsome]
  rw [hreceive, answerRequest] at h
  cases hd : decodeRequest (s.data.fill datagram) (min datagram.length 1024) with
  | none =>
    simp only [hd] at h
    exact absurd rfl h
  | some d =>
    simp only [hd] at h
    cases hc : s.callbacks (keyFrom d.cmdSet d.cmdId) with
    | none =>
      simp only [hc] at h
      exact absurd rfl h
    | some callback =>
      simp only [hc] at h
      obtain ⟨answer, hmem, rfl⟩ := hof _ _ _ hc
      obtain ⟨out, robot', ha⟩ : ∃ out robot',
          answer d.request d.payload d.response.acks s.robot = (out, robot') := ⟨_, _, rfl⟩
      have ha' := ha
      rw [Decoded.request, Decoded.response, Decoded.request] at ha'
      cases out with
      | none =>
        simp only [messageCallback, ha'] at h
        exact absurd rfl h
      | some out =>
        have hreply : s.receive datagram =
            ((d.response.withAcks out.1).encodeMsg out.2 d.cmdSet d.cmdId,
              { s with data := s.data.fill datagram, robot := robot' }) := by
          rw [hreceive, answerRequest]
          simp only [hd, hc, messageCallback, ha']
          rfl
        refine ⟨d, out.1, out.2, ⟨hd, answer, hmem, ?_⟩, ?_⟩
        · rw [hreply]
          exact ha
        · rw [hreply]
          exact replies_encodeMsg d out.1 out.2

theorem receive_data (h : datagram ≠ []) : (s.receive datagram).2.data = s.data.fill datagram := by
  rw [receive, if_neg h, answerRequest]
  split
  · rfl
  split
  · rfl
  · rfl

section short

variable {frame : List Byte} (hlength : frame.length = 4) (buffer buffer' : Buffer)
include hlength

/-- The first four bytes are all that a header consists of. -/
theorem headed_short (h : Headed (buffer.fill frame) 4) : Headed (buffer'.fill frame) 4 := by
  obtain ⟨a, b, c, d, rfl⟩ := List.length_eq_four.1 hlength
  have hget (buffer : Buffer) : (buffer.fill [a, b, c, d])[0] = a ∧
      (buffer.fill [a, b, c, d])[1] = b ∧ (buffer.fill [a, b, c, d])[2] = c ∧
      (buffer.fill [a, b, c, d])[3] = d := by
    simp only [fill_getElem]
    exact ⟨rfl, rfl, rfl, rfl⟩
  obtain ⟨ha, hb, hc, hd⟩ := hget buffer
  obtain ⟨ha', hb', hc', hd'⟩ := hget buffer'
  obtain ⟨henough, hmagic, hcrc, hwhole⟩ := h
  rw [msgLen, hb, hc] at hwhole
  rw [ha, hb, hc, hd] at hcrc
  refine ⟨henough, ?_, ?_, ?_⟩
  · rw [ha', ← ha]
    exact hmagic
  · rw [ha', hb', hc', hd']
    exact hcrc
  · rw [msgLen, hb', hc']
    exact hwhole

/-- Behind the four bytes of a short frame the last message is read once more. -/
theorem readout_short : readout (buffer.fill frame) = readout buffer := by
  obtain ⟨a, b, c, d, rfl⟩ := List.length_eq_four.1 hlength
  have hrest : (buffer.fill [a, b, c, d]).toList.drop 11 = buffer.toList.drop 11 := by
    rw [fill_toList _ _ (by simp)]
    exact List.drop_drop
  rw [readout, hrest]
  simp only [fill_getElem]
  rfl

end short

theorem fill_fill (buffer : Buffer) (datagram : List Byte) :
    (buffer.fill datagram).fill datagram = buffer.fill datagram := by
  apply Vector.ext
  intro n hn
  rw [fill_getElem, fill_getElem, List.getD_eq_getElem?_getD, List.getD_eq_getElem?_getD]
  cases datagram[n]? <;> rfl

theorem answerRequest_congr {s' : Server σ} {n n' : Nat}
    (hd : decodeRequest s.data n = decodeRequest s'.data n') (hc : s.callbacks = s'.callbacks)
    (hr : s.robot = s'.robot) : (s.answerRequest n).1 = (s'.answerRequest n').1 ∧
      (s.answerRequest n).2.robot = (s'.answerRequest n').2.robot := by
  rw [answerRequest, answerRequest, hd, hc, hr]
  cases decodeRequest s'.data n' with
  | none => exact ⟨rfl, hr⟩
  | some d =>
    dsimp only
    cases s'.callbacks (keyFrom d.cmdSet d.cmdId) with
    | none => exact ⟨rfl, hr⟩
    | some callback => exact ⟨rfl, rfl⟩

theorem receive_of_decode {d : Decoded} {callback : Callback σ} (hne : datagram ≠ [])
    (hd : decodeRequest (s.data.fill datagram) (min datagram.length 1024) = some d)
    (hc : s.callbacks (keyFrom d.cmdSet d.cmdId) = some callback) : (s.receive datagram).1 =
      (callback d.sender d.receiver d.seqId d.attri d.payload s.robot).1 := by
  rw [receive, if_neg hne, answerRequest]
  dsimp only
  rw [hd]
  dsimp only
  rw [hc]

/-- Four bytes with a header that is accepted make a server carry out its last request once more,
and answer it. -/
theorem shortFrame_repeats {frame : List Byte} (hlength : frame.length = 4)
    (hframe : (decodeRequest (s.data.fill frame) 4).isSome = true)
    (hd : (decodeRequest (s.data.fill datagram) (min datagram.length 1024)).isSome = true) :
    ((s.receive datagram).2.receive frame).1 = ((s.receive datagram).2.receive datagram).1 ∧
      ((s.receive datagram).2.receive frame).2.robot =
        ((s.receive datagram).2.receive datagram).2.robot := by
  obtain ⟨d, hd⟩ := Option.isSome_iff_exists.1 hd
  obtain ⟨_, hframe⟩ := Option.isSome_iff_exists.1 hframe
  obtain ⟨hheaded, hread⟩ := decodeRequest_eq_some.1 hd
  have hne : datagram ≠ [] := by
    intro hnil
    have henough := hheaded.enough
    simp [hnil] at henough
  have hshort : frame ≠ [] := by
    intro hnil
    simp [hnil] at hlength
  have hdata := receive_data (s := s) hne
  generalize (s.receive datagram).2 = s' at hdata
  rw [receive, receive, if_neg hne, if_neg hshort, hdata, hlength]
  apply answerRequest_congr
  · rw [fill_fill, hd, hread, ← readout_short hlength (s.data.fill datagram)]
    exact (headed_short hlength _ _ (decodeRequest_eq_some.1 hframe).1).decode
  · rfl
  · rfl

theorem encodeMsg_ne_nil (r : ResponseT) (payload : List Byte) (set id : Byte) :
    r.encodeMsg payload set id ≠ [] := by
  obtain ⟨low, high, rest, he⟩ := encodeMsg_shape r payload set id
  rw [he]
  exact List.cons_ne_nil _ _

/-- `SetSdkConnection::answer`, with `Response::encode`. -/
def setSdkConnection : Answer σ :=
  fun _ _ acks robot => (some (acks, [0, 2, 0, 0, 0, 0]), robot)

/-- The server of the connection port. -/
def connection (robot : σ) : Server σ :=
  ⟨Vector.replicate 1024 0, .ofMessages [(0x3f, 0xd4, setSdkConnection)], robot⟩

/-- A request for a connection. -/
def connect : List Byte :=
  ResponseT.encodeMsg ⟨0, 7, 2, 9, 1⟩ [0, 0, 2, 0, 192, 168, 2, 1, 90, 40] 0x3f 0xd4

theorem decode_connect (buffer : Buffer) : ∃ rest,
    decodeRequest (buffer.fill connect) (min connect.length 1024) =
      some ⟨0x3f, 0xd4, 7, 0x20, 2, 9, [0, 0, 2, 0, 192, 168, 2, 1, 90, 40] ++ rest⟩ :=
  ⟨_, (headed_encodeMsg _ _ _ _ buffer).decode.trans (congrArg some
    (readout_encodeMsg ⟨0, 7, 2, 9, 1⟩ [0, 0, 2, 0, 192, 168, 2, 1, 90, 40] _ _ _ (by decide)))⟩

theorem ofMessages_one (set cmd : Byte) (answer : Answer σ) :
    Callbacks.ofMessages [(set, cmd, answer)] (keyFrom set cmd) =
      some (messageCallback set cmd answer) := by
  rw [Callbacks.ofMessages, List.foldl_cons, List.foldl_nil, Callbacks.registerMessage,
    Function.update_self]

theorem connection_callbacks (robot : σ) : (connection robot).callbacks =
    .ofMessages [(0x3f, 0xd4, setSdkConnection)] :=
  rfl

theorem connection_answers (robot : σ) : ((connection robot).receive connect).1 ≠ [] := by
  obtain ⟨rest, hd⟩ := decode_connect (connection robot).data
  have hkey : (connection robot).callbacks (keyFrom 0x3f 0xd4) =
      some (messageCallback 0x3f 0xd4 setSdkConnection) := by
    rw [connection_callbacks, ofMessages_one]
  have hne : connect ≠ [] := encodeMsg_ne_nil _ _ _ _
  rw [receive_of_decode hne hd hkey]
  exact encodeMsg_ne_nil _ _ _ _

theorem replies_match_connection : ∃ d acks payload,
    Answered [(0x3f, 0xd4, setSdkConnection)] (connection ()) connect d acks payload ∧
      Replies d acks ((connection ()).receive connect).1 payload :=
  replies_match rfl (connection_answers ())

/-- A header that announces nothing at all. -/
def emptyFrame : List Byte := [0x55, 0, 0, crc8Calc [0x55, 0, 0]]

theorem shortFrame_repeats_connect :
    (((connection ()).receive connect).2.receive emptyFrame).1 =
        (((connection ()).receive connect).2.receive connect).1 ∧
      (((connection ()).receive connect).2.receive emptyFrame).2.robot =
        (((connection ()).receive connect).2.receive connect).2.robot := by
  apply shortFrame_repeats
  · rfl
  · have hheaded : Headed ((connection ()).data.fill emptyFrame) 4 := by
      refine ⟨le_rfl, ?_, ?_, ?_⟩
      · rw [fill_getElem]
        rfl
      · simp only [fill_getElem]
        exact (rfl : crc8Calc [0x55, 0, 0] = crc8Calc [0x55, 0, 0])
      · simp only [msgLen, fill_getElem]
        exact (by decide : ((0 : Byte) &&& 0x3).toNat * 256 + (0 : Byte).toNat ≤ 4)
    rw [hheaded.decode]
    rfl
  · obtain ⟨rest, hd⟩ := decode_connect (connection ()).data
    rw [hd]
    rfl

end Server

end EscapeRoom
