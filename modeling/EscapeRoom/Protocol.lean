import Mathlib.Data.Vector.Basic
import EscapeRoom.Library.Crc

namespace EscapeRoom
set_option autoImplicit true

abbrev Byte := BitVec 8

def crc8Table : List Byte := [
  0x00, 0x5e, 0xbc, 0xe2, 0x61, 0x3f, 0xdd, 0x83, 0xc2, 0x9c, 0x7e, 0x20, 0xa3, 0xfd, 0x1f, 0x41,
  0x9d, 0xc3, 0x21, 0x7f, 0xfc, 0xa2, 0x40, 0x1e, 0x5f, 0x01, 0xe3, 0xbd, 0x3e, 0x60, 0x82, 0xdc,
  0x23, 0x7d, 0x9f, 0xc1, 0x42, 0x1c, 0xfe, 0xa0, 0xe1, 0xbf, 0x5d, 0x03, 0x80, 0xde, 0x3c, 0x62,
  0xbe, 0xe0, 0x02, 0x5c, 0xdf, 0x81, 0x63, 0x3d, 0x7c, 0x22, 0xc0, 0x9e, 0x1d, 0x43, 0xa1, 0xff,
  0x46, 0x18, 0xfa, 0xa4, 0x27, 0x79, 0x9b, 0xc5, 0x84, 0xda, 0x38, 0x66, 0xe5, 0xbb, 0x59, 0x07,
  0xdb, 0x85, 0x67, 0x39, 0xba, 0xe4, 0x06, 0x58, 0x19, 0x47, 0xa5, 0xfb, 0x78, 0x26, 0xc4, 0x9a,
  0x65, 0x3b, 0xd9, 0x87, 0x04, 0x5a, 0xb8, 0xe6, 0xa7, 0xf9, 0x1b, 0x45, 0xc6, 0x98, 0x7a, 0x24,
  0xf8, 0xa6, 0x44, 0x1a, 0x99, 0xc7, 0x25, 0x7b, 0x3a, 0x64, 0x86, 0xd8, 0x5b, 0x05, 0xe7, 0xb9,
  0x8c, 0xd2, 0x30, 0x6e, 0xed, 0xb3, 0x51, 0x0f, 0x4e, 0x10, 0xf2, 0xac, 0x2f, 0x71, 0x93, 0xcd,
  0x11, 0x4f, 0xad, 0xf3, 0x70, 0x2e, 0xcc, 0x92, 0xd3, 0x8d, 0x6f, 0x31, 0xb2, 0xec, 0x0e, 0x50,
  0xaf, 0xf1, 0x13, 0x4d, 0xce, 0x90, 0x72, 0x2c, 0x6d, 0x33, 0xd1, 0x8f, 0x0c, 0x52, 0xb0, 0xee,
  0x32, 0x6c, 0x8e, 0xd0, 0x53, 0x0d, 0xef, 0xb1, 0xf0, 0xae, 0x4c, 0x12, 0x91, 0xcf, 0x2d, 0x73,
  0xca, 0x94, 0x76, 0x28, 0xab, 0xf5, 0x17, 0x49, 0x08, 0x56, 0xb4, 0xea, 0x69, 0x37, 0xd5, 0x8b,
  0x57, 0x09, 0xeb, 0xb5, 0x36, 0x68, 0x8a, 0xd4, 0x95, 0xcb, 0x29, 0x77, 0xf4, 0xaa, 0x48, 0x16,
  0xe9, 0xb7, 0x55, 0x0b, 0x88, 0xd6, 0x34, 0x6a, 0x2b, 0x75, 0x97, 0xc9, 0x4a, 0x14, 0xf6, 0xa8,
  0x74, 0x2a, 0xc8, 0x96, 0x15, 0x4b, 0xa9, 0xf7, 0xb6, 0xe8, 0x0a, 0x54, 0xd7, 0x89, 0x6b, 0x35]

def crc16Table : List (BitVec 16) := [
  0x0000, 0x1189, 0x2312, 0x329b, 0x4624, 0x57ad, 0x6536, 0x74bf, 0x8c48, 0x9dc1, 0xaf5a, 0xbed3,
  0xca6c, 0xdbe5, 0xe97e, 0xf8f7, 0x1081, 0x0108, 0x3393, 0x221a, 0x56a5, 0x472c, 0x75b7, 0x643e,
  0x9cc9, 0x8d40, 0xbfdb, 0xae52, 0xdaed, 0xcb64, 0xf9ff, 0xe876, 0x2102, 0x308b, 0x0210, 0x1399,
  0x6726, 0x76af, 0x4434, 0x55bd, 0xad4a, 0xbcc3, 0x8e58, 0x9fd1, 0xeb6e, 0xfae7, 0xc87c, 0xd9f5,
  0x3183, 0x200a, 0x1291, 0x0318, 0x77a7, 0x662e, 0x54b5, 0x453c, 0xbdcb, 0xac42, 0x9ed9, 0x8f50,
  0xfbef, 0xea66, 0xd8fd, 0xc974, 0x4204, 0x538d, 0x6116, 0x709f, 0x0420, 0x15a9, 0x2732, 0x36bb,
  0xce4c, 0xdfc5, 0xed5e, 0xfcd7, 0x8868, 0x99e1, 0xab7a, 0xbaf3, 0x5285, 0x430c, 0x7197, 0x601e,
  0x14a1, 0x0528, 0x37b3, 0x263a, 0xdecd, 0xcf44, 0xfddf, 0xec56, 0x98e9, 0x8960, 0xbbfb, 0xaa72,
  0x6306, 0x728f, 0x4014, 0x519d, 0x2522, 0x34ab, 0x0630, 0x17b9, 0xef4e, 0xfec7, 0xcc5c, 0xddd5,
  0xa96a, 0xb8e3, 0x8a78, 0x9bf1, 0x7387, 0x620e, 0x5095, 0x411c, 0x35a3, 0x242a, 0x16b1, 0x0738,
  0xffcf, 0xee46, 0xdcdd, 0xcd54, 0xb9eb, 0xa862, 0x9af9, 0x8b70, 0x8408, 0x9581, 0xa71a, 0xb693,
  0xc22c, 0xd3a5, 0xe13e, 0xf0b7, 0x0840, 0x19c9, 0x2b52, 0x3adb, 0x4e64, 0x5fed, 0x6d76, 0x7cff,
  0x9489, 0x8500, 0xb79b, 0xa612, 0xd2ad, 0xc324, 0xf1bf, 0xe036, 0x18c1, 0x0948, 0x3bd3, 0x2a5a,
  0x5ee5, 0x4f6c, 0x7df7, 0x6c7e, 0xa50a, 0xb483, 0x8618, 0x9791, 0xe32e, 0xf2a7, 0xc03c, 0xd1b5,
  0x2942, 0x38cb, 0x0a50, 0x1bd9, 0x6f66, 0x7eef, 0x4c74, 0x5dfd, 0xb58b, 0xa402, 0x9699, 0x8710,
  0xf3af, 0xe226, 0xd0bd, 0xc134, 0x39c3, 0x284a, 0x1ad1, 0x0b58, 0x7fe7, 0x6e6e, 0x5cf5, 0x4d7c,
  0xc60c, 0xd785, 0xe51e, 0xf497, 0x8028, 0x91a1, 0xa33a, 0xb2b3, 0x4a44, 0x5bcd, 0x6956, 0x78df,
  0x0c60, 0x1de9, 0x2f72, 0x3efb, 0xd68d, 0xc704, 0xf59f, 0xe416, 0x90a9, 0x8120, 0xb3bb, 0xa232,
  0x5ac5, 0x4b4c, 0x79d7, 0x685e, 0x1ce1, 0x0d68, 0x3ff3, 0x2e7a, 0xe70e, 0xf687, 0xc41c, 0xd595,
  0xa12a, 0xb0a3, 0x8238, 0x93b1, 0x6b46, 0x7acf, 0x4854, 0x59dd, 0x2d62, 0x3ceb, 0x0e70, 0x1ff9,
  0xf78f, 0xe606, 0xd49d, 0xc514, 0xb1ab, 0xa022, 0x92b9, 0x8330, 0x7bc7, 0x6a4e, 0x58d5, 0x495c,
  0x3de3, 0x2c6a, 0x1ef1, 0x0f78]

def crc8Calc (data : List Byte) : Byte :=
  data.foldl (fun crc b => crc8Table.getD (crc ^^^ b).toNat 0) 0x77

def crc16Calc (data : List Byte) : BitVec 16 :=
  data.foldl (fun crc b => ((crc >>> 8) &&& 0xff) ^^^
    crc16Table.getD ((crc ^^^ b.setWidth 16) &&& 0xff).toNat 0) 0x3692

theorem crc8Table_eq (i : Byte) :
    crc8Table.getD i.toNat 0 = Crc.shifts 0x8c 8 (i.setWidth 8) := by
  have hall : ∀ n : Fin 256,
      crc8Table.getD n.val 0 = Crc.shifts 0x8c 8 (BitVec.ofNat 8 n.val) := by
    decide +kernel
  have hi := hall ⟨i.toNat, i.isLt⟩
  rw [BitVec.ofNat_toNat] at hi
  exact hi

theorem crc16Table_eq (i : Byte) :
    crc16Table.getD i.toNat 0 = Crc.shifts 0x8408 8 (i.setWidth 16) := by
  have hall : ∀ n : Fin 256,
      crc16Table.getD n.val 0 = Crc.shifts 0x8408 8 (BitVec.ofNat 16 n.val) := by
    decide +kernel
  have hi := hall ⟨i.toNat, i.isLt⟩
  rw [BitVec.ofNat_toNat] at hi
  exact hi

/-- The tables compute the remainders bit by bit. -/
theorem crc8Calc_eq (data : List Byte) : crc8Calc data = Crc.remainder 0x8c 0x77 data := by
  have hstep : ∀ crc b : Byte,
      crc8Table.getD (crc ^^^ b).toNat 0 = Crc.feed (0x8c : BitVec 8) crc b := by
    intro crc b
    rw [crc8Table_eq, Crc.feed, BitVec.setWidth_eq, BitVec.setWidth_eq]
  simp only [crc8Calc, hstep]
  rfl

theorem crc16Calc_eq (data : List Byte) : crc16Calc data = Crc.remainder 0x8408 0x3692 data := by
  have hstep : ∀ (crc : BitVec 16) (b : Byte), ((crc >>> 8) &&& 0xff) ^^^
      crc16Table.getD ((crc ^^^ b.setWidth 16) &&& 0xff).toNat 0 = Crc.feed 0x8408 crc b := by
    intro crc b
    have hhigh : (crc >>> 8 &&& 0xff : BitVec 16) = crc >>> 8 := by
      apply BitVec.eq_of_toNat_eq
      have hlt : crc.toNat >>> 8 < 2 ^ 8 := by
        rw [Nat.shiftRight_eq_div_pow]
        omega
      rw [BitVec.toNat_and, BitVec.toNat_ushiftRight]
      exact (Nat.and_two_pow_sub_one_eq_mod _ 8).trans (Nat.mod_eq_of_lt hlt)
    have hlow (x : BitVec 16) : (x &&& 0xff).toNat = (x.setWidth 8).toNat := by
      rw [BitVec.toNat_and, BitVec.toNat_setWidth]
      exact Nat.and_two_pow_sub_one_eq_mod _ 8
    rw [Crc.feed_eq_table crc16Table_eq, hhigh, hlow]
  simp only [crc16Calc, hstep]
  rfl

structure RequestT where
  attri : Byte
  sender : Byte
  receiver : Byte
  seqId : BitVec 16

namespace RequestT

def isAck (r : RequestT) : Bool := decide (r.attri &&& 0x80 ≠ 0)

def needAck (r : RequestT) : Bool := decide ((r.attri &&& 0x60) >>> 5 ≠ 0)

end RequestT

structure ResponseT where
  isAck : Byte
  seqId : BitVec 16
  sender : Byte
  receiver : Byte
  needAck : Byte

namespace ResponseT

def ofRequest (request : RequestT) : ResponseT where
  isAck := if request.needAck then 1 else 0
  seqId := request.seqId
  sender := request.receiver
  receiver := request.sender
  needAck := if request.needAck then 0 else 1

def attri (r : ResponseT) : Byte := (if r.isAck ≠ 0 then 1 <<< 7 else 0) + r.needAck <<< 5

/-- The first three bytes: the magic number and the length of the message. -/
def start (len : Nat) : List Byte :=
  [0x55, BitVec.ofNat 8 (len &&& 0xff), BitVec.ofNat 8 (((len >>> 8) &&& 3) ||| 4)]

/-- The message but for its last two bytes. -/
def body (r : ResponseT) (payload : List Byte) (set id : Byte) : List Byte :=
  start (13 + payload.length) ++ [crc8Calc (start (13 + payload.length)), r.sender, r.receiver,
    r.seqId.setWidth 8, (r.seqId >>> 8).setWidth 8, r.attri, set, id] ++ payload

/-- The bytes of a 16-bit number, the low one first. -/
def bytes16 (n : BitVec 16) : List Byte := [n.setWidth 8, (n >>> 8).setWidth 8]

def encodeMsg (r : ResponseT) (payload : List Byte) (set id : Byte) : List Byte :=
  r.body payload set id ++ bytes16 (crc16Calc (r.body payload set id))

end ResponseT

/-- What `decode_request` writes through its pointers. -/
structure Decoded where
  cmdSet : Byte
  cmdId : Byte
  seqId : BitVec 16
  attri : Byte
  sender : Byte
  receiver : Byte
  payload : List Byte

/-- The server's receive buffer, `kMaxLength` long. -/
abbrev Buffer := Vector Byte 1024

def msgLen (buffer : Buffer) : Nat := (buffer[2] &&& 0x3).toNat * 256 + buffer[1].toNat

/-- The bytes after `length` are read as well: they are those of earlier datagrams. -/
def decodeRequest (buffer : Buffer) (length : Nat) : Option Decoded :=
  if length < 4 then none
  else if buffer[0] ≠ 0x55 then none
  else if crc8Calc [buffer[0], buffer[1], buffer[2]] ≠ buffer[3] then none
  else if length < msgLen buffer then none
  else some {
    cmdSet := buffer[9]
    cmdId := buffer[10]
    seqId := buffer[7].setWidth 16 * 256 + buffer[6].setWidth 16
    attri := buffer[8]
    sender := buffer[4]
    receiver := buffer[5]
    payload := buffer.toList.drop 11 }

/-- A datagram arrives at the start of the buffer. -/
def Buffer.fill (buffer : Buffer) (datagram : List Byte) : Buffer :=
  Vector.ofFn fun i => datagram.getD i buffer[i]

section fill

variable (buffer : Buffer) (datagram : List Byte)

theorem fill_getElem {n : Nat} (hn : n < 1024) :
    (buffer.fill datagram)[n] = datagram.getD n buffer[n] := by
  simp [Buffer.fill]

theorem fill_toList (h : datagram.length ≤ 1024) :
    (buffer.fill datagram).toList = datagram ++ buffer.toList.drop datagram.length := by
  apply List.ext_getElem
  · simp
    omega
  · intro n hn hn'
    have hlt : n < 1024 := by simpa using hn
    rw [Vector.getElem_toList, fill_getElem buffer datagram hlt, List.getD_eq_getElem?_getD]
    by_cases hd : n < datagram.length
    · simp [hd]
    · simp [hd, List.getElem_append_right (not_lt.1 hd), not_lt.1 hd]

end fill

/-- The header that `decode_request` asks for. -/
structure Headed (buffer : Buffer) (length : Nat) : Prop where
  enough : 4 ≤ length
  magic : buffer[0] = 0x55
  crc : crc8Calc [buffer[0], buffer[1], buffer[2]] = buffer[3]
  whole : msgLen buffer ≤ length

def readout (buffer : Buffer) : Decoded where
  cmdSet := buffer[9]
  cmdId := buffer[10]
  seqId := buffer[7].setWidth 16 * 256 + buffer[6].setWidth 16
  attri := buffer[8]
  sender := buffer[4]
  receiver := buffer[5]
  payload := buffer.toList.drop 11

theorem Headed.decode {buffer : Buffer} {length : Nat} (h : Headed buffer length) :
    decodeRequest buffer length = some (readout buffer) := by
  rw [decodeRequest, if_neg h.enough.not_gt, if_neg (not_not.2 h.magic), if_neg (not_not.2 h.crc),
    if_neg h.whole.not_gt]
  rfl

theorem decodeRequest_eq_some {buffer : Buffer} {length : Nat} {d : Decoded} :
    decodeRequest buffer length = some d ↔ Headed buffer length ∧ d = readout buffer := by
  constructor
  · intro h
    have hheaded : Headed buffer length := by
      unfold decodeRequest at h
      split at h
      · cases h
      split at h
      · cases h
      split at h
      · cases h
      split at h
      · cases h
      exact ⟨not_lt.1 ‹_›, not_not.1 ‹_›, not_not.1 ‹_›, not_lt.1 ‹_›⟩
    rw [hheaded.decode] at h
    exact ⟨hheaded, (Option.some.inj h).symm⟩
  · rintro ⟨h, rfl⟩
    exact h.decode

section roundTrip

open ResponseT

variable (r : ResponseT) (payload : List Byte) (set id : Byte)

theorem body_length : (r.body payload set id).length = 11 + payload.length := by
  simp [body, start]
  omega

theorem encodeMsg_length : (r.encodeMsg payload set id).length = 13 + payload.length := by
  simp [encodeMsg, body_length, bytes16]
  omega

/-- The length that the header of a message announces is its own up to 1023 bytes. -/
theorem msgLen_start (n : Nat) :
    (BitVec.ofNat 8 (((n >>> 8) &&& 3) ||| 4) &&& 0x3 : Byte).toNat * 256 +
      (BitVec.ofNat 8 (n &&& 0xff)).toNat = n % 1024 := by
  have hlow : (BitVec.ofNat 8 (n &&& 0xff)).toNat = n % 256 := by
    rw [BitVec.toNat_ofNat, Nat.and_two_pow_sub_one_eq_mod n 8]
    omega
  have hhigh : (n >>> 8) &&& 3 = n / 256 % 4 := by
    rw [Nat.and_two_pow_sub_one_eq_mod _ 2, Nat.shiftRight_eq_div_pow]
  have hbits : ∀ m < 4, (BitVec.ofNat 8 (m ||| 4) &&& 0x3 : Byte).toNat = m := by decide
  rw [hhigh, hlow, hbits _ (Nat.mod_lt _ (by decide))]
  omega

variable (buffer : Buffer)

theorem msgLen_fill : msgLen (buffer.fill (r.encodeMsg payload set id)) =
    (13 + payload.length) % 1024 := by
  rw [← msgLen_start, msgLen, fill_getElem, fill_getElem]
  rfl

theorem headed_encodeMsg :
    Headed (buffer.fill (r.encodeMsg payload set id)) (r.encodeMsg payload set id).length := by
  refine ⟨?_, ?_, ?_, ?_⟩
  · rw [encodeMsg_length]
    omega
  · rw [fill_getElem]
    rfl
  · simp only [fill_getElem]
    rfl
  · rw [msgLen_fill, encodeMsg_length]
    exact Nat.mod_le _ _

theorem readout_encodeMsg (h : payload.length ≤ 1010) :
    readout (buffer.fill (r.encodeMsg payload set id)) =
      ⟨set, id, r.seqId, r.attri, r.sender, r.receiver, payload ++
        (bytes16 (crc16Calc (r.body payload set id)) ++
          buffer.toList.drop (13 + payload.length))⟩ := by
  have hseq : ((r.seqId >>> 8).setWidth 8 : Byte).setWidth 16 * 256 +
      (r.seqId.setWidth 8 : Byte).setWidth 16 = r.seqId := by
    apply BitVec.eq_of_toNat_eq
    have hlt := r.seqId.isLt
    have hbase : (256 : BitVec 16).toNat = 256 := rfl
    simp only [BitVec.toNat_add, BitVec.toNat_mul, BitVec.toNat_setWidth, BitVec.toNat_ushiftRight,
      Nat.shiftRight_eq_div_pow, hbase]
    omega
  have hlength : (r.encodeMsg payload set id).length ≤ 1024 := by
    rw [encodeMsg_length]
    omega
  have hrest : (buffer.fill (r.encodeMsg payload set id)).toList.drop 11 = payload ++
      (bytes16 (crc16Calc (r.body payload set id)) ++
        buffer.toList.drop (13 + payload.length)) := by
    rw [fill_toList _ _ hlength, encodeMsg_length, ← List.append_assoc]
    rfl
  rw [readout, hrest]
  simp only [fill_getElem]
  rw [← hseq]
  rfl

/-- A message of the server comes out of `decode_request` as it went in, up to 1010 bytes of
payload; its checksum and what the buffer held before follow the payload. -/
theorem decode_encodeMsg (h : payload.length ≤ 1010) :
    decodeRequest (buffer.fill (r.encodeMsg payload set id)) (r.encodeMsg payload set id).length =
      some ⟨set, id, r.seqId, r.attri, r.sender, r.receiver, payload ++
        (bytes16 (crc16Calc (r.body payload set id)) ++
          buffer.toList.drop (13 + payload.length))⟩ := by
  rw [(headed_encodeMsg r payload set id buffer).decode,
    readout_encodeMsg r payload set id buffer h]

end roundTrip

/-- The reply to a request for a connection. -/
theorem decode_encodeMsg_connection :
    decodeRequest (Buffer.fill (Vector.replicate 1024 0)
        (ResponseT.encodeMsg ⟨1, 7, 9, 2, 0⟩ [0, 2, 0, 0, 0, 0] 0x3f 0xd4))
      (ResponseT.encodeMsg ⟨1, 7, 9, 2, 0⟩ [0, 2, 0, 0, 0, 0] 0x3f 0xd4).length =
        some ⟨0x3f, 0xd4, 7, 0x80, 9, 2, [0, 2, 0, 0, 0, 0] ++ (ResponseT.bytes16 (crc16Calc
          (ResponseT.body ⟨1, 7, 9, 2, 0⟩ [0, 2, 0, 0, 0, 0] 0x3f 0xd4)) ++
            (Vector.replicate 1024 0).toList.drop 19)⟩ :=
  decode_encodeMsg ⟨1, 7, 9, 2, 0⟩ [0, 2, 0, 0, 0, 0] 0x3f 0xd4 (Vector.replicate 1024 0)
    (by decide)

/-- What the two checksums of a message protect it from. Nobody looks at the second one here. -/
structure Guarded (e : List Byte) : Prop where
  header : ∀ k < 4, ∀ b, e[k]? ≠ some b → ∀ (buffer : Buffer) n,
    decodeRequest (buffer.fill (e.set k b)) n = none
  body : ∀ pre bs bs' post trailer, e = pre ++ bs ++ post ++ trailer → trailer.length = 2 →
    bs.length = bs'.length → bs.length ≤ 2 → bs ≠ bs' →
      trailer ≠ ResponseT.bytes16 (crc16Calc (pre ++ bs' ++ post))
  accepted : ∀ e' : List Byte, e'.take 4 = e.take 4 → e'.length = e.length →
    ∀ buffer : Buffer, (decodeRequest (buffer.fill e') e'.length).isSome = true

theorem crc8Calc_ne (bs bs' : List Byte) (hlen : bs.length = bs'.length) (hone : bs.length ≤ 1)
    (hne : bs ≠ bs') (pre post : List Byte) :
    crc8Calc (pre ++ bs ++ post) ≠ crc8Calc (pre ++ bs' ++ post) := by
  rw [crc8Calc_eq, crc8Calc_eq]
  exact Crc.remainder_ne_of_burst (by decide) hlen (by omega) hne _ pre post

theorem crc16Calc_ne {bs bs' : List Byte} (hlen : bs.length = bs'.length) (htwo : bs.length ≤ 2)
    (hne : bs ≠ bs') (pre post : List Byte) :
    crc16Calc (pre ++ bs ++ post) ≠ crc16Calc (pre ++ bs' ++ post) := by
  rw [crc16Calc_eq, crc16Calc_eq]
  exact Crc.remainder_ne_of_burst (by decide) hlen (by omega) hne _ pre post

theorem bytes16_inj {m n : BitVec 16} (h : ResponseT.bytes16 m = ResponseT.bytes16 n) : m = n := by
  obtain ⟨hlow, hhigh⟩ : m.setWidth 8 = n.setWidth 8 ∧
      (m >>> 8).setWidth 8 = (n >>> 8).setWidth 8 := by
    simpa [ResponseT.bytes16] using h
  apply BitVec.eq_of_toNat_eq
  have hlow := congrArg BitVec.toNat hlow
  have hhigh := congrArg BitVec.toNat hhigh
  have hm := m.isLt
  have hn := n.isLt
  simp only [BitVec.toNat_setWidth, BitVec.toNat_ushiftRight, Nat.shiftRight_eq_div_pow]
    at hlow hhigh
  omega

theorem decode_none_of_crc {buffer : Buffer} {n : Nat}
    (h : crc8Calc [buffer[0], buffer[1], buffer[2]] ≠ buffer[3]) :
    decodeRequest buffer n = none := by
  cases hd : decodeRequest buffer n with
  | none => rfl
  | some d => exact absurd (decodeRequest_eq_some.1 hd).1.crc h

theorem encodeMsg_shape (r : ResponseT) (payload : List Byte) (set id : Byte) :
    ∃ low high rest, r.encodeMsg payload set id =
      0x55 :: low :: high :: crc8Calc [0x55, low, high] :: rest := ⟨_, _, _, rfl⟩

/-- A header with one byte changed is not accepted. -/
theorem header_rejected (low high : Byte) (rest : List Byte) {k : Nat} (hk : k < 4) {b : Byte}
    (hne : (0x55 :: low :: high :: crc8Calc [0x55, low, high] :: rest)[k]? ≠ some b)
    (buffer : Buffer) (n : Nat) :
    decodeRequest (buffer.fill
      ((0x55 :: low :: high :: crc8Calc [0x55, low, high] :: rest).set k b)) n = none := by
  match k with
  | 0 =>
    have hb : 0x55 ≠ b := by simpa using hne
    cases hd : decodeRequest (buffer.fill
        ((0x55 :: low :: high :: crc8Calc [0x55, low, high] :: rest).set 0 b)) n with
    | none => rfl
    | some d =>
      have hmagic := (decodeRequest_eq_some.1 hd).1.magic
      rw [fill_getElem] at hmagic
      exact absurd hmagic.symm hb
  | 1 =>
    have hb : low ≠ b := by simpa using hne
    apply decode_none_of_crc
    simp only [fill_getElem]
    exact (crc8Calc_ne [low] [b] rfl le_rfl (by simpa using hb) [0x55] [high]).symm
  | 2 =>
    have hb : high ≠ b := by simpa using hne
    apply decode_none_of_crc
    simp only [fill_getElem]
    exact (crc8Calc_ne [high] [b] rfl le_rfl (by simpa using hb) [0x55, low] []).symm
  | 3 =>
    have hb : crc8Calc [0x55, low, high] ≠ b := by simpa using hne
    apply decode_none_of_crc
    simp only [fill_getElem]
    exact hb

theorem encodeMsg_guarded (r : ResponseT) (payload : List Byte) (set id : Byte) :
    Guarded (r.encodeMsg payload set id) := by
  refine ⟨?_, ?_, ?_⟩
  · intro k hk b hne buffer n
    obtain ⟨low, high, rest, he⟩ := encodeMsg_shape r payload set id
    rw [he] at hne ⊢
    exact header_rejected low high rest hk hne buffer n
  · intro pre bs bs' post trailer he htrailer hlen htwo hne heq
    have hbody : r.body payload set id = pre ++ bs ++ post ∧
        ResponseT.bytes16 (crc16Calc (r.body payload set id)) = trailer := by
      apply List.append_inj' he
      rw [htrailer]
      rfl
    obtain ⟨hbody, hcrc⟩ := hbody
    rw [heq, hbody] at hcrc
    exact crc16Calc_ne hlen htwo hne pre post (bytes16_inj hcrc)
  · intro e' htake hlen buffer
    have hfirst : ∀ k (hk : k < 4), (buffer.fill e')[k] =
        (buffer.fill (r.encodeMsg payload set id))[k] := by
      intro k hk
      have hget := congrArg (fun l : List Byte => l[k]?) htake
      simp only [List.getElem?_take_of_lt hk] at hget
      rw [fill_getElem, fill_getElem, List.getD_eq_getElem?_getD, List.getD_eq_getElem?_getD, hget]
    obtain ⟨henough, hmagic, hcrc, hwhole⟩ := headed_encodeMsg r payload set id buffer
    have hheaded : Headed (buffer.fill e') e'.length := by
      refine ⟨hlen ▸ henough, ?_, ?_, ?_⟩
      · rw [hfirst 0 (by decide)]
        exact hmagic
      · rw [hfirst 0 (by decide), hfirst 1 (by decide), hfirst 2 (by decide), hfirst 3 (by decide)]
        exact hcrc
      · rw [msgLen, hfirst 1 (by decide), hfirst 2 (by decide), hlen]
        exact hwhole
    rw [hheaded.decode]
    rfl

end EscapeRoom
