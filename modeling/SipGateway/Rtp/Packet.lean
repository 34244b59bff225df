import SipGateway.Infra.Bytes

/-!
# RTP packets and the jitter buffer

`RtpPacket.cpp`: a buffer of 1500 bytes of which the first `size` count. `parse` only sets the
size, so every accessor looks at the length again. `RtpWorker` sends and receives the buffer.
`JitterBuffer.cpp` keeps packets in sequence order and gives one out when it holds `TARGET_SIZE`.
-/

namespace SipGateway

open Infra

/-- `class RtpPacket`. -/
structure RtpPacket where
  buffer : Bytes
  size : Nat := 0
  buffer_length : buffer.length = 1500
deriving DecidableEq

namespace RtpPacket

/-- A packet whose buffer holds nothing yet. -/
def empty : RtpPacket where
  buffer := List.replicate 1500 0
  buffer_length := List.length_replicate

/-- `memcpy(&buffer[off], data, len)` inside the buffer. -/
def write (pkt : RtpPacket) (off : Nat) (data : Bytes) (h : off + data.length ≤ 1500) :
    RtpPacket :=
  { pkt with
    buffer := pkt.buffer.take off ++ data ++ pkt.buffer.drop (off + data.length)
    buffer_length := by
      rw [List.length_append, List.length_append, List.length_take, List.length_drop,
        pkt.buffer_length]
      omega }

/-- `buffer[i]`. -/
def byte (pkt : RtpPacket) (i : Nat) : UInt8 := pkt.buffer.getD i 0

/-- `ntohs` / `ntohl` of the bytes at `off`: the big-endian value of `n` bytes. -/
def netValue (pkt : RtpPacket) (off n : Nat) : Nat :=
  ((pkt.buffer.drop off).take n).foldl (fun v b => 256 * v + b.toNat) 0

def parse (pkt : RtpPacket) (len : Nat) : RtpPacket := { pkt with size := len }

def getVersion (pkt : RtpPacket) : UInt8 :=
  if pkt.size < 1 then 0 else (pkt.byte 0 >>> 6) &&& 0x03

def getMarker (pkt : RtpPacket) : Bool :=
  if pkt.size < 2 then false else (pkt.byte 1 >>> 7) &&& 0x01 = 1

def getPayloadType (pkt : RtpPacket) : UInt8 :=
  if pkt.size < 2 then 0 else pkt.byte 1 &&& 0x7F

def getSequenceNumber (pkt : RtpPacket) : UInt16 :=
  if pkt.size < 4 then 0 else UInt16.ofNat (pkt.netValue 2 2)

def getTimestamp (pkt : RtpPacket) : UInt32 :=
  if pkt.size < 8 then 0 else UInt32.ofNat (pkt.netValue 4 4)

def getSsrc (pkt : RtpPacket) : UInt32 :=
  if pkt.size < 12 then 0 else UInt32.ofNat (pkt.netValue 8 4)

/-- The `getPayloadSize()` bytes behind `getPayload()`. -/
def getPayload (pkt : RtpPacket) : Bytes :=
  if pkt.size < 12 then [] else (pkt.buffer.drop 12).take (pkt.size - 12)

def getPayloadSize (pkt : RtpPacket) : Nat := if pkt.size < 12 then 0 else pkt.size - 12

/-- `htons`, as bytes. -/
def net16 (v : UInt16) : Bytes := [UInt8.ofNat (v.toNat / 256), UInt8.ofNat v.toNat]

/-- `htonl`, as bytes. -/
def net32 (v : UInt32) : Bytes :=
  [UInt8.ofNat (v.toNat / 16777216), UInt8.ofNat (v.toNat / 65536), UInt8.ofNat (v.toNat / 256),
    UInt8.ofNat v.toNat]

def setHeader (pkt : RtpPacket) (pt : UInt8) (seq : UInt16) (ts ssrc : UInt32) : RtpPacket :=
  let pkt := pkt.write 0 ([0x80, pt &&& 0x7F] ++ net16 seq ++ net32 ts ++ net32 ssrc)
    (by simp [net16, net32])
  if pkt.size < 12 then { pkt with size := 12 } else pkt

def setPayload (pkt : RtpPacket) (data : Bytes) : RtpPacket :=
  let data := data.take (1500 - 12)
  { pkt.write 12 data (by simp only [data, List.length_take]; omega) with size := 12 + data.length }

/-- The bytes `sendto` is given. -/
def datagram (pkt : RtpPacket) : Bytes := pkt.buffer.take pkt.size

/-- `recvfrom` into the buffer and `parse`; what the datagram does not reach stays as it was. -/
def receive (pkt : RtpPacket) (datagram : Bytes) : RtpPacket :=
  let data := datagram.take 1500
  (pkt.write 0 data (by simp only [data, List.length_take]; omega)).parse data.length

end RtpPacket

/-! ## The jitter buffer -/

/-- `class JitterBuffer`; the front of the deque is the head of the list. -/
structure JitterBuffer where
  buffer : List RtpPacket := []
deriving DecidableEq

namespace JitterBuffer

/-- `TARGET_SIZE`. -/
def targetSize : Nat := 5

/-- The loop of `push`: a duplicate is dropped, and the packet goes before the first later one. -/
def insertOrdered (pkt : RtpPacket) : List RtpPacket → List RtpPacket
  | [] => [pkt]
  | cur :: rest =>
    if pkt.getSequenceNumber = cur.getSequenceNumber then cur :: rest
    else if cur.getSequenceNumber - pkt.getSequenceNumber < 32768 then pkt :: cur :: rest
    else cur :: insertOrdered pkt rest

def push (jb : JitterBuffer) (pkt : RtpPacket) : JitterBuffer :=
  { buffer := insertOrdered pkt jb.buffer }

def pop (jb : JitterBuffer) : Option RtpPacket × JitterBuffer :=
  match jb.buffer with
  | [] => (none, jb)
  | pkt :: rest =>
    if jb.buffer.length ≥ targetSize then (some pkt, { buffer := rest }) else (none, jb)

end JitterBuffer

end SipGateway
