import SipGateway.Rtp.Packet

/-!
# Reading back what was written

A packet whose buffer starts with a header of `setHeader` gives the accessors every field of it
(`Headed`), and behind `setPayload` the payload.
-/

namespace SipGateway

open Infra

namespace RtpPacket

variable {pkt : RtpPacket} {pt : UInt8} {seq : UInt16} {ts ssrc : UInt32} {data : Bytes}

/-- The twelve bytes `setHeader` writes. -/
def header (pt : UInt8) (seq : UInt16) (ts ssrc : UInt32) : Bytes :=
  [0x80, pt &&& 0x7F] ++ net16 seq ++ net32 ts ++ net32 ssrc

/-- The packet starts with this header. -/
structure Headed (pkt : RtpPacket) (pt : UInt8) (seq : UInt16) (ts ssrc : UInt32) : Prop where
  size_le : 12 ≤ pkt.size
  buffer_eq : ∃ rest, pkt.buffer = header pt seq ts ssrc ++ rest

/-! ## The fields -/

/-- The number a list of bytes stands for, the highest byte first. -/
def bigEndian (bytes : Bytes) : Nat := bytes.foldl (fun v b => 256 * v + b.toNat) 0

theorem bigEndian_net16 (v : UInt16) : bigEndian (net16 v) = v.toNat := by
  have hv := v.toNat_lt
  simp only [bigEndian, net16, List.foldl_cons, List.foldl_nil, UInt8.toNat_ofNat']
  omega

theorem bigEndian_net32 (v : UInt32) : bigEndian (net32 v) = v.toNat := by
  have hv := v.toNat_lt
  simp only [bigEndian, net32, List.foldl_cons, List.foldl_nil, UInt8.toNat_ofNat']
  omega

/-- The mask of the payload type keeps its low seven bits. -/
theorem toNat_and_mask (pt : UInt8) : (pt &&& 0x7F).toNat = pt.toNat % 128 := by
  rw [UInt8.toNat_and]
  exact Nat.and_two_pow_sub_one_eq_mod pt.toNat 7

namespace Headed

theorem getVersion (h : pkt.Headed pt seq ts ssrc) : pkt.getVersion = 2 := by
  obtain ⟨hsize, rest, hbuffer⟩ := h
  unfold RtpPacket.getVersion byte
  rw [if_neg (by omega), hbuffer]
  show (0x80 : UInt8) >>> 6 &&& 0x03 = 2
  decide

/-- The marker is the bit the payload type leaves free. -/
theorem getMarker (h : pkt.Headed pt seq ts ssrc) : pkt.getMarker = false := by
  obtain ⟨hsize, rest, hbuffer⟩ := h
  have hzero : (pt &&& 0x7F) >>> 7 = 0 := by
    rw [← UInt8.toNat_inj, UInt8.toNat_shiftRight, toNat_and_mask, Nat.shiftRight_eq_div_pow]
    exact Nat.div_eq_of_lt (Nat.mod_lt _ (by decide))
  unfold RtpPacket.getMarker byte
  rw [if_neg (by omega), hbuffer]
  show decide ((pt &&& 0x7F) >>> 7 &&& 0x01 = 1) = false
  rw [hzero]
  rfl

theorem getPayloadType (h : pkt.Headed pt seq ts ssrc) : pkt.getPayloadType = pt &&& 0x7F := by
  obtain ⟨hsize, rest, hbuffer⟩ := h
  unfold RtpPacket.getPayloadType byte
  rw [if_neg (by omega), hbuffer]
  show pt &&& 0x7F &&& 0x7F = pt &&& 0x7F
  rw [UInt8.and_assoc]
  rfl

theorem getSequenceNumber (h : pkt.Headed pt seq ts ssrc) : pkt.getSequenceNumber = seq := by
  obtain ⟨hsize, rest, hbuffer⟩ := h
  unfold RtpPacket.getSequenceNumber netValue
  rw [if_neg (by omega), hbuffer]
  show UInt16.ofNat (bigEndian (net16 seq)) = seq
  rw [bigEndian_net16, UInt16.ofNat_toNat]

theorem getTimestamp (h : pkt.Headed pt seq ts ssrc) : pkt.getTimestamp = ts := by
  obtain ⟨hsize, rest, hbuffer⟩ := h
  unfold RtpPacket.getTimestamp netValue
  rw [if_neg (by omega), hbuffer]
  show UInt32.ofNat (bigEndian (net32 ts)) = ts
  rw [bigEndian_net32, UInt32.ofNat_toNat]

theorem getSsrc (h : pkt.Headed pt seq ts ssrc) : pkt.getSsrc = ssrc := by
  obtain ⟨hsize, rest, hbuffer⟩ := h
  unfold RtpPacket.getSsrc netValue
  rw [if_neg (by omega), hbuffer]
  show UInt32.ofNat (bigEndian (net32 ssrc)) = ssrc
  rw [bigEndian_net32, UInt32.ofNat_toNat]

end Headed

/-! ## Writing -/

theorem setHeader_headed (pkt : RtpPacket) (pt : UInt8) (seq : UInt16) (ts ssrc : UInt32) :
    (pkt.setHeader pt seq ts ssrc).Headed pt seq ts ssrc := by
  have hbuffer : (pkt.setHeader pt seq ts ssrc).buffer =
      header pt seq ts ssrc ++ pkt.buffer.drop 12 := by
    unfold setHeader
    dsimp only
    split <;> rfl
  refine ⟨?_, _, hbuffer⟩
  unfold setHeader
  dsimp only
  split
  · exact le_rfl
  · next h => exact Nat.not_lt.mp h

theorem setPayload_buffer (pkt : RtpPacket) (data : Bytes) :
    (pkt.setPayload data).buffer = pkt.buffer.take 12 ++ data.take 1488 ++
      pkt.buffer.drop (12 + (data.take 1488).length) := rfl

theorem setPayload_size (pkt : RtpPacket) (data : Bytes) :
    (pkt.setPayload data).size = 12 + (data.take 1488).length := rfl

/-- A payload behind the header leaves the header alone. -/
theorem Headed.setPayload (h : pkt.Headed pt seq ts ssrc) (data : Bytes) :
    (pkt.setPayload data).Headed pt seq ts ssrc := by
  obtain ⟨hsize, rest, hbuffer⟩ := h
  refine ⟨?_, ?_⟩
  · rw [setPayload_size]
    exact Nat.le_add_right _ _
  · rw [setPayload_buffer, List.append_assoc, hbuffer]
    exact ⟨_, rfl⟩

/-- The payload is what was written, cut at the end of the buffer. -/
theorem getPayload_setPayload (pkt : RtpPacket) (data : Bytes) :
    (pkt.setPayload data).getPayload = data.take 1488 := by
  have hlen : (pkt.buffer.take 12).length = 12 := by
    rw [List.length_take, pkt.buffer_length]
    rfl
  unfold getPayload
  rw [setPayload_size, if_neg (by omega), setPayload_buffer, List.append_assoc,
    List.drop_left' hlen, Nat.add_sub_cancel_left, List.take_left]

/-- No payload is longer than the buffer behind the header. -/
theorem length_getPayload_le (pkt : RtpPacket) : pkt.getPayload.length ≤ 1488 := by
  unfold getPayload
  split
  · exact Nat.zero_le _
  · rw [List.length_take, List.length_drop, pkt.buffer_length]
    omega

end RtpPacket

end SipGateway
