import SipGateway.Rtp.Header

/-!
# RTP packets on their way

What `setHeader` and `setPayload` make of a packet, whatever it held before, is what the accessors
read at the other end, whatever the packet there held before (`packet_reads_back`).

A packet and its copy have the same size and the same bytes up to it, and no accessor looks
further.
-/

namespace SipGateway

open Infra

namespace RtpPacket

variable {pkt fresh : RtpPacket} {pt : UInt8} {seq : UInt16} {ts ssrc : UInt32}

/-! ## The copy -/

theorem length_datagram (hsize : pkt.size ≤ 1500) : pkt.datagram.length = pkt.size := by
  unfold datagram
  rw [List.length_take, pkt.buffer_length]
  exact Nat.min_eq_left hsize

/-- A copy has the size of the packet, and its bytes. -/
theorem receive_datagram (fresh : RtpPacket) (hsize : pkt.size ≤ 1500) :
    (fresh.receive pkt.datagram).size = pkt.size ∧
      (fresh.receive pkt.datagram).buffer = pkt.datagram ++ fresh.buffer.drop pkt.size := by
  have hlen := length_datagram hsize
  have htake : pkt.datagram.take 1500 = pkt.datagram := List.take_of_length_le (hlen.le.trans hsize)
  unfold receive
  dsimp only
  simp only [htake, hlen, parse, write, List.take_zero, List.nil_append, Nat.zero_add, true_and]

/-- The header goes with the datagram. -/
theorem Headed.receive (h : pkt.Headed pt seq ts ssrc) (hsize : pkt.size ≤ 1500) :
    (fresh.receive pkt.datagram).Headed pt seq ts ssrc := by
  obtain ⟨hle, rest, hbuffer⟩ := h
  obtain ⟨hsize', hbuffer'⟩ := receive_datagram fresh hsize
  have hlen : (header pt seq ts ssrc).length = 12 := rfl
  refine ⟨hsize'.symm ▸ hle, rest.take (pkt.size - 12) ++ fresh.buffer.drop pkt.size, ?_⟩
  rw [hbuffer', datagram, hbuffer, List.take_append, List.take_of_length_le (hlen.le.trans hle),
    hlen, List.append_assoc]

/-- So does the payload. -/
theorem getPayload_receive (hsize : pkt.size ≤ 1500) :
    (fresh.receive pkt.datagram).getPayload = pkt.getPayload := by
  obtain ⟨hsize', hbuffer'⟩ := receive_datagram fresh hsize
  unfold getPayload
  rw [hsize']
  split
  · rfl
  · next hlong =>
    have hlen := length_datagram hsize
    have hdrop : 12 ≤ pkt.datagram.length := by omega
    have htake : (pkt.datagram.drop 12).length = pkt.size - 12 := by rw [List.length_drop, hlen]
    rw [hbuffer', List.drop_append_of_le_length hdrop, List.take_left' htake, datagram,
      List.drop_take]

/-! ## Sizes -/

theorem setHeader_size (pkt : RtpPacket) (pt : UInt8) (seq : UInt16) (ts ssrc : UInt32) :
    (pkt.setHeader pt seq ts ssrc).size = max pkt.size 12 := by
  unfold setHeader write
  dsimp only
  split <;> dsimp only <;> omega

theorem setPayload_size_le (pkt : RtpPacket) (data : Bytes) :
    (pkt.setPayload data).size ≤ 1500 := by
  rw [setPayload_size, List.length_take]
  omega

theorem getPayloadSize_eq (hsize : pkt.size ≤ 1500) :
    pkt.getPayloadSize = pkt.getPayload.length := by
  unfold getPayloadSize getPayload
  split
  · rfl
  · rw [List.length_take, List.length_drop, pkt.buffer_length]
    omega

/-! ## There and back -/

/-- What the accessors read off a packet. -/
structure Reads (pkt : RtpPacket) (pt : UInt8) (seq : UInt16) (ts ssrc : UInt32)
    (data : Bytes) : Prop where
  version : pkt.getVersion = 2
  marker : pkt.getMarker = false
  payloadType : pkt.getPayloadType = pt
  sequenceNumber : pkt.getSequenceNumber = seq
  timestamp : pkt.getTimestamp = ts
  ssrc : pkt.getSsrc = ssrc
  payload : pkt.getPayload = data
  payloadSize : pkt.getPayloadSize = data.length

/--
**A packet reads back as what was put into it**: the fields, and as much of the payload as fits.

Neither what the packet held before nor what the packet it is copied to held makes a difference.
-/
theorem packet_reads_back (pkt fresh : RtpPacket) (hsize : pkt.size ≤ 1500) {pt : UInt8}
    (hpt : pt < 128) (seq : UInt16) (ts ssrc : UInt32) (data : Bytes) :
    (pkt.setHeader pt seq ts ssrc).size ≤ 1500 ∧
      ((pkt.setHeader pt seq ts ssrc).setPayload data).size ≤ 1500 ∧
      (fresh.receive ((pkt.setHeader pt seq ts ssrc).setPayload data).datagram).Reads pt seq ts
        ssrc (data.take (min data.length 1488)) := by
  have hmask : pt &&& 0x7F = pt := by
    rw [← UInt8.toNat_inj, toNat_and_mask]
    exact Nat.mod_eq_of_lt hpt
  set out := (pkt.setHeader pt seq ts ssrc).setPayload data with hout
  have hle : out.size ≤ 1500 := setPayload_size_le _ _
  have hheaded : (fresh.receive out.datagram).Headed pt seq ts ssrc :=
    ((setHeader_headed pkt pt seq ts ssrc).setPayload data).receive hle
  have hpayload : (fresh.receive out.datagram).getPayload = data.take (min data.length 1488) := by
    rw [getPayload_receive hle, hout, getPayload_setPayload, List.take_eq_take_min, Nat.min_comm]
  have hreceived : (fresh.receive out.datagram).size ≤ 1500 :=
    (receive_datagram fresh hle).1.trans_le hle
  refine ⟨?_, hle, ?_⟩
  · rw [setHeader_size]
    omega
  · exact
      { version := hheaded.getVersion
        marker := hheaded.getMarker
        payloadType := hheaded.getPayloadType.trans hmask
        sequenceNumber := hheaded.getSequenceNumber
        timestamp := hheaded.getTimestamp
        ssrc := hheaded.getSsrc
        payload := hpayload
        payloadSize := (getPayloadSize_eq hreceived).trans (congrArg List.length hpayload) }

theorem packet_reads_back_short :
    (RtpPacket.empty.receive ((RtpPacket.empty.setHeader 8 65535 160 7).setPayload
      [1, 2, 3]).datagram).Reads 8 65535 160 7 [1, 2, 3] :=
  (packet_reads_back RtpPacket.empty RtpPacket.empty (by decide) (by decide) 65535 160 7
    [1, 2, 3]).2.2

end RtpPacket

end SipGateway
