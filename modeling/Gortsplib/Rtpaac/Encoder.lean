import Gortsplib.Rtp.Packet

/-!
# The RTP/AAC encoder

`rtpaac.Encoder`: `Encode` rejects an AU longer than `rtpPayloadMaxSize`, and otherwise puts it after a two-byte
AU-headers-length (16 bits) and one AU-header (the AU length shifted left by three) into an RTP packet numbered with
the encoder's sequence number, which it then increments. The timestamp is `initialTs + uint32(ts.Seconds() *
clockRate)`, a float computation that is the parameter `ticks` here; nothing below depends on it.

* `Encoder.encode_spec`: one call either rejects the AU and leaves the encoder as it was, or returns the marshalled
  packet and increments the sequence number;
* `Encoder.encode_ok_iff`: `Encode` accepts exactly the AUs of at most `rtpPayloadMaxSize` bytes and returns a
  packet 16 bytes longer than the AU. The bound is on the AU, not on the RTP payload the constant is computed for, so
  an AU of 1460 bytes gives a 1476-byte packet, over the MTU with the IP and UDP headers (`Encoder.encode_over_mtu`);
* `Encoder.encodeAll_packets`: over any sequence of calls, the `k`-th packet returned reads back with sequence number
  `s + k` modulo `2 ^ 16`, version 2, the marker, the SSRC and the payload type modulo 128;
* `Encoder.encode_payload`: an accepted AU is the single AU, with index 0, that an RFC 3640 AAC-hbr depacketizer
  (`depacketize`) reads from the packet's payload;
* `Encoder.encodeAll_receive`: over any sequence of calls, a receiver that unmarshals and depacketizes the packets
  returned (`receive`) reads back exactly the accepted AUs, in order, numbered from the encoder's sequence number and
  stamped with their timestamps.
-/

namespace Gortsplib.Rtpaac

open Rtp

/-- `rtpVersion`. -/
def rtpVersion : UInt8 := 0x02

/-- `rtpPayloadMaxSize`: 1500 (MTU) - 20 (IP header) - 8 (UDP header) - 12 (RTP header). -/
def rtpPayloadMaxSize : Nat := 1460

/-- `rtpaac.Encoder`; `clockRate` is the integer that `NewEncoder` converts to `float64`. -/
structure Encoder where
  payloadType : UInt8
  clockRate : Int
  sequenceNumber : UInt16
  ssrc : UInt32
  initialTs : UInt32
  deriving DecidableEq, Repr

/-- `AUAndTimestamp`: an access unit and its timestamp, a `time.Duration` in nanoseconds. -/
structure AUAndTimestamp where
  au : List UInt8
  timestamp : Int
  deriving DecidableEq, Repr

/-- `NewEncoder`: a nil pointer takes the value `rand.Uint32()` gives, `r₁`, `r₂` or `r₃`. -/
def newEncoder (payloadType : UInt8) (clockRate : Int) (sequenceNumber : Option UInt16) (ssrc initialTs : Option UInt32)
    (r₁ r₂ r₃ : UInt32) : Encoder :=
  { payloadType, clockRate
    sequenceNumber := sequenceNumber.getD r₁.toUInt16
    ssrc := ssrc.getD r₂
    initialTs := initialTs.getD r₃ }

section Encode

variable (ticks : Int → Int → UInt32)

/-- `encodeTimestamp`; `ticks clockRate ts` is `uint32(ts.Seconds() * clockRate)`. -/
def Encoder.encodeTimestamp (e : Encoder) (ts : Int) : UInt32 := e.initialTs + ticks e.clockRate ts

/-- `Encoder.Encode`: what it returns, and the encoder after the call. -/
def Encoder.encode (e : Encoder) (a : AUAndTimestamp) : Except String (List UInt8) × Encoder :=
  if a.au.length > rtpPayloadMaxSize then (.error "data is too big", e)
  else
    let payload := ([0x00, 0x10] : List UInt8) ++ putUint16 (UInt16.ofNat a.au.length <<< 3) ++ a.au
    let rpkt : Packet :=
      ⟨⟨rtpVersion, false, e.payloadType, e.sequenceNumber, e.encodeTimestamp ticks a.timestamp, e.ssrc⟩, payload⟩
    let e := { e with sequenceNumber := e.sequenceNumber + 1 }
    let rpkt := { rpkt with header.marker := true }
    (.ok rpkt.marshal, e)

/-- The packet `Encode` marshals for an accepted AU. -/
def Encoder.packet (e : Encoder) (a : AUAndTimestamp) : Packet :=
  ⟨⟨rtpVersion, true, e.payloadType, e.sequenceNumber, e.encodeTimestamp ticks a.timestamp, e.ssrc⟩,
    ([0x00, 0x10] : List UInt8) ++ putUint16 (UInt16.ofNat a.au.length <<< 3) ++ a.au⟩

/-- One call of `Encode`: the size check comes before any change to the encoder, and nothing after the increment
fails. -/
theorem Encoder.encode_spec (e : Encoder) (a : AUAndTimestamp) :
    (rtpPayloadMaxSize < a.au.length ∧ e.encode ticks a = (.error "data is too big", e)) ∨
      (a.au.length ≤ rtpPayloadMaxSize ∧
        e.encode ticks a = (.ok (e.packet ticks a).marshal, { e with sequenceNumber := e.sequenceNumber + 1 })) := by
  by_cases h : rtpPayloadMaxSize < a.au.length
  · exact .inl ⟨h, if_pos h⟩
  · exact .inr ⟨Nat.le_of_not_lt h, if_neg h⟩

/-! ## The size of a packet -/

/-- The packet of an accepted AU: the RTP header, the AU-headers-length and the AU-header, then the AU. -/
@[simp] theorem Encoder.length_packet_marshal (e : Encoder) (a : AUAndTimestamp) :
    (e.packet ticks a).marshal.length = 12 + (4 + a.au.length) := by
  simp only [Encoder.packet, Packet.length_marshal, putUint16, List.length_append, List.length_cons, List.length_nil]

/-- `Encode` accepts exactly the AUs of at most `rtpPayloadMaxSize` bytes, and returns a packet 16 bytes longer than
the AU: the check bounds the AU, and the RTP payload is the AU-headers section and the AU. -/
theorem Encoder.encode_ok_iff (e : Encoder) (a : AUAndTimestamp) :
    (∃ pkt, (e.encode ticks a).1 = .ok pkt ∧ pkt.length = 12 + (4 + a.au.length)) ↔
      a.au.length ≤ rtpPayloadMaxSize := by
  rcases e.encode_spec ticks a with ⟨hgt, he⟩ | ⟨hle, he⟩
  · refine iff_of_false ?_ (Nat.not_le_of_lt hgt)
    rintro ⟨_, h, -⟩
    rw [he] at h
    cases h
  · exact iff_of_true ⟨_, by rw [he], e.length_packet_marshal ticks a⟩ hle

/-- An AU of `rtpPayloadMaxSize` bytes is accepted: its RTP payload is 4 bytes over `rtpPayloadMaxSize`, and with
the 8-byte UDP and 20-byte IP headers its packet is over the 1500-byte MTU that `rtpPayloadMaxSize` is computed
from. -/
theorem Encoder.encode_over_mtu (e : Encoder) (ts : Int) :
    ∃ pkt, (e.encode ticks ⟨List.replicate rtpPayloadMaxSize 0, ts⟩).1 = .ok pkt ∧ pkt.length = 1476 ∧
      rtpPayloadMaxSize < pkt.length - 12 ∧ 1500 < 20 + 8 + pkt.length := by
  obtain ⟨pkt, he, hl⟩ := (e.encode_ok_iff ticks ⟨List.replicate rtpPayloadMaxSize 0, ts⟩).mpr
    (List.length_replicate _ _).le
  rw [List.length_replicate] at hl
  unfold rtpPayloadMaxSize at hl ⊢
  exact ⟨pkt, he, by omega, by omega, by omega⟩

/-! ## Runs of `Encode` -/

/-- `Encode` called on each AU in turn: what each call returns, and the encoder after them. -/
def Encoder.encodeAll (e : Encoder) : List AUAndTimestamp → List (Except String (List UInt8)) × Encoder
  | [] => ([], e)
  | a :: aus =>
    let r := e.encode ticks a
    let rs := r.2.encodeAll aus
    (r.1 :: rs.1, rs.2)

/-- The packets among the results, in order. -/
def packets (rs : List (Except String (List UInt8))) : List (List UInt8) := rs.filterMap Except.toOption

/-- `pkt` reads back as the `k`-th packet of an encoder that starts at `e`. -/
def Encoder.Numbered (e : Encoder) (k : Nat) (pkt : List UInt8) : Prop :=
  ∃ p, Packet.unmarshal pkt = some p ∧ p.header.version = 2 ∧ p.header.marker = true ∧
    p.header.payloadType.toNat = e.payloadType.toNat % 128 ∧
    p.header.sequenceNumber.toNat = (e.sequenceNumber.toNat + k) % 2 ^ 16 ∧ p.header.ssrc = e.ssrc

theorem Encoder.numbered_packet (e : Encoder) (a : AUAndTimestamp) : e.Numbered 0 (e.packet ticks a).marshal := by
  refine ⟨_, Packet.unmarshal_marshal _ rfl, rfl, rfl, ?_, ?_, rfl⟩
  · show (e.payloadType.toNat % 128) % 256 = _
    omega
  · simpa using (Nat.mod_eq_of_lt e.sequenceNumber.toNat_lt_size).symm

theorem Encoder.numbered_succ {e : Encoder} {k : Nat} {pkt : List UInt8}
    (h : Encoder.Numbered { e with sequenceNumber := e.sequenceNumber + 1 } k pkt) : e.Numbered (k + 1) pkt := by
  obtain ⟨p, hp, hv, hm, ht, hs, hx⟩ := h
  refine ⟨p, hp, hv, hm, ht, ?_, hx⟩
  rw [hs]
  show ((e.sequenceNumber.toNat + 1) % 2 ^ 16 + k) % 2 ^ 16 = _
  omega

/-- Over any sequence of calls, rejected ones included, the `k`-th packet returned carries sequence number `s + k`
modulo `2 ^ 16`, and the encoder ends with `s` plus the number of packets returned. -/
theorem Encoder.encodeAll_packets (e : Encoder) (aus : List AUAndTimestamp) :
    (e.encodeAll ticks aus).2.sequenceNumber.toNat =
        (e.sequenceNumber.toNat + (packets (e.encodeAll ticks aus).1).length) % 2 ^ 16 ∧
      (e.encodeAll ticks aus).2.payloadType = e.payloadType ∧ (e.encodeAll ticks aus).2.ssrc = e.ssrc ∧
      ∀ k pkt, (packets (e.encodeAll ticks aus).1)[k]? = some pkt → e.Numbered k pkt := by
  induction aus generalizing e with
  | nil => simpa [Encoder.encodeAll, packets] using (Nat.mod_eq_of_lt e.sequenceNumber.toNat_lt_size).symm
  | cons a aus ih =>
    rcases e.encode_spec ticks a with ⟨-, he⟩ | ⟨-, he⟩
    · simpa [Encoder.encodeAll, he, packets] using ih e
    · obtain ⟨hseq, hpt, hssrc, hk⟩ := ih { e with sequenceNumber := e.sequenceNumber + 1 }
      simp only [Encoder.encodeAll, he, packets, List.filterMap_cons, Except.toOption] at hseq hpt hssrc hk ⊢
      refine ⟨?_, hpt, hssrc, ?_⟩
      · rw [hseq]
        show ((e.sequenceNumber.toNat + 1) % 2 ^ 16 + _) % 2 ^ 16 = _
        simp only [List.length_cons]
        omega
      · rintro (_ | k) pkt hpkt
        · cases (List.getElem?_cons_zero ▸ hpkt : some _ = some pkt); exact e.numbered_packet ticks a
        · exact Encoder.numbered_succ (hk k pkt (List.getElem?_cons_succ ▸ hpkt))

/-- Numbering over any sequence of calls, rejected ones included: a rejected call leaves the encoder as it was, and
the `k`-th packet returned reads back with sequence number `s + k` modulo `2 ^ 16`, version 2, the marker, the SSRC
and the payload type modulo 128. -/
theorem Encoder.encodeAll_numbered (e : Encoder) (aus : List AUAndTimestamp) :
    (∀ a, rtpPayloadMaxSize < a.au.length → e.encode ticks a = (.error "data is too big", e)) ∧
      ∀ k pkt, (packets (e.encodeAll ticks aus).1)[k]? = some pkt → e.Numbered k pkt := by
  refine ⟨fun a ha => ?_, (e.encodeAll_packets ticks aus).2.2.2⟩
  rcases e.encode_spec ticks a with ⟨-, he⟩ | ⟨hle, -⟩
  · exact he
  · exact absurd ha (Nat.not_lt_of_le hle)

/-- A payload type of 200 reads back as 72: the marker bit is OR-ed into its top bit. -/
theorem Encoder.encode_payloadType_200 :
    (((newEncoder 200 48000 (some 0) (some 0) (some 0) 0 0 0).encode (fun _ _ => 0) ⟨[1], 0⟩).1.toOption.bind
      Packet.unmarshal).map (·.header.payloadType) = some 72 := by
  decide

/-! ## Reading the payload back (RFC 3640, AAC-hbr) -/

/-- `n` AU-headers of 16 bits, each a 13-bit AU-size and a 3-bit AU-index, and the bytes after them. -/
def readAUHeaders : Nat → List UInt8 → Option (List (Nat × Nat) × List UInt8)
  | 0, rest => some ([], rest)
  | n + 1, b₀ :: b₁ :: rest =>
    (readAUHeaders n rest).map fun r =>
      (((b₀.toNat * 2 ^ 8 + b₁.toNat) / 8, (b₀.toNat * 2 ^ 8 + b₁.toNat) % 8) :: r.1, r.2)
  | _ + 1, _ => none

/-- The AUs of the given sizes, each with its index; the data ends with the last AU. -/
def readAUs : List (Nat × Nat) → List UInt8 → Option (List (List UInt8 × Nat))
  | [], rest => if rest = [] then some [] else none
  | (size, index) :: hs, data =>
    if size ≤ data.length then (readAUs hs (data.drop size)).map ((data.take size, index) :: ·) else none

/-- An RFC 3640 AAC-hbr depacketizer: the AU-headers-length in bits, the AU-headers, then the AUs. -/
def depacketize : List UInt8 → Option (List (List UInt8 × Nat))
  | l₀ :: l₁ :: rest =>
    if (l₀.toNat * 2 ^ 8 + l₁.toNat) % 16 = 0 then
      (readAUHeaders ((l₀.toNat * 2 ^ 8 + l₁.toNat) / 16) rest).bind fun r => readAUs r.1 r.2
    else none
  | _ => none

/-- The AU-header of an AU of at most `rtpPayloadMaxSize` bytes: the length times 8, with no overflow. -/
theorem putUint16_auHeader {n : Nat} (h : n ≤ rtpPayloadMaxSize) :
    putUint16 (UInt16.ofNat n <<< 3) = [UInt8.ofNat (n * 8 / 2 ^ 8), UInt8.ofNat (n * 8)] := by
  have h3 : (UInt16.ofNat n <<< 3).toNat = n * 8 := by
    show ((UInt16.ofNat n).toBitVec <<< (3 % 16 : Nat)).toNat = _
    simp only [BitVec.toNat_shiftLeft, Nat.shiftLeft_eq]
    show n % 65536 * 8 % 65536 = _
    unfold rtpPayloadMaxSize at h
    omega
  rw [putUint16_eq, h3]

/-- An accepted AU is sent as `0x00 0x10`, the big-endian length times 8, and the AU; an RFC 3640 AAC-hbr
depacketizer reads back exactly this AU, with index 0. -/
theorem Encoder.encode_payload (e : Encoder) (a : AUAndTimestamp) (h : a.au.length ≤ rtpPayloadMaxSize) :
    ∃ pkt, (e.encode ticks a).1 = .ok pkt ∧
      (Packet.unmarshal pkt).map Packet.payload = some (0x00 :: 0x10 :: UInt8.ofNat (a.au.length * 8 / 2 ^ 8) ::
        UInt8.ofNat (a.au.length * 8) :: a.au) ∧
      depacketize (0x00 :: 0x10 :: UInt8.ofNat (a.au.length * 8 / 2 ^ 8) :: UInt8.ofNat (a.au.length * 8) :: a.au) =
        some [(a.au, 0)] := by
  rcases e.encode_spec ticks a with ⟨hgt, -⟩ | ⟨-, he⟩
  · exact absurd h (Nat.not_le_of_lt hgt)
  refine ⟨_, by rw [he], ?_, ?_⟩
  · rw [Packet.unmarshal_marshal _ rfl]
    simp [Encoder.packet, putUint16_auHeader h]
  · have hv : (UInt8.ofNat (a.au.length * 8 / 256)).toNat * 256 + (UInt8.ofNat (a.au.length * 8)).toNat =
        a.au.length * 8 := by
      show _ / 256 % 256 * 256 + _ % 256 = _
      unfold rtpPayloadMaxSize at h
      omega
    have h16 : (0x00 : UInt8).toNat * 2 ^ 8 + (0x10 : UInt8).toNat = 16 := rfl
    simp only [depacketize, h16]
    simp [readAUHeaders, readAUs, hv]

theorem Encoder.encode_payload_three_bytes :
    let a : AUAndTimestamp := ⟨[1, 2, 3], 0⟩
    a.au.length ≤ rtpPayloadMaxSize ∧
      ∃ pkt, ((newEncoder 96 48000 (some 0) (some 0) (some 0) 0 0 0).encode (fun _ _ => 0) a).1 = .ok pkt ∧
        (Packet.unmarshal pkt).map Packet.payload = some (0x00 :: 0x10 :: UInt8.ofNat (a.au.length * 8 / 2 ^ 8) ::
          UInt8.ofNat (a.au.length * 8) :: a.au) ∧
        depacketize (0x00 :: 0x10 :: UInt8.ofNat (a.au.length * 8 / 2 ^ 8) :: UInt8.ofNat (a.au.length * 8) :: a.au) =
          some [(a.au, 0)] :=
  ⟨by decide, Encoder.encode_payload (fun _ _ => 0) _ _ (by decide)⟩

end Encode

/-! ## Receiving a whole stream -/

/-- A receiver of the stream: the RTP header of a packet, and the AUs an RFC 3640 AAC-hbr depacketizer reads from its
payload. -/
def receive (pkt : List UInt8) : Option (Header × List (List UInt8 × Nat)) :=
  (Packet.unmarshal pkt).bind fun p => (depacketize p.payload).map (p.header, ·)

/-- Numbering from `s + 1` is numbering from `s`, one later. -/
theorem UInt16.add_one_add_ofNat (s : UInt16) (k : Nat) : s + 1 + UInt16.ofNat k = s + UInt16.ofNat (k + 1) := by
  apply UInt16.toNat.inj
  show ((s.toNat + 1 % 2 ^ 16) % 2 ^ 16 + k % 2 ^ 16) % 2 ^ 16 = (s.toNat + (k + 1) % 2 ^ 16) % 2 ^ 16
  omega

theorem UInt16.add_ofNat_zero (s : UInt16) : s + UInt16.ofNat 0 = s := by
  apply UInt16.toNat.inj
  show (s.toNat + 0 % 2 ^ 16) % 2 ^ 16 = s.toNat
  have : s.toNat < 2 ^ 16 := s.toNat_lt_size
  omega

section Receive

variable (ticks : Int → Int → UInt32)

/-- The packet of an accepted AU reads back with the encoder's fields and the marker, and carries that AU alone. -/
theorem Encoder.receive_packet (e : Encoder) (a : AUAndTimestamp) (h : a.au.length ≤ rtpPayloadMaxSize) :
    receive (e.packet ticks a).marshal = some (⟨rtpVersion, true, UInt8.ofNat (e.payloadType.toNat % 128),
      e.sequenceNumber, e.encodeTimestamp ticks a.timestamp, e.ssrc⟩, [(a.au, 0)]) := by
  have hv : (UInt8.ofNat (a.au.length * 8 / 256)).toNat * 256 + (UInt8.ofNat (a.au.length * 8)).toNat =
      a.au.length * 8 := by
    show _ / 256 % 256 * 256 + _ % 256 = _
    unfold rtpPayloadMaxSize at h
    omega
  have h16 : (0x00 : UInt8).toNat * 2 ^ 8 + (0x10 : UInt8).toNat = 16 := rfl
  have hver : UInt8.ofNat (rtpVersion.toNat % 4) = rtpVersion := rfl
  rw [receive, Packet.unmarshal_marshal _ rfl]
  simp only [Encoder.packet, putUint16_auHeader h, Option.some_bind, List.append_assoc, List.cons_append,
    List.nil_append, depacketize, h16]
  simp [readAUHeaders, readAUs, hv, hver]

/-- Over any sequence of calls, rejected ones included, a receiver reads the packets `Encode` returned as exactly the
AUs it accepted, in order, each alone in its packet with index 0: the `k`-th with sequence number `s + k`, the
timestamp of its AU, the marker, the encoder's SSRC and its payload type modulo 128. -/
theorem Encoder.encodeAll_receive (e : Encoder) (aus : List AUAndTimestamp) :
    (packets (e.encodeAll ticks aus).1).map receive =
      (aus.filter fun a => a.au.length ≤ rtpPayloadMaxSize).mapIdx fun k a =>
        some (⟨rtpVersion, true, UInt8.ofNat (e.payloadType.toNat % 128), e.sequenceNumber + UInt16.ofNat k,
          e.encodeTimestamp ticks a.timestamp, e.ssrc⟩, [(a.au, 0)]) := by
  induction aus generalizing e with
  | nil => rfl
  | cons a aus ih =>
    rcases e.encode_spec ticks a with ⟨hgt, he⟩ | ⟨hle, he⟩
    · simp only [Encoder.encodeAll, he, packets, List.filterMap_cons, Except.toOption] at ih ⊢
      rw [ih, List.filter_cons_of_neg (by simpa using hgt)]
    · simp only [Encoder.encodeAll, he, packets, List.filterMap_cons, Except.toOption] at ih ⊢
      rw [List.map_cons, ih, List.filter_cons_of_pos (by simpa using hle), List.mapIdx_cons,
        e.receive_packet ticks a hle]
      congr 1
      · rw [UInt16.add_ofNat_zero]
      · congr 1
        funext k a'
        rw [UInt16.add_one_add_ofNat]
        rfl

end Receive

end Gortsplib.Rtpaac
