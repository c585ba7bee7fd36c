import Mathlib.Data.Nat.Bitwise

/-!
# RTP packets

The part of `github.com/pion/rtp` that `rtpaac.Encoder` uses. `Packet.Marshal` writes the fixed header of RFC 3550
§5.1 (`Header.marshal`, after pion's `Header.MarshalTo`) and then the payload. `Encode` sets no padding, no header
extension and no CSRC, so those fields are left out; the only failures of `Marshal` are a short buffer and a bad
extension, so it cannot fail here. `Packet.unmarshal` reads the fixed header back as the RFC lays it out: the version
in the top two bits of the first byte, the marker in the top bit of the second byte and the payload type in its low
seven bits, then three big-endian words.

* `Packet.length_marshal`: a marshalled packet is the 12 bytes of the fixed header and the payload;
* `Packet.unmarshal_marshal`: a marshalled packet with its marker set reads back with the same payload, sequence
  number, timestamp and SSRC, the version modulo 4 and the payload type modulo 128: the marker bit is OR-ed into the
  byte that holds the payload type.
-/

namespace Gortsplib.Rtp

/-- `rtp.Header`, with the fields `Encode` sets. -/
structure Header where
  version : UInt8
  marker : Bool
  payloadType : UInt8
  sequenceNumber : UInt16
  timestamp : UInt32
  ssrc : UInt32
  deriving DecidableEq, Repr

/-- `rtp.Packet`. -/
structure Packet where
  header : Header
  payload : List UInt8
  deriving DecidableEq, Repr

/-! ## Writing -/

/-- `binary.BigEndian.PutUint16`. -/
def putUint16 (v : UInt16) : List UInt8 := [(v >>> 8).toUInt8, v.toUInt8]

/-- `binary.BigEndian.PutUint32`. -/
def putUint32 (v : UInt32) : List UInt8 := [(v >>> 24).toUInt8, (v >>> 16).toUInt8, (v >>> 8).toUInt8, v.toUInt8]

/-- `Header.MarshalTo` without padding, extension and CSRC (`versionShift = 6`, `markerShift = 7`). -/
def Header.marshal (h : Header) : List UInt8 :=
  (h.version <<< 6) :: (if h.marker then h.payloadType ||| 0x80 else h.payloadType) ::
    (putUint16 h.sequenceNumber ++ putUint32 h.timestamp ++ putUint32 h.ssrc)

/-- `Packet.Marshal`. -/
def Packet.marshal (p : Packet) : List UInt8 := p.header.marshal ++ p.payload

/-- The fixed header is twelve bytes. -/
@[simp] theorem Header.length_marshal (h : Header) : h.marshal.length = 12 := rfl

@[simp] theorem Packet.length_marshal (p : Packet) : p.marshal.length = 12 + p.payload.length := by
  simp [Packet.marshal]

/-! ## Reading -/

/-- A big-endian 16-bit word. -/
def be16 (b₀ b₁ : UInt8) : UInt16 := UInt16.ofNat (b₀.toNat * 2 ^ 8 + b₁.toNat)

/-- A big-endian 32-bit word. -/
def be32 (b₀ b₁ b₂ b₃ : UInt8) : UInt32 :=
  UInt32.ofNat (b₀.toNat * 2 ^ 24 + b₁.toNat * 2 ^ 16 + b₂.toNat * 2 ^ 8 + b₃.toNat)

/-- The fixed header of RFC 3550 §5.1 read from the front of a packet, and the rest as its payload; `none` for fewer
than 12 bytes, and for a packet with padding, a header extension or CSRC, which are not read here. -/
def Packet.unmarshal : List UInt8 → Option Packet
  | b₀ :: b₁ :: s₀ :: s₁ :: t₀ :: t₁ :: t₂ :: t₃ :: c₀ :: c₁ :: c₂ :: c₃ :: payload =>
    if b₀.toNat % 64 = 0 then
      some ⟨⟨UInt8.ofNat (b₀.toNat / 64), b₁.toNat / 128 = 1, UInt8.ofNat (b₁.toNat % 128), be16 s₀ s₁,
        be32 t₀ t₁ t₂ t₃, be32 c₀ c₁ c₂ c₃⟩, payload⟩
    else none
  | _ => none

/-! ## Reading back -/

theorem or_128 {n : Nat} (h : n < 256) : n ||| 128 = n % 128 + 128 := by
  have e : n % 128 + 128 = 2 ^ 7 * 1 ||| n % 2 ^ 7 := by
    rw [← Nat.mul_add_lt_is_or (Nat.mod_lt _ (by decide))]; omega
  rw [e]
  apply Nat.eq_of_testBit_eq
  intro i
  simp only [Nat.testBit_or, Nat.mul_one, Nat.testBit_mod_two_pow, Nat.testBit_two_pow,
    show (128 : Nat) = 2 ^ 7 from rfl]
  rcases Nat.lt_trichotomy i 7 with hi | rfl | hi
  · simp [hi, show (7 : Nat) ≠ i by omega]
  · simp
  · have : n.testBit i = false :=
      Nat.testBit_eq_false_of_lt (lt_of_lt_of_le h (Nat.pow_le_pow_right (show 2 > 0 by decide) (show 8 ≤ i by omega)))
    simp [this, show ¬i < 7 by omega, show (7 : Nat) ≠ i by omega]

@[simp] theorem toNat_or_0x80 (v : UInt8) : (v ||| 0x80).toNat = v.toNat % 128 + 128 :=
  or_128 v.toNat_lt_size

@[simp] theorem toNat_shiftLeft_6 (v : UInt8) : (v <<< 6).toNat = v.toNat * 64 % 256 := by
  show (v.toBitVec <<< (6 % 8 : Nat)).toNat = _
  simp [Nat.shiftLeft_eq]; rfl

theorem putUint16_eq (v : UInt16) : putUint16 v = [UInt8.ofNat (v.toNat / 2 ^ 8), UInt8.ofNat v.toNat] := by
  have h8 : (v >>> 8).toNat = v.toNat / 2 ^ 8 := by
    show (v.toBitVec >>> (8 % 16 : Nat)).toNat = _
    simp [Nat.shiftRight_eq_div_pow]; rfl
  show [UInt8.ofNat (v >>> 8).toNat, _] = _
  rw [h8]; rfl

theorem be16_putUint16 (v : UInt16) : be16 (v >>> 8).toUInt8 v.toUInt8 = v := by
  have hv : v.toNat < 2 ^ 16 := v.toNat_lt_size
  have h := putUint16_eq v
  simp only [putUint16, List.cons.injEq, and_true] at h
  rw [h.1, h.2]
  apply UInt16.toNat.inj
  change (v.toNat / 2 ^ 8 % 256 * 2 ^ 8 + v.toNat % 256) % 2 ^ 16 = v.toNat
  omega

/-- A right shift of a 32-bit word by less than 32 bits divides it by a power of two. -/
theorem toNat_shiftRight32 (v : UInt32) {k : Nat} (hk : k < 32) : (v >>> UInt32.ofNat k).toNat = v.toNat / 2 ^ k := by
  show (v.toBitVec >>> (k % 2 ^ 32 % 32 : Nat)).toNat = _
  rw [Nat.mod_eq_of_lt (by omega : k < 2 ^ 32), Nat.mod_eq_of_lt hk, BitVec.toNat_ushiftRight, Nat.shiftRight_eq_div_pow]
  rfl

theorem be32_putUint32 (v : UInt32) :
    be32 (v >>> 24).toUInt8 (v >>> 16).toUInt8 (v >>> 8).toUInt8 v.toUInt8 = v := by
  have hv : v.toNat < 2 ^ 32 := v.toNat_lt_size
  apply UInt32.toNat.inj
  change ((v >>> UInt32.ofNat 24).toNat % 256 * 2 ^ 24 + (v >>> UInt32.ofNat 16).toNat % 256 * 2 ^ 16 +
    (v >>> UInt32.ofNat 8).toNat % 256 * 2 ^ 8 + v.toNat % 256) % 2 ^ 32 = v.toNat
  rw [toNat_shiftRight32 v (by decide : 24 < 32), toNat_shiftRight32 v (by decide : 16 < 32),
    toNat_shiftRight32 v (by decide : 8 < 32)]
  omega

/-- Reading a marshalled packet whose marker is set. -/
theorem Packet.unmarshal_marshal (p : Packet) (hm : p.header.marker = true) :
    Packet.unmarshal p.marshal = some ⟨⟨UInt8.ofNat (p.header.version.toNat % 4), true,
      UInt8.ofNat (p.header.payloadType.toNat % 128), p.header.sequenceNumber, p.header.timestamp, p.header.ssrc⟩,
      p.payload⟩ := by
  obtain ⟨⟨v, m, pt, s, t, c⟩, payload⟩ := p
  simp only at hm
  subst hm
  have hv := v.toNat_lt_size
  have hpt := pt.toNat_lt_size
  have h0 : v.toNat * 64 % 256 % 64 = 0 := by omega
  simp only [Packet.marshal, Header.marshal, putUint16, putUint32, if_true, List.cons_append, List.singleton_append,
    List.append_assoc, List.nil_append, Packet.unmarshal, toNat_shiftLeft_6, toNat_or_0x80, h0, if_true, be16_putUint16,
    be32_putUint32, Option.some.injEq, Packet.mk.injEq, Header.mk.injEq, and_true]
  change _ < 256 at hv hpt
  refine ⟨congrArg UInt8.ofNat (by omega), decide_eq_true (by omega), congrArg UInt8.ofNat (by omega)⟩

end Gortsplib.Rtp
