import NovaIIM.Framing
import NovaIIM.LittleEndian
import NovaIIM.Types

/-!
Packets as bytes (`nova/packet.h`).

`encode` and `decode` are the binary frame: 18 bytes of header, which end in the length of
the body, and the body. The gateway cuts the stream of a connection into packages by a
length field at an offset of its own (`kUnpackSetting`), and both agree on where a packet
ends.
-/
namespace NovaIIM

def kHeaderSize : Nat := 18

/-- 1 MB. -/
def kMaxBodySize : Nat := 1 * 1024 * 1024

/-- A packet with its body as the bytes of the frame. -/
structure RawPacket where
  cmd : UInt16 := 0
  seq : UInt32 := 0
  uid : UInt64 := 0
  body : Bytes
deriving DecidableEq, Repr

namespace RawPacket

def writeLE16 (v : UInt16) : Bytes := writeLE 2 v.toNat
def writeLE32 (v : UInt32) : Bytes := writeLE 4 v.toNat
def writeLE64 (v : UInt64) : Bytes := writeLE 8 v.toNat
def readLE16 (src : Bytes) : UInt16 := UInt16.ofNat (readLE (src.take 2))
def readLE32 (src : Bytes) : UInt32 := UInt32.ofNat (readLE (src.take 4))
def readLE64 (src : Bytes) : UInt64 := UInt64.ofNat (readLE (src.take 8))

/-- `Packet::Encode`; the empty text for a body that is too large. -/
def encode (p : RawPacket) : Bytes :=
  if kMaxBodySize < p.body.length then []
  else writeLE16 p.cmd ++ writeLE32 p.seq ++ writeLE64 p.uid ++ writeLE32 (UInt32.ofNat p.body.length) ++ p.body

/-- `Packet::Decode`. -/
def decode (data : Bytes) : Option RawPacket :=
  if data.length < kHeaderSize then none
  else
    let bodyLen := (readLE32 (data.drop 14)).toNat
    if kMaxBodySize < bodyLen then none
    else if data.length - kHeaderSize < bodyLen then none
    else some
      { cmd := readLE16 data
        seq := readLE32 (data.drop 2)
        uid := readLE64 (data.drop 6)
        body := (data.drop kHeaderSize).take bodyLen }

/-! ### The fields -/

theorem readLE16_writeLE16 (v : UInt16) (rest : Bytes) : readLE16 (writeLE16 v ++ rest) = v := by
  have fits : v.toNat < 256 ^ 2 := v.toNat_lt
  have first : (writeLE16 v ++ rest).take 2 = writeLE 2 v.toNat := List.take_left' (length_writeLE 2 _)
  rw [readLE16, first, readLE_writeLE_of_lt fits, UInt16.ofNat_toNat]

theorem readLE32_writeLE32 (v : UInt32) (rest : Bytes) : readLE32 (writeLE32 v ++ rest) = v := by
  have fits : v.toNat < 256 ^ 4 := v.toNat_lt
  have first : (writeLE32 v ++ rest).take 4 = writeLE 4 v.toNat := List.take_left' (length_writeLE 4 _)
  rw [readLE32, first, readLE_writeLE_of_lt fits, UInt32.ofNat_toNat]

theorem readLE64_writeLE64 (v : UInt64) (rest : Bytes) : readLE64 (writeLE64 v ++ rest) = v := by
  have fits : v.toNat < 256 ^ 8 := v.toNat_lt
  have first : (writeLE64 v ++ rest).take 8 = writeLE 8 v.toNat := List.take_left' (length_writeLE 8 _)
  rw [readLE64, first, readLE_writeLE_of_lt fits, UInt64.ofNat_toNat]

/-- Bytes that are read are the bytes that are written. -/
theorem writeLE_take {width v : Nat} {src : Bytes} (enough : width ≤ src.length) (same : v = readLE (src.take width)) :
    writeLE width v = src.take width := by
  have length : (src.take width).length = width := List.length_take_of_le enough
  have whole := writeLE_readLE (src.take width)
  rwa [length, ← same] at whole

theorem writeLE16_readLE16 {src : Bytes} (enough : 2 ≤ src.length) : writeLE16 (readLE16 src) = src.take 2 := by
  refine writeLE_take enough ?_
  have fits := readLE_lt (src.take 2)
  rw [List.length_take_of_le enough] at fits
  exact UInt16.toNat_ofNat_of_lt' fits

theorem writeLE32_readLE32 {src : Bytes} (enough : 4 ≤ src.length) : writeLE32 (readLE32 src) = src.take 4 := by
  refine writeLE_take enough ?_
  have fits := readLE_lt (src.take 4)
  rw [List.length_take_of_le enough] at fits
  exact UInt32.toNat_ofNat_of_lt' fits

theorem writeLE64_readLE64 {src : Bytes} (enough : 8 ≤ src.length) : writeLE64 (readLE64 src) = src.take 8 := by
  refine writeLE_take enough ?_
  have fits := readLE_lt (src.take 8)
  rw [List.length_take_of_le enough] at fits
  exact UInt64.toNat_ofNat_of_lt' fits

/-! ### Packets -/

/-- The length field of a text with a whole header. -/
def bodyLen (data : Bytes) : Nat := (readLE32 (data.drop 14)).toNat

theorem length_writeLE16 (v : UInt16) : (writeLE16 v).length = 2 := length_writeLE 2 _
theorem length_writeLE32 (v : UInt32) : (writeLE32 v).length = 4 := length_writeLE 4 _
theorem length_writeLE64 (v : UInt64) : (writeLE64 v).length = 8 := length_writeLE 8 _

variable {p : RawPacket} {d : Bytes}

theorem length_encode (fits : p.body.length ≤ kMaxBodySize) : p.encode.length = kHeaderSize + p.body.length := by
  simp only [encode, if_neg (Nat.not_lt.mpr fits), List.length_append, length_writeLE16, length_writeLE32,
    length_writeLE64, kHeaderSize]

/-- Only a body that is too large is encoded as nothing. -/
theorem encode_eq_nil : p.encode = [] ↔ kMaxBodySize < p.body.length := by
  constructor
  · intro empty
    by_contra fits
    have length := length_encode (Nat.le_of_not_lt fits)
    rw [empty, List.length_nil, kHeaderSize] at length
    omega
  · intro large
    rw [encode, if_pos large]

/-- The fields of a frame, wherever the stream goes on. -/
private theorem drops (fits : p.body.length ≤ kMaxBodySize) (t : Bytes) :
    readLE16 (p.encode ++ t) = p.cmd ∧ readLE32 ((p.encode ++ t).drop 2) = p.seq ∧
      readLE64 ((p.encode ++ t).drop 6) = p.uid ∧
      readLE32 ((p.encode ++ t).drop 14) = UInt32.ofNat p.body.length ∧
      (p.encode ++ t).drop kHeaderSize = p.body ++ t := by
  have whole : p.encode ++ t = writeLE16 p.cmd ++ (writeLE32 p.seq ++ (writeLE64 p.uid ++
      (writeLE32 (UInt32.ofNat p.body.length) ++ (p.body ++ t)))) := by
    simp only [encode, if_neg (Nat.not_lt.mpr fits), List.append_assoc]
  have after_cmd : (p.encode ++ t).drop 2 = writeLE32 p.seq ++ (writeLE64 p.uid ++
      (writeLE32 (UInt32.ofNat p.body.length) ++ (p.body ++ t))) := by
    rw [whole]
    exact List.drop_left' (length_writeLE16 _)
  have after_seq : (p.encode ++ t).drop 6 = writeLE64 p.uid ++
      (writeLE32 (UInt32.ofNat p.body.length) ++ (p.body ++ t)) := by
    rw [show 6 = 2 + 4 from rfl, ← List.drop_drop, after_cmd]
    exact List.drop_left' (length_writeLE32 _)
  have after_uid : (p.encode ++ t).drop 14 = writeLE32 (UInt32.ofNat p.body.length) ++ (p.body ++ t) := by
    rw [show 14 = 6 + 8 from rfl, ← List.drop_drop, after_seq]
    exact List.drop_left' (length_writeLE64 _)
  refine ⟨?_, ?_, ?_, ?_, ?_⟩
  · rw [whole, readLE16_writeLE16]
  · rw [after_cmd, readLE32_writeLE32]
  · rw [after_seq, readLE64_writeLE64]
  · rw [after_uid, readLE32_writeLE32]
  · rw [kHeaderSize, show 18 = 14 + 4 from rfl, ← List.drop_drop, after_uid]
    exact List.drop_left' (length_writeLE32 _)

/-- The length of a body that fits is a word. -/
theorem toNat_length (fits : p.body.length ≤ kMaxBodySize) : (UInt32.ofNat p.body.length).toNat = p.body.length := by
  have bound : kMaxBodySize < 2 ^ 32 := by decide
  exact UInt32.toNat_ofNat_of_lt' (Nat.lt_of_le_of_lt fits bound)

theorem bodyLen_encode (fits : p.body.length ≤ kMaxBodySize) (t : Bytes) : bodyLen (p.encode ++ t) = p.body.length := by
  rw [bodyLen, (drops fits t).2.2.2.1, toNat_length fits]

/-- What is encoded is decoded, with anything behind it. -/
theorem decode_encode (fits : p.body.length ≤ kMaxBodySize) (t : Bytes) : decode (p.encode ++ t) = some p := by
  obtain ⟨cmd, seq, uid, -, body⟩ := drops fits t
  have bodyLen : (readLE32 ((p.encode ++ t).drop 14)).toNat = p.body.length := bodyLen_encode fits t
  have length := length_encode fits
  have enough : ¬(p.encode ++ t).length < kHeaderSize := by
    rw [List.length_append]
    omega
  have whole : ¬(p.encode ++ t).length - kHeaderSize < p.body.length := by
    rw [List.length_append]
    omega
  simp only [decode, bodyLen, cmd, seq, uid, body, List.take_left, if_neg enough, if_neg whole,
    if_neg (Nat.not_lt.mpr fits)]

/-- Whether a text is decoded depends on its header and its length. -/
theorem decode_isSome :
    (decode d).isSome ↔ kHeaderSize ≤ d.length ∧ bodyLen d ≤ kMaxBodySize ∧ kHeaderSize + bodyLen d ≤ d.length := by
  unfold decode
  by_cases short : d.length < kHeaderSize
  · simp [short]
  · rw [if_neg short]
    by_cases large : kMaxBodySize < bodyLen d
    · have large' : kMaxBodySize < (readLE32 (d.drop 14)).toNat := large
      simp [large', large]
    · have fits : ¬kMaxBodySize < (readLE32 (d.drop 14)).toNat := large
      by_cases cut : d.length - kHeaderSize < bodyLen d
      · have cut' : d.length - kHeaderSize < (readLE32 (d.drop 14)).toNat := cut
        simp only [fits, cut', if_true, if_false]
        refine iff_of_false (by simp) ?_
        omega
      · have whole : ¬d.length - kHeaderSize < (readLE32 (d.drop 14)).toNat := cut
        simp only [fits, whole, if_false]
        refine iff_of_true rfl ?_
        omega

theorem decode_eq (decoded : decode d = some p) :
    p = { cmd := readLE16 d, seq := readLE32 (d.drop 2), uid := readLE64 (d.drop 6),
          body := (d.drop kHeaderSize).take (bodyLen d) } := by
  unfold decode at decoded
  split at decoded
  · cases decoded
  dsimp only at decoded
  split at decoded
  · cases decoded
  split at decoded
  · cases decoded
  · exact (Option.some.inj decoded).symm

/-- What is decoded is encoded as it was. -/
theorem encode_decode (decoded : decode d = some p) :
    p.body.length ≤ kMaxBodySize ∧ p.body.length = bodyLen d ∧ p.encode = d.take (kHeaderSize + p.body.length) := by
  obtain ⟨header, fits, whole⟩ := decode_isSome.mp (by rw [decoded]; rfl)
  have length : p.body.length = bodyLen d := by
    rw [decode_eq decoded, List.length_take, List.length_drop]
    omega
  have long : 18 ≤ d.length := header
  refine ⟨length ▸ fits, length, ?_⟩
  have field : UInt32.ofNat p.body.length = readLE32 (d.drop 14) := by
    rw [length, bodyLen, UInt32.ofNat_toNat]
  have cmd : writeLE16 p.cmd = d.take 2 := by
    rw [decode_eq decoded]
    exact writeLE16_readLE16 (by omega)
  have seq : writeLE32 p.seq = (d.drop 2).take 4 := by
    rw [decode_eq decoded]
    exact writeLE32_readLE32 (by rw [List.length_drop]; omega)
  have uid : writeLE64 p.uid = (d.drop 6).take 8 := by
    rw [decode_eq decoded]
    exact writeLE64_readLE64 (by rw [List.length_drop]; omega)
  have size : writeLE32 (UInt32.ofNat p.body.length) = (d.drop 14).take 4 := by
    rw [field]
    exact writeLE32_readLE32 (by rw [List.length_drop]; omega)
  have body : p.body = (d.drop 18).take p.body.length := by
    rw [length]
    exact congrArg RawPacket.body (decode_eq decoded)
  have large : ¬kMaxBodySize < p.body.length := Nat.not_lt.mpr (length ▸ fits)
  calc p.encode = d.take 2 ++ (d.drop 2).take 4 ++ (d.drop 6).take 8 ++ (d.drop 14).take 4 ++ p.body := by
        rw [encode, if_neg large, cmd, seq, uid, size]
    _ = d.take 18 ++ p.body := by
        simp only [show 6 = 2 + 4 from rfl, show 14 = 6 + 8 from rfl, show 18 = 14 + 4 from rfl, List.take_add]
    _ = d.take (kHeaderSize + p.body.length) := by
        rw [kHeaderSize, List.take_add, ← body]

end RawPacket

/-! ### The stream of a connection -/

inductive LengthCoding where
  | bigEndian | littleEndian
deriving DecidableEq, Repr

/-- Where a package has the length of its body (`unpack_setting_t`). -/
structure UnpackSetting where
  packageMaxLength : Nat
  bodyOffset : Nat
  lengthFieldOffset : Nat
  lengthFieldBytes : Nat
  lengthFieldCoding : LengthCoding
  positive : 0 < bodyOffset
  inside : lengthFieldOffset + lengthFieldBytes ≤ bodyOffset

namespace UnpackSetting

def lengthField (s : UnpackSetting) (bytes : Bytes) : Bytes := (bytes.drop s.lengthFieldOffset).take s.lengthFieldBytes

/-- The number in a length field. -/
def decodeLength : LengthCoding → Bytes → Nat
  | .littleEndian, field => readLE field
  | .bigEndian, field => readLE field.reverse

/-- A package is cut off by its length field. -/
def framing (s : UnpackSetting) : Framing UInt8 where
  header := s.bodyOffset
  body bytes := decodeLength s.lengthFieldCoding (s.lengthField bytes)
  positive := s.positive
  body_append bytes rest enough := by
    have short : s.lengthFieldOffset ≤ bytes.length := by
      have := s.inside
      omega
    have whole : s.lengthFieldBytes ≤ (bytes.drop s.lengthFieldOffset).length := by
      have := s.inside
      rw [List.length_drop]
      omega
    rw [lengthField, List.drop_append_of_le_length short, List.take_append_of_le_length whole, lengthField]

end UnpackSetting

namespace Gateway

def kLengthFieldOffset : Nat := 2 + 4 + 8

/-- The setting of `Gateway::Start`. -/
def unpackSetting : UnpackSetting where
  packageMaxLength := kHeaderSize + kMaxBodySize
  bodyOffset := kHeaderSize
  lengthFieldOffset := kLengthFieldOffset
  lengthFieldBytes := 4
  lengthFieldCoding := .littleEndian
  positive := by decide
  inside := by decide

end Gateway

namespace RawPacket

/-- An encoded packet is a package of the gateway. -/
theorem isFrame_encode {p : RawPacket} (fits : p.body.length ≤ kMaxBodySize) :
    Gateway.unpackSetting.framing.IsFrame p.encode where
  header := by
    rw [length_encode fits]
    exact Nat.le_add_right _ _
  whole := by
    have field : readLE ((p.encode.drop 14).take 4) = p.body.length := by
      have word := bodyLen_encode fits []
      have bound := readLE_lt ((p.encode.drop 14).take 4)
      have four : ((p.encode.drop 14).take 4).length ≤ 4 := List.length_take_le _ _
      have small : readLE ((p.encode.drop 14).take 4) < 2 ^ 32 :=
        Nat.lt_of_lt_of_le bound (Nat.pow_le_pow_right (by decide) four)
      rw [List.append_nil] at word
      rwa [bodyLen, readLE32, UInt32.toNat_ofNat_of_lt' small] at word
    rw [length_encode fits]
    exact congrArg (kHeaderSize + ·) field

/-- The binary codec: decoding undoes encoding and accepts nothing else, and the gateway cuts a
    stream of packets, in whatever pieces it comes, into the packets. -/
theorem binary_codec :
    (∀ (p : RawPacket) (t : Bytes), p.body.length ≤ kMaxBodySize → decode (p.encode ++ t) = some p) ∧
    (∀ (d : Bytes) (p : RawPacket), decode d = some p → p.encode = d.take (kHeaderSize + bodyLen d)) ∧
    (∀ d : Bytes, (decode d).isSome ↔
      kHeaderSize ≤ d.length ∧ bodyLen d ≤ kMaxBodySize ∧ kHeaderSize + bodyLen d ≤ d.length) ∧
    (∀ p : RawPacket, p.encode = [] ↔ kMaxBodySize < p.body.length) ∧
    ∀ (ps : List RawPacket) (pieces : List Bytes), (∀ p ∈ ps, p.body.length ≤ kMaxBodySize) →
      pieces.flatten = (ps.map encode).flatten →
      pieces.foldl Gateway.unpackSetting.framing.receive ([], []) = (ps.map encode, []) ∧
        (ps.map encode).map decode = ps.map some ∧
        ∀ frame ∈ ps.map encode, frame.length ≤ Gateway.unpackSetting.packageMaxLength := by
  refine ⟨fun p t fits => decode_encode fits t, fun d p decoded => ?_, fun d => decode_isSome, fun p => encode_eq_nil,
    fun ps pieces fits same => ⟨?_, ?_, ?_⟩⟩
  · obtain ⟨-, length, whole⟩ := encode_decode decoded
    rw [whole, length]
  · rw [Framing.receive_foldl, same]
    refine Framing.split_flatten fun frame inside => ?_
    obtain ⟨p, there, rfl⟩ := List.mem_map.mp inside
    exact isFrame_encode (fits p there)
  · rw [List.map_map]
    refine List.map_congr_left fun p inside => ?_
    have decoded := decode_encode (fits p inside) []
    rwa [List.append_nil] at decoded
  · intro frame inside
    obtain ⟨p, there, rfl⟩ := List.mem_map.mp inside
    rw [length_encode (fits p there)]
    exact Nat.add_le_add_left (fits p there) _

/-- A heartbeat and a packet with a body, which come in three pieces. -/
theorem binary_codec_pieces :
    let heartbeat : RawPacket := { cmd := 5, seq := 7, body := [] }
    let message : RawPacket := { cmd := 256, seq := 4294967295, uid := 18446744073709551615, body := [1, 2] }
    decode (message.encode ++ [9]) = some message ∧
      [heartbeat.encode.take 3, heartbeat.encode.drop 3 ++ message.encode.take 17, message.encode.drop 17].foldl
        Gateway.unpackSetting.framing.receive ([], []) = ([heartbeat.encode, message.encode], []) :=
  ⟨binary_codec.1 _ _ (by decide), (binary_codec.2.2.2.2 [_, _] _ (by decide) (by decide)).1⟩

end RawPacket
end NovaIIM
