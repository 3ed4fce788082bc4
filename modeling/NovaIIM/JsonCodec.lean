import NovaIIM.Json
import NovaIIM.PacketCodec

/-!
Packets as JSON texts (`Packet::EncodeJson`, `Packet::DecodeJson`).

The body is in base64, and its size is checked twice: on the text, against an integer
division, and once it is decoded. The other fields are converted by `get<T>()`, which
raises an exception for what is no number and cuts off what does not fit (`Clean`).
-/
namespace NovaIIM

/-- What `nlohmann::json` and `hv/base64.h` do; `none` is a discarded text. -/
structure JsonLibrary where
  parse : Bytes → Option Json
  dump : Json → Bytes
  base64Encode : Bytes → Bytes
  base64Decode : Bytes → Bytes
  /-- `static_cast` of a double to so many bits -/
  castFloat : Nat → Rat → Nat

/-- `get<T>()` for an unsigned type of so many bits; `none` is an exception. -/
def JsonLibrary.get (lib : JsonLibrary) (bits : Nat) : Json → Option Nat
  | .integer n => some (n % 2 ^ bits).toNat
  | .float value => some (lib.castFloat bits value)
  | _ => none

/-- How a call of `DecodeJson` ends. -/
inductive DecodedJson where
  | raised
  | refused
  | packet (p : RawPacket)
deriving DecidableEq, Repr

namespace RawPacket

/-- The document of a packet. -/
def jsonTree (lib : JsonLibrary) (p : RawPacket) : Json :=
  .object ((if p.body.isEmpty then [] else [(ascii "body", .string (lib.base64Encode p.body))]) ++
    [(ascii "cmd", .integer p.cmd.toNat), (ascii "seq", .integer p.seq.toNat), (ascii "uid", .integer p.uid.toNat)])

/-- `Packet::EncodeJson`. -/
def encodeJson (lib : JsonLibrary) (p : RawPacket) : Bytes := lib.dump (jsonTree lib p)

/-- The body of a document, if it is not too large. -/
def jsonBody (lib : JsonLibrary) (j : Json) : Option Bytes :=
  match j.field (ascii "body") with
  | some (.string b64) =>
    if kMaxBodySize * 4 / 3 + 4 < b64.length then none
    else if kMaxBodySize < (lib.base64Decode b64).length then none
    else some (lib.base64Decode b64)
  | _ => some []

/-- `Packet::DecodeJson`. -/
def decodeJson (lib : JsonLibrary) (s : Bytes) : DecodedJson :=
  match lib.parse s with
  | some (.object fields) =>
    let j := Json.object fields
    match j.field (ascii "cmd"), j.field (ascii "seq") with
    | some cmd, some seq =>
      match lib.get 16 cmd, lib.get 32 seq, (j.field (ascii "uid")).elim (some 0) (lib.get 64) with
      | some cmd, some seq, some uid =>
        match jsonBody lib j with
        | none => .refused
        | some body => .packet { cmd := .ofNat cmd, seq := .ofNat seq, uid := .ofNat uid, body := body }
      | _, _, _ => .raised
    | _, _ => .refused
  | _ => .refused

/-! ### The round trip -/

/-- The libraries undo on the way back what they did to a packet, and base64 pads to four
    characters. -/
structure Inverts (lib : JsonLibrary) (p : RawPacket) : Prop where
  parse_dump : lib.parse (lib.dump (jsonTree lib p)) = some (jsonTree lib p)
  decode_encode : lib.base64Decode (lib.base64Encode p.body) = p.body
  length_encode : (lib.base64Encode p.body).length = 4 * ((p.body.length + 2) / 3)

variable {lib : JsonLibrary} {p : RawPacket}

private theorem jsonTree_fields :
    (jsonTree lib p).field (ascii "cmd") = some (.integer p.cmd.toNat) ∧
      (jsonTree lib p).field (ascii "seq") = some (.integer p.seq.toNat) ∧
      (jsonTree lib p).field (ascii "uid") = some (.integer p.uid.toNat) ∧
      (jsonTree lib p).field (ascii "body") =
        if p.body.isEmpty then none else some (.string (lib.base64Encode p.body)) := by
  have apart : ascii "body" ≠ ascii "cmd" ∧ ascii "body" ≠ ascii "seq" ∧ ascii "body" ≠ ascii "uid" ∧
      ascii "cmd" ≠ ascii "seq" ∧ ascii "cmd" ≠ ascii "uid" ∧ ascii "seq" ≠ ascii "uid" := by decide
  obtain ⟨bc, bs, bu, cs, cu, su⟩ := apart
  unfold jsonTree
  split <;> simp [Json.field, bc, bs, bu, cs, cu, su, bc.symm, bs.symm, bu.symm]

/-- The number of an unsigned word is read as it is. -/
private theorem get_word {bits n : Nat} (fits : n < 2 ^ bits) : lib.get bits (.integer n) = some n := by
  have inside : (n : Int) % 2 ^ bits = n := Int.emod_eq_of_lt (Int.natCast_nonneg n) (by exact_mod_cast fits)
  rw [JsonLibrary.get, inside, Int.toNat_natCast]

/-- A body that fits passes both checks of its size. -/
theorem jsonBody_jsonTree (fits : p.body.length ≤ kMaxBodySize) (inverts : Inverts lib p) :
    jsonBody lib (jsonTree lib p) = some p.body := by
  rw [jsonBody, jsonTree_fields.2.2.2]
  cases empty : p.body.isEmpty with
  | true => simpa using empty.symm
  | false =>
    have text : ¬kMaxBodySize * 4 / 3 + 4 < (lib.base64Encode p.body).length := by
      rw [inverts.length_encode]
      rw [kMaxBodySize] at fits ⊢
      omega
    simp [text, inverts.decode_encode, fits]

theorem decodeJson_encodeJson (fits : p.body.length ≤ kMaxBodySize) (inverts : Inverts lib p) :
    decodeJson lib (p.encodeJson lib) = .packet p := by
  obtain ⟨cmd, seq, uid, -⟩ := @jsonTree_fields lib p
  have tree : ∃ fields, jsonTree lib p = .object fields := ⟨_, rfl⟩
  obtain ⟨fields, tree⟩ := tree
  have body := jsonBody_jsonTree fits inverts
  have parsed := inverts.parse_dump
  rw [tree] at cmd seq uid body parsed
  have cmd' : lib.get 16 (.integer p.cmd.toNat) = some p.cmd.toNat := get_word p.cmd.toNat_lt
  have seq' : lib.get 32 (.integer p.seq.toNat) = some p.seq.toNat := get_word p.seq.toNat_lt
  have uid' : lib.get 64 (.integer p.uid.toNat) = some p.uid.toNat := get_word p.uid.toNat_lt
  simp [decodeJson, encodeJson, tree, parsed, cmd, seq, uid, cmd', seq', uid', body]

theorem jsonBody_le {j : Json} {body : Bytes} (given : jsonBody lib j = some body) : body.length ≤ kMaxBodySize := by
  unfold jsonBody at given
  split at given
  · split at given
    · cases given
    · split at given
      · cases given
      · rename_i fits
        rw [← Option.some.inj given]
        exact Nat.le_of_not_lt fits
  · rw [← Option.some.inj given]
    exact Nat.zero_le _

/-- Only a document with a body that is not too large is accepted. -/
theorem body_decodeJson {s : Bytes} (accepted : decodeJson lib s = .packet p) : p.body.length ≤ kMaxBodySize := by
  unfold decodeJson at accepted
  split at accepted
  · dsimp only at accepted
    split at accepted
    · split at accepted
      · split at accepted
        · cases accepted
        · rename_i given
          rw [← DecodedJson.packet.inj accepted]
          exact jsonBody_le given
      · cases accepted
    · cases accepted
  · cases accepted

/-- A packet survives the JSON codec if its body fits, up to the last byte of the limit, and no
    packet with a larger body is accepted. -/
theorem json_codec (lib : JsonLibrary) :
    (∀ p, p.body.length ≤ kMaxBodySize → Inverts lib p → decodeJson lib (p.encodeJson lib) = .packet p) ∧
      ∀ s p, decodeJson lib s = .packet p → p.body.length ≤ kMaxBodySize :=
  ⟨fun _ fits inverts => decodeJson_encodeJson fits inverts, fun _ _ accepted => body_decodeJson accepted⟩

/-- A chat message in JSON. -/
def helloPacket : RawPacket := { cmd := 256, seq := 99, uid := 12345, body := ascii "hello" }

/-- The libraries on this one packet. -/
def helloLibrary : JsonLibrary where
  parse s :=
    if s = ascii "\x7b\"body\":\"aGVsbG8=\",\"cmd\":256,\"seq\":99,\"uid\":12345\x7d" then
      some (.object [(ascii "body", .string (ascii "aGVsbG8=")), (ascii "cmd", .integer 256),
        (ascii "seq", .integer 99), (ascii "uid", .integer 12345)])
    else none
  dump _ := ascii "\x7b\"body\":\"aGVsbG8=\",\"cmd\":256,\"seq\":99,\"uid\":12345\x7d"
  base64Encode _ := ascii "aGVsbG8="
  base64Decode _ := ascii "hello"
  castFloat _ _ := 0

theorem json_codec_hello :
    helloPacket.body.length ≤ kMaxBodySize ∧ Inverts helloLibrary helloPacket ∧
      decodeJson helloLibrary (helloPacket.encodeJson helloLibrary) = .packet helloPacket :=
  have inverts : Inverts helloLibrary helloPacket := ⟨rfl, rfl, rfl⟩
  ⟨by decide, inverts, (json_codec helloLibrary).1 helloPacket (by decide) inverts⟩

/-! ### Bad input -/

def IsNumber : Json → Prop
  | .integer _ | .float _ => True
  | _ => False

/-- An integer that an unsigned type of so many bits has. -/
def FitsWord (bits : Nat) : Json → Prop
  | .integer n => 0 ≤ n ∧ n < 2 ^ bits
  | _ => False

/-- A text is refused, or else the packet has the integers of its document. -/
def Sound (lib : JsonLibrary) (s : Bytes) : Prop :=
  match decodeJson lib s with
  | .raised => False
  | .refused => True
  | .packet p => ∃ fields, lib.parse s = some (.object fields) ∧
      (Json.object fields).field (ascii "cmd") = some (.integer p.cmd.toNat) ∧
      (Json.object fields).field (ascii "seq") = some (.integer p.seq.toNat) ∧
      (Json.object fields).field (ascii "uid") = some (.integer p.uid.toNat)

/-- Where a document gives `cmd` and `seq`, these and `uid` are numbers, and, unless the body is
    refused, integers that fit. -/
def Clean (lib : JsonLibrary) (s : Bytes) : Prop :=
  ∀ fields cmd seq, lib.parse s = some (.object fields) → (Json.object fields).field (ascii "cmd") = some cmd →
    (Json.object fields).field (ascii "seq") = some seq →
    (IsNumber cmd ∧ IsNumber seq ∧ ∀ uid ∈ (Json.object fields).field (ascii "uid"), IsNumber uid) ∧
    ((jsonBody lib (.object fields)).isSome → FitsWord 16 cmd ∧ FitsWord 32 seq ∧
      ∃ uid ∈ (Json.object fields).field (ascii "uid"), FitsWord 64 uid)

private theorem get_isSome {bits : Nat} {j : Json} : (lib.get bits j).isSome ↔ IsNumber j := by
  cases j <;> simp [JsonLibrary.get, IsNumber]

/-- A conversion keeps an integer exactly if it fits. -/
private theorem get_kept {bits n : Nat} {j : Json} (got : lib.get bits j = some n) :
    j = .integer (n % 2 ^ bits : Nat) ↔ FitsWord bits j := by
  cases j with
  | integer m =>
    have positive : (0 : Int) < 2 ^ bits := Int.pow_pos (by decide)
    have word : (n : Int) = m % 2 ^ bits := by
      rw [← Option.some.inj got, Int.toNat_of_nonneg (Int.emod_nonneg _ (Int.ne_of_gt positive))]
    have small : n < 2 ^ bits := by
      have := Int.emod_lt_of_pos m positive
      exact_mod_cast word ▸ this
    rw [Nat.mod_eq_of_lt small, Json.integer.injEq, word, FitsWord]
    constructor
    · intro same
      rw [same]
      exact ⟨Int.emod_nonneg _ (Int.ne_of_gt positive), Int.emod_lt_of_pos _ positive⟩
    · exact fun fits => (Int.emod_eq_of_lt fits.1 fits.2).symm
  | _ => simp [FitsWord]

/-- The same for a field that may be missing. -/
private theorem elim_get {bits : Nat} (field : Option Json) :
    (field.elim (some 0) (lib.get bits)).isSome ↔ ∀ j ∈ field, IsNumber j := by
  cases field with
  | none => simp
  | some j => simpa using get_isSome

private theorem elim_kept {bits n : Nat} {field : Option Json} (got : field.elim (some 0) (lib.get bits) = some n) :
    field = some (.integer (n % 2 ^ bits : Nat)) ↔ ∃ j ∈ field, FitsWord bits j := by
  cases field with
  | none => simp
  | some j =>
    have kept := get_kept got
    simpa using kept

/-- A text is refused or read as it stands exactly if it is clean. -/
theorem json_decoding (lib : JsonLibrary) (s : Bytes) : Sound lib s ↔ Clean lib s := by
  cases parsed : lib.parse s with
  | none => exact iff_of_true (by simp [Sound, decodeJson, parsed]) fun fields _ _ same => absurd same (by simp [parsed])
  | some j =>
    cases j with
    | object fields =>
      cases hasCmd : (Json.object fields).field (ascii "cmd") with
      | none =>
        refine iff_of_true (by simp [Sound, decodeJson, parsed, hasCmd]) fun fields' cmd seq same given => ?_
        cases parsed.symm.trans same
        cases hasCmd.symm.trans given
      | some cmd =>
        cases hasSeq : (Json.object fields).field (ascii "seq") with
        | none =>
          refine iff_of_true (by simp [Sound, decodeJson, parsed, hasCmd, hasSeq]) fun fields' cmd seq same _ given => ?_
          cases parsed.symm.trans same
          cases hasSeq.symm.trans given
        | some seq =>
          have clean : Clean lib s ↔
              (IsNumber cmd ∧ IsNumber seq ∧ ∀ uid ∈ (Json.object fields).field (ascii "uid"), IsNumber uid) ∧
              ((jsonBody lib (.object fields)).isSome → FitsWord 16 cmd ∧ FitsWord 32 seq ∧
                ∃ uid ∈ (Json.object fields).field (ascii "uid"), FitsWord 64 uid) := by
            constructor
            · exact fun clean => clean fields cmd seq parsed hasCmd hasSeq
            · intro here fields' cmd' seq' same given given'
              cases parsed.symm.trans same
              cases hasCmd.symm.trans given
              cases hasSeq.symm.trans given'
              exact here
          rw [clean, ← @get_isSome lib 16, ← @get_isSome lib 32, ← @elim_get lib 64]
          cases gotCmd : lib.get 16 cmd with
          | none => simp [Sound, decodeJson, parsed, hasCmd, hasSeq, gotCmd]
          | some c =>
          cases gotSeq : lib.get 32 seq with
          | none => simp [Sound, decodeJson, parsed, hasCmd, hasSeq, gotCmd, gotSeq]
          | some q =>
          cases gotUid : ((Json.object fields).field (ascii "uid")).elim (some 0) (lib.get 64) with
          | none => simp [Sound, decodeJson, parsed, hasCmd, hasSeq, gotCmd, gotSeq, gotUid]
          | some u =>
          cases body : jsonBody lib (.object fields) with
          | none => simp [Sound, decodeJson, parsed, hasCmd, hasSeq, gotCmd, gotSeq, gotUid, body]
          | some body =>
            rw [← get_kept gotCmd, ← get_kept gotSeq, ← elim_kept gotUid]
            simp [Sound, decodeJson, parsed, hasCmd, hasSeq, gotCmd, gotSeq, gotUid, body]
    | _ =>
      refine iff_of_true (by simp [Sound, decodeJson, parsed]) fun fields _ _ same => ?_
      cases parsed.symm.trans same

/-- The libraries on a text that they read as an object. -/
def objectLibrary (text : Bytes) (fields : List (Bytes × Json)) : JsonLibrary :=
  { helloLibrary with parse := fun s => if s = text then some (.object fields) else none }

/-- A command that is a text. -/
def textCommand : Bytes := ascii "\x7b\"cmd\":\"1\",\"seq\":1\x7d"

def textLibrary : JsonLibrary := objectLibrary textCommand [(ascii "cmd", .string (ascii "1")), (ascii "seq", .integer 1)]

/-- A command that does not fit. -/
def largeCommand : Bytes := ascii "\x7b\"cmd\":65537,\"seq\":1,\"uid\":0\x7d"

def largeLibrary : JsonLibrary :=
  objectLibrary largeCommand [(ascii "cmd", .integer 65537), (ascii "seq", .integer 1), (ascii "uid", .integer 0)]

/-- The first raises an exception, and the second is cut off. -/
theorem json_decoding_unclean : ¬Sound textLibrary textCommand ∧ ¬Sound largeLibrary largeCommand := by
  constructor
  · intro sound
    have raised : decodeJson textLibrary textCommand = .raised := by decide
    rwa [Sound, raised] at sound
  · intro sound
    have cut : decodeJson largeLibrary largeCommand = .packet { cmd := 1, seq := 1, uid := 0, body := [] } := by decide
    rw [Sound, cut] at sound
    obtain ⟨fields, parsed, cmd, -⟩ := sound
    cases parsed
    cases cmd

end RawPacket
end NovaIIM
