import Kippu.Hex
import Kippu.Scale
import Mathlib.Algebra.Group.Int.Defs

/-!
# The sponsorship format

The sponsor's undertaking to relay one signed input, as bytes: a format version,
the input's kind, id and digest, the notional cost, and an authorisation of all
of these behind a domain tag. Bytes are read by a SCALE decoder of which only
this is known: it reads back what the format's encoder wrote. It reads an array's
whole buffer, wherever in it the array's own bytes are.
-/

namespace Kippu.Sponsorship

open Scale

def SPONSORSHIP_FORMAT_VERSION : ℕ := 0

/-- The domain tag of what a sponsor signs. -/
def SPONSORSHIP_SIGNING_TAG : Bytes := "kippu/v0/sponsorship".toUTF8.data.toList

def BOUND_ID_LENGTH : ℕ := 16

def INPUT_DIGEST_LENGTH : ℕ := 32

def MAX_NOTIONAL_COST : ℤ := 2 ^ 128 - 1

inductive SignedInputKind
  | command
  | accessPass
  deriving DecidableEq

def SIGNED_INPUT_KIND_INDEX : SignedInputKind → ℕ
  | .command => 0
  | .accessPass => 1

inductive Thrown
  | decodeError (message : String)
  | typeError (message : String)
  | error (message : String)
  deriving DecidableEq

def Thrown.message : Thrown → String
  | .decodeError message => message
  | .typeError message => message
  | .error message => message

/-- The input a sponsorship is bound to. -/
inductive SponsorshipTarget
  | command (operationId : String) (digest : Bytes)
  | accessPass (passId : String) (digest : Bytes)
  deriving DecidableEq

def SponsorshipTarget.kind : SponsorshipTarget → SignedInputKind
  | .command .. => .command
  | .accessPass .. => .accessPass

/-- The operation id or pass id, in hexadecimal. -/
def SponsorshipTarget.boundId : SponsorshipTarget → String
  | .command operationId _ => operationId
  | .accessPass passId _ => passId

def SponsorshipTarget.digest : SponsorshipTarget → Bytes
  | .command _ digest => digest
  | .accessPass _ digest => digest

/-- Any byte array: its length is a safe integer. -/
structure Authorisation where
  bytes : Bytes
  length_lt : bytes.length < 2 ^ 53
  deriving DecidableEq

structure SponsorshipValue where
  target : SponsorshipTarget
  notionalCost : ℤ
  authorisation : Authorisation
  deriving DecidableEq

/-- A 16-byte id, a 32-byte digest and a cost below 2^128. -/
structure SponsorshipValue.Valid (value : SponsorshipValue) : Prop where
  id : ∃ id : Bytes, id.length = BOUND_ID_LENGTH ∧
    value.target.boundId = String.ofList (id.flatMap hexByte)
  digest : value.target.digest.length = INPUT_DIGEST_LENGTH
  cost : 0 ≤ value.notionalCost ∧ value.notionalCost < 2 ^ 128

-- ---------------------------------------------------------------------------
-- Frames
-- ---------------------------------------------------------------------------

structure Frame where
  version : ℕ
  kind : ℕ
  id : Bytes
  digest : Bytes
  cost : ℤ
  deriving DecidableEq

/-- The frames that the SCALE types of the fields have room for. -/
structure Frame.Valid (frame : Frame) : Prop where
  version : frame.version < 256
  kind : frame.kind < 256
  id : frame.id.length = BOUND_ID_LENGTH
  digest : frame.digest.length = INPUT_DIGEST_LENGTH
  cost : 0 ≤ frame.cost ∧ frame.cost < 256 ^ 67

def unsignedCodec : Codec Frame :=
  (u8.pair (u8.pair ((fixed BOUND_ID_LENGTH).pair ((fixed INPUT_DIGEST_LENGTH).pair compact)))).imap
    (fun frame => (frame.version, frame.kind, frame.id, frame.digest, frame.cost.toNat))
    (fun (version, kind, id, digest, cost) => some ⟨version, kind, id, digest, cost⟩)
    Frame.Valid
    (by
      rintro ⟨version, kind, id, digest, cost⟩ ⟨hversion, hkind, hid, hdigest, hlow, hhigh⟩
      constructor
      · refine ⟨hversion, hkind, hid, hdigest, ?_⟩
        simp only [compact] at hhigh ⊢
        omega
      · simp [Int.toNat_of_nonneg hlow])

def authorisationCodec : Codec Authorisation :=
  bytes.imap Authorisation.bytes
    (fun bs => if h : bs.length < 2 ^ 53 then some ⟨bs, h⟩ else none)
    (fun _ => True)
    (by
      intro authorisation _
      constructor
      · exact Nat.lt_trans authorisation.length_lt (by decide)
      · exact dif_pos authorisation.length_lt)

/-- The unsigned fields, then the authorisation. -/
def sponsorshipCodec : Codec (Frame × Authorisation) := unsignedCodec.pair authorisationCodec

def boundId (hex : String) : Except Thrown Bytes :=
  if hex.toList.all isHexDigit then
    match hexBytes hex.toList with
    | none =>
      .error (.error s!"hex string expected, got unpadded hex of length {hex.length}")
    | some id =>
      if id.length = BOUND_ID_LENGTH then .ok id
      else .error (.typeError s!"expected a {BOUND_ID_LENGTH}-byte id")
  else .error (.typeError "expected a lower-case hex id")

def frameOf (target : SponsorshipTarget) (notionalCost : ℤ) : Except Thrown Frame := do
  if notionalCost < 0 ∨ notionalCost > MAX_NOTIONAL_COST then
    throw (.typeError "expected a notional cost between 0 and 2^128 - 1")
  let id ← boundId target.boundId
  if target.digest.length ≠ INPUT_DIGEST_LENGTH then
    throw (.typeError s!"expected a {INPUT_DIGEST_LENGTH}-byte input digest")
  return ⟨SPONSORSHIP_FORMAT_VERSION, SIGNED_INPUT_KIND_INDEX target.kind, id, target.digest,
    notionalCost⟩

/-- What a frame says, if its version and its kind are known. -/
def valueOf (frame : Frame) (authorisation : Authorisation) : Except Thrown SponsorshipValue := do
  if frame.version ≠ SPONSORSHIP_FORMAT_VERSION then
    throw (.decodeError s!"unsupported sponsorship format version {frame.version}")
  let hex := String.ofList (frame.id.flatMap hexByte)
  let target ←
    if frame.kind = SIGNED_INPUT_KIND_INDEX .command then
      pure (.command hex frame.digest)
    else if frame.kind = SIGNED_INPUT_KIND_INDEX .accessPass then
      pure (.accessPass hex frame.digest)
    else
      throw (.decodeError s!"unknown sponsored input kind {frame.kind}")
  return ⟨target, frame.cost, authorisation⟩

-- ---------------------------------------------------------------------------
-- Arrays
-- ---------------------------------------------------------------------------

/-- A view of a buffer. -/
structure Uint8Array where
  buffer : Bytes
  byteOffset : ℕ
  length : ℕ
  /-- Whether it is Node's subclass `Buffer`. -/
  nodeBuffer : Bool
  fits : byteOffset + length ≤ buffer.length
  deriving DecidableEq

def Uint8Array.bytes (array : Uint8Array) : Bytes :=
  (array.buffer.drop array.byteOffset).take array.length

def Uint8Array.of (bytes : Bytes) : Uint8Array := ⟨bytes, 0, bytes.length, false, by simp⟩

/-- A copy, but for a `Buffer` a view of the same buffer. -/
def Uint8Array.slice (array : Uint8Array) : Uint8Array :=
  if array.nodeBuffer then array else .of array.bytes

-- ---------------------------------------------------------------------------
-- Sponsorships
-- ---------------------------------------------------------------------------

def sponsorshipSigningPayload (target : SponsorshipTarget) (notionalCost : ℤ) :
    Except Thrown Bytes := do
  let frame ← frameOf target notionalCost
  return SPONSORSHIP_SIGNING_TAG ++ unsignedCodec.enc frame

def encodeSponsorship (value : SponsorshipValue) : Except Thrown Bytes := do
  let frame ← frameOf value.target value.notionalCost
  return sponsorshipCodec.enc (frame, value.authorisation)

/-- What the SCALE decoder makes of any buffer: a frame, or an error with a message. -/
abbrev FrameDecoder := Bytes → Except String (Frame × Authorisation)

def FrameDecoder.ReadsBack (dec : FrameDecoder) : Prop :=
  ∀ frame authorisation, frame.Valid →
    dec (sponsorshipCodec.enc (frame, authorisation)) = .ok (frame, authorisation)

/-- `DecodeError` itself, or one with any other error's message. -/
def asDecodeError : Thrown → Thrown
  | .decodeError message => .decodeError message
  | thrown => .decodeError thrown.message

/-- The sponsorship an array's bytes encode, if they are a canonical encoding. -/
def decodeSponsorship (dec : FrameDecoder) (array : Uint8Array) :
    Except Thrown SponsorshipValue := do
  let value ← Except.mapError asDecodeError do
    let (frame, authorisation) ← (dec array.slice.buffer).mapError .error
    valueOf frame authorisation
  let reencoded ← (encodeSponsorship value).mapError fun thrown => .decodeError thrown.message
  if reencoded ≠ array.bytes then
    throw (.decodeError "not the canonical encoding of a sponsorship")
  return value

end Kippu.Sponsorship
