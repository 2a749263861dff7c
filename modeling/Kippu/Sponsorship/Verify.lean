import Kippu.Sponsorship.Codec

/-!
# Issuing and verifying sponsorships

A sponsorship is bound to one input through its id and digest, and to its sponsor
through a signature over both. What the sponsors' keys were asked to sign is a
list; a signature that verifies under a sponsor's key is one that was asked for.
-/

namespace Kippu.Sponsorship

open Scale

abbrev AccountId := String

structure InputId where
  hex : String
  wellFormed : ∃ id : Bytes, id.length = BOUND_ID_LENGTH ∧
    hex = String.ofList (id.flatMap hexByte)

structure SignedCommand (Command : Type) where
  operationId : InputId
  command : Command
  authorisation : Authorisation

structure SignedAccessPass (Pass : Type) where
  passId : InputId
  pass : Pass
  authorisation : Authorisation

inductive SponsoredInput (Command Pass : Type)
  | command (input : SignedCommand Command)
  | accessPass (input : SignedAccessPass Pass)

/-- What an authorisation says: a key and its signature, or another kind of credential. -/
inductive Signed
  | p256 (publicKey signature : Bytes)
  | other (kind : String) (content : Bytes)

/-- The profile's encodings and its cryptography. -/
structure ProfileV0 (Command Pass : Type) where
  encodeSignedCommand : SignedCommand Command → Bytes
  encodeSignedAccessPass : SignedAccessPass Pass → Bytes
  blake2b256 : Bytes → Bytes
  encodeAuthorisation : Signed → Except Thrown Authorisation
  decodeAuthorisation : Authorisation → Except Thrown Signed
  p256AccountId : Bytes → Except Thrown AccountId
  p256AuthorisationDigest : Bytes → Bytes
  normaliseP256Signature : Bytes → String → Except Thrown Bytes
  /-- `p256.verify` of a signature, a digest and a public key. -/
  verify : Bytes → Bytes → Bytes → Except Thrown Bool

variable {Command Pass : Type} (profile : ProfileV0 Command Pass)

def framing : SponsoredInput Command Pass → Bytes
  | .command input => profile.encodeSignedCommand input
  | .accessPass input => profile.encodeSignedAccessPass input

def signedInputDigest (input : SponsoredInput Command Pass) : Bytes :=
  profile.blake2b256 (framing profile input)

/-- The operation id or pass id `input` carries, and its digest. -/
def sponsorshipTarget (input : SponsoredInput Command Pass) : SponsorshipTarget :=
  match input with
  | .command signed => .command signed.operationId.hex (signedInputDigest profile input)
  | .accessPass signed => .accessPass signed.passId.hex (signedInputDigest profile input)

-- ---------------------------------------------------------------------------
-- Issuing
-- ---------------------------------------------------------------------------

/-- A key held in a KMS, as it answers one request. -/
structure KmsP256Key where
  publicKey : Bytes
  signDigest : Bytes → Except Thrown (Bytes × String)

def KmsP256Key.signature (key : KmsP256Key) (payload : Bytes) : Except Thrown Bytes := do
  let (signature, format) ← key.signDigest (profile.p256AuthorisationDigest payload)
  profile.normaliseP256Signature signature format

/-- The key's authorisation of a payload; a signature that does not verify is refused. -/
def KmsP256Key.sign (key : KmsP256Key) (payload : Bytes) : Except Thrown Authorisation := do
  let normalised ← key.signature profile payload
  let valid ← profile.verify normalised (profile.p256AuthorisationDigest payload) key.publicKey
  if ¬valid then
    throw (.error "the KMS signature does not verify under the key's public key")
  profile.encodeAuthorisation (.p256 key.publicKey normalised)

def issueSponsorship (key : KmsP256Key) (input : SponsoredInput Command Pass)
    (notionalCost : ℤ) : Except Thrown Bytes := do
  let target := sponsorshipTarget profile input
  let payload ← sponsorshipSigningPayload target notionalCost
  let authorisation ← key.sign profile payload
  encodeSponsorship ⟨target, notionalCost, authorisation⟩

-- ---------------------------------------------------------------------------
-- Verifying
-- ---------------------------------------------------------------------------

structure VerifiedSponsorship where
  sponsor : AccountId
  notionalCost : ℤ
  deriving DecidableEq

structure TickettoError where
  code : String
  detail : String
  deriving DecidableEq

abbrev Result := Except TickettoError VerifiedSponsorship

def refused (detail : String) : Except Thrown Result :=
  .ok (.error ⟨"ERR-SponsorshipRefused", detail⟩)

/-- An error as text: its class, then its message. -/
def Thrown.text : Thrown → String
  | .decodeError message => s!"DecodeError: {message}"
  | .typeError message => s!"TypeError: {message}"
  | .error message => s!"Error: {message}"

def sameId : SponsorshipTarget → SponsorshipTarget → Bool
  | .command operationId _, .command operationId' _ => operationId = operationId'
  | .accessPass passId _, .accessPass passId' _ => passId = passId'
  | _, _ => false

/-- Verifies the signature of what `value` says. Only the payload is computed outside
the source's `try` blocks, so only it could throw. -/
def verifySignature (value : SponsorshipValue) (publicKey signature : Bytes)
    (sponsor : AccountId) : Except Thrown Result := do
  let payload ← sponsorshipSigningPayload value.target value.notionalCost
  let digest := profile.p256AuthorisationDigest payload
  let valid : Bool := match profile.verify signature digest publicKey with
    | .ok valid => valid
    | .error _ => false
  if ¬valid then refused "the sponsor's signature does not verify"
  else return .ok ⟨sponsor, value.notionalCost⟩

def verifyAuthorisation (value : SponsorshipValue) (sponsors : List AccountId) :
    Except Thrown Result :=
  match profile.decodeAuthorisation value.authorisation with
  | .error thrown => refused s!"malformed sponsor authorisation: {thrown.text}"
  | .ok (.other ..) => refused "the sponsor authorisation is not a p256 one"
  | .ok (.p256 publicKey signature) =>
    match profile.p256AccountId publicKey with
    | .error _ => refused "the sponsor authorisation carries no p256 public key"
    | .ok sponsor =>
      if sponsor ∉ sponsors then
        refused "the sponsorship is not signed by a configured sponsor account"
      else verifySignature profile value publicKey signature sponsor

def verifySponsorship (dec : FrameDecoder) (sponsorship : Uint8Array)
    (input : SponsoredInput Command Pass) (sponsors : List AccountId) : Except Thrown Result :=
  match decodeSponsorship dec sponsorship with
  | .error thrown => refused s!"malformed sponsorship: {thrown.text}"
  | .ok value =>
    let target := sponsorshipTarget profile input
    if ¬sameId value.target target then
      refused "the sponsorship is bound to another operation id or pass id"
    else if value.target.digest ≠ target.digest then
      refused "the sponsorship is bound to another input with the same id"
    else verifyAuthorisation profile value sponsors

-- ---------------------------------------------------------------------------
-- What is known of the profile
-- ---------------------------------------------------------------------------

/-- The authorisations read are the encodings of what is read from them. -/
def CanonicalAuthorisations : Prop :=
  ∀ authorisation signed, profile.decodeAuthorisation authorisation = .ok signed ↔
    profile.encodeAuthorisation signed = .ok authorisation

/-- No two payloads, and no two framings of signed inputs, share a digest. -/
structure CollisionFree : Prop where
  payload : ∀ payload payload',
    profile.p256AuthorisationDigest payload = profile.p256AuthorisationDigest payload' →
    payload = payload'
  framing : ∀ input input' : SponsoredInput Command Pass,
    signedInputDigest profile input = signedInputDigest profile input' →
    framing profile input = framing profile input'

structure Issuing (Command Pass : Type) where
  key : KmsP256Key
  input : SponsoredInput Command Pass
  notionalCost : ℤ

def Issuing.issue (issuing : Issuing Command Pass) : Except Thrown Bytes :=
  issueSponsorship profile issuing.key issuing.input issuing.notionalCost

/-- A signature verifies under the key of one of `sponsors` only if that key made it, over
that digest, when one of `issued` asked it to sign. -/
def OwnSignatures (sponsors : List AccountId) (issued : List (Issuing Command Pass)) : Prop :=
  ∀ publicKey sponsor signature digest,
    profile.p256AccountId publicKey = .ok sponsor → sponsor ∈ sponsors →
    profile.verify signature digest publicKey = .ok true →
    ∃ issuing ∈ issued, issuing.key.publicKey = publicKey ∧ ∃ payload,
      sponsorshipSigningPayload (sponsorshipTarget profile issuing.input)
        issuing.notionalCost = .ok payload ∧
      profile.p256AuthorisationDigest payload = digest ∧
      issuing.key.signature profile payload = .ok signature

end Kippu.Sponsorship
