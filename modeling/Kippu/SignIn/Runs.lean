import Kippu.Base64
import Kippu.Store

/-!
# Signing in

An organiser signs up with an email and a passkey, and signs in with one; a holder signs in by
proving control of their account. In each, a challenge is issued in one call, and another consumes
it by a `DELETE` of its own before it looks at the answer, and opens a session if that verifies.
The sessions of operators and reviewers, who sign in otherwise, are opened and ended at any time.
The verifiers are those of a site, and the answers signed by whom it knows.
-/

namespace Kippu.SignIn

abbrev Call := ℕ
/-- Normalised. -/
abbrev Email := String
abbrev OperatorId := ℕ
abbrev ReviewerId := ℕ
abbrev CeremonyId := ℕ
abbrev ChallengeId := ℕ
abbrev SessionId := ℕ
abbrev PasskeyId := ℕ
abbrev CredentialId := ℕ
abbrev Challenge := ℕ
abbrev Nonce := ℕ
abbrev PublicKey := ℕ
abbrev Registration := ℕ
abbrev Token := String
/-- A response to `navigator.credentials.create`, to `.get`, and the profile's authorisation. -/
abbrev Attestation := ℕ
abbrev Assertion := ℕ
abbrev Authorisation := ℕ

def ORGANISER_SESSION_MS : Time := 12 * 60 * 60 * 1000
def HOLDER_SESSION_MS : Time := 30 * 24 * 60 * 60 * 1000
def REVOKED_OPERATOR_REPORTING_MS : Time := 24 * 60 * 60 * 1000
def HOLDER_CHALLENGE_MS : Time := 5 * 60 * 1000
def CEREMONY_MS : Time := 5 * 60 * 1000

structure Passkey where
  organiser : OrganiserId
  publicKey : PublicKey
  signCount : ℕ

structure Attested where
  id : PasskeyId
  publicKey : PublicKey
  counter : ℕ

inductive CeremonyKind
  | organiserSignUp
  | organiserSignIn
  deriving DecidableEq

structure Ceremony where
  kind : CeremonyKind
  challenge : Challenge
  organiser : OrganiserId
  email : Email
  expiresAt : Time

structure Link where
  account : AccountId
  nonce : Nonce
  expiresAt : Time

structure ProofOfControl where
  audience : String
  nonce : Nonce
  expiresAt : Time
  account : AccountId
  deriving DecidableEq

structure Site where
  /-- Kippu's login relying party. -/
  relyingParty : String
  verifyRegistrationResponse : Challenge → Attestation → Option Attested
  /-- The new sign count. -/
  verifyAuthenticationResponse : Challenge → Passkey → Assertion → Option ℕ
  credentialId : Assertion → PasskeyId
  isPassWebAuthn : Authorisation → Bool
  accountOf : Authorisation → Option (AccountId × CredentialId)
  verifyProofOfControl : ProofOfControl → Authorisation → Registration → Time → Bool
  /-- The challenges in the client data of responses, and the proof an authorisation signs. -/
  attests : Attestation → Challenge
  asserts : Assertion → Challenge
  proves : Authorisation → ProofOfControl

/-- What verifies answers the challenge expected, and a proof does before it expires. -/
structure Site.Lawful (w : Site) : Prop where
  registration : ∀ challenge r p, w.verifyRegistrationResponse challenge r = some p →
    w.attests r = challenge
  authentication : ∀ challenge p r n, w.verifyAuthenticationResponse challenge p r = some n →
    w.asserts r = challenge
  control : ∀ proof a registration t, w.verifyProofOfControl proof a registration t = true →
    w.proves a = proof ∧ t < proof.expiresAt

def linkAudience (loginRpId : String) : String := "kippu-api@" ++ loginRpId

def Site.challenge (w : Site) (x : Link) : ProofOfControl :=
  ⟨linkAudience w.relyingParty, x.nonce, x.expiresAt, x.account⟩

-- ---------------------------------------------------------------------------
-- Sessions
-- ---------------------------------------------------------------------------

inductive Principal
  | organiser (organiser : OrganiserId)
  | operator (operator : OperatorId) (organiser : OrganiserId)
  | holder (account : AccountId)
  | reviewer (reviewer : ReviewerId)
  deriving DecidableEq

/-- What opened a session, and when its ceremony was consumed; no column keeps it. -/
inductive Evidence
  | signUp (m : CeremonyId) (at_ : Time) (r : Attestation)
  | signIn (m : CeremonyId) (at_ : Time) (r : Assertion)
  | link (k : ChallengeId) (a : Authorisation)
  /-- An operator's enrolment code, or what a reviewer signs in with. -/
  | other

/-- A row of `sessions`. The table finds it by the SHA-256 of its token, of which no two tokens are
taken to have one. -/
structure Session where
  id : SessionId
  principal : Principal
  holderCredential : Option CredentialId
  expiresAt : Time
  revokedAt : Option Time
  by_ : Evidence

structure SessionInfo where
  principal : Principal
  sessionId : SessionId
  expiresAt : Time

structure RevokedOperatorSession where
  operator : OperatorId
  organiser : OrganiserId
  sessionId : SessionId
  revokedAt : Time

/-- `base64url` of Base64: without padding. -/
def urlDigit (c : Char) : Char := if c = '+' then '-' else if c = '/' then '_' else c

def base64url (bytes : List UInt8) : String :=
  String.ofList (((Base64.encode bytes).filter (· ≠ '=')).map urlDigit)

-- ---------------------------------------------------------------------------
-- Runs
-- ---------------------------------------------------------------------------

inductive Task
  | idle
  /-- `beginOrganiserSignUp` found no organiser with this email. -/
  | signingUp (email : Email)
  | signingIn (organiser : OrganiserId) (email : Email)
  /-- A ceremony is consumed, in time; its answer is then verified. -/
  | attesting (m : CeremonyId) (x : Ceremony) (at_ : Time) (r : Attestation)
  | asserting (m : CeremonyId) (x : Ceremony) (at_ : Time) (r : Assertion)
  | verifying (m : CeremonyId) (x : Ceremony) (at_ : Time) (r : Assertion) (p : Passkey)
  | linking (k : ChallengeId) (x : Link) (a : Authorisation)
  /-- The ledger's registration is read. -/
  | proving (k : ChallengeId) (x : Link) (a : Authorisation) (credential : CredentialId)
      (registration : Registration)

structure State where
  organisers : OrganiserId → Option Email
  passkeys : PasskeyId → Option Passkey
  ceremonies : CeremonyId → Option Ceremony
  links : ChallengeId → Option Link
  sessions : Token → Option Session
  disabled : ReviewerId → Bool
  /-- The credentials registered on the ledger. -/
  registered : AccountId → CredentialId → Option Registration
  task : Call → Task
  clock : Time
  /-- All ceremonies and challenges there ever were, which no table keeps. -/
  begun : CeremonyId → Option Ceremony
  asked : ChallengeId → Option Link

def State.goto (s : State) (c : Call) (t : Task) : State :=
  { s with task := Function.update s.task c t }

def State.openCeremony (s : State) (m : CeremonyId) (x : Ceremony) : State :=
  { s with
    ceremonies := Function.update s.ceremonies m (some x)
    begun := Function.update s.begun m (some x) }

def State.consumeCeremony (s : State) (m : CeremonyId) : State :=
  { s with ceremonies := Function.update s.ceremonies m none }

def State.ask (s : State) (k : ChallengeId) (x : Link) : State :=
  { s with
    links := Function.update s.links k (some x), asked := Function.update s.asked k (some x) }

def State.consumeLink (s : State) (k : ChallengeId) : State :=
  { s with links := Function.update s.links k none }

def State.setOrganiser (s : State) (o : OrganiserId) (email : Email) : State :=
  { s with organisers := Function.update s.organisers o (some email) }

def State.setPasskey (s : State) (p : PasskeyId) (x : Passkey) : State :=
  { s with passkeys := Function.update s.passkeys p (some x) }

def State.issueSession (s : State) (token : Token) (x : Session) : State :=
  { s with sessions := Function.update s.sessions token (some x) }

def State.register (s : State) (account : AccountId) (credential : CredentialId)
    (registration : Registration) : State :=
  { s with
    registered := Function.update s.registered account
      (Function.update (s.registered account) credential (some registration)) }

def State.revoke (s : State) (picked : Session → Bool) (at_ : Time) : State :=
  { s with sessions := fun token => (s.sessions token).map fun x =>
      if picked x && x.revokedAt.isNone then { x with revokedAt := some at_ } else x }

def State.joinsDisabled (s : State) : Principal → Bool
  | .reviewer r => s.disabled r
  | .organiser _ | .operator .. | .holder _ => false

def State.authenticate (s : State) (token : Token) (at_ : Time) : Option SessionInfo := do
  let x ← s.sessions token
  if x.revokedAt.isNone && at_ < x.expiresAt && !s.joinsDisabled x.principal then
    some ⟨x.principal, x.id, x.expiresAt⟩
  else none

def State.authenticateRevokedOperator (s : State) (token : Token) (at_ : Time) :
    Option RevokedOperatorSession := do
  let x ← s.sessions token
  let revokedAt ← x.revokedAt
  match x.principal with
  | .operator operator organiser =>
    if at_ < revokedAt + REVOKED_OPERATOR_REPORTING_MS then
      some ⟨operator, organiser, x.id, revokedAt⟩
    else none
  | _ => none

/-- A token and a session's id may be given to a session: both are unique. -/
structure State.Fresh (s : State) (token : Token) (i : SessionId) : Prop where
  token : s.sessions token = none
  id : ∀ token x, s.sessions token = some x → x.id ≠ i

/-- What is random is not what was drawn before. -/
structure State.Unused (s : State) (m : CeremonyId) (challenge : Challenge) : Prop where
  id : s.begun m = none
  challenge : ∀ m x, s.begun m = some x → x.challenge ≠ challenge

structure State.UnusedLink (s : State) (k : ChallengeId) (nonce : Nonce) : Prop where
  id : s.asked k = none
  nonce : ∀ k x, s.asked k = some x → x.nonce ≠ nonce

inductive Step (w : Site) (s : State) : State → Prop
  | ticks (t : Time) : s.clock ≤ t → Step w s { s with clock := t }
  -- `beginOrganiserSignUp`
  | looksUp (c : Call) (email : Email) : s.task c = .idle → (∀ o, s.organisers o ≠ some email) →
      Step w s (s.goto c (.signingUp email))
  | opensSignUp (m : CeremonyId) (o : OrganiserId) (challenge : Challenge) (at_ : Time) :
      s.task c = .signingUp email → at_ ≤ s.clock → s.Unused m challenge →
      Step w s ((s.openCeremony m
        ⟨.organiserSignUp, challenge, o, email, at_ + CEREMONY_MS⟩).goto c .idle)
  -- `completeOrganiserSignUp`
  | consumesSignUp (at_ : Time) (r : Attestation) : s.task c = .idle → at_ ≤ s.clock →
      s.ceremonies m = some x → x.kind = .organiserSignUp → at_ < x.expiresAt →
      Step w s ((s.consumeCeremony m).goto c (.attesting m x at_ r))
  | signsUp (random : List UInt8) (i : SessionId) (at_ : Time) :
      s.task c = .attesting m x t r → w.verifyRegistrationResponse x.challenge r = some p →
      at_ ≤ s.clock → s.organisers x.organiser = none → (∀ o, s.organisers o ≠ some x.email) →
      s.passkeys p.id = none → random.length = 32 → s.Fresh (base64url random) i →
      Step w s ((((s.setOrganiser x.organiser x.email).setPasskey p.id
        ⟨x.organiser, p.publicKey, p.counter⟩).issueSession (base64url random)
        ⟨i, .organiser x.organiser, none, at_ + ORGANISER_SESSION_MS, none,
          .signUp m t r⟩).goto c .idle)
  -- `beginOrganiserSignIn`
  | finds (c : Call) (o : OrganiserId) : s.task c = .idle → s.organisers o = some email →
      Step w s (s.goto c (.signingIn o email))
  | opensSignIn (m : CeremonyId) (challenge : Challenge) (at_ : Time) :
      s.task c = .signingIn o email → at_ ≤ s.clock → s.Unused m challenge →
      Step w s ((s.openCeremony m
        ⟨.organiserSignIn, challenge, o, email, at_ + CEREMONY_MS⟩).goto c .idle)
  -- `completeOrganiserSignIn`
  | consumesSignIn (at_ : Time) (r : Assertion) : s.task c = .idle → at_ ≤ s.clock →
      s.ceremonies m = some x → x.kind = .organiserSignIn → at_ < x.expiresAt →
      Step w s ((s.consumeCeremony m).goto c (.asserting m x at_ r))
  | looksFor : s.task c = .asserting m x t r → s.passkeys (w.credentialId r) = some p →
      p.organiser = x.organiser → Step w s (s.goto c (.verifying m x t r p))
  | signsIn (random : List UInt8) (i : SessionId) (at_ : Time) :
      s.task c = .verifying m x t r p → w.verifyAuthenticationResponse x.challenge p r = some n →
      at_ ≤ s.clock → s.passkeys (w.credentialId r) = some p' → random.length = 32 →
      s.Fresh (base64url random) i →
      Step w s (((s.setPasskey (w.credentialId r) { p' with signCount := n }).issueSession
        (base64url random) ⟨i, .organiser x.organiser, none, at_ + ORGANISER_SESSION_MS, none,
          .signIn m t r⟩).goto c .idle)
  /-- `consumeCeremony` finds one that expired. -/
  | wastes (m : CeremonyId) : Step w s (s.consumeCeremony m)
  -- `beginHolderLink`
  | asks (k : ChallengeId) (account : AccountId) (nonce : Nonce) (at_ : Time) : at_ ≤ s.clock →
      s.UnusedLink k nonce → Step w s (s.ask k ⟨account, nonce, at_ + HOLDER_CHALLENGE_MS⟩)
  -- `completeHolderLink`
  | consumesLink (a : Authorisation) : s.task c = .idle → s.links k = some x →
      Step w s ((s.consumeLink k).goto c (.linking k x a))
  | readsRegistration : s.task c = .linking k x a → w.isPassWebAuthn a = true →
      w.accountOf a = some (x.account, credential) →
      s.registered x.account credential = some registration →
      Step w s (s.goto c (.proving k x a credential registration))
  | links (random : List UInt8) (i : SessionId) (t at_ : Time) :
      s.task c = .proving k x a credential registration →
      w.verifyProofOfControl (w.challenge x) a registration t = true → t ≤ s.clock →
      at_ ≤ s.clock → random.length = 32 → s.Fresh (base64url random) i →
      Step w s ((s.issueSession (base64url random) ⟨i, .holder x.account, some credential,
        at_ + HOLDER_SESSION_MS, none, .link k a⟩).goto c .idle)
  /-- `signOut`. -/
  | signsOut (i : SessionId) (at_ : Time) : at_ ≤ s.clock →
      Step w s (s.revoke (fun x => x.id = i) at_)
  /-- The ledger accepts `registerCredential`. -/
  | registers (registration : Registration) : s.registered account credential = none →
      Step w s (s.register account credential registration)
  -- operators and reviewers
  | opensOther (token : Token) (i : SessionId) (expiresAt : Time) :
      principal = .operator operator organiser ∨ principal = .reviewer reviewer →
      s.Fresh token i →
      Step w s (s.issueSession token ⟨i, principal, none, expiresAt, none, .other⟩)
  | revokes (picked : Session → Bool) (at_ : Time) : at_ ≤ s.clock →
      Step w s (s.revoke picked at_)
  | disables (r : ReviewerId) :
      Step w s { s with disabled := Function.update s.disabled r true }
  /-- A call is refused or fails, or its process stops. -/
  | stops (c : Call) : Step w s (s.goto c .idle)

inductive Steps (w : Site) (s : State) : State → Prop
  | refl : Steps w s s
  | step : Steps w s s' → Step w s' s'' → Steps w s s''

structure State.Initial (s : State) : Prop where
  organisers : ∀ o, s.organisers o = none
  passkeys : ∀ p, s.passkeys p = none
  ceremonies : ∀ m, s.ceremonies m = none
  links : ∀ k, s.links k = none
  sessions : ∀ token, s.sessions token = none
  task : ∀ c, s.task c = .idle
  begun : ∀ m, s.begun m = none
  asked : ∀ k, s.asked k = none

end Kippu.SignIn
