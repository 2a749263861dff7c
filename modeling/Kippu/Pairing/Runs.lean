import Kippu.Store
import Mathlib.Algebra.Group.Nat.Defs

/-!
# Pairing a checkout with an account

A checkout's page, and whoever holds a handoff token of it, at work on its link: each
request finds the checkout by the hash of its token, checks what it read, and changes
the row later, if the guard of its statement still holds. Holds, payments and sales
follow. `history` is what the requests did, the latest first; of it, only the codes that
were submitted and the handoff tokens that linked are not in `checkout_audit`.
-/

namespace Kippu.Pairing

def PAIRING_CODE_DIGITS : ℕ := 6

/-- The hash functions: `hashSecret`; an HMAC keyed by a secret, in base64url; the first 32 bits,
big-endian, of an HMAC keyed by a digest; and a digest in hexadecimal. -/
structure Hashing (Secret Digest : Type) where
  hashSecret : Secret → Digest
  hmacBase64url : Secret → String → Secret
  hmacUInt32BE : Digest → String → ℕ
  hex : Digest → String

variable {Secret Digest : Type}

def padStart (text : String) (length : ℕ) : String :=
  "".pushn '0' (length - text.length) ++ text

namespace Hashing

def handoffTokenOf (H : Hashing Secret Digest) (token : Secret) (generation : ℕ) : Secret :=
  H.hmacBase64url token s!"kippu/checkout/handoff/{generation}"

def pairingCodeOf (H : Hashing Secret Digest) (tokenHash handoffTokenHash : Digest)
    (account : String) : String :=
  let handoff := H.hex handoffTokenHash
  let word := H.hmacUInt32BE tokenHash s!"kippu/checkout/pairing/{handoff}/{account}"
  padStart (toString (word % 10 ^ PAIRING_CODE_DIGITS)) PAIRING_CODE_DIGITS

/-- No two handoff tokens of different generations hash alike. -/
def CollisionFree (H : Hashing Secret Digest) : Prop :=
  ∀ token token' generation generation',
    H.hashSecret (H.handoffTokenOf token generation) =
      H.hashSecret (H.handoffTokenOf token' generation') → generation = generation'

end Hashing

/-- A row of `checkout_sessions`, as far as its link goes. -/
structure Checkout (Digest : Type) where
  tokenHash : Digest
  handoffTokenHash : Digest
  handoffGeneration : ℕ
  holderAccount : Option String
  linkConfirmed : Bool

inductive Event (Secret : Type)
  | began (i : CheckoutId) (token : Secret) (holder : Option String)
  | linked (i : CheckoutId) (account : String) (generation : ℕ) (handoffToken : Secret)
  | submitted (i : CheckoutId) (token : Secret) (pairingCode : String)
  | discarded (i : CheckoutId) (generation : ℕ)
  | confirmed (i : CheckoutId) (account : String)
  | held (i : CheckoutId) (account : Option String)
  | paid (i : CheckoutId) (account : Option String)
  | sold (i : CheckoutId) (account : Option String)

/-- The checkout of a hold, a payment or a sale, and the account it is for. -/
def Event.purchase : Event Secret → Option (CheckoutId × Option String)
  | .held i x | .paid i x | .sold i x => some (i, x)
  | _ => none

/-- A request that has read the checkout's row, before it changes anything. -/
inductive Task (Secret : Type)
  | link (i : CheckoutId) (generation : ℕ) (account : String) (handoffToken : Secret)
  | confirm (i : CheckoutId) (account : String)
  | discard (i : CheckoutId) (generation : ℕ) (token : Secret)
  | hold (i : CheckoutId) (account : Option String)
  | pay (i : CheckoutId) (account : Option String)
  | sell (i : CheckoutId) (account : Option String)

structure State (Secret Digest : Type) where
  checkouts : CheckoutId → Option (Checkout Digest)
  /-- The checkouts that have a row in `holds`, and in `hosted_checkouts`. -/
  held : CheckoutId → Prop
  hosted : CheckoutId → Prop
  tasks : ℕ → Option (Task Secret)
  history : List (Event Secret)

namespace State

def put (s : State Secret Digest) (t : ℕ) (task : Option (Task Secret)) : State Secret Digest :=
  { s with tasks := Function.update s.tasks t task }

def set (s : State Secret Digest) (i : CheckoutId) (row : Checkout Digest) :
    State Secret Digest :=
  { s with checkouts := Function.update s.checkouts i (some row) }

def log (s : State Secret Digest) (e : Event Secret) : State Secret Digest :=
  { s with history := e :: s.history }

end State

-- ---------------------------------------------------------------------------
-- Statements of the source
-- ---------------------------------------------------------------------------

def Checkout.begun (H : Hashing Secret Digest) (token : Secret) (holder : Option String) :
    Checkout Digest where
  tokenHash := H.hashSecret token
  handoffTokenHash := H.hashSecret (H.handoffTokenOf token 0)
  handoffGeneration := 0
  holderAccount := holder
  linkConfirmed := holder.isSome

def Checkout.link (row : Checkout Digest) (account : String) : Checkout Digest :=
  { row with holderAccount := some account }

def Checkout.confirm (row : Checkout Digest) : Checkout Digest :=
  { row with linkConfirmed := true }

def Checkout.discard (H : Hashing Secret Digest) (row : Checkout Digest) (generation : ℕ)
    (token : Secret) : Checkout Digest :=
  { row with
    holderAccount := none
    handoffGeneration := generation
    handoffTokenHash := H.hashSecret (H.handoffTokenOf token generation) }

-- ---------------------------------------------------------------------------
-- Steps
-- ---------------------------------------------------------------------------

inductive Step (H : Hashing Secret Digest) (s : State Secret Digest) : State Secret Digest → Prop
  /-- `beginCheckout`: a buyer's own holder session is linked and confirmed at once. -/
  | begins (token : Secret) (holder : Option String) : s.checkouts i = none →
      Step H s ((s.set i (.begun H token holder)).log (.began i token holder))
  /-- `linkCheckout` finds the checkout of a handoff token. -/
  | findsHandoff (token : Secret) (account : String) : s.tasks t = none →
      s.checkouts i = some row → row.handoffTokenHash = H.hashSecret token →
      Step H s (s.put t (some (.link i row.handoffGeneration account token)))
  | links : s.tasks t = some (.link i generation account token) → s.checkouts i = some row →
      row.handoffGeneration = generation → row.holderAccount = none →
      Step H s (((s.set i (row.link account)).log (.linked i account generation token)).put t none)
  /-- `confirmLink`: the code is that of the account it read. -/
  | submits (token : Secret) : s.tasks t = none → s.checkouts i = some row →
      row.tokenHash = H.hashSecret token → row.holderAccount = some account →
      pairingCode = H.pairingCodeOf row.tokenHash row.handoffTokenHash account →
      row.linkConfirmed = false →
      Step H s ((s.log (.submitted i token pairingCode)).put t (some (.confirm i account)))
  /-- The code is another, or the link is confirmed already. -/
  | submitsInVain (token : Secret) (pairingCode : String) : s.checkouts i = some row →
      row.tokenHash = H.hashSecret token → Step H s (s.log (.submitted i token pairingCode))
  | confirms : s.tasks t = some (.confirm i account) → s.checkouts i = some row →
      row.holderAccount = some account → row.linkConfirmed = false →
      Step H s (((s.set i row.confirm).log (.confirmed i account)).put t none)
  /-- `discardLink` finds an unconfirmed link. -/
  | findsLink (token : Secret) : s.tasks t = none → s.checkouts i = some row →
      row.tokenHash = H.hashSecret token → row.holderAccount ≠ none → row.linkConfirmed = false →
      Step H s (s.put t (some (.discard i row.handoffGeneration token)))
  | discards : s.tasks t = some (.discard i generation token) → s.checkouts i = some row →
      row.handoffGeneration = generation → row.linkConfirmed = false →
      Step H s (((s.set i (row.discard H (generation + 1) token)).log
        (.discarded i generation)).put t none)
  /-- `hold` finds a confirmed link. -/
  | findsConfirmed (token : Secret) : s.tasks t = none → s.checkouts i = some row →
      row.tokenHash = H.hashSecret token → row.holderAccount ≠ none → row.linkConfirmed = true →
      Step H s (s.put t (some (.hold i row.holderAccount)))
  | holds : s.tasks t = some (.hold i account) → ¬ s.held i →
      Step H s (({ s with held := Function.update s.held i True }.log (.held i account)).put t none)
  /-- `pay` reads the hold and its checkout. -/
  | findsHold (token : Secret) : s.tasks t = none → s.checkouts i = some row →
      row.tokenHash = H.hashSecret token → s.held i → row.holderAccount ≠ none →
      row.linkConfirmed = true → Step H s (s.put t (some (.pay i row.holderAccount)))
  | pays : s.tasks t = some (.pay i account) →
      Step H s (({ s with hosted := Function.update s.hosted i True }.log
        (.paid i account)).put t none)
  /-- `takePlace` reads the checkout of a hosted checkout, whatever its link; the sale is issued to
  the account it read. -/
  | findsHosted : s.tasks t = none → s.checkouts i = some row → s.hosted i →
      Step H s (s.put t (some (.sell i row.holderAccount)))
  | sells : s.tasks t = some (.sell i account) →
      Step H s ((s.log (.sold i account)).put t none)
  /-- A statement's guard fails, an error is answered, or the process stops. -/
  | stops : s.tasks t = some task → Step H s (s.put t none)

inductive Steps (H : Hashing Secret Digest) (s : State Secret Digest) :
    State Secret Digest → Prop
  | refl : Steps H s s
  | step : Steps H s s' → Step H s' s'' → Steps H s s''

structure State.Initial (s : State Secret Digest) : Prop where
  checkouts : ∀ i, s.checkouts i = none
  hosted : ∀ i, ¬ s.hosted i
  tasks : ∀ t, s.tasks t = none
  history : s.history = []

end Kippu.Pairing
