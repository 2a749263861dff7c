import Kippu.Sponsor.Entitlements

/-!
# An account's registration allowance

What the relay decides on the inputs an account signed, it would decide on those
inputs alone: the other calls of a sequence can be purged. That is so as long as
a registration an account signs is of that account, for it is the account
registered that is charged, not the signer.
-/

namespace Kippu.Sponsor

open Conc Derived

variable {profile : V0Profile} {limit : RegistrationRateLimit} {account signer : AccountId}
variable {counts counts' : Registrations} {call : Call} {now later : Time}

-- ---------------------------------------------------------------------------
-- The counters of one account
-- ---------------------------------------------------------------------------

theorem recent_sweep (h : now ≤ later) :
    recent limit later (sweep limit now counts) account = recent limit later counts account := by
  unfold sweep
  split
  · rfl
  simp only [recent, Table.get_eraseAll]
  cases hget : counts.get account with
  | none => rfl
  | some times =>
    cases hold : times.all (· + limit.window ≤ now) with
    | true =>
      -- Every registration of the account is too old.
      have hnone : times.filter (later < · + limit.window) = [] := by
        rw [List.filter_eq_nil_iff]
        intro time ht
        have htime := of_decide_eq_true (List.all_eq_true.mp hold time ht)
        simpa using le_trans htime h
      simp only [Option.filter_some, hold, Bool.not_true, Option.getD_some, hnone]
      rfl
    | false =>
      simp only [Option.filter_some, hold, Bool.not_false, if_true]

theorem recent_set_self :
    recent limit later (counts.set account times) account =
      times.filter (later < · + limit.window) := by
  simp [recent]

theorem recent_set_ne (h : account ≠ other) :
    recent limit later (counts.set other times) account = recent limit later counts account := by
  simp [recent, Table.get_set_ne _ h]

/-- Two tables of counters from which an account's registrations count alike, from some time on. -/
def Agree (limit : RegistrationRateLimit) (account : AccountId) (now : Time)
    (counts counts' : Registrations) : Prop :=
  ∀ later, now ≤ later → recent limit later counts account = recent limit later counts' account

theorem Agree.refl : Agree limit account now counts counts := fun _ _ => rfl

theorem Agree.trans (h : Agree limit account now a b) (h' : Agree limit account now b c) :
    Agree limit account now a c := fun later hl => (h later hl).trans (h' later hl)

theorem Agree.mono (h : Agree limit account now counts counts') (hl : now ≤ later) :
    Agree limit account later counts counts' := fun t ht => h t (hl.trans ht)

theorem agree_decideRegistration (h : account ≠ other) :
    Agree limit account now (decideRegistration limit now other counts).2 counts := by
  intro later hl
  unfold decideRegistration
  dsimp only
  split
  · rw [recent_set_ne h, recent_sweep hl]
  · rw [recent_set_ne h, recent_sweep hl]

theorem decideRegistration_congr (h : Agree limit account now counts counts') :
    (decideRegistration limit now account counts).1 =
        (decideRegistration limit now account counts').1 ∧
      Agree limit account now (decideRegistration limit now account counts).2
        (decideRegistration limit now account counts').2 := by
  have htimes : recent limit now (sweep limit now counts) account =
      recent limit now (sweep limit now counts') account := by
    rw [recent_sweep le_rfl, recent_sweep le_rfl]
    exact h now le_rfl
  unfold decideRegistration
  dsimp only
  rw [htimes]
  split
  · exact ⟨rfl, fun later _ => by rw [recent_set_self, recent_set_self]⟩
  · exact ⟨rfl, fun later _ => by rw [recent_set_self, recent_set_self]⟩

-- ---------------------------------------------------------------------------
-- One call
-- ---------------------------------------------------------------------------

/-- A registration that an account signs is of that account, and only that account's inputs
register a credential for it. -/
def OwnAccount (profile : V0Profile) (account : AccountId) (call : Call) : Prop :=
  ∀ signer registered registration,
    verifiedSigner profile call.derived call.input = .ok (.ok signer) →
    registers call.input = some (registered, registration) →
    (registered = account ↔ signer = account)

theorem signedBy_iff : call.signedBy profile account = true ↔
    verifiedSigner profile call.derived call.input = .ok (.ok account) := by
  unfold Call.signedBy
  cases verifiedSigner profile call.derived call.input with
  | error e => simp
  | ok r => cases r <;> simp

theorem decide_signed (limit : RegistrationRateLimit)
    (h : verifiedSigner profile call.derived call.input = .ok (.ok signer)) :
    (∃ registered registration, registers call.input = some (registered, registration) ∧
      ∀ counts, decide profile limit counts call =
        (.ok (decideRegistration limit call.now registered counts).1,
          (decideRegistration limit call.now registered counts).2)) ∨
    ∃ decision, ∀ counts, decide profile limit counts call = (decision, counts) := by
  unfold decide
  simp only [h]
  split
  · exact .inr ⟨_, fun _ => rfl⟩
  · rename_i _ registered registration _ hinput
    exact .inl ⟨registered, registration, by rw [hinput]; rfl, fun _ => rfl⟩
  · exact .inr ⟨_, fun _ => rfl⟩

/-- A call that the account did not sign leaves what counts of its registrations. -/
theorem agree_decide (limit : RegistrationRateLimit) (counts : Registrations)
    (hown : OwnAccount profile account call) (h : call.signedBy profile account = false) :
    Agree limit account call.now (decide profile limit counts call).2 counts := by
  cases hsigner : verifiedSigner profile call.derived call.input with
  | error e =>
    simp only [decide, hsigner]
    exact .refl
  | ok verified =>
    cases verified with
    | error reason =>
      simp only [decide, hsigner]
      exact .refl
    | ok signer =>
      have hne : signer ≠ account := by
        rintro rfl
        rw [signedBy_iff.mpr hsigner] at h
        cases h
      obtain ⟨registered, registration, hreg, hdecide⟩ | ⟨decision, hdecide⟩ :=
        decide_signed limit hsigner
      · rw [hdecide]
        have hreg' := (hown signer registered registration hsigner hreg).not.mpr hne
        exact agree_decideRegistration fun heq => hreg' heq.symm
      · rw [hdecide]
        exact .refl

theorem decide_congr (hown : OwnAccount profile account call)
    (h : call.signedBy profile account = true)
    (hagree : Agree limit account call.now counts counts') :
    (decide profile limit counts call).1 = (decide profile limit counts' call).1 ∧
      Agree limit account call.now (decide profile limit counts call).2
        (decide profile limit counts' call).2 := by
  have hsigner := signedBy_iff.mp h
  obtain ⟨registered, registration, hreg, hdecide⟩ | ⟨decision, hdecide⟩ :=
    decide_signed limit hsigner
  · have heq := (hown account registered registration hsigner hreg).mpr rfl
    subst heq
    obtain ⟨hdecision, hcounts⟩ := decideRegistration_congr hagree
    rw [hdecide, hdecide]
    exact ⟨by rw [hdecision], hcounts⟩
  · rw [hdecide, hdecide]
    exact ⟨rfl, hagree⟩

-- ---------------------------------------------------------------------------
-- Sequences of calls
-- ---------------------------------------------------------------------------

/-- Calls by a clock that does not go back. -/
def InOrder (calls : List Call) : Prop := calls.Pairwise fun call call' => call.now ≤ call'.now

theorem decisionsOf_purge (hagree : Agree limit account now counts counts')
    (hnow : ∀ call ∈ calls, now ≤ call.now) (horder : InOrder calls)
    (hown : ∀ call ∈ calls, OwnAccount profile account call) :
    decisionsOf profile limit account counts calls =
      decisionsOf profile limit account counts' (calls.filter (·.signedBy profile account)) := by
  induction calls generalizing counts counts' now with
  | nil => rfl
  | cons call calls ih =>
    rw [InOrder, List.pairwise_cons] at horder
    have hcall := hagree.mono (hnow call (by simp))
    have howncall := hown call (by simp)
    have hrest := fun c hc => hown c (List.mem_cons_of_mem call hc)
    by_cases hsigned : call.signedBy profile account = true
    · obtain ⟨hdecision, hnext⟩ := decide_congr howncall hsigned hcall
      simp only [decisionsOf, List.filter_cons, hsigned, if_true, hdecision]
      rw [ih hnext horder.1 horder.2 hrest]
    · have hnot : call.signedBy profile account = false := by simpa using hsigned
      have hnext := (agree_decide limit counts howncall hnot).trans hcall
      simp only [decisionsOf, List.filter_cons, hnot, Bool.false_eq_true, if_false]
      exact ih hnext horder.1 horder.2 hrest

/-- Two sequences of calls that differ only in inputs an account did not sign: the decisions on
those it signed are the same. -/
theorem allowance_is_own (profile : V0Profile) (limit : RegistrationRateLimit) (account : AccountId)
    (calls calls' : List Call)
    (hsame : calls.filter (·.signedBy profile account) =
      calls'.filter (·.signedBy profile account))
    (hown : ∀ call ∈ calls ++ calls', OwnAccount profile account call)
    (horder : InOrder calls) (horder' : InOrder calls') :
    decisionsOf profile limit account .empty calls =
      decisionsOf profile limit account .empty calls' := by
  have hpurge := decisionsOf_purge (.refl : Agree limit account 0 .empty .empty)
    (fun call _ => Nat.zero_le call.now) horder fun call hc => hown call (List.mem_append_left _ hc)
  have hpurge' := decisionsOf_purge (.refl : Agree limit account 0 .empty .empty)
    (fun call _ => Nat.zero_le call.now) horder' fun call hc =>
      hown call (List.mem_append_right _ hc)
  rw [hpurge, hpurge', hsame]

/-- Accounts 1 and 2, each with one credential; an authorisation is the account's number. -/
def twoAccounts : V0Profile where
  accountOf a := if a = 1 then .ok (1, 11) else if a = 2 then .ok (2, 22) else .error "unknown"
  encodeCommand _ _ := 0
  encodePass _ := 0
  registrationAccount registration := .ok (registration, 11 * registration)
  verify registration _ authorisation := registration = authorisation
  eventId _ _ := 0

/-- A copy that holds account 2's credential, and none of account 1's. -/
def secondRegistered : Queries where
  event _ := .ok none
  ticket _ := .ok none
  credential account _ := .ok (if account = 2 then some 2 else none)
  credentials account := .ok (if account = 2 then [2] else [])
  isOrganiserAccount _ := .ok false

def registration (signer registered now : ℕ) : Call :=
  ⟨.command ⟨0, .registerCredential registered registered, signer⟩, secondRegistered, now⟩

theorem ownAccount_registration (h : verifiedSigner twoAccounts secondRegistered
    (registration signer signer now).input = .ok (.ok signer)) :
    OwnAccount twoAccounts account (registration signer signer now) := by
  intro signer' registered r hsigner hreg
  cases hreg
  have heq := hsigner.symm.trans h
  cases heq
  rfl

theorem allowance_is_own_second_account :
    decisionsOf twoAccounts ⟨1, 1000⟩ 1 .empty [registration 2 2 5, registration 1 1 6] =
      decisionsOf twoAccounts ⟨1, 1000⟩ 1 .empty [registration 1 1 6] := by
  refine allowance_is_own twoAccounts ⟨1, 1000⟩ 1 _ _ rfl ?_ (by simp [InOrder, registration])
    (by simp [InOrder])
  intro call hcall
  simp only [List.cons_append, List.nil_append, List.mem_cons, List.not_mem_nil, or_false] at hcall
  rcases hcall with rfl | rfl | rfl <;> exact ownAccount_registration rfl

/-- Account 2 signs a registration of account 1, and account 1's own is refused. -/
theorem allowance_used_up_by_another :
    [registration 2 1 5, registration 1 1 6].filter (·.signedBy twoAccounts 1) =
        [registration 1 1 6].filter (·.signedBy twoAccounts 1) ∧
      InOrder [registration 2 1 5, registration 1 1 6] ∧ InOrder [registration 1 1 6] ∧
      decisionsOf twoAccounts ⟨1, 1000⟩ 1 .empty [registration 2 1 5, registration 1 1 6] =
        [.ok (.refused "too many registrations sponsored for this account; try again later")] ∧
      decisionsOf twoAccounts ⟨1, 1000⟩ 1 .empty [registration 1 1 6] =
        [.ok (.entitled (.accountCreation 1))] := by
  refine ⟨rfl, by simp [InOrder, registration], by simp [InOrder], ?_, ?_⟩
  · rfl
  · rfl

end Kippu.Sponsor
