import Kippu.Derived.ExactlyOnce
import Kippu.Sponsor.Allowance
import Mathlib.Logic.Relation

/-!
# Lag

A client whose writes go through the receipt tracker asks the relay for
sponsorships, while the ledger accepts writes, their settlements are observed in
any order, and the reader commits what the copy reflects. The relay decides, and
once more when the copy has reached the cursor it was given; only then a refusal
is final. The cursor is that of the settlement the tracker observed last.
-/

namespace Kippu.Sponsor

open Derived

-- ---------------------------------------------------------------------------
-- What a decision reads
-- ---------------------------------------------------------------------------

/-- What the copy answers when it reflects some number of records. -/
structure Facts where
  event : EventId → Option Event
  ticket : TicketId → Option Derived.Ticket
  credential : AccountId → CredentialId → Option Registration
  credentials : AccountId → List Registration
  isOrganiserAccount : AccountId → Bool

/-- An answer of the copy, read while it reflected `n` records or more, up to `m`. -/
def AnsweredBetween (copies : ℕ → Facts) (n m : ℕ) (get : Facts → α) (answer : Except StoreError α) :
    Prop :=
  answer = .error .unavailable ∨ ∃ k, n ≤ k ∧ k ≤ m ∧ answer = .ok (get (copies k))

structure ReadBetween (copies : ℕ → Facts) (n m : ℕ) (derived : Queries) : Prop where
  event : ∀ i, AnsweredBetween copies n m (·.event i) (derived.event i)
  ticket : ∀ i, AnsweredBetween copies n m (·.ticket i) (derived.ticket i)
  credential : ∀ i j, AnsweredBetween copies n m (·.credential i j) (derived.credential i j)
  credentials : ∀ i, AnsweredBetween copies n m (·.credentials i) (derived.credentials i)
  isOrganiserAccount : ∀ i,
    AnsweredBetween copies n m (·.isOrganiserAccount i) (derived.isOrganiserAccount i)

theorem AnsweredBetween.mono {get : Facts → α} (h : AnsweredBetween copies n m get answer)
    (hn : n' ≤ n) : AnsweredBetween copies n' m get answer := by
  rcases h with herror | ⟨k, hk, hm, hanswer⟩
  · exact .inl herror
  · exact .inr ⟨k, hn.trans hk, hm, hanswer⟩

theorem ReadBetween.mono (h : ReadBetween copies n m derived) (hn : n' ≤ n) :
    ReadBetween copies n' m derived :=
  ⟨fun i => (h.event i).mono hn, fun i => (h.ticket i).mono hn,
    fun i j => (h.credential i j).mono hn, fun i => (h.credentials i).mono hn,
    fun i => (h.isOrganiserAccount i).mono hn⟩

/-- The refusal of a registration over its limit, which no fact of the ledger decides. -/
def tooMany : String := "too many registrations sponsored for this account; try again later"

-- ---------------------------------------------------------------------------
-- Requests
-- ---------------------------------------------------------------------------

inductive Answer
  | sponsored
  | refused (reason : String)
  | ledgerUnavailable

/-- Where a request stands. A decision under way knows how many records the copy reflected when
it began. -/
inductive Phase
  | sending
  | deciding (start : ℕ)
  | waiting
  | again (start : ℕ)
  | answered (answer : Answer)

/-- A request of the client's. `settled` are the places in the log of the client's writes that
were settled when it asked. -/
structure Request where
  input : SignedInput
  after : Option Cursor
  settled : List ℕ
  attempts : ℕ
  phase : Phase

/-- The request is sent again, unless its attempts ran out. -/
def Request.retry (request : Request) : Request :=
  if 1 < request.attempts then
    { request with attempts := request.attempts - 1, phase := .sending }
  else { request with phase := .answered .ledgerUnavailable }

def Request.decided (request : Request) :
    Except StoreError EntitlementDecision → Request
  | .error _ => request.retry
  | .ok (.entitled _) => { request with phase := .answered .sponsored }
  | .ok (.refused reason) =>
    match request.after with
    | none => { request with phase := .answered (.refused reason) }
    | some _ => { request with phase := .waiting }

def Request.decidedAgain (request : Request) :
    Except StoreError EntitlementDecision → Request
  | .error _ => request.retry
  | .ok (.entitled _) => { request with phase := .answered .sponsored }
  | .ok (.refused reason) => { request with phase := .answered (.refused reason) }

-- ---------------------------------------------------------------------------
-- The ledger, the tracker, the copy and the relay
-- ---------------------------------------------------------------------------

/-- `settled` is how many records the ledger's log has, `mine` the places of the client's writes
in it, `latest` what the tracker answers, `copied` how many records the copy reflects. -/
structure State where
  settled : ℕ
  mine : List ℕ
  latest : Option Cursor
  copied : ℕ
  counts : Registrations
  requests : ℕ → Option Request

def State.initial (settled copied : ℕ) : State :=
  ⟨settled, [], none, copied, .empty, fun _ => none⟩

def State.put (s : State) (r : ℕ) (request : Request) : State :=
  { s with requests := Function.update s.requests r (some request) }

structure Deployment where
  log : LogReader
  copies : ℕ → Facts
  profile : V0Profile
  limit : RegistrationRateLimit
  attempts : ℕ

variable (D : Deployment)

def Deployment.reached (copied : ℕ) (cursor : Cursor) : Bool :=
  (D.log.records.take copied).any (·.cursor = cursor)

/-- One step. The client asks only when `ok` holds of its input then. -/
inductive Step (ok : State → SignedInput → Prop) (s : State) : State → Prop
  /-- The ledger accepts the next record, a write of the client's or not. -/
  | settle (mine : Bool) : s.settled < D.log.records.length →
      Step ok s { s with
        settled := s.settled + 1
        mine := if mine then s.settled :: s.mine else s.mine }
  | observe : i ∈ s.mine → D.log.records[i]? = some record →
      Step ok s { s with latest := some record.cursor }
  | apply : s.copied ≤ n → n ≤ s.settled → Step ok s { s with copied := n }
  | ask : s.requests r = none → ok s input →
      Step ok s (s.put r ⟨input, s.latest, s.mine, D.attempts, .sending⟩)
  | arrive : s.requests r = some request → request.phase = .sending →
      Step ok s (s.put r { request with phase := .deciding s.copied })
  | decide (now : Time) : s.requests r = some request → request.phase = .deciding n →
      ReadBetween D.copies n s.copied derived →
      decide D.profile D.limit s.counts ⟨request.input, derived, now⟩ = (decision, counts) →
      Step ok s (State.put { s with counts := counts } r (request.decided decision))
  | reached : s.requests r = some request → request.phase = .waiting →
      request.after = some cursor → D.reached s.copied cursor = true →
      Step ok s (s.put r { request with phase := .again s.copied })
  | decideAgain (now : Time) : s.requests r = some request → request.phase = .again n →
      ReadBetween D.copies n s.copied derived →
      decide D.profile D.limit s.counts ⟨request.input, derived, now⟩ = (decision, counts) →
      Step ok s (State.put { s with counts := counts } r (request.decidedAgain decision))
  /-- The copy lags, cannot be read, or an answer is lost. -/
  | fails : s.requests r = some request → (∀ answer, request.phase ≠ .answered answer) →
      Step ok s (s.put r request.retry)

/-- An entitlement established by the record at a place of the log, that holds at every later
place: whatever a decision reads from there on, it does not refuse the input. -/
def Deployment.Established (e : ℕ) (input : SignedInput) : Prop :=
  ∀ m derived counts now reason, ReadBetween D.copies (e + 1) m derived →
    (Sponsor.decide D.profile D.limit counts ⟨input, derived, now⟩).1 = .ok (.refused reason) →
    reason = tooMany

/-- If a settled write of the client's established the entitlement, then the copy reflects one
that did, or the tracker answers with the cursor of one at the same place or later. -/
def Deployment.Covers (s : State) (input : SignedInput) : Prop :=
  (∃ e ∈ s.mine, D.Established e input) →
    ∃ e ∈ s.mine, D.Established e input ∧ (e < s.copied ∨
      ∃ i record, e ≤ i ∧ D.log.records[i]? = some record ∧ s.latest = some record.cursor)

-- ---------------------------------------------------------------------------
-- No final refusal
-- ---------------------------------------------------------------------------

variable {D} {s s' : State} {request : Request}

theorem reached_iff (h : D.log.records[i]? = some record) :
    D.reached copied record.cursor = true ↔ i < copied := by
  simp only [Deployment.reached, List.any_eq_true, decide_eq_true_eq]
  constructor
  · rintro ⟨r, hr, hcursor⟩
    obtain ⟨j, hj⟩ := List.mem_iff_getElem?.mp hr
    rw [List.getElem?_take] at hj
    split at hj
    · rename_i hjc
      exact D.log.cursor_inj hj h hcursor ▸ hjc
    · cases hj
  · intro hi
    refine ⟨record, List.mem_iff_getElem?.mpr ⟨i, ?_⟩, rfl⟩
    rw [List.getElem?_take, if_pos hi, h]

/-- The copy reflects the establishing write, or the relay was given a cursor that waits for it. -/
def Awaits (D : Deployment) (copied e : ℕ) (request : Request) : Prop :=
  e < copied ∨ ∃ i record, e ≤ i ∧ D.log.records[i]? = some record ∧
    request.after = some record.cursor

/-- What keeps an established entitlement from a final refusal, by where the request stands. -/
def Kept (D : Deployment) (copied e : ℕ) (request : Request) : Prop :=
  match request.phase with
  | .sending | .waiting => Awaits D copied e request
  | .deciding n => n ≤ copied ∧ Awaits D n e request
  | .again n => n ≤ copied ∧ e < n
  | .answered (.refused reason) => reason = tooMany
  | .answered _ => True

def Protected (D : Deployment) (s : State) : Prop :=
  ∀ r request, s.requests r = some request →
    (∃ e ∈ request.settled, D.Established e request.input) →
    ∃ e, D.Established e request.input ∧ Kept D s.copied e request

theorem Awaits.mono (h : Awaits D n e request) (hn : n ≤ m) (hafter : request'.after = request.after) :
    Awaits D m e request' := by
  rcases h with he | ⟨i, record, hi, hrecord, hlatest⟩
  · exact .inl (Nat.lt_of_lt_of_le he hn)
  · exact .inr ⟨i, record, hi, hrecord, hafter.trans hlatest⟩

theorem Kept.awaits (h : Kept D copied e request)
    (hphase : ∀ answer, request.phase ≠ .answered answer) : Awaits D copied e request := by
  unfold Kept at h
  split at h
  · exact h
  · exact h
  · exact h.2.mono h.1 rfl
  · exact .inl (Nat.lt_of_lt_of_le h.2 h.1)
  · rename_i reason hanswered
    exact absurd hanswered (hphase _)
  · rename_i answer _ hanswered
    exact absurd hanswered (hphase answer)

theorem Kept.retry (h : Kept D copied e request)
    (hphase : ∀ answer, request.phase ≠ .answered answer) : Kept D copied e request.retry := by
  have hawaits := h.awaits hphase
  unfold Request.retry
  split
  · exact hawaits.mono le_rfl rfl
  · trivial

theorem Kept.grow (h : Kept D n e request) (hn : n ≤ m) : Kept D m e request := by
  unfold Kept at h ⊢
  split at h
  · exact h.mono hn rfl
  · exact h.mono hn rfl
  · exact ⟨h.1.trans hn, h.2⟩
  · exact ⟨h.1.trans hn, h.2⟩
  · exact h
  · trivial

/-- The first decision: a refusal is final only of a copy that reflects the establishing write. -/
theorem Kept.decided (h : Kept D copied e request) (hphase : request.phase = .deciding n)
    (hest : D.Established e request.input) (hread : ReadBetween D.copies n copied derived)
    (hd : (Sponsor.decide D.profile D.limit counts ⟨request.input, derived, now⟩).1 = decision) :
    Kept D copied e (request.decided decision) := by
  have hnot : ∀ answer, request.phase ≠ .answered answer := by simp [hphase]
  cases decision with
  | error error => exact h.retry hnot
  | ok decision =>
    cases decision with
    | entitled entitlement => trivial
    | refused reason =>
      simp only [Kept, hphase] at h
      simp only [Request.decided]
      cases hafter : request.after with
      | some cursor => exact h.2.mono h.1 hafter.symm
      | none =>
        rcases h.2 with he | ⟨i, record, -, -, hlatest⟩
        · exact hest copied derived counts now reason (hread.mono he) hd
        · rw [hafter] at hlatest
          cases hlatest

theorem Kept.decidedAgain (h : Kept D copied e request) (hphase : request.phase = .again n)
    (hest : D.Established e request.input) (hread : ReadBetween D.copies n copied derived)
    (hd : (Sponsor.decide D.profile D.limit counts ⟨request.input, derived, now⟩).1 = decision) :
    Kept D copied e (request.decidedAgain decision) := by
  have hnot : ∀ answer, request.phase ≠ .answered answer := by simp [hphase]
  cases decision with
  | error error => exact h.retry hnot
  | ok decision =>
    cases decision with
    | entitled entitlement => trivial
    | refused reason =>
      simp only [Kept, hphase] at h
      exact hest copied derived counts now reason (hread.mono h.2) hd

theorem Kept.reached (h : Kept D copied e request) (hphase : request.phase = .waiting)
    (hafter : request.after = some cursor) (hreached : D.reached copied cursor = true) :
    Kept D copied e { request with phase := .again copied } := by
  simp only [Kept, hphase] at h
  rcases h with he | ⟨i, record, hi, hrecord, hlatest⟩
  · exact ⟨le_rfl, he⟩
  · rw [hafter, Option.some.injEq] at hlatest
    subst hlatest
    exact ⟨le_rfl, Nat.lt_of_le_of_lt hi ((reached_iff hrecord).mp hreached)⟩

theorem Protected.put (h : Protected D s) (hcopied : s'.copied = s.copied)
    (hrequests : s'.requests = s.requests) (hrequest : s.requests r = some request)
    (hsettled : request'.settled = request.settled) (hinput : request'.input = request.input)
    (hkept : ∀ e, D.Established e request.input → Kept D s.copied e request →
      Kept D s.copied e request') : Protected D (s'.put r request') := by
  intro j other hother hest
  by_cases hj : j = r
  · subst hj
    simp only [State.put, Function.update_self, Option.some.injEq] at hother
    subst hother
    rw [hsettled, hinput] at hest
    obtain ⟨e, he, hk⟩ := h j request hrequest hest
    exact ⟨e, hinput ▸ he, hcopied ▸ hkept e he hk⟩
  · simp only [State.put, Function.update_of_ne hj, hrequests] at hother
    obtain ⟨e, he, hk⟩ := h j other hother hest
    exact ⟨e, he, hcopied ▸ hk⟩

theorem Request.settled_retry : request.retry.settled = request.settled := by
  unfold Request.retry
  split <;> rfl

theorem Request.input_retry : request.retry.input = request.input := by
  unfold Request.retry
  split <;> rfl

theorem Request.decided_same (request : Request) (decision) :
    (request.decided decision).settled = request.settled ∧
      (request.decided decision).input = request.input := by
  unfold Request.decided
  split
  · exact ⟨settled_retry, input_retry⟩
  · exact ⟨rfl, rfl⟩
  · split <;> exact ⟨rfl, rfl⟩

theorem Request.decidedAgain_same (request : Request) (decision) :
    (request.decidedAgain decision).settled = request.settled ∧
      (request.decidedAgain decision).input = request.input := by
  unfold Request.decidedAgain
  split
  · exact ⟨settled_retry, input_retry⟩
  · exact ⟨rfl, rfl⟩
  · exact ⟨rfl, rfl⟩

theorem Protected.step (h : Protected D s) (hstep : Step D D.Covers s s') : Protected D s' := by
  cases hstep with
  | settle mine hlog => exact h
  | observe hi hrecord => exact h
  | apply hn hm =>
    intro r request hrequest hest
    obtain ⟨e, he, hk⟩ := h r request hrequest hest
    exact ⟨e, he, hk.grow hn⟩
  | @ask r input hnone hcovers =>
    intro j other hother hest
    by_cases hj : j = r
    · subst hj
      simp only [State.put, Function.update_self, Option.some.injEq] at hother
      subst hother
      obtain ⟨e, -, he, hawaits⟩ := hcovers hest
      exact ⟨e, he, hawaits⟩
    · simp only [State.put, Function.update_of_ne hj] at hother
      exact h j other hother hest
  | arrive hrequest hphase =>
    refine h.put rfl rfl hrequest rfl rfl fun e _ hk => ?_
    simp only [Kept, hphase] at hk
    exact ⟨le_rfl, hk.mono le_rfl rfl⟩
  | @decide _ request _ _ decision _ now hrequest hphase hread hdecide =>
    obtain ⟨hsettled, hinput⟩ := request.decided_same decision
    exact h.put rfl rfl hrequest hsettled hinput fun e he hk =>
      hk.decided hphase he hread (congrArg Prod.fst hdecide)
  | reached hrequest hphase hafter hreached =>
    exact h.put rfl rfl hrequest rfl rfl fun e _ hk => hk.reached hphase hafter hreached
  | @decideAgain _ request _ _ decision _ now hrequest hphase hread hdecide =>
    obtain ⟨hsettled, hinput⟩ := request.decidedAgain_same decision
    exact h.put rfl rfl hrequest hsettled hinput fun e he hk =>
      hk.decidedAgain hphase he hread (congrArg Prod.fst hdecide)
  | fails hrequest hphase =>
    exact h.put rfl rfl hrequest Request.settled_retry Request.input_retry fun e _ hk =>
      hk.retry hphase

/-- In every run in which the client asks only when the tracker's cursor covers the write that
established the entitlement, a final refusal is of an input that no settled write of the client's
entitled, or of a registration over its limit. -/
theorem refused_not_entitled (D : Deployment) (settled copied : ℕ) (s : State)
    (hrun : Relation.ReflTransGen (Step D D.Covers) (.initial settled copied) s) :
    ∀ r request reason, s.requests r = some request →
      request.phase = .answered (.refused reason) → reason ≠ tooMany →
      ∀ e ∈ request.settled, ¬ D.Established e request.input := by
  have hprotected : Protected D s := by
    induction hrun with
    | refl =>
      intro r request hrequest
      cases hrequest
    | tail _ hstep ih => exact ih.step hstep
  intro r request reason hrequest hphase hreason e he hest
  obtain ⟨e', -, hk⟩ := hprotected r request hrequest ⟨e, he, hest⟩
  simp only [Kept, hphase] at hk
  exact hreason hk

/-- The copy of a log whose second record creates account 2's event 5. -/
def eventSecond (n : ℕ) : Facts where
  event i := if i = 5 ∧ 2 ≤ n then some ⟨2, .active, none, 0, []⟩ else none
  ticket _ := none
  credential account _ := if account = 2 then some 2 else none
  credentials account := if account = 2 then [2] else []
  isOrganiserAccount _ := true

def Facts.queries (facts : Facts) : Queries where
  event i := .ok (facts.event i)
  ticket i := .ok (facts.ticket i)
  credential i j := .ok (facts.credential i j)
  credentials i := .ok (facts.credentials i)
  isOrganiserAccount i := .ok (facts.isOrganiserAccount i)

theorem readBetween_queries (copies : ℕ → Facts) (n : ℕ) :
    ReadBetween copies n n (copies n).queries := by
  constructor <;> intros <;> exact .inr ⟨n, le_rfl, le_rfl, rfl⟩

def twoWrites : Deployment := ⟨twoRecords, eventSecond, twoAccounts, ⟨1, 1000⟩, 5⟩

def sealEvent (event : EventId) : SignedInput := .command ⟨0, .setEventStatus event .sealed, 2⟩

theorem established_sealEvent : twoWrites.Established 1 (sealEvent 5) := by
  intro m derived counts now reason hread hd
  have hcredential := hread.credential 2 22
  have hevent := hread.event 5
  rcases hcredential with hcredential | ⟨k, -, -, hcredential⟩
  · simp [Sponsor.decide, verifiedSigner, twoWrites, twoAccounts, sealEvent,
      SignedInput.authorisation, registers, verifiedRegistered, hcredential, bind, Except.bind] at hd
  have hsigner : verifiedSigner twoAccounts derived (sealEvent 5) = .ok (.ok 2) := by
    simp [verifiedSigner, twoAccounts, sealEvent, SignedInput.authorisation, registers,
      verifiedRegistered, hcredential, twoWrites, eventSecond, bind, Except.bind, pure, Except.pure]
  simp only [Sponsor.decide, twoWrites, hsigner] at hd
  rcases hevent with hevent | ⟨k, hk, -, hevent⟩
  · simp [sealEvent, decideOther, ownedBy, hevent, bind, Except.bind] at hd
  · have htwo : 2 ≤ k := hk
    simp [sealEvent, decideOther, ownedBy, hevent, twoWrites, eventSecond, htwo, bind, Except.bind,
      pure, Except.pure] at hd

/-- Both writes are settled, and the tracker has observed both, in the log's order or not. -/
def observedLast (i : ℕ) (copied : ℕ) : State where
  settled := 2
  mine := [1, 0]
  latest := (twoRecords.records[i]?).map LogRecord.cursor
  copied := copied
  counts := .empty
  requests := fun _ => none

theorem run_observedLast (ok : State → SignedInput → Prop) (hi : i = 0 ∨ i = 1) (hn : n ≤ 2) :
    Relation.ReflTransGen (Step twoWrites ok) (.initial 0 0) (observedLast i n) := by
  have hboth : Relation.ReflTransGen (Step twoWrites ok) (.initial 0 0)
      ⟨2, [1, 0], none, 0, .empty, fun _ => none⟩ :=
    .tail (.single (.settle true (by decide))) (.settle true (by decide))
  have hobserved : Relation.ReflTransGen (Step twoWrites ok) (.initial 0 0) (observedLast i 0) := by
    rcases hi with rfl | rfl
    · exact .tail (.tail hboth (.observe (i := 1) (by decide) rfl))
        (.observe (i := 0) (by decide) rfl)
    · exact .tail (.tail hboth (.observe (i := 0) (by decide) rfl))
        (.observe (i := 1) (by decide) rfl)
  exact .tail hobserved (.apply (Nat.zero_le n) hn)

/-- A request that is refused, waits for a cursor the copy has reached, and is refused again. -/
theorem run_refused (ok : State → SignedInput → Prop) (input : SignedInput)
    (hi : i = 0 ∨ i = 1) (hn : n ≤ 2) (hok : ok (observedLast i n) input)
    (hlatest : (observedLast i n).latest = some cursor) (hreached : twoWrites.reached n cursor = true)
    (hdecide : Sponsor.decide twoAccounts ⟨1, 1000⟩ .empty ⟨input, (eventSecond n).queries, 7⟩ =
      (.ok (.refused reason), .empty)) :
    ∃ s, Relation.ReflTransGen (Step twoWrites ok) (.initial 0 0) s ∧
      s.requests 0 = some ⟨input, some cursor, [1, 0], 5, .answered (.refused reason)⟩ := by
  have hread := readBetween_queries eventSecond n
  have hask : Step twoWrites ok (observedLast i n) ((observedLast i n).put 0
      ⟨input, some cursor, [1, 0], 5, .sending⟩) := hlatest ▸ .ask rfl hok
  have harrive := (run_observedLast ok hi hn).tail hask |>.tail (.arrive (r := 0) rfl rfl)
  have hfirst := harrive.tail (.decide (r := 0) 7 rfl rfl hread hdecide)
  have hwaited := hfirst.tail (.reached (r := 0) rfl rfl rfl hreached)
  exact ⟨_, hwaited.tail (.decideAgain (r := 0) 7 rfl rfl hread hdecide), rfl⟩

theorem not_established_sealEvent : ¬ twoWrites.Established e (sealEvent 6) := by
  intro hest
  have hreason := hest (e + 1) _ .empty 7 "no event 6 in the derived copy"
    (readBetween_queries eventSecond (e + 1)) rfl
  revert hreason
  decide

theorem refused_not_entitled_no_such_event : ¬ twoWrites.Established 1 (sealEvent 6) := by
  have hcovers : twoWrites.Covers (observedLast 1 2) (sealEvent 6) := by
    rintro ⟨e, -, hest⟩
    exact absurd hest not_established_sealEvent
  obtain ⟨s, hrun, hrequest⟩ := run_refused twoWrites.Covers (sealEvent 6) (.inr rfl) le_rfl hcovers
    rfl (by decide) rfl
  exact refused_not_entitled twoWrites 0 0 s hrun 0 _ _ hrequest rfl (by decide) 1 (by decide)

/-- The settlement of the first write is observed after the second's, and the reader has read the
first only: the input that the second entitles is refused for good. -/
theorem entitled_refused_out_of_order :
    ∃ s request reason,
      Relation.ReflTransGen (Step twoWrites fun _ _ => True) (.initial 0 0) s ∧
        s.requests 0 = some request ∧ request.phase = .answered (.refused reason) ∧
        reason ≠ tooMany ∧ 1 ∈ request.settled ∧ twoWrites.Established 1 request.input := by
  obtain ⟨s, hrun, hrequest⟩ := run_refused (fun _ _ => True) (sealEvent 5) (.inl rfl)
    (by decide : 1 ≤ 2) trivial rfl (by decide) rfl
  exact ⟨s, _, _, hrun, hrequest, rfl, by decide, by decide, established_sealEvent⟩

end Kippu.Sponsor
