import Kippu.Sponsor.Allowance

/-!
# The registration rate limit

However many inputs are decided, in whatever order and whoever signed them, no
window of the configured length sees more registrations of one account entitled
than the limit. What carries it: the account's record, cut to the window, is the
list of its entitled registrations, cut to the window, whatever was swept in
between.
-/

namespace Kippu.Sponsor

open Conc Derived

variable {profile : V0Profile} {limit : RegistrationRateLimit} {account : AccountId}
variable {counts : Registrations} {charged : AccountId} {call : Call} {calls : List Call}
variable {now later : Time} {times entitled : List Time}

def entitles (account : AccountId) (call : Call) :
    Except StoreError EntitlementDecision → Bool
  | .ok (.entitled _) => (registers call.input).any (·.1 = account)
  | _ => false

def entitledTimes (profile : V0Profile) (limit : RegistrationRateLimit) (account : AccountId) :
    Registrations → List Call → List Time
  | _, [] => []
  | counts, call :: calls =>
    let decided := decide profile limit counts call
    let rest := entitledTimes profile limit account decided.2 calls
    if entitles account call decided.1 then call.now :: rest else rest

def countsAfter (profile : V0Profile) (limit : RegistrationRateLimit) (counts : Registrations)
    (calls : List Call) : Registrations :=
  calls.foldl (fun counts call => (decide profile limit counts call).2) counts

/-- The times in a window that is closed on the left. -/
def fromWindow (limit : RegistrationRateLimit) (start : Time) (times : List Time) : ℕ :=
  times.countP fun time => start ≤ time ∧ time < start + limit.window

/-- The times in a window that is closed on the right. -/
def afterWindow (limit : RegistrationRateLimit) (start : Time) (times : List Time) : ℕ :=
  times.countP fun time => start < time ∧ time ≤ start + limit.window

/-- No window of the configured length holds more times than the limit. -/
def Limited (limit : RegistrationRateLimit) (times : List Time) : Prop :=
  ∀ start, fromWindow limit start times ≤ limit.registrations ∧
    afterWindow limit start times ≤ limit.registrations

-- ---------------------------------------------------------------------------
-- Windows
-- ---------------------------------------------------------------------------

theorem limited_nil : Limited limit [] := fun _ => ⟨Nat.zero_le _, Nat.zero_le _⟩

/-- One more time, when fewer than the limit lie within the window before it: a window that holds
it reaches back from it by less than its length. -/
theorem countP_snoc (p : Time → Bool) (hp : ∀ time, p time → p now → now < time + limit.window)
    (hroom : (times.filter (now < · + limit.window)).length < limit.registrations)
    (h : times.countP p ≤ limit.registrations) :
    (times ++ [now]).countP p ≤ limit.registrations := by
  rw [List.countP_append, List.countP_singleton]
  split
  · rename_i hin
    rw [← List.countP_eq_length_filter] at hroom
    refine Nat.succ_le_of_lt (lt_of_le_of_lt (List.countP_mono_left fun time _ ht => ?_) hroom)
    simpa using hp time ht hin
  · exact h

theorem Limited.snoc (h : Limited limit times)
    (hroom : (times.filter (now < · + limit.window)).length < limit.registrations) :
    Limited limit (times ++ [now]) := by
  intro start
  constructor
  · refine countP_snoc _ (fun time ht hin => ?_) hroom (h start).1
    simp only [decide_eq_true_eq] at ht hin
    exact hin.2.trans_le (Nat.add_le_add_right ht.1 _)
  · refine countP_snoc _ (fun time ht hin => ?_) hroom (h start).2
    simp only [decide_eq_true_eq] at ht hin
    exact hin.2.trans_lt (Nat.add_lt_add_right ht.1 _)

theorem filter_window (h : now ≤ later) :
    (times.filter (now < · + limit.window)).filter (later < · + limit.window) =
      times.filter (later < · + limit.window) := by
  rw [List.filter_filter]
  refine List.filter_congr fun time _ => ?_
  by_cases hin : later < time + limit.window
  · have hbefore : now < time + limit.window := h.trans_lt hin
    simp [hin, hbefore]
  · simp [hin]

-- ---------------------------------------------------------------------------
-- One call
-- ---------------------------------------------------------------------------

/-- The record of an account holds the entitled registrations still inside the window. -/
structure Tracks (limit : RegistrationRateLimit) (account : AccountId) (now : Time)
    (counts : Registrations) (entitled : List Time) : Prop where
  recent : ∀ later, now ≤ later →
    recent limit later counts account = entitled.filter (later < · + limit.window)
  limited : Limited limit entitled

theorem tracks_empty : Tracks limit account now .empty [] :=
  ⟨fun _ _ => rfl, limited_nil⟩

theorem Tracks.mono (h : Tracks limit account now counts entitled) (hl : now ≤ later) :
    Tracks limit account later counts entitled :=
  ⟨fun t ht => h.recent t (hl.trans ht), h.limited⟩

theorem Tracks.of_ne (h : Tracks limit account now counts entitled) (hne : account ≠ charged) :
    Tracks limit account now (decideRegistration limit now charged counts).2 entitled := by
  refine ⟨fun later hl => ?_, h.limited⟩
  rw [agree_decideRegistration hne later hl, h.recent later hl]

theorem Tracks.own (h : Tracks limit account now counts entitled) :
    ((decideRegistration limit now account counts).1 = .entitled (.accountCreation account) ∧
      Tracks limit account now (decideRegistration limit now account counts).2
        (entitled ++ [now])) ∨
    ((∃ reason, (decideRegistration limit now account counts).1 = .refused reason) ∧
      Tracks limit account now (decideRegistration limit now account counts).2 entitled) := by
  have htimes : Sponsor.recent limit now (sweep limit now counts) account =
      entitled.filter (now < · + limit.window) := by
    rw [recent_sweep le_rfl, h.recent now le_rfl]
  unfold decideRegistration
  dsimp only
  rw [htimes]
  split
  · refine .inr ⟨⟨_, rfl⟩, fun later hl => ?_, h.limited⟩
    rw [recent_set_self, filter_window hl]
  · rename_i hroom
    refine .inl ⟨rfl, fun later hl => ?_, h.limited.snoc (Nat.not_le.mp hroom)⟩
    rw [recent_set_self, List.filter_append, List.filter_append, filter_window hl]

def Unverified (profile : V0Profile) (call : Call) : Prop :=
  ∀ signer, verifiedSigner profile call.derived call.input ≠ .ok (.ok signer)

theorem decide_unverified (limit : RegistrationRateLimit) (counts : Registrations)
    (h : Unverified profile call) :
    (∀ entitlement, (decide profile limit counts call).1 ≠ .ok (.entitled entitlement)) ∧
      (decide profile limit counts call).2 = counts := by
  unfold decide
  cases hsigner : verifiedSigner profile call.derived call.input with
  | error e => simp
  | ok verified =>
    cases verified with
    | error reason => simp
    | ok signer => exact absurd hsigner (h signer)

theorem decide_cases (profile : V0Profile) (limit : RegistrationRateLimit)
    (counts : Registrations) (call : Call) :
    (∃ charged registration, registers call.input = some (charged, registration) ∧
      decide profile limit counts call =
        (.ok (decideRegistration limit call.now charged counts).1,
          (decideRegistration limit call.now charged counts).2)) ∨
    ((decide profile limit counts call).2 = counts ∧
      ∀ account, entitles account call (decide profile limit counts call).1 = false) := by
  by_cases hunverified : Unverified profile call
  · obtain ⟨hrefused, hcounts⟩ := decide_unverified limit counts hunverified
    refine .inr ⟨hcounts, fun account => ?_⟩
    unfold entitles
    split
    · rename_i entitlement heq
      exact absurd heq (hrefused entitlement)
    · rfl
  · obtain ⟨signer, hsigner⟩ := not_forall_not.mp hunverified
    unfold decide
    simp only [hsigner]
    split
    · rename_i input hinput
      refine .inr ⟨rfl, fun account => ?_⟩
      unfold entitles
      split
      · simp [hinput, registers]
      · rfl
    · rename_i operation charged registration authorisation hinput
      exact .inl ⟨charged, registration, by rw [hinput]; rfl, rfl⟩
    · rename_i input hother hinput
      refine .inr ⟨rfl, fun account => ?_⟩
      have hnone : registers call.input = none := by
        rw [hinput]
        unfold registers
        split
        · rename_i heq
          cases heq
          exact absurd rfl (hother _ _ _ _)
        · rfl
      unfold entitles
      split
      · simp [hnone]
      · rfl

theorem Tracks.decide (profile : V0Profile) (h : Tracks limit account call.now counts entitled) :
    Tracks limit account call.now (Sponsor.decide profile limit counts call).2
      (entitled ++ if entitles account call (Sponsor.decide profile limit counts call).1 then
        [call.now] else []) := by
  obtain ⟨charged, registration, hreg, hdecide⟩ | ⟨hcounts, hnot⟩ :=
    decide_cases profile limit counts call
  · rw [hdecide]
    by_cases heq : charged = account
    · subst heq
      obtain ⟨hentitled, hnext⟩ | ⟨⟨reason, hrefused⟩, hnext⟩ := h.own
      · simpa [hentitled, entitles, hreg] using hnext
      · simpa [hrefused, entitles] using hnext
    · have hnot : entitles account call
          (.ok (decideRegistration limit call.now charged counts).1) = false := by
        unfold entitles
        split
        · simpa [hreg] using heq
        · rfl
      simpa [hnot] using h.of_ne (Ne.symm heq)
  · rw [hcounts, hnot account]
    simpa using h

-- ---------------------------------------------------------------------------
-- Sequences of calls
-- ---------------------------------------------------------------------------

theorem Tracks.run (h : Tracks limit account now counts entitled)
    (hnow : ∀ call ∈ calls, now ≤ call.now) (horder : InOrder calls)
    (hlater : ∀ call ∈ calls, call.now ≤ later) (hl : now ≤ later) :
    Tracks limit account later (countsAfter profile limit counts calls)
      (entitled ++ entitledTimes profile limit account counts calls) := by
  induction calls generalizing counts entitled now with
  | nil => simpa [entitledTimes, countsAfter] using h.mono hl
  | cons call calls ih =>
    rw [InOrder, List.pairwise_cons] at horder
    have hcall := (h.mono (hnow call (by simp))).decide profile
    have hrest := ih hcall horder.1 horder.2 (fun c hc => hlater c (by simp [hc]))
      (hlater call (by simp))
    rw [List.append_assoc] at hrest
    simp only [entitledTimes]
    split
    · rename_i hentitled
      simpa [hentitled, countsAfter] using hrest
    · rename_i hentitled
      simpa [hentitled, countsAfter] using hrest

/-- At most the configured number of registrations of an account is entitled in any window; a sweep
forgets none that is still inside the window; and an input whose signer does not verify is never
entitled and counts for nobody. -/
theorem registrations_limited (profile : V0Profile) (limit : RegistrationRateLimit)
    (account : AccountId) (calls : List Call) (horder : InOrder calls) :
    Limited limit (entitledTimes profile limit account .empty calls) ∧
      (∀ now, (∀ call ∈ calls, call.now ≤ now) →
        ∀ time ∈ entitledTimes profile limit account .empty calls, now < time + limit.window →
          time ∈ ((sweep limit now (countsAfter profile limit .empty calls)).get account).getD []) ∧
      ∀ counts call, Unverified profile call →
        (∀ entitlement, (decide profile limit counts call).1 ≠ .ok (.entitled entitlement)) ∧
          (decide profile limit counts call).2 = counts := by
  have hrun : ∀ now, (∀ call ∈ calls, call.now ≤ now) →
      Tracks limit account now (countsAfter profile limit .empty calls)
        (entitledTimes profile limit account .empty calls) := fun now hnow => by
    simpa using (tracks_empty : Tracks limit account 0 .empty []).run
      (fun call _ => Nat.zero_le _) horder hnow (Nat.zero_le now)
  refine ⟨?_, fun now hnow time htime hin => ?_, fun counts call h =>
    decide_unverified limit counts h⟩
  · exact (hrun ((calls.map Call.now).max?.getD 0) fun call hc =>
      List.le_max?_getD_of_mem (List.mem_map_of_mem hc)).limited
  · have hrecord := (hrun now hnow).recent now le_rfl
    rw [← recent_sweep le_rfl] at hrecord
    have hmem : time ∈ recent limit now (sweep limit now (countsAfter profile limit .empty calls))
        account := by
      rw [hrecord]
      exact List.mem_filter.mpr ⟨htime, by simpa using hin⟩
    exact List.mem_of_mem_filter hmem

/-- Two registrations of one account within the window, of which the limit lets one through. -/
theorem registrations_limited_second_refused :
    entitledTimes twoAccounts ⟨1, 1000⟩ 2 .empty [registration 2 2 5, registration 2 2 6] = [5] ∧
      Limited ⟨1, 1000⟩
        (entitledTimes twoAccounts ⟨1, 1000⟩ 2 .empty [registration 2 2 5, registration 2 2 6]) :=
  ⟨rfl, (registrations_limited twoAccounts ⟨1, 1000⟩ 2 _ (by simp [InOrder, registration])).1⟩

end Kippu.Sponsor
