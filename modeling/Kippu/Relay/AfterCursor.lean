import Kippu.Relay.Runs

/-!
# A refusal after a cursor

A decision reads the copy at one position after another. Where each position by itself entitles
the input, so do they together: a credential registered stays so, and a ticket stays of its event.
Only the sponsor's key can then fail the request (`entitled_signing_fails`).
-/

namespace Kippu.Relay

open Conc Derived Sponsor

variable {s : Services} {log : List LogRecord} {v v' v'' : View s log} {profile : V0Profile}
  {limit : RegistrationRateLimit} {input : SignedInput} {signer account : AccountId}

-- ---------------------------------------------------------------------------
-- Reads of one view
-- ---------------------------------------------------------------------------

theorem verifiedRegistered_now (v : View s log) (credential : CredentialId) :
    Sponsor.verifiedRegistered profile v.facts.queries input account credential =
      .ok ((verifiedRegistered profile input account credential).now v) := by
  simp only [Sponsor.verifiedRegistered, verifiedRegistered, Reading.now_bind, Reading.now_ask]
  change Except.bind (.ok (v.facts.credential account credential)) _ = _
  simp only [Except.bind]
  cases v.facts.credential account credential with
  | none => rfl
  | some registration =>
    dsimp only
    split <;> rfl

theorem verifiedSigner_now (v : View s log) :
    Sponsor.verifiedSigner profile v.facts.queries input =
      .ok ((verifiedSigner profile input).now v) := by
  unfold Sponsor.verifiedSigner verifiedSigner
  cases profile.accountOf input.authorisation with
  | error e => rfl
  | ok claimed =>
    obtain ⟨account, credential⟩ := claimed
    cases registers input with
    | none => exact verifiedRegistered_now v credential
    | some registered =>
      obtain ⟨registered, registration⟩ := registered
      dsimp only
      split
      · simp only [Reading.now_bind, Reading.now_ask]
        change Except.bind (.ok (v.facts.credentials account)) _ = _
        simp only [Except.bind]
        cases v.facts.credentials account with
        | nil => rfl
        | cons _ _ => exact verifiedRegistered_now v credential
      · exact verifiedRegistered_now v credential

theorem ownedBy_now (v : View s log) (event : EventId) :
    Sponsor.ownedBy v.facts.queries event signer = .ok ((ownedBy event signer).now v) := by
  simp only [Sponsor.ownedBy, ownedBy, Reading.now_bind, Reading.now_ask]
  change Except.bind (.ok (v.facts.event event)) _ = _
  simp only [Except.bind]
  cases v.facts.event event with
  | none => rfl
  | some e =>
    dsimp only
    split <;> rfl

theorem decidePass_now (v : View s log) (pass : AccessPass) :
    Sponsor.decidePass v.facts.queries pass = .ok ((decidePass pass).now v) := by
  simp only [Sponsor.decidePass, decidePass, Reading.now_bind, Reading.now_ask]
  change Except.bind (.ok (v.facts.ticket pass.ticket)) _ = _
  simp only [Except.bind]
  cases v.facts.ticket pass.ticket with
  | none => rfl
  | some t =>
    simp only [Reading.now_bind, Reading.now_ask]
    change Except.bind (.ok (v.facts.event t.event)) _ = _
    simp only [Except.bind]
    cases (v.facts.event t.event).map Event.status with
    | none => rfl
    | some status => cases status <;> rfl

theorem decideOther_now (v : View s log) (command : Derived.Command) :
    Sponsor.decideOther profile v.facts.queries command signer =
      .ok ((decideOther profile command signer).now v) := by
  cases command with
  | setEventStatus | setEventCapacity | addZone | removeZone | removeRestriction | issueTicket =>
    exact ownedBy_now v _
  | createEvent event salt capacity zones metadata =>
    simp only [Sponsor.decideOther, decideOther]
    split
    · rfl
    · simp only [Reading.now_bind, Reading.now_ask]
      change Except.bind (.ok (v.facts.isOrganiserAccount signer)) _ = _
      simp only [Except.bind]
      cases v.facts.isOrganiserAccount signer <;> rfl
  | transferTicket event ticket receiver =>
    simp only [Sponsor.decideOther, decideOther, Reading.now_bind, Reading.now_ask]
    change Except.bind (.ok (v.facts.ticket ticket)) _ = _
    simp only [Except.bind]
    cases (v.facts.ticket ticket).filter (·.event = event) with
    | none => rfl
    | some t =>
      dsimp only
      split
      · rfl
      · split <;> rfl
  | registerCredential | other => rfl

/-- A decision all of whose reads are of one view is the decision on that view. -/
theorem decide_now (v : View s log) (counts : Registrations) (now : Time) :
    Sponsor.decide profile limit counts ⟨input, v.facts.queries, now⟩ =
      (.ok (((decide profile input).now v).conclude limit now counts).1,
        (((decide profile input).now v).conclude limit now counts).2) := by
  simp only [Sponsor.decide, verifiedSigner_now, decide, Reading.now_bind]
  cases (verifiedSigner profile input).now v with
  | error reason => rfl
  | ok signer =>
    cases input with
    | pass input => simp [decidePass_now, decideSigned, Verdict.conclude]
    | command input =>
      obtain ⟨operation, command, authorisation⟩ := input
      cases command with
      | registerCredential account registration => rfl
      | _ => simp [decideOther_now, decideSigned, Verdict.conclude]

-- ---------------------------------------------------------------------------
-- From one view to a later one
-- ---------------------------------------------------------------------------

theorem View.Le.refl (v : View s log) : v.Le v :=
  ⟨le_rfl, List.prefix_rfl⟩

theorem View.Le.trans (h : v.Le v') (h' : v'.Le v'') : v.Le v'' :=
  ⟨h.position.trans h'.position, h.writes.trans h'.writes⟩

theorem View.Le.credentials (h : v.Le v') (hsome : v.facts.credentials account ≠ []) :
    v'.facts.credentials account ≠ [] := by
  intro hnil
  refine hsome ((v.credentials_nil account).mpr fun i => ?_)
  by_contra hrow
  obtain ⟨row, hrow⟩ := Option.ne_none_iff_exists'.mp hrow
  have hlater := project_credential (v.moment.between v'.moment h.position) hrow
  rw [(v'.credentials_nil account).mp hnil i] at hlater
  cases hlater

theorem View.Le.ticketEvent {i : TicketId} {t t' : Derived.Ticket} (h : v.Le v')
    (ht : v.facts.ticket i = some t) (ht' : v'.facts.ticket i = some t') : t'.event = t.event := by
  obtain ⟨row, hrow, rfl⟩ := Option.map_eq_some_iff.mp ht
  obtain ⟨row', hrow', rfl⟩ := Option.map_eq_some_iff.mp ht'
  obtain ⟨later, hlater, hevent, -⟩ :=
    project_ticket (v.moment.between v'.moment h.position) hrow
  obtain rfl : later = row' := Option.some.inj (hlater.symm.trans hrow')
  exact hevent

-- ---------------------------------------------------------------------------
-- Reads of one view after another
-- ---------------------------------------------------------------------------

def Verdict.Grants : Verdict → Prop
  | .decided (.refused _) => False
  | .decided (.entitled _) | .registration _ => True

theorem View.Entitles.grants (h : v.Entitles profile limit input) :
    ((decide profile input).now v).Grants := by
  obtain ⟨counts, now, entitlement, hentitled⟩ := h
  rw [decide_now] at hentitled
  cases hverdict : (decide profile input).now v with
  | registration account => trivial
  | decided decision =>
    rw [hverdict] at hentitled
    cases hentitled
    trivial

theorem verifiedRegistered_eq {credential : CredentialId}
    (h : (verifiedRegistered profile input account credential).now v = .ok signer) :
    signer = account := by
  simp only [verifiedRegistered, Reading.now_bind, Reading.now_ask] at h
  cases hrow : v.facts.credential account credential with
  | none => simp [hrow] at h
  | some registration =>
    simp only [hrow] at h
    split at h
    · cases h
      rfl
    · cases h

theorem verifiedFirst_eq {credential : CredentialId} {registration : Registration}
    (h : verifiedFirst profile input account credential registration = .ok signer) :
    signer = account := by
  unfold verifiedFirst at h
  split at h
  · split at h
    · cases h
      rfl
    · cases h
  · cases h

theorem verifiedSigner_eq (h : (verifiedSigner profile input).now v = .ok signer) :
    ∃ credential, profile.accountOf input.authorisation = .ok (signer, credential) := by
  unfold verifiedSigner at h
  cases hclaimed : profile.accountOf input.authorisation with
  | error e => simp [hclaimed] at h
  | ok claimed =>
    obtain ⟨account, credential⟩ := claimed
    suffices signer = account from ⟨credential, by rw [this]⟩
    simp only [hclaimed] at h
    split at h
    · split at h
      · simp only [Reading.now_bind] at h
        split at h
        · exact verifiedFirst_eq h
        · exact verifiedRegistered_eq h
      · exact verifiedRegistered_eq h
    · exact verifiedRegistered_eq h

theorem grants_signed (h : ((decide profile input).now v).Grants) :
    ∃ signer, (verifiedSigner profile input).now v = .ok signer ∧
      ((decideSigned profile input signer).now v).Grants := by
  simp only [decide, Reading.now_bind] at h
  cases hsigner : (verifiedSigner profile input).now v with
  | error reason => simp [hsigner, Verdict.Grants] at h
  | ok signer => exact ⟨signer, rfl, by simpa [hsigner] using h⟩

theorem ensures_verifiedRegistered {credential : CredentialId}
    (h : ∀ v', v.Le v' → ∃ a, (verifiedRegistered profile input account credential).now v' = .ok a) :
    Reading.Ensures View.Le (fun v' r => v.Le v' ∧ r = .ok account) v
      (verifiedRegistered profile input account credential) := by
  refine Reading.ensures_once (fun registration => ?_) fun v' hv => ⟨hv, ?_⟩
  · cases registration with
    | none => exact ⟨_, rfl⟩
    | some registration =>
      dsimp only
      split <;> exact ⟨_, rfl⟩
  · obtain ⟨a, ha⟩ := h v' hv
    exact ha.trans (congrArg Except.ok (verifiedRegistered_eq ha))

theorem ensures_verifiedSigner
    (h : ∀ v', v.Le v' → ∃ a, (verifiedSigner profile input).now v' = .ok a) :
    Reading.Ensures View.Le
      (fun v' r => v.Le v' ∧ ∃ signer credential, r = .ok signer ∧
        profile.accountOf input.authorisation = .ok (signer, credential)) v
      (verifiedSigner profile input) := by
  cases hclaimed : profile.accountOf input.authorisation with
  | error e =>
    obtain ⟨a, ha⟩ := h v (.refl v)
    simp [verifiedSigner, hclaimed] at ha
  | ok claimed =>
    obtain ⟨account, credential⟩ := claimed
    have hok : ∀ {v' : View s log} {r : Except String AccountId}, v.Le v' ∧ r = .ok account →
        v.Le v' ∧ ∃ signer credential', r = .ok signer ∧
          Except.ok (account, credential) = (.ok (signer, credential') : Except String _) :=
      fun ⟨hv, hr⟩ => ⟨hv, account, credential, hr, rfl⟩
    simp only [verifiedSigner, hclaimed] at h ⊢
    cases hregisters : registers input with
    | none =>
      simp only [hregisters] at h ⊢
      exact Reading.Ensures.mono (ensures_verifiedRegistered h) fun _ _ => hok
    | some registered =>
      obtain ⟨registered, registration⟩ := registered
      simp only [hregisters] at h ⊢
      split at h
      · rename_i hself
        rw [if_pos hself]
        have hask : Reading.Ensures View.Le
            (fun v' b => v.Le v' ∧ b = v'.facts.credentials account) v
            (Reading.ask (·.facts.credentials account)) :=
          Reading.ensures_ask fun v' hv => ⟨hv, rfl⟩
        refine Reading.Ensures.bind hask fun v' b => ?_
        rintro ⟨hv, rfl⟩
        have hat := h v' hv
        simp only [Reading.now_bind, Reading.now_ask] at hat
        cases hb : v'.facts.credentials account with
        | nil =>
          simp only [hb, Reading.now_pure] at hat
          obtain ⟨a, ha⟩ := hat
          exact hok ⟨hv, ha.trans (congrArg Except.ok (verifiedFirst_eq ha))⟩
        | cons first rest =>
          -- the account has a credential at every later view, so none asks for a first one
          have hlater : ∀ v'', v'.Le v'' →
              ∃ a, (verifiedRegistered profile input account credential).now v'' = .ok a := by
            intro v'' hv'
            have hat' := h v'' (hv.trans hv')
            have hsome := hv'.credentials (by simp [hb] : v'.facts.credentials account ≠ [])
            simp only [Reading.now_bind, Reading.now_ask] at hat'
            cases hb' : v''.facts.credentials account with
            | nil => exact absurd hb' hsome
            | cons _ _ => simpa only [hb'] using hat'
          exact Reading.Ensures.mono (ensures_verifiedRegistered hlater) fun v'' r hr =>
            hok ⟨hv.trans hr.1, hr.2⟩
      · rename_i hself
        rw [if_neg hself]
        exact Reading.Ensures.mono (ensures_verifiedRegistered h) fun _ _ => hok

/-- A pass's ticket is of one event, whichever views its ticket and its event are read of. -/
theorem ensures_decidePass {pass : AccessPass}
    (h : ∀ v', v.Le v' → Verdict.Grants (.decided ((decidePass pass).now v'))) :
    Reading.Ensures View.Le (fun _ d => Verdict.Grants (.decided d)) v (decidePass pass) := by
  have hask : Reading.Ensures View.Le (fun v' b => v.Le v' ∧ b = v'.facts.ticket pass.ticket) v
      (Reading.ask (·.facts.ticket pass.ticket)) :=
    Reading.ensures_ask fun v' hv => ⟨hv, rfl⟩
  refine Reading.Ensures.bind hask fun v' b => ?_
  rintro ⟨hv, rfl⟩
  have hat := h v' hv
  simp only [decidePass, Reading.now_bind, Reading.now_ask] at hat
  cases hticket : v'.facts.ticket pass.ticket with
  | none => simp [hticket, Verdict.Grants] at hat
  | some t =>
    refine Reading.ensures_once (fun e => ?_) fun v'' hv' => ?_
    · cases e.map Event.status with
      | none => exact ⟨_, rfl⟩
      | some status => cases status <;> exact ⟨_, rfl⟩
    · have hat' := h v'' (hv.trans hv')
      simp only [decidePass, Reading.now_bind, Reading.now_ask] at hat' ⊢
      cases hticket' : v''.facts.ticket pass.ticket with
      | none => simp [hticket', Verdict.Grants] at hat'
      | some t' =>
        simp only [hticket', Reading.now_bind, Reading.now_ask, hv'.ticketEvent hticket hticket']
          at hat'
        exact hat'

theorem ensures_ownedBy {event : EventId}
    (h : ∀ v', v.Le v' → Verdict.Grants (.decided ((ownedBy event signer).now v'))) :
    Reading.Ensures View.Le (fun _ d => Verdict.Grants (.decided d)) v (ownedBy event signer) := by
  refine Reading.ensures_once (fun e => ?_) h
  cases e with
  | none => exact ⟨_, rfl⟩
  | some e =>
    dsimp only
    split <;> exact ⟨_, rfl⟩

theorem ensures_decideOther {command : Derived.Command}
    (h : ∀ v', v.Le v' → Verdict.Grants (.decided ((decideOther profile command signer).now v'))) :
    Reading.Ensures View.Le (fun _ d => Verdict.Grants (.decided d)) v
      (decideOther profile command signer) := by
  cases command with
  | setEventStatus | setEventCapacity | addZone | removeZone | removeRestriction | issueTicket =>
    exact ensures_ownedBy h
  | createEvent event salt capacity zones metadata =>
    simp only [decideOther] at h ⊢
    split at h
    · exact (h v (.refl v)).elim
    · rename_i hderives
      rw [if_neg hderives]
      refine Reading.ensures_once (fun b => ?_) h
      cases b <;> exact ⟨_, rfl⟩
  | transferTicket event ticket receiver =>
    refine Reading.ensures_once (fun t => ?_) h
    cases t.filter (·.event = event) with
    | none => exact ⟨_, rfl⟩
    | some t =>
      dsimp only
      split
      · exact ⟨_, rfl⟩
      · split <;> exact ⟨_, rfl⟩
  | registerCredential | other => exact (h v (.refl v)).elim

theorem ensures_decideSigned
    (h : ∀ v', v.Le v' → ((decideSigned profile input signer).now v').Grants) :
    Reading.Ensures View.Le (fun _ verdict => verdict.Grants) v
      (decideSigned profile input signer) := by
  cases input with
  | pass input =>
    exact Reading.Ensures.map (ensures_decidePass fun v' hv => by
      simpa only [decideSigned, Reading.now_map] using h v' hv)
  | command input =>
    obtain ⟨operation, command, authorisation⟩ := input
    cases command with
    | registerCredential => trivial
    | _ =>
      exact Reading.Ensures.map (ensures_decideOther fun v' hv => by
        simpa only [decideSigned, Reading.now_map] using h v' hv)

/-- Where every view from `v` on grants an input, so does a decision that starts there. -/
theorem ensures_decide (h : ∀ v', v.Le v' → ((decide profile input).now v').Grants) :
    Reading.Ensures View.Le (fun _ verdict => verdict.Grants) v (decide profile input) := by
  have hsigner := ensures_verifiedSigner fun v' hv => by
    obtain ⟨signer, hsigner, -⟩ := grants_signed (h v' hv)
    exact ⟨signer, hsigner⟩
  refine Reading.Ensures.bind hsigner fun v' r => ?_
  rintro ⟨hv, signer, credential, rfl, hclaimed⟩
  refine ensures_decideSigned fun v'' hv' => ?_
  obtain ⟨signer', hsigner', hgrants⟩ := grants_signed (h v'' (hv.trans hv'))
  obtain ⟨credential', hclaimed'⟩ := verifiedSigner_eq hsigner'
  obtain ⟨rfl, -⟩ := Prod.mk.inj (Except.ok.inj (hclaimed'.symm.trans hclaimed))
  exact hgrants

-- ---------------------------------------------------------------------------
-- A run
-- ---------------------------------------------------------------------------

variable {D : Deployment} {keyFails : Prop} {t t' t₀ : State D} {after : Cursor}

/-- Every view from one at or beyond the cursor on, and no earlier than `v₀`, entitles the input. -/
def EntitledFrom (v₀ : View D.services D.log.records) (after : Cursor) (input : SignedInput) :
    Prop :=
  ∀ v : View D.services D.log.records, v₀.Le v → D.Reached after v.position →
    v.Entitles D.profile D.limit input

theorem Deployment.Reached.mono {n m : ℕ} (h : D.Reached after n) (hnm : n ≤ m) :
    D.Reached after m := by
  cases h with
  | inl hstart => exact .inl hstart
  | inr hrecord =>
    obtain ⟨i, hi, hrecord⟩ := hrecord
    exact .inr ⟨i, hi.trans_le hnm, hrecord⟩

/-- What holds of a request that names the cursor `after`, by where it stands. -/
def Kept (keyFails : Prop) (v₀ v : View D.services D.log.records) (after : Cursor)
    (request : Request D.services D.log.records) : Prop :=
  match request.phase with
  | .deciding false _ => request.decisions = 1
  | .deciding true rest =>
    request.decisions = 2 ∧ D.Reached after v.position ∧ (∀ n ∈ request.reads, D.Reached after n) ∧
      (EntitledFrom v₀ after request.input →
        Reading.Ensures View.Le (fun _ verdict => verdict.Grants) v rest)
  | .waiting => request.decisions = 1
  | .answered (.refused reason) =>
    request.decisions = 2 ∧ (∀ n ∈ request.reads, D.Reached after n) ∧
      (EntitledFrom v₀ after request.input → reason = tooMany)
  | .answered .failed => keyFails
  | .signing | .answered _ => True

structure Inv (keyFails : Prop) (t₀ t : State D) : Prop where
  later : t₀.view.Le t.view
  kept : ∀ r request after, t.requests r = some request → request.after = some after →
    Kept keyFails t₀.view t.view after request

variable {v₀ w w' : View D.services D.log.records} {request : Request D.services D.log.records}
  {r : ℕ}

theorem Kept.later (h : Kept keyFails v₀ w after request) (hw : w.Le w') :
    Kept keyFails v₀ w' after request := by
  unfold Kept at h ⊢
  split at h
  · exact h
  · obtain ⟨hdecisions, hreached, hreads, hrest⟩ := h
    refine ⟨hdecisions, hreached.mono hw.position, hreads, fun hentitled => ?_⟩
    exact Reading.Ensures.later (fun _ _ _ => .trans) (fun _ => id) (hrest hentitled) hw
  · exact h
  · exact h
  · exact h
  · trivial
  · trivial

theorem Inv.put {request' : Request D.services D.log.records} (hi : Inv keyFails t₀ t)
    (hview : t'.view = t.view) (hrequests : t'.requests = t.requests)
    (hkept : ∀ after, request'.after = some after → Kept keyFails t₀.view t.view after request') :
    Inv keyFails t₀ (t'.put r request') where
  later := hview ▸ hi.later
  kept j other after hother hafter := by
    change Kept keyFails t₀.view t'.view after other
    rw [hview]
    by_cases hj : j = r
    · subst hj
      obtain rfl : request' = other := by simpa [State.put] using hother
      exact hkept after hafter
    · exact hi.kept j other after (by simpa [State.put, hrequests, hj] using hother) hafter

theorem conclude_refused {verdict : Verdict} {now : Time} {counts counts' : Registrations}
    {reason : String} (hgrants : verdict.Grants)
    (h : verdict.conclude limit now counts = (.refused reason, counts')) : reason = tooMany := by
  cases verdict with
  | registration account =>
    simp only [Verdict.conclude, decideRegistration] at h
    split at h
    · cases h
      rfl
    · cases h
  | decided decision =>
    cases h
    exact hgrants.elim

theorem Kept.decided {second : Bool} {verdict : Verdict} {now : Time}
    {counts counts' : Registrations} {decision : EntitlementDecision}
    (h : Kept keyFails v₀ w after request) (hafter : request.after = some after)
    (hphase : request.phase = .deciding second (.done verdict))
    (hconclude : verdict.conclude D.limit now counts = (decision, counts')) :
    Kept keyFails v₀ w after (request.decided second decision) := by
  cases decision with
  | entitled entitlement => trivial
  | refused reason =>
    cases second with
    | false =>
      simp only [Kept, hphase] at h
      simpa [Request.decided, Kept, hafter] using h
    | true =>
      simp only [Kept, hphase] at h
      obtain ⟨hdecisions, -, hreads, hrest⟩ := h
      simp only [Request.decided, Kept, Bool.true_eq_false, false_and, if_false]
      exact ⟨hdecisions, hreads, fun hentitled => conclude_refused (hrest hentitled) hconclude⟩

theorem Request.after_decided (request : Request s log) (second : Bool)
    (decision : EntitlementDecision) : (request.decided second decision).after = request.after := by
  cases decision with
  | entitled => rfl
  | refused reason =>
    simp only [decided]
    split <;> rfl

theorem Step.inv (hi : Inv keyFails t₀ t) (h : Step keyFails t t') : Inv keyFails t₀ t' := by
  cases h with
  | commits view hle =>
    exact ⟨hi.later.trans hle, fun r request after hr hafter =>
      (hi.kept r request after hr hafter).later hle⟩
  | asks r input after hnone => exact hi.put rfl rfl fun _ _ => rfl
  | @reads request second next r hr hphase =>
    refine hi.put rfl rfl fun after hafter => ?_
    have hk := hi.kept r request after hr hafter
    cases second with
    | false => simpa [Kept, hphase] using hk
    | true =>
      simp only [Kept, hphase] at hk ⊢
      obtain ⟨hdecisions, hreached, hreads, hrest⟩ := hk
      refine ⟨hdecisions, hreached, fun n hn => ?_, fun hentitled => ?_⟩
      · cases List.mem_append.mp hn with
        | inl hold => exact hreads n hold
        | inr hnew => exact List.mem_singleton.mp hnew ▸ hreached
      · exact hrest hentitled t.view (.refl t.view)
  | @decides request second verdict decision counts r now hr hphase hconclude =>
    refine hi.put rfl rfl fun after hafter => ?_
    rw [Request.after_decided] at hafter
    exact (hi.kept r request after hr hafter).decided hafter hphase hconclude
  | @reached request cursor r hr hphase hcursor hreached =>
    refine hi.put rfl rfl fun after hafter => ?_
    have hk := hi.kept r request after hr hafter
    simp only [Kept, hphase] at hk
    obtain rfl : cursor = after := Option.some.inj (hcursor.symm.trans hafter)
    refine ⟨by simp [Request.start, hk], hreached, by simp [Request.start], fun hentitled => ?_⟩
    refine ensures_decide fun v hv => ?_
    exact (hentitled v (hi.later.trans hv) (hreached.mono hv.position)).grants
  | fails | signs => exact hi.put rfl rfl fun _ _ => trivial
  | signingFails r hfails => exact hi.put rfl rfl fun _ _ => hfails

theorem Steps.inv (h₀ : ∀ r, t₀.requests r = none) (h : Steps keyFails t₀ t) :
    Inv keyFails t₀ t := by
  induction h with
  | refl => exact ⟨.refl _, fun r request _ hr => by simp [h₀] at hr⟩
  | step _ hstep ih => exact hstep.inv ih

/-- Of every request that names a cursor: a refusal rests on a second decision, whose reads were
all at positions at or beyond it; and if every view from there on entitles the input, it is
answered with a sponsorship, or 503, unless the registrations' limit refuses it or the sponsor's key
fails to sign. -/
theorem refused_after_cursor (h₀ : ∀ r, t₀.requests r = none) (h : Steps keyFails t₀ t)
    (hr : t.requests r = some request) (hafter : request.after = some after) :
    (∀ reason, request.phase = .answered (.refused reason) →
      request.decisions = 2 ∧ ∀ n ∈ request.reads, D.Reached after n) ∧
    (EntitledFrom t₀.view after request.input → ∀ answer, request.phase = .answered answer →
      answer = .sponsored ∨ answer = .unavailable ∨ answer = .refused tooMany ∨
        answer = .failed ∧ keyFails) := by
  have hk := (h.inv h₀).kept r request after hr hafter
  refine ⟨fun reason hphase => ?_, fun hentitled answer hphase => ?_⟩
  · simp only [Kept, hphase] at hk
    exact ⟨hk.1, hk.2.1⟩
  · cases answer with
    | sponsored => exact .inl rfl
    | unavailable => exact .inr (.inl rfl)
    | refused reason =>
      simp only [Kept, hphase] at hk
      exact .inr (.inr (.inl (congrArg Answer.refused (hk.2.2 hentitled))))
    | failed =>
      simp only [Kept, hphase] at hk
      exact .inr (.inr (.inr ⟨rfl, hk⟩))

def oneCredential : LogReader where
  records := [⟨1, 10, none, none, .command 0 2 (.registerCredential 2 2)⟩]
  continuation c := match c with
    | 0 => [⟨1, 10, none, none, .command 0 2 (.registerCredential 2 2)⟩]
    | _ => []
  start := rfl
  after n record h := by
    match n with
    | 0 => cases h; rfl
    | _ + 1 => simp at h

def oneAccount : Deployment :=
  ⟨oneCredential, ⟨fun _ _ => .error "ERR-UnknownEvent", twoAccounts.registrationAccount⟩,
    twoAccounts, ⟨1, 1000⟩⟩

def atStart : View oneAccount.services oneAccount.log.records where
  position := 0
  moment := ⟨.empty, [], rfl⟩
  credentials _ := []
  credentials_nil _ := by simp [Copy.empty]

def registeredOnce : View oneAccount.services oneAccount.log.records where
  position := 1
  moment := ⟨{ Copy.empty with
    credentials := Function.update Copy.empty.credentials (2, 22) (some ⟨2, 0⟩) }, [], rfl⟩
  credentials a := if a = 2 then [2] else []
  credentials_nil a := by
    by_cases ha : a = 2
    · simp only [ha, if_true, List.cons_ne_nil, false_iff, not_forall]
      exact ⟨22, by simp⟩
    · simp [ha, Copy.empty]

/-- The copy has not got the signer's credential at the first decision; at the second it has, and
no such event. -/
theorem refused_after_cursor_no_such_event : ∃ t : State oneAccount,
    Steps False ⟨atStart, .empty, fun _ => none⟩ t ∧
    t.requests 0 = some ⟨sealEvent 6, some 1, 2, [1, 1],
      .answered (.refused "no event 6 in the derived copy")⟩ ∧
    ∀ n ∈ [1, 1], oneAccount.Reached 1 n := by
  have hle : atStart.Le registeredOnce := ⟨by decide, List.prefix_rfl⟩
  have h₁ : Steps (D := oneAccount) False ⟨atStart, .empty, fun _ => none⟩ _ :=
    Steps.refl.step (.asks 0 (sealEvent 6) (some 1) rfl)
  have h₂ := (h₁.step (.reads 0 rfl rfl)).step (.decides 0 7 rfl rfl rfl)
  have h₃ := (h₂.step (.commits registeredOnce hle)).step
    (.reached 0 rfl rfl rfl (.inr ⟨0, by decide, _, rfl, rfl⟩))
  have h₄ := ((h₃.step (.reads 0 rfl rfl)).step (.reads 0 rfl rfl)).step (.decides 0 7 rfl rfl rfl)
  exact ⟨_, h₄, rfl, ((refused_after_cursor (fun _ => rfl) h₄ (r := 0) rfl rfl).1 _ rfl).2⟩

def registerAgain : SignedInput := .command ⟨0, .registerCredential 2 2, 2⟩

theorem entitledFrom_registerAgain (v₀ : View oneAccount.services oneAccount.log.records) :
    EntitledFrom (D := oneAccount) v₀ 1 registerAgain := by
  intro v _ hreached
  have hposition : 1 ≤ v.position := by
    rcases hreached with hstart | ⟨i, hi, -⟩
    · cases hstart
    · exact Nat.one_le_of_lt hi
  have hcopy : v.moment.copy = registeredOnce.moment.copy := by
    have hfold := v.moment.fold
    rw [List.take_of_length_le hposition] at hfold
    exact (Except.ok.inj hfold).symm
  have hcredential : v.facts.credential 2 22 = some 2 := by simp [View.facts, hcopy, registeredOnce]
  have hcredentials : v.facts.credentials 2 ≠ [] := by
    intro hnil
    have hrow := (v.credentials_nil 2).mp hnil 22
    simp [hcopy, registeredOnce] at hrow
  have hregistered : (verifiedRegistered twoAccounts registerAgain 2 22).now v = .ok 2 := by
    simp only [verifiedRegistered, Reading.now_bind, Reading.now_ask, hcredential]
    rfl
  have hsigner : (verifiedSigner twoAccounts registerAgain).now v = .ok 2 := by
    have hclaimed : twoAccounts.accountOf registerAgain.authorisation = .ok (2, 22) := rfl
    have hregisters : registers registerAgain = some (2, 2) := rfl
    simp only [verifiedSigner, hclaimed, hregisters, if_true, Reading.now_bind, Reading.now_ask]
    cases hc : v.facts.credentials 2 with
    | nil => exact absurd hc hcredentials
    | cons _ _ => exact hregistered
  have hverdict : (decide twoAccounts registerAgain).now v = .registration 2 := by
    simp only [decide, Reading.now_bind, hsigner]
    rfl
  refine ⟨.empty, 7, .accountCreation 2, ?_⟩
  rw [decide_now]
  change Except.ok ((Verdict.conclude _ 7 .empty ((decide twoAccounts registerAgain).now v)).1) = _
  rw [hverdict]
  rfl

/-- An input is entitled at every position, and the sponsor's key fails to sign: neither 200 nor
503. -/
theorem entitled_signing_fails : ¬ ∀ (t : State oneAccount) r request after answer,
    Steps True ⟨registeredOnce, .empty, fun _ => none⟩ t → t.requests r = some request →
    request.after = some after → EntitledFrom registeredOnce after request.input →
    request.phase = .answered answer →
    answer = .sponsored ∨ answer = .unavailable ∨ answer = .refused tooMany := by
  intro hall
  have h₁ : Steps (D := oneAccount) True ⟨registeredOnce, .empty, fun _ => none⟩ _ :=
    Steps.refl.step (.asks 0 registerAgain (some 1) rfl)
  have h₂ := (h₁.step (.reads 0 rfl rfl)).step (.reads 0 rfl rfl)
  have h₃ := (h₂.step (.decides 0 7 rfl rfl rfl)).step (.signingFails 0 trivial rfl rfl)
  have h := hall _ 0 _ 1 .failed h₃ rfl rfl (entitledFrom_registerAgain registeredOnce) rfl
  simp at h

end Kippu.Relay
