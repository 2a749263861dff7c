import Kippu.Store
import Mathlib.Data.List.Sort

/-!
# The check at a gate

An operator may admit at a gate of an event while one of their grants for it is in force.
One read answers the operator's grants for the gate, in no particular order: the grant in
force that ends last authorises, and otherwise the most useful reason is told.
-/

namespace Kippu.Gates

abbrev GrantId := ℕ
abbrev OperatorId := ℕ

structure GrantRow where
  id : GrantId
  operatorId : OperatorId
  organiserId : OrganiserId
  event : EventId
  gates : List String
  validFrom : Time
  validUntil : Time
  createdAt : Time
  revokedAt : Option Time
  deriving DecidableEq

structure OperatorPrincipal where
  operatorId : OperatorId
  organiserId : OrganiserId

structure CheckInput where
  event : EventId
  /-- The label, exactly as the grant names it. -/
  gate : String

structure OperatorAuthorisation where
  event : EventId
  gate : String
  grant : GrantId
  until_ : Time
  checkedAt : Time
  deriving DecidableEq

inductive CheckRefusal
  | grantRevoked
  | beforeWindow
  | afterWindow
  | notGranted
  deriving DecidableEq

def CheckRefusal.reason : CheckRefusal → String
  | .grantRevoked => "grant-revoked"
  | .beforeWindow => "before-window"
  | .afterWindow => "after-window"
  | .notGranted => "not-granted"

/-- The message of `refusedCheck`, a `FORBIDDEN`. -/
def CheckRefusal.message (r : CheckRefusal) : String :=
  s!"not authorised at this gate: {r.reason}"

-- ---------------------------------------------------------------------------
-- `check`
-- ---------------------------------------------------------------------------

/-- What the statement's `WHERE` selects. -/
def GrantRow.isOf (operator : OperatorPrincipal) (input : CheckInput) (row : GrantRow) : Bool :=
  row.operatorId = operator.operatorId && row.organiserId = operator.organiserId &&
    row.event = input.event && row.gates.contains input.gate

def GrantRow.inWindow (t : Time) (row : GrantRow) : Bool :=
  row.validFrom ≤ t && t < row.validUntil

/-- The order grants are sorted in: the one that ends last comes first. -/
def GrantRow.EndsLater (a b : GrantRow) : Prop := b.validUntil ≤ a.validUntil

instance : DecidableRel GrantRow.EndsLater := fun a b =>
  inferInstanceAs (Decidable (b.validUntil ≤ a.validUntil))

def check (grants : List GrantRow) (operator : OperatorPrincipal) (input : CheckInput)
    (t : Time) : Except CheckRefusal OperatorAuthorisation :=
  let rows := grants.filter (·.isOf operator input)
  let live := rows.filter (·.revokedAt = none)
  match ((live.filter (·.inWindow t)).insertionSort GrantRow.EndsLater).head? with
  | some active => .ok ⟨input.event, input.gate, active.id, active.validUntil, t⟩
  | none =>
    -- The most useful reason first: what applies now, then what will, then what did.
    if rows.any fun row => row.revokedAt ≠ none && row.inWindow t then .error .grantRevoked
    else if live.any (t < ·.validFrom) then .error .beforeWindow
    else if live ≠ [] then .error .afterWindow
    else .error (if rows ≠ [] then .grantRevoked else .notGranted)

-- ---------------------------------------------------------------------------
-- `revokeGrant`
-- ---------------------------------------------------------------------------

structure OperatorGrant where
  id : GrantId
  operator : OperatorId
  event : EventId
  gates : List String
  from_ : Time
  until_ : Time
  createdAt : Time
  revokedAt : Option Time
  deriving DecidableEq

def grantOf (row : GrantRow) : OperatorGrant where
  id := row.id
  operator := row.operatorId
  event := row.event
  gates := row.gates
  from_ := row.validFrom
  until_ := row.validUntil
  createdAt := row.createdAt
  revokedAt := row.revokedAt

/-- `unknownGrant`, a `NOT_FOUND`. -/
inductive Refusal
  | unknownGrant
  deriving DecidableEq

def GrantRow.revoke (organiserId : OrganiserId) (grant : GrantId) (now : Time)
    (row : GrantRow) : GrantRow :=
  if row.id = grant ∧ row.organiserId = organiserId ∧ row.revokedAt = none then
    { row with revokedAt := some now }
  else row

/-- The grants it leaves, and the grant as it then is, whether it was revoked before or not. -/
def revokeGrant (grants : List GrantRow) (organiserId : OrganiserId) (grant : GrantId)
    (now : Time) : List GrantRow × Except Refusal OperatorGrant :=
  let grants := grants.map (·.revoke organiserId grant now)
  match grants.find? fun row => row.id = grant && row.organiserId = organiserId with
  | some row => (grants, .ok (grantOf row))
  | none => (grants, .error .unknownGrant)

-- ---------------------------------------------------------------------------
-- What the check is to answer
-- ---------------------------------------------------------------------------

variable {grants : List GrantRow} {operator : OperatorPrincipal} {input : CheckInput} {t : Time}

/-- An unrevoked grant of the operator, for the gate of the event, in force at a time. -/
structure GrantRow.Authorises (operator : OperatorPrincipal) (input : CheckInput) (t : Time)
    (row : GrantRow) : Prop where
  operatorId : row.operatorId = operator.operatorId
  organiserId : row.organiserId = operator.organiserId
  event : row.event = input.event
  gate : input.gate ∈ row.gates
  unrevoked : row.revokedAt = none
  began : row.validFrom ≤ t
  ends : t < row.validUntil

def CheckRefusal.Says (rows : List GrantRow) (t : Time) : CheckRefusal → Prop
  | .grantRevoked =>
    ∃ g ∈ rows, g.revokedAt ≠ none ∧ g.validFrom ≤ t ∧ t < g.validUntil
  | .beforeWindow => ∃ g ∈ rows, g.revokedAt = none ∧ t < g.validFrom
  | .afterWindow => ∃ g ∈ rows, g.revokedAt = none ∧ g.validUntil ≤ t
  | .notGranted => rows = []

/-- What applies now comes first, then what will, then what did. -/
def CheckRefusal.rank : CheckRefusal → ℕ
  | .grantRevoked => 0
  | .beforeWindow => 1
  | .afterWindow => 2
  | .notGranted => 3

/-- The first reason that applies. Where none does, all the grants there are were revoked. -/
def CheckRefusal.IsFirst (rows : List GrantRow) (t : Time) (r : CheckRefusal) : Prop :=
  (r.Says rows t ∧ ∀ r' : CheckRefusal, r'.rank < r.rank → ¬ r'.Says rows t) ∨
    (∀ r' : CheckRefusal, ¬ r'.Says rows t) ∧ r = .grantRevoked

-- ---------------------------------------------------------------------------
-- The grants in force
-- ---------------------------------------------------------------------------

instance : Std.Total GrantRow.EndsLater := ⟨fun a b => Nat.le_total b.validUntil a.validUntil⟩

instance : IsTrans GrantRow GrantRow.EndsLater := ⟨fun _ _ _ hab hbc => Nat.le_trans hbc hab⟩

def ofGate (grants : List GrantRow) (operator : OperatorPrincipal) (input : CheckInput) :
    List GrantRow :=
  grants.filter (·.isOf operator input)

def active (grants : List GrantRow) (operator : OperatorPrincipal) (input : CheckInput)
    (t : Time) : List GrantRow :=
  ((ofGate grants operator input).filter (·.revokedAt = none)).filter (·.inWindow t)

theorem inWindow_iff {g : GrantRow} :
    g.inWindow t = true ↔ g.validFrom ≤ t ∧ t < g.validUntil := by
  simp [GrantRow.inWindow]

theorem mem_active {g : GrantRow} :
    g ∈ active grants operator input t ↔ g ∈ grants ∧ g.Authorises operator input t := by
  simp only [active, ofGate, List.mem_filter, GrantRow.isOf, inWindow_iff, Bool.and_eq_true,
    decide_eq_true_eq, List.contains_iff_mem]
  constructor
  · rintro ⟨⟨⟨hg, ⟨⟨ho, horg⟩, he⟩, hgate⟩, hlive⟩, hfrom, huntil⟩
    exact ⟨hg, ho, horg, he, hgate, hlive, hfrom, huntil⟩
  · rintro ⟨hg, h⟩
    exact ⟨⟨⟨hg, ⟨⟨h.operatorId, h.organiserId⟩, h.event⟩, h.gate⟩, h.unrevoked⟩, h.began, h.ends⟩

theorem active_eq_nil :
    active grants operator input t = [] ↔ ∀ g ∈ grants, ¬ g.Authorises operator input t := by
  simp [List.eq_nil_iff_forall_not_mem, mem_active]

theorem head_insertionSort {a : GrantRow} {rows : List GrantRow}
    (h : (rows.insertionSort GrantRow.EndsLater).head? = some a) :
    a ∈ rows ∧ ∀ g ∈ rows, g.validUntil ≤ a.validUntil := by
  obtain ⟨rest, hsorted⟩ := List.head?_eq_some_iff.mp h
  have hpair := List.pairwise_insertionSort GrantRow.EndsLater rows
  have hmem : ∀ {g}, g ∈ rows ↔ g = a ∨ g ∈ rest := fun {g} => by
    rw [← List.mem_insertionSort GrantRow.EndsLater, hsorted, List.mem_cons]
  rw [hsorted] at hpair
  refine ⟨hmem.mpr (.inl rfl), fun g hg => ?_⟩
  rcases hmem.mp hg with rfl | hrest
  · exact Nat.le_refl _
  · exact List.rel_of_pairwise_cons hpair hrest

theorem head_insertionSort_none {rows : List GrantRow} :
    (rows.insertionSort GrantRow.EndsLater).head? = none ↔ rows = [] := by
  rw [List.head?_eq_none_iff, ← List.length_eq_zero_iff, List.length_insertionSort,
    List.length_eq_zero_iff]

-- ---------------------------------------------------------------------------
-- Answers
-- ---------------------------------------------------------------------------

theorem check_ok {a : OperatorAuthorisation} (h : check grants operator input t = .ok a) :
    a.event = input.event ∧ a.gate = input.gate ∧ a.checkedAt = t ∧
      (∃ g ∈ grants, g.Authorises operator input t ∧ g.id = a.grant ∧ g.validUntil = a.until_) ∧
      ∀ g ∈ grants, g.Authorises operator input t → g.validUntil ≤ a.until_ := by
  unfold check at h
  dsimp only at h
  split at h
  · rename_i g hhead
    cases h
    obtain ⟨hmem, hlast⟩ := head_insertionSort hhead
    obtain ⟨hg, hauthorises⟩ := mem_active.mp hmem
    exact ⟨rfl, rfl, rfl, ⟨g, hg, hauthorises, rfl, rfl⟩,
      fun g' hg' h' => hlast g' (mem_active.mpr ⟨hg', h'⟩)⟩
  · split at h
    · cases h
    split at h
    · cases h
    split at h
    · cases h
    · cases h

theorem says_grantRevoked {rows : List GrantRow} :
    (rows.any fun row => row.revokedAt ≠ none && row.inWindow t) = true ↔
      CheckRefusal.grantRevoked.Says rows t := by
  simp [CheckRefusal.Says, inWindow_iff]

theorem says_beforeWindow {rows : List GrantRow} :
    ((rows.filter (·.revokedAt = none)).any (t < ·.validFrom)) = true ↔
      CheckRefusal.beforeWindow.Says rows t := by
  simp [CheckRefusal.Says]

theorem says_afterWindow {rows : List GrantRow}
    (hnone : (rows.filter (·.revokedAt = none)).filter (·.inWindow t) = [])
    (hbefore : ¬ CheckRefusal.beforeWindow.Says rows t) :
    rows.filter (·.revokedAt = none) ≠ [] ↔ CheckRefusal.afterWindow.Says rows t := by
  constructor
  · intro hlive
    obtain ⟨g, hg⟩ := List.exists_mem_of_ne_nil _ hlive
    obtain ⟨hmem, hunrevoked⟩ := List.mem_filter.mp hg
    have hunrevoked : g.revokedAt = none := of_decide_eq_true hunrevoked
    have hbegan : g.validFrom ≤ t := Nat.le_of_not_lt fun h => hbefore ⟨g, hmem, hunrevoked, h⟩
    have hout : ¬ (g.validFrom ≤ t ∧ t < g.validUntil) := fun h =>
      List.filter_eq_nil_iff.mp hnone g hg (inWindow_iff.mpr h)
    exact ⟨g, hmem, hunrevoked, Nat.le_of_not_lt fun h => hout ⟨hbegan, h⟩⟩
  · rintro ⟨g, hmem, hunrevoked, -⟩ hnil
    exact List.filter_eq_nil_iff.mp hnil g hmem (decide_eq_true hunrevoked)

theorem check_error {r : CheckRefusal} (h : check grants operator input t = .error r) :
    (∀ g ∈ grants, ¬ g.Authorises operator input t) ∧
      r.IsFirst (ofGate grants operator input) t := by
  unfold check at h
  dsimp only at h
  split at h
  · cases h
  rename_i hhead
  have hnone := head_insertionSort_none.mp hhead
  refine ⟨active_eq_nil.mp hnone, ?_⟩
  split at h
  · rename_i hrevoked
    cases h
    exact .inl ⟨says_grantRevoked.mp hrevoked, fun r' hr => absurd hr (Nat.not_lt_zero _)⟩
  rename_i hrevoked
  have hrevoked := mt says_grantRevoked.mpr hrevoked
  split at h
  · rename_i hbefore
    cases h
    refine .inl ⟨says_beforeWindow.mp hbefore, fun r' hr => ?_⟩
    cases r' with
    | grantRevoked => exact hrevoked
    | _ => simp [CheckRefusal.rank] at hr
  rename_i hbefore
  have hbefore := mt says_beforeWindow.mpr hbefore
  have hafter := says_afterWindow hnone hbefore
  split at h
  · rename_i hlive
    cases h
    refine .inl ⟨hafter.mp hlive, fun r' hr => ?_⟩
    cases r' with
    | grantRevoked => exact hrevoked
    | beforeWindow => exact hbefore
    | _ => simp [CheckRefusal.rank] at hr
  rename_i hlive
  have hafter := mt hafter.mpr hlive
  split at h
  · rename_i hrows
    cases h
    refine .inr ⟨fun r' => ?_, rfl⟩
    cases r' with
    | grantRevoked => exact hrevoked
    | beforeWindow => exact hbefore
    | afterWindow => exact hafter
    | notGranted => exact hrows
  · rename_i hrows
    cases h
    refine .inl ⟨not_not.mp hrows, fun r' hr => ?_⟩
    cases r' with
    | grantRevoked => exact hrevoked
    | beforeWindow => exact hbefore
    | afterWindow => exact hafter
    | notGranted => exact absurd hr (Nat.lt_irrefl _)

theorem CheckRefusal.rank_inj {r r' : CheckRefusal} (h : r.rank = r'.rank) : r = r' := by
  cases r <;> cases r' <;> first | rfl | cases h

theorem CheckRefusal.IsFirst.unique {rows : List GrantRow} {r r' : CheckRefusal}
    (h : r.IsFirst rows t) (h' : r'.IsFirst rows t) : r = r' := by
  rcases h with ⟨hsaid, hfirst⟩ | ⟨hnone, rfl⟩
  · rcases h' with ⟨hsaid', hfirst'⟩ | ⟨hnone', rfl⟩
    · refine rank_inj (Nat.le_antisymm ?_ ?_)
      · exact Nat.le_of_not_lt fun hlt => hfirst r' hlt hsaid'
      · exact Nat.le_of_not_lt fun hlt => hfirst' r hlt hsaid
    · exact absurd hsaid (hnone' r)
  · rcases h' with ⟨hsaid', -⟩ | ⟨-, rfl⟩
    · exact absurd hsaid' (hnone r')
    · rfl

theorem check_ok_iff :
    (∃ a, check grants operator input t = .ok a) ↔
      ∃ g ∈ grants, g.Authorises operator input t := by
  constructor
  · rintro ⟨a, ha⟩
    obtain ⟨-, -, -, ⟨g, hg, hauthorises, -⟩, -⟩ := check_ok ha
    exact ⟨g, hg, hauthorises⟩
  · rintro ⟨g, hg, hauthorises⟩
    cases h : check grants operator input t with
    | ok a => exact ⟨a, rfl⟩
    | error r => exact absurd hauthorises ((check_error h).1 g hg)

theorem check_error_iff {r : CheckRefusal} :
    check grants operator input t = .error r ↔
      (∀ g ∈ grants, ¬ g.Authorises operator input t) ∧
        r.IsFirst (ofGate grants operator input) t := by
  refine ⟨check_error, fun ⟨hnone, hfirst⟩ => ?_⟩
  cases h : check grants operator input t with
  | ok a =>
    obtain ⟨g, hg, hauthorises⟩ := check_ok_iff.mp ⟨a, h⟩
    exact absurd hauthorises (hnone g hg)
  | error r' => rw [(check_error h).2.unique hfirst]

-- ---------------------------------------------------------------------------
-- Revocations
-- ---------------------------------------------------------------------------

theorem revokeGrant_grants (grants : List GrantRow) (organiserId : OrganiserId) (grant : GrantId)
    (now : Time) : (revokeGrant grants organiserId grant now).1 =
      grants.map (·.revoke organiserId grant now) := by
  unfold revokeGrant
  dsimp only
  split <;> rfl

theorem GrantRow.authorises_of_revoke {g : GrantRow} {organiserId : OrganiserId}
    {grant : GrantId} {now : Time}
    (h : (g.revoke organiserId grant now).Authorises operator input t) :
    g.Authorises operator input t := by
  unfold GrantRow.revoke at h
  split at h
  · cases h.unrevoked
  · exact h

/-- The check at a gate succeeds exactly if an unrevoked grant of the operator is in force there,
and tells the latest end of one; otherwise its reason is the first that applies. No revocation
turns a refusal into a success. -/
theorem check_exact (grants : List GrantRow) (operator : OperatorPrincipal) (input : CheckInput)
    (t : Time) :
    ((∃ a, check grants operator input t = .ok a) ↔
      ∃ g ∈ grants, g.Authorises operator input t) ∧
    (∀ a, check grants operator input t = .ok a →
      a.event = input.event ∧ a.gate = input.gate ∧ a.checkedAt = t ∧
        (∃ g ∈ grants, g.Authorises operator input t ∧ g.id = a.grant ∧
          g.validUntil = a.until_) ∧
        ∀ g ∈ grants, g.Authorises operator input t → g.validUntil ≤ a.until_) ∧
    (∀ r, check grants operator input t = .error r ↔
      (∀ g ∈ grants, ¬ g.Authorises operator input t) ∧
        CheckRefusal.IsFirst (ofGate grants operator input) t r) ∧
    ∀ organiserId grant now r, check grants operator input t = .error r →
      ∃ r', check (revokeGrant grants organiserId grant now).1 operator input t = .error r' := by
  refine ⟨check_ok_iff, fun a => check_ok, fun r => check_error_iff, ?_⟩
  intro organiserId grant now r hrefused
  cases h : check (revokeGrant grants organiserId grant now).1 operator input t with
  | error r' => exact ⟨r', rfl⟩
  | ok a =>
    obtain ⟨g', hg', hauthorises⟩ := check_ok_iff.mp ⟨a, h⟩
    rw [revokeGrant_grants] at hg'
    obtain ⟨g, hg, rfl⟩ := List.mem_map.mp hg'
    exact absurd (GrantRow.authorises_of_revoke hauthorises) ((check_error hrefused).1 g hg)

/-- A grant revoked in its window is told before one that starts later. -/
example :
    check [⟨1, 1, 1, 1, ["North door"], 0, 10, 0, some 5⟩,
      ⟨2, 1, 1, 1, ["North door"], 8, 20, 0, none⟩] ⟨1, 1⟩ ⟨1, "North door"⟩ 7 =
      .error .grantRevoked := by decide

end Kippu.Gates
