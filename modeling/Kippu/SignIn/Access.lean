import Kippu.SignIn.Earned

/-!
# Access to procedures

A procedure's context is made of its request's `Authorization` header, in two reads of the store;
whom the procedure then sees, if anybody, is up to the builder it was built with.
-/

namespace Kippu.SignIn

/-- An `Authorization` header, as Fastify has it. -/
inductive Header
  | absent
  | single (text : String)
  | several (texts : List String)

def isTokenChar (c : Char) : Bool := c.isAlphanum || c = '_' || c = '-'

/-- `/^[A-Za-z0-9_-]{16,256}$/` -/
def isToken (cs : List Char) : Bool := 16 ≤ cs.length && cs.length ≤ 256 && cs.all isTokenChar

def BEARER : String := "Bearer "

def bearerToken : Header → Option Token
  | .single text =>
    let token := text.toList.drop BEARER.toList.length
    if BEARER.toList.isPrefixOf text.toList && isToken token then some (String.ofList token) else none
  | .absent | .several _ => none

structure Context where
  session : Option SessionInfo
  /-- The session's, or none for the anonymous principal. -/
  principal : Option Principal
  revokedOperator : Option RevokedOperatorSession

/-- In the states it finds, at the times it reads. -/
def createContext (s s' : State) (t t' : Time) (header : Header) : Context :=
  let token := bearerToken header
  let session := token.bind fun token => s.authenticate token t
  { session
    principal := session.map SessionInfo.principal
    revokedOperator := match token, session with
      | some token, none => s'.authenticateRevokedOperator token t'
      | _, _ => none }

inductive Access
  | «public»
  | signedIn
  | operatorReport
  deriving DecidableEq

inductive TRPCErrorCode
  | UNAUTHORIZED
  | FORBIDDEN

structure TRPCError where
  code : TRPCErrorCode
  message : String

def signInFirst : TRPCError := ⟨.UNAUTHORIZED, "sign in first"⟩

def guarded (access : Option Access) (ctx : Context) : Except TRPCError Unit :=
  let reporting := access = some .operatorReport && ctx.revokedOperator.isSome
  if ctx.principal.isNone && access ≠ some .public && !reporting then .error signInFirst
  else .ok ()

def authenticatedProcedure (ctx : Context) : Except TRPCError SessionInfo := do
  guarded (some .signedIn) ctx
  match ctx.session with
  | some info => .ok info
  | none => .error signInFirst

/-- A procedure only one kind of principal may call. -/
def onlyProcedure {α : Type} (kind : Principal → Option α) (message : String) (ctx : Context) :
    Except TRPCError (α × SessionId) := do
  let info ← authenticatedProcedure ctx
  match kind info.principal with
  | some p => .ok (p, info.sessionId)
  | none => .error ⟨.FORBIDDEN, message⟩

def Principal.organiser? : Principal → Option OrganiserId
  | .organiser o => some o
  | _ => none

def Principal.operator? : Principal → Option (OperatorId × OrganiserId)
  | .operator i o => some (i, o)
  | _ => none

def Principal.holder? : Principal → Option AccountId
  | .holder a => some a
  | _ => none

def Principal.reviewer? : Principal → Option ReviewerId
  | .reviewer r => some r
  | _ => none

def organiserProcedure : Context → Except TRPCError (OrganiserId × SessionId) :=
  onlyProcedure Principal.organiser? "only an organiser may do this"

def operatorProcedure : Context → Except TRPCError ((OperatorId × OrganiserId) × SessionId) :=
  onlyProcedure Principal.operator? "only an operator may do this"

def holderProcedure : Context → Except TRPCError (AccountId × SessionId) :=
  onlyProcedure Principal.holder? "only a holder may do this"

def reviewerProcedure : Context → Except TRPCError (ReviewerId × SessionId) :=
  onlyProcedure Principal.reviewer? "only a Kippu reviewer may do this"

/-- With when the session was revoked, if it was. -/
def reportingOperatorProcedure (ctx : Context) :
    Except TRPCError ((OperatorId × OrganiserId) × SessionId × Option Time) := do
  guarded (some .operatorReport) ctx
  match ctx.session, ctx.revokedOperator with
  | some info, _ =>
    match info.principal.operator? with
    | some p => .ok (p, info.sessionId, none)
    | none => .error ⟨.FORBIDDEN, "only an operator may do this"⟩
  | none, some revoked =>
    .ok ((revoked.operator, revoked.organiser), revoked.sessionId, some revoked.revokedAt)
  | none, none => .error signInFirst

variable {w : Site} {s s' s₀ : State} {t t' : Time} {header : Header} {token : Token}
  {info : SessionInfo} {α : Type}

-- ---------------------------------------------------------------------------
-- The header
-- ---------------------------------------------------------------------------

theorem bearerToken_eq_some :
    bearerToken header = some token ↔ header = .single (BEARER ++ token) ∧ isToken token.toList := by
  cases header with
  | absent | several =>
    constructor
    · intro h
      cases h
    · rintro ⟨h, -⟩
      cases h
  | single text =>
    simp only [bearerToken, Option.ite_none_right_eq_some, Bool.and_eq_true, Option.some.injEq,
      Header.single.injEq]
    constructor
    · rintro ⟨⟨hstart, htoken⟩, rfl⟩
      obtain ⟨rest, hrest⟩ := List.isPrefixOf_iff_prefix.mp hstart
      have hdrop : text.toList.drop BEARER.toList.length = rest := by
        rw [← hrest, List.drop_left]
      rw [hdrop] at htoken ⊢
      refine ⟨String.toList_inj.mp ?_, by rwa [String.toList_ofList]⟩
      rw [String.toList_append, String.toList_ofList, hrest]
    · rintro ⟨rfl, htoken⟩
      rw [String.toList_append, List.drop_left, String.ofList_toList]
      exact ⟨⟨List.isPrefixOf_iff_prefix.mpr (List.prefix_append _ _), htoken⟩, rfl⟩

theorem isTokenChar_urlDigit {c : Char} (h : Base64.isDigit c) : isTokenChar (urlDigit c) := by
  have halnum : ∀ c : Char, c.isAlphanum = (c.isUpper || c.isLower || c.isDigit) := fun _ => rfl
  have hletter (hc : c ≠ '+' ∧ c ≠ '/') (hc' : c.isAlphanum = true) : isTokenChar (urlDigit c) := by
    rw [urlDigit, if_neg hc.1, if_neg hc.2, isTokenChar, hc']
    rfl
  rcases Base64.isDigit_iff.mp h with ⟨low, high⟩ | ⟨low, high⟩ | ⟨low, high⟩ | rfl | rfl
  · refine hletter ⟨Base64.plus_ne (by omega), Base64.slash_ne (by omega)⟩ ?_
    rw [halnum, Bool.or_eq_true, Bool.or_eq_true]
    exact .inl (.inl (decide_eq_true ⟨low, high⟩))
  · refine hletter ⟨Base64.plus_ne (by omega), Base64.slash_ne (by omega)⟩ ?_
    rw [halnum, Bool.or_eq_true, Bool.or_eq_true]
    exact .inl (.inr (Bool.and_eq_true_iff.mpr ⟨decide_eq_true low, decide_eq_true high⟩))
  · refine hletter ⟨Base64.plus_ne (by omega), Base64.slash_ne (by omega)⟩ ?_
    rw [halnum, Bool.or_eq_true]
    exact .inr (Bool.and_eq_true_iff.mpr ⟨decide_eq_true low, decide_eq_true high⟩)
  · decide
  · decide

theorem isToken_base64url {random : List UInt8} (h : random.length = 32) :
    isToken (base64url random).toList := by
  have hlen := Base64.length_digits random
  rw [h] at hlen
  simp only [isToken, base64url, String.toList_ofList, List.length_map, hlen, Bool.and_eq_true]
  refine ⟨⟨rfl, rfl⟩, List.all_eq_true.mpr fun c hc => ?_⟩
  obtain ⟨d, hd, rfl⟩ := List.mem_map.mp hc
  obtain ⟨hd, hne⟩ := List.mem_filter.mp hd
  rcases Base64.mem_wellFormed (Base64.wellFormed_encode random) hd with hd | rfl
  · exact isTokenChar_urlDigit hd
  · simp at hne

theorem bearerToken_base64url {random : List UInt8} (h : random.length = 32) :
    bearerToken (.single (BEARER ++ base64url random)) = some (base64url random) :=
  bearerToken_eq_some.mpr ⟨rfl, isToken_base64url h⟩

-- ---------------------------------------------------------------------------
-- The session of a request
-- ---------------------------------------------------------------------------

/-- A session neither revoked nor expired, nor of a disabled reviewer. -/
structure State.Live (s : State) (t : Time) (token : Token) (x : Session) : Prop where
  row : s.sessions token = some x
  unrevoked : x.revokedAt = none
  unexpired : t < x.expiresAt
  enabled : ∀ r, x.principal = .reviewer r → s.disabled r = false

structure Names (s : State) (t : Time) (header : Header) (x : Session) : Prop where
  live : ∃ token, header = .single (BEARER ++ token) ∧ isToken token.toList ∧ s.Live t token x

theorem joinsDisabled_eq_false {p : Principal} :
    s.joinsDisabled p = false ↔ ∀ r, p = .reviewer r → s.disabled r = false := by
  cases p with
  | reviewer r => simp [State.joinsDisabled]
  | organiser | operator | holder => simp [State.joinsDisabled]

theorem authenticate_eq_some : s.authenticate token t = some info ↔
    ∃ x, s.Live t token x ∧ info = ⟨x.principal, x.id, x.expiresAt⟩ := by
  simp only [State.authenticate, Option.bind_eq_bind, Option.bind_eq_some_iff,
    Option.ite_none_right_eq_some, Bool.and_eq_true, Option.isNone_iff_eq_none, decide_eq_true_eq,
    Bool.not_eq_true', joinsDisabled_eq_false, Option.some.injEq]
  constructor
  · rintro ⟨x, hx, ⟨⟨hr, ht⟩, he⟩, rfl⟩
    exact ⟨x, ⟨hx, hr, ht, he⟩, rfl⟩
  · rintro ⟨x, hlive, rfl⟩
    exact ⟨x, hlive.row, ⟨⟨hlive.unrevoked, hlive.unexpired⟩, hlive.enabled⟩, rfl⟩

theorem session_eq_some : (createContext s s' t t' header).session = some info ↔
    ∃ x, Names s t header x ∧ info = ⟨x.principal, x.id, x.expiresAt⟩ := by
  simp only [createContext, Option.bind_eq_some_iff, bearerToken_eq_some, authenticate_eq_some]
  constructor
  · rintro ⟨token, ⟨hh, htoken⟩, x, hlive, rfl⟩
    exact ⟨x, ⟨token, hh, htoken, hlive⟩, rfl⟩
  · rintro ⟨x, ⟨token, hh, htoken, hlive⟩, rfl⟩
    exact ⟨token, ⟨hh, htoken⟩, x, hlive, rfl⟩

theorem session_eq_none : (createContext s s' t t' header).session = none ↔
    ∀ x, ¬ Names s t header x := by
  rw [Option.eq_none_iff_forall_ne_some]
  constructor
  · intro h x hx
    exact h _ (session_eq_some.mpr ⟨x, hx, rfl⟩)
  · intro h info hinfo
    obtain ⟨x, hx, -⟩ := session_eq_some.mp hinfo
    exact h x hx

/-- What only one kind of principal may call, by the session the header names. -/
inductive Judged (s : State) (t : Time) (header : Header) (kind : Principal → Option α)
    (message : String) : Except TRPCError (α × SessionId) → Prop
  | admitted : Names s t header x → kind x.principal = some p →
      Judged s t header kind message (.ok (p, x.id))
  | forbidden : Names s t header x → kind x.principal = none →
      Judged s t header kind message (.error ⟨.FORBIDDEN, message⟩)
  | unauthorized : (∀ x, ¬ Names s t header x) →
      Judged s t header kind message (.error signInFirst)

theorem authenticatedProcedure_some (h : (createContext s s' t t' header).session = some info) :
    authenticatedProcedure (createContext s s' t t' header) = .ok info := by
  have hp : (createContext s s' t t' header).principal = some info.principal :=
    congrArg (Option.map SessionInfo.principal) h
  simp only [authenticatedProcedure, guarded, hp, h]
  rfl

theorem authenticatedProcedure_none (h : (createContext s s' t t' header).session = none) :
    authenticatedProcedure (createContext s s' t t' header) = .error signInFirst := by
  have hp : (createContext s s' t t' header).principal = none :=
    congrArg (Option.map SessionInfo.principal) h
  simp only [authenticatedProcedure, guarded, hp, h]
  rfl

theorem onlyProcedure_judged (kind : Principal → Option α) (message : String) :
    Judged s t header kind message (onlyProcedure kind message (createContext s s' t t' header)) := by
  cases h : (createContext s s' t t' header).session with
  | none =>
    rw [onlyProcedure, authenticatedProcedure_none h]
    exact .unauthorized (session_eq_none.mp h)
  | some info =>
    obtain ⟨x, hx, rfl⟩ := session_eq_some.mp h
    rw [onlyProcedure, authenticatedProcedure_some h]
    change Judged s t header kind message (match kind x.principal with
      | some p => .ok (p, x.id)
      | none => .error ⟨.FORBIDDEN, message⟩)
    cases hk : kind x.principal with
    | none => exact .forbidden hx hk
    | some p => exact .admitted hx hk

/-- An operator's session that was revoked less than 24 hours ago. -/
structure State.Reporting (s : State) (t : Time) (token : Token) (x : Session) (revokedAt : Time) :
    Prop where
  row : s.sessions token = some x
  revoked : x.revokedAt = some revokedAt
  recent : t < revokedAt + REVOKED_OPERATOR_REPORTING_MS

theorem authenticateRevokedOperator_eq_some {y : RevokedOperatorSession} :
    s.authenticateRevokedOperator token t = some y ↔
      ∃ x, s.Reporting t token x y.revokedAt ∧ x.principal = .operator y.operator y.organiser ∧
        x.id = y.sessionId := by
  simp only [State.authenticateRevokedOperator, Option.bind_eq_bind, Option.bind_eq_some_iff]
  constructor
  · rintro ⟨x, hx, revokedAt, hr, h⟩
    cases hp : x.principal with
    | operator i o =>
      simp only [hp, Option.ite_none_right_eq_some, Option.some.injEq] at h
      obtain ⟨ht, rfl⟩ := h
      exact ⟨x, ⟨hx, hr, ht⟩, hp, rfl⟩
    | organiser | holder | reviewer => simp [hp] at h
  · rintro ⟨x, hr, hp, hid⟩
    refine ⟨x, hr.row, y.revokedAt, hr.revoked, ?_⟩
    simp only [hp, if_pos hr.recent, hid]

theorem revokedOperator_eq_some {y : RevokedOperatorSession}
    (h : (createContext s s' t t' header).session = none) :
    (createContext s s' t t' header).revokedOperator = some y ↔
      ∃ token, header = .single (BEARER ++ token) ∧ isToken token.toList ∧
        s'.authenticateRevokedOperator token t' = some y := by
  have hs : ((bearerToken header).bind fun token => s.authenticate token t) = none := h
  simp only [createContext, hs]
  cases hb : bearerToken header with
  | none =>
    constructor
    · intro h
      cases h
    · rintro ⟨token, hh, htoken, -⟩
      rw [bearerToken_eq_some.mpr ⟨hh, htoken⟩] at hb
      cases hb
  | some token =>
    obtain ⟨hh, htoken⟩ := bearerToken_eq_some.mp hb
    constructor
    · intro h
      exact ⟨token, hh, htoken, h⟩
    · rintro ⟨token', hh', htoken', h⟩
      rw [bearerToken_eq_some.mpr ⟨hh', htoken'⟩] at hb
      obtain rfl := Option.some.inj hb
      exact h

/-- Who may report an admission, by the session the header names, or else named. -/
inductive Reports (s s' : State) (t t' : Time) (header : Header) :
    Except TRPCError ((OperatorId × OrganiserId) × SessionId × Option Time) → Prop
  | admitted : Names s t header x → x.principal.operator? = some p →
      Reports s s' t t' header (.ok (p, x.id, none))
  | forbidden : Names s t header x → x.principal.operator? = none →
      Reports s s' t t' header (.error ⟨.FORBIDDEN, "only an operator may do this"⟩)
  | revoked {token : Token} : (∀ x, ¬ Names s t header x) → header = .single (BEARER ++ token) →
      isToken token.toList → s'.Reporting t' token x revokedAt → x.principal.operator? = some p →
      Reports s s' t t' header (.ok (p, x.id, some revokedAt))
  | unauthorized : (∀ x, ¬ Names s t header x) → (∀ token x revokedAt,
        header = .single (BEARER ++ token) → isToken token.toList →
          s'.Reporting t' token x revokedAt → x.principal.operator? = none) →
      Reports s s' t t' header (.error signInFirst)

theorem organiser?_eq_some {p : Principal} {o : OrganiserId} :
    p.organiser? = some o ↔ p = .organiser o := by
  cases p <;> simp [Principal.organiser?]

theorem holder?_eq_some {p : Principal} {account : AccountId} :
    p.holder? = some account ↔ p = .holder account := by
  cases p <;> simp [Principal.holder?]

theorem operator?_eq_some {p : Principal} {i : OperatorId} {o : OrganiserId} :
    p.operator? = some (i, o) ↔ p = .operator i o := by
  cases p <;> simp [Principal.operator?]

theorem reportingOperatorProcedure_reports :
    Reports s s' t t' header (reportingOperatorProcedure (createContext s s' t t' header)) := by
  cases h : (createContext s s' t t' header).session with
  | some info =>
    obtain ⟨x, hx, rfl⟩ := session_eq_some.mp h
    have hp : (createContext s s' t t' header).principal = some x.principal :=
      congrArg (Option.map SessionInfo.principal) h
    have he : reportingOperatorProcedure (createContext s s' t t' header) =
        match x.principal.operator? with
        | some p => .ok (p, x.id, none)
        | none => .error ⟨.FORBIDDEN, "only an operator may do this"⟩ := by
      simp only [reportingOperatorProcedure, guarded, hp, h]
      rfl
    rw [he]
    cases hk : x.principal.operator? with
    | none => exact .forbidden hx hk
    | some p => exact .admitted hx hk
  | none =>
    have hp : (createContext s s' t t' header).principal = none :=
      congrArg (Option.map SessionInfo.principal) h
    have hn := session_eq_none.mp h
    cases hr : (createContext s s' t t' header).revokedOperator with
    | none =>
      have he : reportingOperatorProcedure (createContext s s' t t' header) =
          .error signInFirst := by
        simp only [reportingOperatorProcedure, guarded, hp, hr]
        rfl
      rw [he]
      refine .unauthorized hn fun token x revokedAt hh htoken hrep => ?_
      cases hk : x.principal.operator? with
      | none => rfl
      | some p =>
        have hy : s'.authenticateRevokedOperator token t' = some ⟨p.1, p.2, x.id, revokedAt⟩ :=
          authenticateRevokedOperator_eq_some.mpr ⟨x, hrep, operator?_eq_some.mp hk, rfl⟩
        rw [(revokedOperator_eq_some h).mpr ⟨token, hh, htoken, hy⟩] at hr
        cases hr
    | some y =>
      have he : reportingOperatorProcedure (createContext s s' t t' header) =
          .ok ((y.operator, y.organiser), y.sessionId, some y.revokedAt) := by
        simp only [reportingOperatorProcedure, guarded, hp, h, hr]
        rfl
      obtain ⟨token, hh, htoken, hy⟩ := (revokedOperator_eq_some h).mp hr
      obtain ⟨x, hrep, hprincipal, hid⟩ := authenticateRevokedOperator_eq_some.mp hy
      rw [he, ← hid]
      exact .revoked hn hh htoken hrep (operator?_eq_some.mpr hprincipal)

-- ---------------------------------------------------------------------------
-- Whom a procedure acts for
-- ---------------------------------------------------------------------------

theorem Names.unique {x y : Session} (h : Names s t header x) (h' : Names s t header y) : x = y := by
  obtain ⟨token, rfl, -, hx⟩ := h
  obtain ⟨token', he, -, hy⟩ := h'
  have heq := congrArg String.toList (Header.single.inj he)
  rw [String.toList_append, String.toList_append, List.append_cancel_left_eq] at heq
  obtain rfl := String.toList_inj.mp heq
  exact Option.some.inj (hx.row.symm.trans hy.row)

theorem Judged.unique {kind : Principal → Option α} {message : String}
    {r r' : Except TRPCError (α × SessionId)} (h : Judged s t header kind message r)
    (h' : Judged s t header kind message r') : r = r' := by
  cases h with
  | admitted hx hk =>
    cases h' with
    | admitted hy hk' =>
      obtain rfl := hx.unique hy
      obtain rfl := Option.some.inj (hk.symm.trans hk')
      rfl
    | forbidden hy hk' =>
      obtain rfl := hx.unique hy
      rw [hk] at hk'
      cases hk'
    | unauthorized hn => exact absurd hx (hn _)
  | forbidden hx hk =>
    cases h' with
    | admitted hy hk' =>
      obtain rfl := hx.unique hy
      rw [hk] at hk'
      cases hk'
    | forbidden => rfl
    | unauthorized hn => exact absurd hx (hn _)
  | unauthorized hn =>
    cases h' with
    | admitted hy | forbidden hy => exact absurd hy (hn _)
    | unauthorized => rfl

theorem Reports.unique
    {r r' : Except TRPCError ((OperatorId × OrganiserId) × SessionId × Option Time)}
    (h : Reports s s' t t' header r) (h' : Reports s s' t t' header r') : r = r' := by
  have htoken : ∀ {token token' : Token}, header = .single (BEARER ++ token) →
      header = .single (BEARER ++ token') → token = token' := by
    rintro token token' rfl he
    have heq := congrArg String.toList (Header.single.inj he)
    rw [String.toList_append, String.toList_append, List.append_cancel_left_eq] at heq
    exact String.toList_inj.mp heq
  cases h with
  | admitted hx hk =>
    cases h' with
    | admitted hy hk' =>
      obtain rfl := hx.unique hy
      obtain rfl := Option.some.inj (hk.symm.trans hk')
      rfl
    | forbidden hy hk' =>
      obtain rfl := hx.unique hy
      rw [hk] at hk'
      cases hk'
    | revoked hn | unauthorized hn => exact absurd hx (hn _)
  | forbidden hx hk =>
    cases h' with
    | admitted hy hk' =>
      obtain rfl := hx.unique hy
      rw [hk] at hk'
      cases hk'
    | forbidden => rfl
    | revoked hn | unauthorized hn => exact absurd hx (hn _)
  | revoked hn hh ht hr hk =>
    cases h' with
    | admitted hy | forbidden hy => exact absurd hy (hn _)
    | revoked _ hh' _ hr' hk' =>
      obtain rfl := htoken hh hh'
      obtain rfl := Option.some.inj (hr.row.symm.trans hr'.row)
      obtain rfl := Option.some.inj (hr.revoked.symm.trans hr'.revoked)
      obtain rfl := Option.some.inj (hk.symm.trans hk')
      rfl
    | unauthorized _ hnone =>
      rw [hnone _ _ _ hh ht hr] at hk
      cases hk
  | unauthorized hn hnone =>
    cases h' with
    | admitted hy | forbidden hy => exact absurd hy (hn _)
    | revoked _ hh ht hr hk =>
      rw [hnone _ _ _ hh ht hr] at hk
      cases hk
    | unauthorized => rfl

theorem onlyProcedure_ok {kind : Principal → Option α} {message : String} {p : α} {i : SessionId}
    (h : onlyProcedure kind message (createContext s s' t t' header) = .ok (p, i)) :
    ∃ token x, header = .single (BEARER ++ token) ∧ s.sessions token = some x ∧ x.id = i ∧
      kind x.principal = some p := by
  have hj : Judged s t header kind message
      (onlyProcedure kind message (createContext s s' t t' header)) :=
    onlyProcedure_judged kind message
  rw [h] at hj
  cases hj with
  | admitted hx hk =>
    obtain ⟨token, hheader, -, hlive⟩ := hx
    exact ⟨token, _, hheader, hlive.row, rfl, hk⟩

/-- A procedure for one kind of principal acts for the live session of that kind that the request's
header names, and refuses every other request: one that names a live session of another kind as
forbidden, and all else as not signed in; reporting also accepts an operator's session that was
revoked in the last day. The session of an organiser or a holder that a procedure acts for was
earned. A token that is issued is one that the header can name. -/
theorem acts_as_signed_in (hw : w.Lawful) (h : s₀.Initial) (hs : Steps w s₀ s) (s' : State)
    (t t' : Time) (header : Header) :
    (∀ (α : Type) (kind : Principal → Option α) message r,
      onlyProcedure kind message (createContext s s' t t' header) = r ↔
        Judged s t header kind message r) ∧
    (∀ r, reportingOperatorProcedure (createContext s s' t t' header) = r ↔
      Reports s s' t t' header r) ∧
    (∀ o i, organiserProcedure (createContext s s' t t' header) = .ok (o, i) →
      ∃ token x, header = .single (BEARER ++ token) ∧ s.sessions token = some x ∧ x.id = i ∧
        x.principal = .organiser o ∧ Earned w s x.principal x.by_) ∧
    (∀ account i, holderProcedure (createContext s s' t t' header) = .ok (account, i) →
      ∃ token x, header = .single (BEARER ++ token) ∧ s.sessions token = some x ∧ x.id = i ∧
        x.principal = .holder account ∧ Earned w s x.principal x.by_) ∧
    ∀ random, random.length = 32 →
      bearerToken (.single (BEARER ++ base64url random)) = some (base64url random) := by
  have hearned := (sessions_earned hw h hs).1
  refine ⟨fun α kind message r => ?_, fun r => ?_, fun o i ho => ?_, fun account i ha => ?_,
    fun _ => bearerToken_base64url⟩
  · constructor
    · rintro rfl
      exact onlyProcedure_judged kind message
    · exact fun hr => (onlyProcedure_judged kind message).unique hr
  · constructor
    · rintro rfl
      exact reportingOperatorProcedure_reports
    · exact fun hr => reportingOperatorProcedure_reports.unique hr
  · obtain ⟨token, x, hheader, hx, hid, hk⟩ := onlyProcedure_ok ho
    have hp : x.principal = .organiser o := organiser?_eq_some.mp hk
    exact ⟨token, x, hheader, hx, hid, hp, hearned token x hx (.inl ⟨o, hp⟩)⟩
  · obtain ⟨token, x, hheader, hx, hid, hk⟩ := onlyProcedure_ok ha
    have hp : x.principal = .holder account := holder?_eq_some.mp hk
    exact ⟨token, x, hheader, hx, hid, hp, hearned token x hx (.inr ⟨account, hp⟩)⟩

/-- The organiser who signed in is whom their next request acts for, by the session they earned. -/
theorem acts_as_signed_in_organiser : ∃ s, Steps demoSite State.start s ∧
    organiserProcedure (createContext s s 0 0
      (.single (BEARER ++ base64url (List.replicate 32 1)))) = .ok (5, 1) ∧
    ∃ token x, s.sessions token = some x ∧ x.id = 1 ∧ x.principal = .organiser 5 ∧
      Earned demoSite s x.principal x.by_ := by
  obtain ⟨s, x, hs, hx, rfl⟩ := demo_signsIn
  have hlive : s.Live 0 _ _ := ⟨hx, rfl, by decide, fun r h => by cases h⟩
  have hacts := acts_as_signed_in demoSite_lawful State.start_initial hs s 0 0
    (.single (BEARER ++ base64url (List.replicate 32 1)))
  have hprocedure := (hacts.1 _ Principal.organiser? "only an organiser may do this" _).mpr
    (.admitted ⟨_, rfl, isToken_base64url rfl, hlive⟩ rfl)
  obtain ⟨token, x, -, hrow, hid, hp, hearned⟩ := hacts.2.2.1 _ _ hprocedure
  exact ⟨s, hs, hprocedure, token, x, hrow, hid, hp, hearned⟩

end Kippu.SignIn
