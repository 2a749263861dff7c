import Kippu.Conc.Sees
import Kippu.Sales.Inventory
import Kippu.Sales.Payment
import Kippu.Utf16

/-!
# One seat in every encoding

A seat's designation arrives as a JavaScript string and is normalised; the ledger's position is
its UTF-8 in hexadecimal, from which a checkout reads the designation back to store it. What
allocates or lists the seat then derives its position anew from the designation stored.
-/

namespace Kippu.Designation

open Conc Conc.Prog

-- ---------------------------------------------------------------------------
-- Encodings
-- ---------------------------------------------------------------------------

/-- The text of a string; a surrogate that stands alone is replaced. -/
def textOf (string : List ℕ) : String := String.ofList (Utf16.text string)

def stringOf (text : String) : List ℕ := Utf16.encode text.toList

/-- `Buffer.from(string, "utf8").toString("hex")`. -/
def hexOf (string : List ℕ) : String :=
  String.ofList ((textOf string).toUTF8.data.toList.flatMap hexByte)

/-- `Buffer.from(position, "hex").toString("utf8")`, of text in UTF-8. -/
def decodePosition (position : String) : Option String := do
  let bytes ← hexBytes position.toList
  String.fromUTF8? ⟨bytes.toArray⟩

@[simp] theorem textOf_stringOf (text : String) : textOf (stringOf text) = text := by
  rw [textOf, stringOf, Utf16.text_encode, String.ofList_toList]

theorem isWellFormed_stringOf (text : String) : Utf16.isWellFormed (stringOf text) :=
  Utf16.isWellFormed_encode text.toList

theorem stringOf_injective : Function.Injective stringOf := fun s t h => by
  rw [← textOf_stringOf s, ← textOf_stringOf t, h]

theorem fromUTF8?_bytes (text : String) :
    String.fromUTF8? ⟨text.toUTF8.data.toList.toArray⟩ = some text :=
  dif_pos text.isValidUTF8

theorem decodePosition_hexOf (text : String) :
    decodePosition (hexOf (stringOf text)) = some text := by
  unfold decodePosition hexOf
  rw [textOf_stringOf, String.toList_ofList, hexBytes_flatMap, Option.bind_eq_bind,
    Option.bind_some, fromUTF8?_bytes]

theorem hexOf_stringOf_inj {s t : String} (h : hexOf (stringOf s) = hexOf (stringOf t)) : s = t :=
  Option.some.inj (by rw [← decodePosition_hexOf s, ← decodePosition_hexOf t, h])

section
variable [Profile]

def normaliseDesignation (designation : List ℕ) : Except Err (List ℕ) :=
  if Utf16.isWellFormed designation then .ok (stringOf (Profile.nfc (textOf designation)))
  else .error (.error "a seat designation must be well-formed Unicode")

def positionOf (designation : List ℕ) : Except Err String := do
  let normalised ← normaliseDesignation designation
  return hexOf normalised

def canonicalPosition (event : EventId) (zone : ZoneId) (designation : List ℕ) : Prog String :=
  if Utf16.isWellFormed designation then Kippu.canonicalPosition event zone (textOf designation)
  else raise (.refused "not one of the zone's canonical seat positions" .badRequest none)

/-- The position that `beginCheckout` records for a seat. -/
def checkoutPosition (event : EventId) (zone : ZoneId) (designation : List ℕ) :
    Prog (Option String) := do
  let canonical ← canonicalPosition event zone designation
  pure (decodePosition canonical)

-- ---------------------------------------------------------------------------
-- Positions
-- ---------------------------------------------------------------------------

theorem normaliseDesignation_ok {designation : List ℕ} (h : Utf16.isWellFormed designation) :
    normaliseDesignation designation = .ok (stringOf (Profile.nfc (textOf designation))) := if_pos h

theorem positionOf_ok {designation : List ℕ} (h : Utf16.isWellFormed designation) :
    positionOf designation = .ok (hexOf (stringOf (Profile.nfc (textOf designation)))) := by
  rw [positionOf, normaliseDesignation_ok h]
  rfl

/-- The position of a text, as the programs that allocate its seat derive it. -/
theorem hexOf_nfc (text : String) :
    hexOf (stringOf (Profile.nfc text)) = Kippu.positionOf text := by
  rw [hexOf, textOf_stringOf]
  rfl

theorem positionOf_eq_iff {a b : List ℕ} (ha : Utf16.isWellFormed a) (hb : Utf16.isWellFormed b) :
    positionOf a = positionOf b ↔ normaliseDesignation a = normaliseDesignation b := by
  rw [positionOf_ok ha, positionOf_ok hb, normaliseDesignation_ok ha, normaliseDesignation_ok hb,
    Except.ok.injEq, Except.ok.injEq]
  constructor
  · intro h
    rw [hexOf_stringOf_inj h]
  · intro h
    rw [h]

omit [Profile] in
theorem sees_query_read {f : Db → α} {seen : List Db} {a : α}
    (h : (query (read f)).Sees seen (.ok a)) : ∃ db ∈ seen, f db = a := by
  obtain ⟨seen', hread, hsub⟩ := Sees.transaction h
  obtain ⟨db, hdb, heq⟩ := Sees.read hread
  exact ⟨db, hsub hdb, heq⟩

section
variable {event : EventId} {zone : ZoneId} {p d text : String} {designation : List ℕ}
variable {seen : List Db}

theorem canonicalPosition_sees (h : (Kippu.canonicalPosition event zone text).Sees seen (.ok p)) :
    p = Kippu.positionOf (Profile.nfc text) ∧
      ∃ db ∈ seen, (event, zone, Profile.nfc text) ∈ db.seatPositions := by
  obtain ⟨seen₁, seen₂, found, hquery, hend, rfl⟩ := Sees.bind h
  obtain ⟨db, hdb, hfound⟩ := sees_query_read hquery
  cases found with
  | false => exact absurd hend Sees.raise
  | true =>
    cases Sees.pure hend
    exact ⟨rfl, db, List.mem_append_left _ hdb, List.contains_iff_mem.mp hfound⟩

theorem canonicalPosition_answers {db : Db} (hwell : Utf16.isWellFormed designation)
    (h : (event, zone, Profile.nfc (textOf designation)) ∈ db.seatPositions) :
    (canonicalPosition event zone designation).Sees [db]
      (.ok (Kippu.positionOf (Profile.nfc (textOf designation)))) := by
  rw [canonicalPosition, if_pos hwell, ← List.append_nil [db]]
  refine Sees.of_bind (Sees.of_transaction_read _ db) ?_
  rw [List.contains_iff_mem.mpr h]
  exact .done

theorem canonicalPosition_of_sees
    (h : (canonicalPosition event zone designation).Sees seen (.ok p)) :
    Utf16.isWellFormed designation ∧
      (Kippu.canonicalPosition event zone (textOf designation)).Sees seen (.ok p) := by
  unfold canonicalPosition at h
  split at h
  · exact ⟨‹_›, h⟩
  · exact absurd h Sees.raise

end

-- ---------------------------------------------------------------------------
-- The seat of a position
-- ---------------------------------------------------------------------------

/-- A submission is of a command that issues the ticket of the seat at `p`. -/
def Relays (requestId : RequestId) (event : EventId) (zone : ZoneId) (p : String)
    (submitted : Submitted) : Prop :=
  ∃ organiser seen input, input.event = event ∧ input.zone = zone ∧ input.placement = .seated p ∧
    (relay organiser requestId (.issueTicket input)).Sees seen (.ok submitted)

/-- The seat of the position `p` is the one of the designation `d`, and of the ticket that the
profile derives from `p`, to all that stores, locks, checks, lists or issues it. -/
structure OneSeat (event : EventId) (zone : ZoneId) (p d : String) : Prop where
  /-- What a checkout records of any designation with the normal form `d`. -/
  stored : ∀ designation, normaliseDesignation designation = .ok (stringOf d) →
    ∀ seen position, (checkoutPosition event zone designation).Sees seen (.ok position) →
      position = some d
  /-- The seat and the placement of a granted issuance, and what it reserves. -/
  granted : ∀ found input designation, input.event = event → input.zone = zone →
    input.placement = .seated designation → Profile.nfc designation = d →
    ∀ seen seat placement, (placementOf found input).Sees seen (.ok (some seat, placement)) →
      seat = ⟨p, d⟩ ∧ placement = .seated p ∧ (input.target (some seat)).position = some d
  /-- The locks of a hold, of a granted issuance and of a payment. -/
  locked : ∀ target : AllocationTarget, target.event = event → target.zone = zone →
    target.position = some d →
    lockAllocation target = lockSeat event zone p >>= fun _ => lockEventAllocations event
  /-- A hold finds the seat free. -/
  held : ∀ target : HoldTarget, target.event = event → target.zone = zone →
    target.position = some d →
    ∀ counts seen, (seatRefusal target counts).Sees seen (.ok none) →
      ∃ db ∈ seen, db.granted.any (Granted.inFlight (ticketOf event zone p)) = false
  /-- A granted issuance finds it free, and is of its ticket. -/
  reserved : ∀ input : IssueGrantedInput, input.event = event → input.zone = zone →
    ∀ counts seen ticket, (seatTicket input (some ⟨p, d⟩) counts).Sees seen (.ok ticket) →
      ticket = some (ticketOf event zone p) ∧
        ∃ db ∈ seen, db.granted.any (Granted.inFlight (ticketOf event zone p)) = false
  /-- The inventory lists it as free. -/
  listed : ∀ available at_ taken zones seen zonesListed free,
    (zonesOnSale event available at_ taken zones).Sees seen (.ok zonesListed) →
    .seated zone free ∈ zonesListed → d ∈ free →
    taken.seatTaken event (ticketOf event zone p) = false
  /-- A payment finds the seat of its ended hold free. -/
  regained : ∀ hold : Hold, hold.event = event → hold.zone = zone → hold.position = some d →
    ∀ counts seen, (stillFree hold counts).Sees seen (.ok true) →
      ∃ db ∈ seen, db.granted.any (Granted.inFlight (ticketOf event zone p)) = false
  /-- The ticket that a payment issues, and the command it relays for it. -/
  issued : ∀ taken : Taken, taken.hold.hold.event = event → taken.hold.hold.zone = zone →
    taken.hold.hold.position = some d →
    ∀ requestId seen ticket submitted,
      (sell requestId taken).Sees seen (.ok (ticket, submitted)) →
      ticket = ticketOf event zone p ∧ Relays requestId event zone p submitted

section
variable {event : EventId} {zone : ZoneId} {p d : String} {seen : List Db}

theorem assertFree_sees {ticket : TicketId}
    (h : (assertFree event zone p).Sees seen (.ok ticket)) :
    ticket = ticketOf event zone p ∧
      ∃ db ∈ seen, db.granted.any (Granted.inFlight (ticketOf event zone p)) = false := by
  obtain ⟨seen₁, seen₂, inFlight, hread, hrest, rfl⟩ := Sees.bind h
  obtain ⟨db, hdb, hinFlight⟩ := Sees.read hread
  cases inFlight with
  | true => exact absurd hrest Sees.raise
  | false =>
    obtain ⟨seen₃, seen₄, answer, -, hend, rfl⟩ := Sees.bind hrest
    refine ⟨?_, db, List.mem_append_left _ hdb, hinFlight⟩
    split at hend
    · exact absurd hend Sees.raise
    · exact Except.ok.inj (Sees.pure hend)
    · exact absurd hend Sees.raise

theorem seatTicket_sees {input : IssueGrantedInput} {counts : AllocationCounts}
    {ticket : Option TicketId} (hevent : input.event = event) (hzone : input.zone = zone)
    (h : (seatTicket input (some ⟨p, d⟩) counts).Sees seen (.ok ticket)) :
    ticket = some (ticketOf event zone p) ∧
      ∃ db ∈ seen, db.granted.any (Granted.inFlight (ticketOf event zone p)) = false := by
  obtain ⟨seen₁, seen₂, found, hfree, hend, rfl⟩ := Sees.bind h
  rw [hevent, hzone] at hfree
  obtain ⟨rfl, db, hdb, hnone⟩ := assertFree_sees hfree
  split at hend
  · exact absurd hend Sees.raise
  · cases Sees.pure hend
    exact ⟨rfl, db, List.mem_append_left _ hdb, hnone⟩

variable (hp : Kippu.positionOf d = p)
include hp

theorem checkoutPosition_sees {designation : List ℕ} {position : Option String}
    (hread : decodePosition p = some d)
    (hdesignation : normaliseDesignation designation = .ok (stringOf d))
    (h : (checkoutPosition event zone designation).Sees seen (.ok position)) :
    position = some d := by
  obtain ⟨_, _, canonical, hcanonical, hend, -⟩ := Sees.bind h
  cases Sees.pure hend
  obtain ⟨hwell, hsees⟩ := canonicalPosition_of_sees hcanonical
  rw [normaliseDesignation_ok hwell] at hdesignation
  have hnormal := stringOf_injective (Except.ok.inj hdesignation)
  rw [(canonicalPosition_sees hsees).1, hnormal, hp, hread]

theorem placementOf_sees {found : Event} {input : IssueGrantedInput} {designation : String}
    {seat : Seat} {placement : Placement} (hevent : input.event = event)
    (hzone : input.zone = zone) (hplacement : input.placement = .seated designation)
    (hnormal : Profile.nfc designation = d)
    (h : (placementOf found input).Sees seen (.ok (some seat, placement))) :
    seat = ⟨p, d⟩ ∧ placement = .seated p ∧ (input.target (some seat)).position = some d := by
  rw [placementOf, hplacement] at h
  dsimp only at h
  split at h
  · obtain ⟨_, _, position, hcanonical, hend, -⟩ := Sees.bind h
    rw [hevent, hzone] at hcanonical
    have hposition := (canonicalPosition_sees hcanonical).1
    rw [hnormal, hp] at hposition
    cases Sees.pure hend
    rw [hposition, hnormal]
    exact ⟨rfl, rfl, rfl⟩
  · cases Sees.pure h

theorem lockAllocation_eq {target : AllocationTarget} (hevent : target.event = event)
    (hzone : target.zone = zone) (hposition : target.position = some d) :
    lockAllocation target = lockSeat event zone p >>= fun _ => lockEventAllocations event := by
  rw [lockAllocation, hposition, hevent, hzone, ← hp]

theorem seatRefusal_sees {target : HoldTarget} {counts : AllocationCounts}
    (hevent : target.event = event) (hzone : target.zone = zone)
    (hposition : target.position = some d) (h : (seatRefusal target counts).Sees seen (.ok none)) :
    ∃ db ∈ seen, db.granted.any (Granted.inFlight (ticketOf event zone p)) = false := by
  rw [seatRefusal, hposition, hevent, hzone] at h
  obtain ⟨seen₁, seen₂, r, hattempt, hrest, rfl⟩ := Sees.bind h
  have hfree := Sees.attempt hattempt
  rw [hp] at hfree
  cases r with
  | ok ticket =>
    obtain ⟨db, hdb, hnone⟩ := (assertFree_sees hfree).2
    exact ⟨db, List.mem_append_left _ hdb, hnone⟩
  | error e =>
    cases he : e.ticketIdExists with
    | true =>
      simp only [he, if_true] at hrest
      cases Sees.pure hrest
    | false =>
      simp only [he, Bool.false_eq_true, if_false] at hrest
      exact absurd hrest Sees.raise

theorem stillFree_sees {hold : Hold} {counts : AllocationCounts} (hevent : hold.event = event)
    (hzone : hold.zone = zone) (hposition : hold.position = some d)
    (h : (stillFree hold counts).Sees seen (.ok true)) :
    ∃ db ∈ seen, db.granted.any (Granted.inFlight (ticketOf event zone p)) = false := by
  obtain ⟨seen₁, seen₂, answer, -, hrest, rfl⟩ := Sees.bind h
  cases answer with
  | error code => cases Sees.pure hrest
  | ok found =>
    dsimp only at hrest
    split at hrest
    · rw [hposition, hevent, hzone] at hrest
      obtain ⟨seen₃, seen₄, r, hattempt, hend, rfl⟩ := Sees.bind hrest
      have hfree := Sees.attempt hattempt
      rw [hp] at hfree
      cases r with
      | ok ticket =>
        obtain ⟨db, hdb, hnone⟩ := (assertFree_sees hfree).2
        exact ⟨db, List.mem_append_right _ (List.mem_append_left _ hdb), hnone⟩
      | error e =>
        dsimp only at hend
        split at hend
        · cases Sees.pure hend
        · exact absurd hend Sees.raise
    · cases Sees.pure hrest

theorem zonesOnSale_sees {available : Option ℕ} {at_ : Time} {taken : Db} {zones : List Zone}
    {listed : List ZoneOnSale} {free : List String}
    (h : (zonesOnSale event available at_ taken zones).Sees seen (.ok listed))
    (hlisted : .seated zone free ∈ listed) (hfree : d ∈ free) :
    taken.seatTaken event (ticketOf event zone p) = false := by
  have hall := Sees.foldEach (P := fun listed : List ZoneOnSale => ∀ zone free,
    ZoneOnSale.seated zone free ∈ listed → ∀ designation ∈ free,
      taken.seatTaken event (ticketOf event zone (Kippu.positionOf designation)) = false) ?_ ?_ h
  · have hnot := hall zone free hlisted d hfree
    rwa [hp] at hnot
  · intro done x seen' done' _ hdone hx zone free hmem designation hdesignation
    split at hx
    · cases Sees.pure hx
      rcases List.mem_append.mp hmem with hmem | hmem
      · exact hdone zone free hmem designation hdesignation
      · cases List.mem_singleton.mp hmem
    · obtain ⟨seen₁, _, designations, -, hrest, -⟩ := Sees.bind hx
      obtain ⟨_, _, held, -, hend, -⟩ := Sees.bind hrest
      cases Sees.pure hend
      rcases List.mem_append.mp hmem with hmem | hmem
      · exact hdone zone free hmem designation hdesignation
      · cases List.mem_singleton.mp hmem
        split at hdesignation
        · cases hdesignation
        · have hpasses := (List.mem_filter.mp hdesignation).2
          rw [Bool.and_eq_true, Bool.not_eq_true', Bool.not_eq_true'] at hpasses
          exact hpasses.2
  · exact fun zone free hmem => absurd hmem List.not_mem_nil

theorem sell_sees {taken : Taken} {requestId : RequestId} {ticket : TicketId}
    {submitted : Submitted} (hevent : taken.hold.hold.event = event)
    (hzone : taken.hold.hold.zone = zone) (hposition : taken.hold.hold.position = some d)
    (h : (sell requestId taken).Sees seen (.ok (ticket, submitted))) :
    ticket = ticketOf event zone p ∧ Relays requestId event zone p submitted := by
  obtain ⟨_, _, organiser, -, hrest, -⟩ := Sees.bind h
  obtain ⟨_, _, ticketClass, -, hissue, -⟩ := Sees.bind hrest
  cases organiser with
  | none => exact absurd hissue Sees.raise
  | some organiser =>
    cases ticketClass with
    | none => exact absurd hissue Sees.raise
    | some ticketClass =>
      dsimp only at hissue
      rw [hposition] at hissue
      obtain ⟨_, _, placement, hplacement, hrelay, -⟩ := Sees.bind hissue
      cases Sees.pure hplacement
      obtain ⟨_, _, submitted', hsubmitted, hend, -⟩ := Sees.bind hrelay
      cases Sees.pure hend
      rw [hp] at hsubmitted ⊢
      refine ⟨?_, organiser, _, _, hevent, hzone, rfl, hsubmitted⟩
      rw [hevent, hzone]
      rfl

theorem oneSeat (hread : decodePosition p = some d) : OneSeat event zone p d where
  stored _ hdesignation _ _ := checkoutPosition_sees hp hread hdesignation
  granted _ _ _ hevent hzone hplacement hnormal _ _ _ :=
    placementOf_sees hp hevent hzone hplacement hnormal
  locked _ := lockAllocation_eq hp
  held _ hevent hzone hposition _ _ := seatRefusal_sees hp hevent hzone hposition
  reserved _ hevent hzone _ _ _ := seatTicket_sees hevent hzone
  listed _ _ _ _ _ _ _ := zonesOnSale_sees hp
  regained _ hevent hzone hposition _ _ := stillFree_sees hp hevent hzone hposition
  issued _ hevent hzone hposition _ _ _ _ := sell_sees hp hevent hzone hposition

end

-- ---------------------------------------------------------------------------
-- Identity
-- ---------------------------------------------------------------------------

/-- A position is one designation's in every encoding: two well-formed strings have one position
just where they have one normal form, and a canonical position is read back as the designation
stored in the zone's list, from which everything derives this position again. -/
theorem seat_identity (hnfc : ∀ text, Profile.nfc (Profile.nfc text) = Profile.nfc text) :
    (∀ a b, Utf16.isWellFormed a → Utf16.isWellFormed b →
      (positionOf a = positionOf b ↔ normaliseDesignation a = normaliseDesignation b)) ∧
    ∀ event zone designation seen p,
      (canonicalPosition event zone designation).Sees seen (.ok p) →
      ∃ d, decodePosition p = some d ∧
        normaliseDesignation designation = .ok (stringOf d) ∧
        normaliseDesignation (stringOf d) = .ok (stringOf d) ∧
        positionOf (stringOf d) = .ok p ∧
        (∃ db ∈ seen, (event, zone, d) ∈ db.seatPositions) ∧ OneSeat event zone p d := by
  refine ⟨fun a b => positionOf_eq_iff, fun event zone designation seen p h => ?_⟩
  obtain ⟨hwell, hsees⟩ := canonicalPosition_of_sees h
  obtain ⟨hp, hstored⟩ := canonicalPosition_sees hsees
  have hnormal := normaliseDesignation_ok hwell
  have hposition : p = hexOf (stringOf (Profile.nfc (textOf designation))) := by
    rw [hp, ← hexOf_nfc, hnfc]
  have hread : decodePosition p = some (Profile.nfc (textOf designation)) := by
    rw [hposition, decodePosition_hexOf]
  refine ⟨_, hread, hnormal, ?_, ?_, hstored, oneSeat hp.symm hread⟩
  · rw [normaliseDesignation_ok (isWellFormed_stringOf _), textOf_stringOf, hnfc]
  · rw [positionOf_ok (isWellFormed_stringOf _), textOf_stringOf, hnfc, hposition]

end

/-! An accent that follows its letter is composed with it. -/

@[reducible] def composing : Profile where
  ticketId event zone _ := event + zone
  nfc text := if text = "C\u0301-1" then "\u0106-1" else text

/-- The canonical seat that a designation with the accent apart names. -/
theorem seat_identity_composed :
    let _ := composing
    (positionOf (stringOf "C\u0301-1") = positionOf (stringOf "\u0106-1") ↔
      normaliseDesignation (stringOf "C\u0301-1") = normaliseDesignation (stringOf "\u0106-1")) ∧
    ∃ d, decodePosition "c4862d31" = some d ∧ positionOf (stringOf d) = .ok "c4862d31" ∧
      OneSeat 1 2 "c4862d31" d := by
  let profile := composing
  have hnfc : ∀ text, profile.nfc (profile.nfc text) = profile.nfc text := by
    intro text
    by_cases h : text = "C\u0301-1"
    · rw [h]
      rfl
    · have hsame : profile.nfc text = text := if_neg h
      rw [hsame, hsame]
  obtain ⟨hiff, hcanonical⟩ := seat_identity hnfc
  refine ⟨hiff _ _ (isWellFormed_stringOf _) (isWellFormed_stringOf _), ?_⟩
  let db : Db := { Db.empty with seatPositions := [(1, 2, "\u0106-1")] }
  have hlisted : (1, 2, Profile.nfc (textOf (stringOf "C\u0301-1"))) ∈ db.seatPositions := by
    rw [textOf_stringOf]
    exact List.mem_singleton_self _
  have hsees := canonicalPosition_answers (isWellFormed_stringOf _) hlisted
  have hposition : Kippu.positionOf (Profile.nfc (textOf (stringOf "C\u0301-1"))) = "c4862d31" := by
    rw [textOf_stringOf]
    decide
  rw [hposition] at hsees
  obtain ⟨d, hread, -, -, hposition, -, hone⟩ := hcanonical 1 2 _ _ _ hsees
  exact ⟨d, hread, hposition, hone⟩

end Kippu.Designation
