import Kippu.Zoning.Runs

/-!
# A zone added again starts empty

Every position that a zone on the ledger has was recorded since the zone was added, as
long as no zone is added while its id has positions: whichever `DELETE` the removal of an
earlier zone was to run has run by then, and no upload for that zone inserted any after it.
-/

namespace Kippu.Zoning

variable {nfc : String → String} {late : Prop} {s s' : State} {zone z : ZoneId}

structure Inv (s : State) : Prop where
  since : ∀ {zone kind}, s.zones zone = some kind →
    ∀ position ∈ s.positions zone, position.added = s.added zone
  le : ∀ {zone}, ∀ position ∈ s.positions zone, position.added ≤ s.added zone
  deleted : ∀ {zone}, s.deleted zone = true ↔ s.positions zone = []

-- ---------------------------------------------------------------------------
-- An upload
-- ---------------------------------------------------------------------------

theorem mem_insertPositions {added : ℕ} {rows : List SeatPosition} {designations : List String}
    (h : position ∈ insertPositions added rows designations) :
    position ∈ rows ∨ position.added = added := by
  induction designations generalizing rows with
  | nil => exact .inl h
  | cons designation designations ih =>
    simp only [insertPositions, List.foldl_cons] at h
    split at h
    · exact ih h
    · cases ih h with
      | inl hmem =>
        cases List.mem_append.mp hmem with
        | inl hold => exact .inl hold
        | inr hnew =>
          rw [List.mem_singleton.mp hnew]
          exact .inr rfl
      | inr hnow => exact .inr hnow

theorem insertPositions_eq_nil {added : ℕ} {rows : List SeatPosition}
    {designations : List String} :
    insertPositions added rows designations = [] ↔ rows = [] ∧ designations = [] := by
  induction designations generalizing rows with
  | nil => simp [insertPositions]
  | cons designation designations ih =>
    simp only [insertPositions, List.foldl_cons, reduceCtorEq, and_false, iff_false]
    split
    · rename_i hany
      refine fun hnil => ?_
      rw [(ih.mp hnil).1] at hany
      cases hany
    · exact fun hnil => by simpa using (ih.mp hnil).1

-- ---------------------------------------------------------------------------
-- Steps
-- ---------------------------------------------------------------------------

theorem Inv.addZone (hi : Inv s) (hdeleted : s.deleted zone = true) (kind : ZoneKind) :
    Inv (s.addZone zone kind) where
  since := by
    intro z k hz position hmem
    by_cases heq : z = zone
    · subst heq
      have hnil : s.positions z = [] := hi.deleted.mp hdeleted
      simp [State.addZone, hnil] at hmem
    · have hold : s.zones z = some k := by simpa [State.addZone, heq] using hz
      simpa [State.addZone, heq] using hi.since hold position hmem
  le := by
    intro z position hmem
    have hle := hi.le position hmem
    by_cases heq : z = zone
    · subst heq
      simpa [State.addZone] using Nat.le_succ_of_le hle
    · simpa [State.addZone, heq] using hle
  deleted := hi.deleted

theorem Inv.removeZone (hi : Inv s) : Inv (s.removeZone zone) where
  since := by
    intro z k hz position hmem
    by_cases heq : z = zone
    · subst heq
      simp [State.removeZone] at hz
    · have hold : s.zones z = some k := by simpa [State.removeZone, heq] using hz
      exact hi.since hold position hmem
  le := hi.le
  deleted := hi.deleted

theorem Inv.deletePositions (hi : Inv s) : Inv (s.deletePositions zone) where
  since := by
    intro z k hz position hmem
    by_cases heq : z = zone
    · subst heq
      simp [State.deletePositions] at hmem
    · exact hi.since hz position (by simpa [State.deletePositions, heq] using hmem)
  le := by
    intro z position hmem
    by_cases heq : z = zone
    · subst heq
      simp [State.deletePositions] at hmem
    · exact hi.le position (by simpa [State.deletePositions, heq] using hmem)
  deleted := by
    intro z
    by_cases heq : z = zone
    · subst heq
      simp [State.deletePositions]
    · simpa [State.deletePositions, heq] using hi.deleted

theorem Inv.insertPositions (hi : Inv s) (designations : List String) :
    Inv (s.insertPositions zone designations) where
  since := by
    intro z k hz position hmem
    by_cases heq : z = zone
    · subst heq
      simp only [State.insertPositions, Function.update_self] at hmem
      cases mem_insertPositions hmem with
      | inl hold => exact hi.since hz position hold
      | inr hnow => exact hnow
    · exact hi.since hz position (by simpa [State.insertPositions, heq] using hmem)
  le := by
    intro z position hmem
    by_cases heq : z = zone
    · subst heq
      simp only [State.insertPositions, Function.update_self] at hmem
      cases mem_insertPositions hmem with
      | inl hold => exact hi.le position hold
      | inr hnow => exact hnow.le
    · exact hi.le position (by simpa [State.insertPositions, heq] using hmem)
  deleted := by
    intro z
    by_cases heq : z = zone
    · subst heq
      simp [State.insertPositions, insertPositions_eq_nil, ← hi.deleted]
    · simpa [State.insertPositions, heq] using hi.deleted

theorem Inv.goto (hi : Inv s) : Inv (s.goto c t) := ⟨hi.since, hi.le, hi.deleted⟩

theorem Inv.step (hi : Inv s) (h : Step nfc False s s') : Inv s' := by
  cases h with
  | adds zone kind hzone hdeleted => exact hi.addZone (hdeleted.resolve_right id) kind
  | removes => exact hi.removeZone.goto
  | deletes => exact hi.deletePositions.goto
  | finds => exact hi.goto
  | inserts => exact (hi.insertPositions _).goto
  | stops => exact hi.goto

theorem State.Initial.inv (h : s.Initial) : Inv s where
  since := fun hz => by
    rw [h.zones] at hz
    cases hz
  le := fun position hmem => by
    rw [h.positions] at hmem
    cases hmem
  deleted := fun {z} => by simp [h.deleted z, h.positions z]

theorem Inv.steps (hi : Inv s) (h : Steps nfc False s s') : Inv s' := by
  induction h with
  | refl => exact hi
  | step _ hstep ih => exact ih.step hstep

theorem Inv.startedEmpty (hi : Inv s) : s.StartedEmpty nfc := fun _ _ _ position hzone hfound =>
  hi.since hzone position (List.mem_of_find?_eq_some hfound)

/-- In every run in which a zone is added only once the positions of its id were deleted: every zone
started empty. A zone that is added before does not. -/
theorem zones_start_empty (nfc : String → String) (h₀ : s₀.Initial) (h : Steps nfc False s₀ s) :
    s.StartedEmpty nfc ∧
      ∀ zone kind, s.zones zone = none → s.deleted zone = false →
        ¬ ∀ position ∈ (s.addZone zone kind).positions zone,
          position.added = (s.addZone zone kind).added zone := by
  have hi := h₀.inv.steps h
  refine ⟨hi.startedEmpty, fun zone kind _ hdeleted hall => ?_⟩
  have hne : s.positions zone ≠ [] := fun hnil => by
    rw [hi.deleted.mpr hnil] at hdeleted
    cases hdeleted
  obtain ⟨position, hmem⟩ := List.exists_mem_of_ne_nil _ hne
  have hle := hi.le position hmem
  have heq := hall position hmem
  simp only [State.addZone, Function.update_self] at heq
  omega

-- ---------------------------------------------------------------------------
-- A zone that did not
-- ---------------------------------------------------------------------------

def beginning : State := ⟨fun _ => none, fun _ => [], fun _ => .idle, fun _ => 0, fun _ => true⟩

theorem beginning_initial : beginning.Initial :=
  ⟨fun _ => rfl, fun _ => rfl, fun _ => rfl, fun _ => rfl⟩

/-- A zone is added, given a seat, removed with it, and added and given a seat again. -/
theorem zones_start_empty_again : ∃ s, Steps id False beginning s ∧ s.added 2 = 2 ∧
    s.zones 2 = some .seated ∧ s.canonicalPosition id 2 "A1" = none ∧
    s.canonicalPosition id 2 "B1" = some ⟨"B1", 2⟩ ∧ s.StartedEmpty id := by
  have hadded : Steps id False beginning _ := Steps.refl.step (.adds 2 .seated rfl (.inl rfl))
  have hfound := hadded.step (.finds 0 2 ["A1"] rfl rfl rfl)
  have hinserted := hfound.step (.inserts 0 rfl)
  have hremoved := hinserted.step (.removes 1 2 rfl rfl)
  have hdeleted := hremoved.step (.deletes 1 rfl)
  have hagain := hdeleted.step (.adds 2 .seated rfl (.inl rfl))
  have hfound' := hagain.step (.finds 2 2 ["B1"] rfl rfl rfl)
  have hinserted' := hfound'.step (.inserts 2 rfl)
  exact ⟨_, hinserted', rfl, rfl, rfl, rfl, (zones_start_empty id beginning_initial hinserted').1⟩

/-- An upload finds the zone before it is removed, and inserts after its positions were deleted; or
the removal stops before it deletes them. The zone is added again: it has a seat of the old one. -/
theorem zone_starts_with_old_seat : ∃ s s', Steps id True beginning s ∧
    Steps id True beginning s' ∧
    s.zones 2 = some .seated ∧ s.added 2 = 2 ∧
    s.canonicalPosition id 2 "A1" = some ⟨"A1", 1⟩ ∧ ¬ s.StartedEmpty id ∧
    s'.zones 2 = some .seated ∧ s'.added 2 = 2 ∧
    s'.canonicalPosition id 2 "A1" = some ⟨"A1", 1⟩ ∧ ¬ s'.StartedEmpty id := by
  have hadded : Steps id True beginning _ := Steps.refl.step (.adds 2 .seated rfl (.inl rfl))
  have hfound := hadded.step (.finds 0 2 ["A1"] rfl rfl rfl)
  have hremoved := hfound.step (.removes 1 2 rfl rfl)
  have hdeleted := hremoved.step (.deletes 1 rfl)
  have hlate := hdeleted.step (.inserts 0 rfl)
  have hagain := hlate.step (.adds 2 .seated rfl (.inr trivial))
  have hinserted := hfound.step (.inserts 0 rfl)
  have hremoved' := hinserted.step (.removes 1 2 rfl rfl)
  have hstopped := hremoved'.step (.stops 1)
  have hagain' := hstopped.step (.adds 2 .seated rfl (.inr trivial))
  exact ⟨_, _, hagain, hagain', rfl, rfl, rfl,
    fun h => absurd (h 2 .seated "A1" ⟨"A1", 1⟩ rfl rfl) (by decide), rfl, rfl, rfl,
    fun h => absurd (h 2 .seated "A1" ⟨"A1", 1⟩ rfl rfl) (by decide)⟩

end Kippu.Zoning
