import Kippu.Metadata.PersonalData

/-!
# The lint is complete

A node's own names are checked, and its subschemas walked, at the pointers to them; so the lint
reports the denied names of all subschemas, each at a pointer that leads back to it.
-/

namespace Kippu.PersonalData

open Doc

variable {node child inner schema : Json} {pointer field : String} {path rest : Path}
variable {violation : PersonalDataViolation}

-- ---------------------------------------------------------------------------
-- One node
-- ---------------------------------------------------------------------------

theorem mem_check {p : String} :
    violation ∈ check field p ↔ isDeniedFieldName field = true ∧ violation = ⟨p, field⟩ := by
  unfold check
  split
  · rename_i h
    simp [h]
  · rename_i h
    simp [h]

theorem mem_walk : violation ∈ walk node pointer ↔
    (∃ path, Declares node path violation.field ∧ isDeniedFieldName violation.field = true ∧
      violation.pointer = pointer ++ Pointer.ofPath path) ∨
    ∃ path child, Applies node path child ∧
      violation ∈ walk child (pointer ++ Pointer.ofPath path) := by
  rw [walk, List.mem_flatMap]
  constructor
  · rintro ⟨⟨visit, hvisit⟩, -, h⟩
    have htells := tells_of_mem hvisit
    cases visit with
    | name field p =>
      obtain ⟨path, hdeclares, rfl⟩ := htells
      obtain ⟨hdenied, rfl⟩ := mem_check.mp h
      exact .inl ⟨path, hdeclares, hdenied, rfl⟩
    | schema child p =>
      obtain ⟨path, happlies, rfl⟩ := htells
      exact .inr ⟨path, child, happlies, h⟩
  · rintro (⟨path, hdeclares, hdenied, hpointer⟩ | ⟨path, child, happlies, h⟩)
    · refine ⟨⟨_, mem_visits_of_declares hdeclares⟩, List.mem_attach _ _, ?_⟩
      exact mem_check.mpr ⟨hdenied, by rw [← hpointer]⟩
    · exact ⟨⟨_, mem_visits_of_applies happlies⟩, List.mem_attach _ _, h⟩

-- ---------------------------------------------------------------------------
-- All nodes
-- ---------------------------------------------------------------------------

theorem walk_sound (h : violation ∈ walk node pointer) :
    ∃ path inner rest, Subschema node path inner ∧ Declares inner rest violation.field ∧
      isDeniedFieldName violation.field = true ∧
      violation.pointer = pointer ++ Pointer.ofPath (path ++ rest) := by
  induction hsize : sizeOf node using Nat.strongRecOn generalizing node pointer with
  | ind n ih =>
    rcases mem_walk.mp h with
      ⟨rest, hdeclares, hdenied, hpointer⟩ | ⟨first, child, happlies, hchild⟩
    · exact ⟨[], node, rest, .root, hdeclares, hdenied, hpointer⟩
    · obtain ⟨path, inner, rest, hsub, hdeclares, hdenied, hpointer⟩ :=
        ih (sizeOf child) (hsize ▸ happlies.sizeOf_lt) hchild rfl
      refine ⟨first ++ path, inner, rest, .step happlies hsub, hdeclares, hdenied, ?_⟩
      rw [hpointer, List.append_assoc, Pointer.ofPath_append first, String.append_assoc]

theorem walk_complete (hsub : Subschema node path inner) (hdeclares : Declares inner rest field)
    (hdenied : isDeniedFieldName field = true) :
    ⟨pointer ++ Pointer.ofPath (path ++ rest), field⟩ ∈ walk node pointer := by
  induction hsub generalizing pointer with
  | root => exact mem_walk.mpr (.inl ⟨rest, hdeclares, hdenied, rfl⟩)
  | @step node first child path inner happlies _ ih =>
    refine mem_walk.mpr (.inr ⟨first, child, happlies, ?_⟩)
    rw [List.append_assoc, Pointer.ofPath_append first, ← String.append_assoc]
    exact ih hdeclares

-- ---------------------------------------------------------------------------
-- Pointers
-- ---------------------------------------------------------------------------

theorem Subschema.leads (h : Subschema node path inner) : node.At path inner := by
  induction h with
  | root => exact .here
  | step happlies _ ih => exact happlies.leads.2.trans ih

theorem Declares.leads (h : Declares node rest field) : ∃ occurrence, node.At rest occurrence ∧
    (rest.getLast? = some (.key field) ∨ occurrence = .leaf (.string field)) := by
  cases h with
  | key _ hfield hmem =>
    exact ⟨_, (Value.At.field hfield).trans (.key hmem .here), .inl rfl⟩
  | required hfield hget =>
    exact ⟨_, (Value.At.field hfield).trans (.index hget .here), .inr rfl⟩
  | dependent hfield hmem hget =>
    exact ⟨_, (Value.At.field hfield).trans (.key hmem (.index hget .here)), .inr rfl⟩

/-- The lint reports exactly the denied names that the subschemas of a document declare or
require. The pointer of each has the tokens of the path to it, escaped, and resolves to it. -/
theorem lint_complete (document : Document) :
    (∀ violation, violation ∈ lintPersonalData document.tree ↔
      ∃ path inner rest, Subschema document.tree path inner ∧
        Declares inner rest violation.field ∧ isDeniedFieldName violation.field = true ∧
        violation.pointer = Pointer.ofPath (path ++ rest)) ∧
    ∀ violation ∈ lintPersonalData document.tree, ∃ path inner rest occurrence,
      Subschema document.tree path inner ∧ Declares inner rest violation.field ∧
        Pointer.tokens violation.pointer = some ((path ++ rest).map Pointer.token) ∧
        document.tree.At (path ++ rest) occurrence ∧
        Pointer.resolve document.tree violation.pointer = some occurrence ∧
        (rest.getLast? = some (.key violation.field) ∨
          occurrence = .leaf (.string violation.field)) := by
  have hsound : ∀ violation, violation ∈ lintPersonalData document.tree →
      ∃ path inner rest, Subschema document.tree path inner ∧
        Declares inner rest violation.field ∧ isDeniedFieldName violation.field = true ∧
        violation.pointer = Pointer.ofPath (path ++ rest) := by
    intro violation h
    simpa only [String.empty_append] using walk_sound h
  refine ⟨fun violation => ⟨hsound violation, ?_⟩, fun violation h => ?_⟩
  · rintro ⟨path, inner, rest, hsub, hdeclares, hdenied, hpointer⟩
    have h : ⟨"" ++ Pointer.ofPath (path ++ rest), violation.field⟩ ∈
        lintPersonalData document.tree := walk_complete hsub hdeclares hdenied
    rw [String.empty_append, ← hpointer] at h
    exact h
  · obtain ⟨path, inner, rest, hsub, hdeclares, -, hpointer⟩ := hsound violation h
    obtain ⟨occurrence, hat, hlast⟩ := hdeclares.leads
    have hat := hsub.leads.trans hat
    refine ⟨path, inner, rest, occurrence, hsub, hdeclares, ?_, hat, ?_, hlast⟩
    · rw [hpointer]
      exact Pointer.tokens_render _
    · rw [hpointer]
      exact Pointer.resolve_ofPath document.distinct hat

end Kippu.PersonalData
