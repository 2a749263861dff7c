import Kippu.Metadata.PersonalData

/-!
# Self-containment

A document is relocated with the files beside it only if every URL in it is at the metadata
origin. A URL is a string value that is an absolute web URL, whole; `new URL` reads its origin.
-/

namespace Kippu.SelfContained

open Doc PersonalData

structure ForeignReference where
  /-- JSON Pointer, within the document, to the value. -/
  pointer : String
  url : String

/-- `/^https?:\/\//i`. -/
def isWebUrl (value : String) : Bool :=
  let lower := value.toList.map Char.toLower
  "http://".toList.isPrefixOf lower || "https://".toList.isPrefixOf lower

def isForeign (originOf : String → Option String) (origin value : String) : Bool :=
  isWebUrl value && (originOf value).any (· != origin)

mutual

def walk (originOf : String → Option String) (origin : String) :
    Json → String → List ForeignReference
  | .leaf (.string value), pointer =>
    if isForeign originOf origin value then [⟨pointer, value⟩] else []
  | .leaf _, _ => []
  | .array items, pointer => walkItems originOf origin items pointer 0
  | .object fields, pointer => walkFields originOf origin fields pointer

def walkItems (originOf : String → Option String) (origin : String) :
    List Json → String → ℕ → List ForeignReference
  | [], _, _ => []
  | item :: items, pointer, index =>
    walk originOf origin item (pointer ++ "/" ++ toString index) ++
      walkItems originOf origin items pointer (index + 1)

def walkFields (originOf : String → Option String) (origin : String) :
    List (String × Json) → String → List ForeignReference
  | [], _ => []
  | (field, item) :: fields, pointer =>
    walk originOf origin item (pointer ++ "/" ++ escapePointer field) ++
      walkFields originOf origin fields pointer

end

/-- Every URL in a document that is not served from the origin, with where it appears. -/
def foreignReferences (originOf : String → Option String) (origin : String) (document : Json) :
    List ForeignReference := walk originOf origin document ""

-- ---------------------------------------------------------------------------
-- What is found
-- ---------------------------------------------------------------------------

variable {originOf : String → Option String} {origin pointer : String} {t : Json}
  {r : ForeignReference}

theorem mem_walkItems {items : List Json} {index : ℕ} :
    r ∈ walkItems originOf origin items pointer index ↔
      ∃ i item, items[i]? = some item ∧
        r ∈ walk originOf origin item (pointer ++ "/" ++ toString (index + i)) := by
  induction items generalizing index with
  | nil => simp [walkItems]
  | cons item items ih =>
    rw [walkItems, List.mem_append, ih]
    constructor
    · rintro (h | ⟨i, next, hi, h⟩)
      · exact ⟨0, item, rfl, h⟩
      · exact ⟨i + 1, next, hi, by rwa [Nat.add_assoc, Nat.add_comm 1 i] at h⟩
    · rintro ⟨i, next, hi, h⟩
      cases i with
      | zero =>
        obtain rfl := Option.some.inj hi
        exact .inl h
      | succ i => exact .inr ⟨i, next, hi, by rwa [Nat.add_assoc, Nat.add_comm 1 i]⟩

theorem mem_walkFields {fields : List (String × Json)} :
    r ∈ walkFields originOf origin fields pointer ↔
      ∃ field item, (field, item) ∈ fields ∧
        r ∈ walk originOf origin item (pointer ++ "/" ++ escapePointer field) := by
  induction fields with
  | nil => simp [walkFields]
  | cons entry fields ih =>
    obtain ⟨name, value⟩ := entry
    rw [walkFields, List.mem_append, ih]
    constructor
    · rintro (h | ⟨field, item, hmem, h⟩)
      · exact ⟨name, value, by simp, h⟩
      · exact ⟨field, item, by simp [hmem], h⟩
    · rintro ⟨field, item, hmem, h⟩
      rcases List.mem_cons.mp hmem with heq | hmem
      · obtain ⟨rfl, rfl⟩ := Prod.mk.inj heq
        exact .inl h
      · exact .inr ⟨field, item, hmem, h⟩

theorem ofPath_key (field : String) (path : Path) :
    Pointer.ofPath (.key field :: path) = "/" ++ escapePointer field ++ Pointer.ofPath path := by
  rw [escapePointer_eq]
  rfl

theorem ofPath_index (i : ℕ) (path : Path) :
    Pointer.ofPath (.index i :: path) = "/" ++ toString i ++ Pointer.ofPath path := by
  calc Pointer.ofPath (.index i :: path)
    _ = "/" ++ Pointer.escape (toString i) ++ Pointer.ofPath path := rfl
    _ = "/" ++ toString i ++ Pointer.ofPath path := by rw [Pointer.escape_index]

theorem sizeOf_item {items : List Json} {item : Json} {i : ℕ} (h : items[i]? = some item) :
    sizeOf item < 1 + sizeOf items := by
  rw [← Value.array.sizeOf_spec]
  exact (Value.At.index h (.here (t := item))).sizeOf_lt (by simp)

theorem sizeOf_field {fields : List (String × Json)} {item : Json} {field : String}
    (h : (field, item) ∈ fields) : sizeOf item < 1 + sizeOf fields := by
  rw [← Value.object.sizeOf_spec]
  exact (Value.At.key h (.here (t := item))).sizeOf_lt (by simp)

theorem mem_walk_leaf {a : Scalar} : r ∈ walk originOf origin (.leaf a) pointer ↔
    a = .string r.url ∧ isForeign originOf origin r.url ∧ r.pointer = pointer := by
  cases a with
  | string value =>
    rw [walk]
    split
    next h =>
      rw [List.mem_singleton]
      constructor
      · rintro rfl
        exact ⟨rfl, h, rfl⟩
      · rintro ⟨heq, -, hp⟩
        obtain rfl := Scalar.string.inj heq
        cases r
        exact congrArg (ForeignReference.mk · _) hp
    next h =>
      refine iff_of_false (by simp) ?_
      rintro ⟨heq, hforeign, -⟩
      obtain rfl := Scalar.string.inj heq
      exact h hforeign
  | null | boolean | number => simp [walk]

theorem mem_walk (t : Json) (pointer : String) : r ∈ walk originOf origin t pointer ↔
    ∃ path, t.At path (.leaf (.string r.url)) ∧ isForeign originOf origin r.url ∧
      r.pointer = pointer ++ Pointer.ofPath path := by
  cases t with
  | leaf a =>
    rw [mem_walk_leaf]
    constructor
    · rintro ⟨rfl, hforeign, hp⟩
      exact ⟨[], .here, hforeign, by simp [hp, Pointer.ofPath, Pointer.render]⟩
    · rintro ⟨path, hat, hforeign, hp⟩
      cases hat
      exact ⟨rfl, hforeign, by simpa [Pointer.ofPath, Pointer.render] using hp⟩
  | array items =>
    rw [walk, mem_walkItems]
    constructor
    · rintro ⟨i, item, hi, h⟩
      have hlt := sizeOf_item hi
      obtain ⟨path, hat, hforeign, hp⟩ := (mem_walk item _).mp h
      refine ⟨.index i :: path, .index hi hat, hforeign, ?_⟩
      rw [hp, ofPath_index, Nat.zero_add]
      simp only [String.append_assoc]
    · rintro ⟨path, hat, hforeign, hp⟩
      cases hat with
      | @index _ i item path _ hi hrest =>
        have hlt := sizeOf_item hi
        refine ⟨i, item, hi, (mem_walk item _).mpr ⟨path, hrest, hforeign, ?_⟩⟩
        rw [hp, ofPath_index, Nat.zero_add]
        simp only [String.append_assoc]
  | object fields =>
    rw [walk, mem_walkFields]
    constructor
    · rintro ⟨field, item, hmem, h⟩
      have hlt := sizeOf_field hmem
      obtain ⟨path, hat, hforeign, hp⟩ := (mem_walk item _).mp h
      refine ⟨.key field :: path, .key hmem hat, hforeign, ?_⟩
      rw [hp, ofPath_key]
      simp only [String.append_assoc]
    · rintro ⟨path, hat, hforeign, hp⟩
      cases hat with
      | @key _ field item path _ hmem hrest =>
        have hlt := sizeOf_field hmem
        refine ⟨field, item, hmem, (mem_walk item _).mpr ⟨path, hrest, hforeign, ?_⟩⟩
        rw [hp, ofPath_key]
        simp only [String.append_assoc]
termination_by sizeOf t

theorem mem_foreignReferences : r ∈ foreignReferences originOf origin t ↔
    ∃ path, t.At path (.leaf (.string r.url)) ∧ isForeign originOf origin r.url ∧
      r.pointer = Pointer.ofPath path := by
  rw [foreignReferences, mem_walk]
  simp

def Relocatable (originOf : String → Option String) (origin : String) (t : Json) : Prop :=
  ∀ path url, t.At path (.leaf (.string url)) → isForeign originOf origin url = false

theorem foreignReferences_eq_nil : foreignReferences originOf origin t = [] ↔
    Relocatable originOf origin t := by
  rw [List.eq_nil_iff_forall_not_mem]
  constructor
  · intro h path url hat
    refine Bool.eq_false_iff.mpr fun hforeign => ?_
    exact h ⟨Pointer.ofPath path, url⟩ (mem_foreignReferences.mpr ⟨path, hat, hforeign, rfl⟩)
  · intro h r hr
    obtain ⟨path, hat, hforeign, -⟩ := mem_foreignReferences.mp hr
    rw [h path r.url hat] at hforeign
    cases hforeign

/-- Exactly the strings of a document that are URLs at another origin are reported, wherever they
are, each with a pointer that leads to it; a document of which none is reported is
relocatable. -/
theorem foreign_references_exact (originOf : String → Option String) (origin : String)
    (document : Document) :
    (∀ pointer url, ⟨pointer, url⟩ ∈ foreignReferences originOf origin document.tree ↔
      ∃ path, document.tree.At path (.leaf (.string url)) ∧ isForeign originOf origin url ∧
        pointer = Pointer.ofPath path) ∧
    (∀ r ∈ foreignReferences originOf origin document.tree,
      (Pointer.resolve document.tree r.pointer).isSome ∧
        ∀ u, Pointer.resolve document.tree r.pointer = some u → u = .leaf (.string r.url)) ∧
    (foreignReferences originOf origin document.tree = [] ↔
      Relocatable originOf origin document.tree) := by
  refine ⟨fun pointer url => mem_foreignReferences, fun r hr => ?_, foreignReferences_eq_nil⟩
  obtain ⟨path, hat, -, hp⟩ := mem_foreignReferences.mp hr
  rw [hp, Pointer.resolve_ofPath document.distinct hat]
  exact ⟨rfl, fun u hu => (Option.some.inj hu).symm⟩

end Kippu.SelfContained
