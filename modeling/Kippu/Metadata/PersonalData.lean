import Kippu.Doc.Pointer
import Mathlib.Data.List.Infix

/-!
# The personal-data field lint

Metadata documents are public, so no schema may declare a field whose name says that it holds
personal data. Names are compared after normalisation: lower-case, letters and digits only.
-/

namespace Kippu.PersonalData

open Doc

inductive Scalar
  | null
  | boolean (b : Bool)
  | number (text : String)
  | string (s : String)

abbrev Json := Value Scalar

/-- A parsed document: no object of it has a key twice. -/
structure Document where
  tree : Json
  distinct : tree.Distinct

-- ---------------------------------------------------------------------------
-- Names
-- ---------------------------------------------------------------------------

def DENIED_FIELD_NAMES : List String :=
  [
    -- Names of a person.
    "firstname", "middlename", "lastname", "givenname", "familyname", "surname", "fullname",
    "legalname", "personalname", "birthname", "maidenname", "username",
    -- Contact.
    "email", "emailaddress", "phone", "phonenumber", "telephone", "mobile", "mobilenumber",
    "homeaddress", "personaladdress", "residentialaddress", "billingaddress", "shippingaddress",
    "ipaddress",
    -- Identity documents and demographic data.
    "dateofbirth", "birthdate", "birthday", "dob", "age", "gender", "sex", "nationality",
    "nationalid", "idnumber", "identitynumber", "documentnumber", "passport", "passportnumber",
    "taxid", "taxnumber", "ssn", "socialsecuritynumber", "driverslicence", "driverslicense",
    -- Payment.
    "cardnumber", "iban", "bankaccount", "bankaccountnumber",
    -- People a ticket document must never name.
    "holdername", "ownername", "attendeename", "buyername", "customername", "contactname"]

def DENIED_FIELD_NAME_FRAGMENTS : List String :=
  ["email", "phone", "passport", "birth", "firstname", "lastname", "surname", "fullname",
    "givenname", "familyname", "legalname", "personalname", "nationalid"]

/-- `toLowerCase`, as far as what it makes of a character can be a letter `a` to `z` or a digit:
besides the capitals `A` to `Z` that holds of `İ` and of the Kelvin sign alone. -/
def lowerCase (c : Char) : List Char :=
  if c = '\u0130' then ['i', '\u0307'] else if c = '\u212a' then ['k'] else [c.toLower]

def normaliseFieldName (field : String) : String :=
  String.ofList ((field.toList.flatMap lowerCase).filter fun c =>
    ('a' ≤ c && c ≤ 'z') || ('0' ≤ c && c ≤ '9'))

def isDeniedFieldName (field : String) : Bool :=
  let name := normaliseFieldName field
  DENIED_FIELD_NAMES.contains name ||
    DENIED_FIELD_NAME_FRAGMENTS.any fun fragment => fragment.toList <:+: name.toList

-- ---------------------------------------------------------------------------
-- The lint
-- ---------------------------------------------------------------------------

structure PersonalDataViolation where
  pointer : String
  field : String
  deriving DecidableEq

/-- First every `~`, then every `/`. -/
def escapePointer (segment : String) : String :=
  let tildes := segment.toList.flatMap fun c => if c = '~' then ['~', '0'] else [c]
  String.ofList (tildes.flatMap fun c => if c = '/' then ['~', '1'] else [c])

def SUBSCHEMA_KEYWORDS : List String :=
  ["items", "contains", "not", "if", "then", "else", "additionalProperties",
    "unevaluatedProperties", "unevaluatedItems", "propertyNames", "contentSchema"]

def SUBSCHEMA_ARRAY_KEYWORDS : List String := ["allOf", "anyOf", "oneOf", "prefixItems"]

def SUBSCHEMA_MAP_KEYWORDS : List String := ["$defs", "definitions", "patternProperties"]

/-- What is looked at in a node: a declared name, or a subschema, and the pointer to it. -/
inductive Visit
  | name (field pointer : String)
  | schema (node : Json) (pointer : String)

def entriesOf (node : Json) (keyword : String) : List (String × Json) :=
  match node.field? keyword with
  | some (.object entries) => entries
  | _ => []

def itemsOf (node : Json) (keyword : String) : List Json :=
  match node.field? keyword with
  | some (.array items) => items
  | _ => []

def namesIn (items : List Json) (pointer : String) : List Visit :=
  items.zipIdx.filterMap fun (item, index) =>
    match item with
    | .leaf (.string field) => some (.name field (pointer ++ "/" ++ toString index))
    | _ => none

/-- Names that are keys of subschemas: those of `properties`, and of `dependentSchemas`. -/
def declared (node : Json) (pointer keyword : String) : List Visit :=
  (entriesOf node keyword).flatMap fun (field, subschema) =>
    let at_ := pointer ++ "/" ++ keyword ++ "/" ++ escapePointer field
    [.name field at_, .schema subschema at_]

def dependentRequired (node : Json) (pointer : String) : List Visit :=
  (entriesOf node "dependentRequired").flatMap fun (field, fields) =>
    let at_ := pointer ++ "/" ++ "dependentRequired" ++ "/" ++ escapePointer field
    .name field at_ ::
      match fields with
      | .array items => namesIn items at_
      | _ => []

def subschema (node : Json) (pointer keyword : String) : List Visit :=
  match node.field? keyword with
  | some child => [.schema child (pointer ++ "/" ++ keyword)]
  | none => []

def subschemas (node : Json) (pointer keyword : String) : List Visit :=
  (itemsOf node keyword).zipIdx.map fun (child, index) =>
    .schema child (pointer ++ "/" ++ keyword ++ "/" ++ toString index)

def subschemaMap (node : Json) (pointer keyword : String) : List Visit :=
  (entriesOf node keyword).map fun (key, child) =>
    .schema child (pointer ++ "/" ++ keyword ++ "/" ++ escapePointer key)

/-- What `walk` looks at in a node, in order; in what is not an object, nothing. -/
def visits (node : Json) (pointer : String) : List Visit :=
  declared node pointer "properties" ++
    namesIn (itemsOf node "required") (pointer ++ "/" ++ "required") ++
    dependentRequired node pointer ++
    declared node pointer "dependentSchemas" ++
    SUBSCHEMA_KEYWORDS.flatMap (subschema node pointer) ++
    SUBSCHEMA_ARRAY_KEYWORDS.flatMap (subschemas node pointer) ++
    SUBSCHEMA_MAP_KEYWORDS.flatMap (subschemaMap node pointer)

def check (field pointer : String) : List PersonalDataViolation :=
  if isDeniedFieldName field then [⟨pointer, field⟩] else []

-- ---------------------------------------------------------------------------
-- What is declared, and where
-- ---------------------------------------------------------------------------

inductive Declares (node : Json) : Path → String → Prop
  | key : keyword ∈ ["properties", "dependentRequired", "dependentSchemas"] →
      node.field? keyword = some (.object entries) → (field, value) ∈ entries →
      Declares node [.key keyword, .key field] field
  | required : node.field? "required" = some (.array items) →
      items[i]? = some (.leaf (.string field)) →
      Declares node [.key "required", .index i] field
  | dependent : node.field? "dependentRequired" = some (.object entries) →
      (name, .array items) ∈ entries → items[i]? = some (.leaf (.string field)) →
      Declares node [.key "dependentRequired", .key name, .index i] field

inductive Applies (node : Json) : Path → Json → Prop
  | schema : keyword ∈ SUBSCHEMA_KEYWORDS → node.field? keyword = some child →
      Applies node [.key keyword] child
  | element : keyword ∈ SUBSCHEMA_ARRAY_KEYWORDS → node.field? keyword = some (.array items) →
      items[i]? = some child → Applies node [.key keyword, .index i] child
  | entry : keyword ∈ "properties" :: "dependentSchemas" :: SUBSCHEMA_MAP_KEYWORDS →
      node.field? keyword = some (.object entries) → (name, child) ∈ entries →
      Applies node [.key keyword, .key name] child

inductive Subschema : Json → Path → Json → Prop
  | root : Subschema node [] node
  | step {inner : Json} : Applies node rest child → Subschema child path inner →
      Subschema node (rest ++ path) inner

-- ---------------------------------------------------------------------------
-- What is looked at in a node
-- ---------------------------------------------------------------------------

variable {node child : Json} {pointer p keyword field name : String} {items : List Json}
variable {value : Json} {v : Visit} {i : ℕ}

theorem escapePointer_eq (s : String) : escapePointer s = Pointer.escape s := by
  simp only [escapePointer, Pointer.escape, List.flatMap_assoc]
  congr 1
  refine List.flatMap_congr fun c _ => ?_
  by_cases htilde : c = '~'
  · subst htilde
    decide
  · by_cases hslash : c = '/'
    · subst hslash
      decide
    · simp [Pointer.escapeChar, htilde, hslash]

theorem escape_keyword (h : keyword ∈ ["properties", "required", "dependentRequired",
    "dependentSchemas"] ++ SUBSCHEMA_KEYWORDS ++ SUBSCHEMA_ARRAY_KEYWORDS ++
    SUBSCHEMA_MAP_KEYWORDS) : Pointer.escape keyword = keyword := by
  refine Pointer.escape_eq_self ?_
  revert keyword
  decide

theorem mem_entriesOf : (name, value) ∈ entriesOf node keyword ↔
    ∃ entries, node.field? keyword = some (.object entries) ∧ (name, value) ∈ entries := by
  unfold entriesOf
  split
  · rename_i entries h
    simp [h]
  · rename_i hnot
    refine ⟨fun h => absurd h List.not_mem_nil, ?_⟩
    rintro ⟨entries, h, -⟩
    exact absurd h (hnot entries)

theorem getElem?_itemsOf : (itemsOf node keyword)[i]? = some value ↔
    ∃ items, node.field? keyword = some (.array items) ∧ items[i]? = some value := by
  unfold itemsOf
  split
  · rename_i items h
    simp [h]
  · rename_i hnot
    refine ⟨fun h => absurd h (by simp), ?_⟩
    rintro ⟨items, h, -⟩
    exact absurd h (hnot items)

theorem mem_namesIn : v ∈ namesIn items pointer ↔
    ∃ (i : ℕ) (field : String), items[i]? = some (Value.leaf (.string field)) ∧
      v = .name field (pointer ++ "/" ++ toString i) := by
  simp only [namesIn, List.mem_filterMap, Prod.exists, List.mem_zipIdx_iff_getElem?]
  constructor
  · rintro ⟨item, i, hget, h⟩
    split at h
    · rename_i field
      cases h
      exact ⟨i, field, hget, rfl⟩
    · cases h
  · rintro ⟨i, field, hget, rfl⟩
    exact ⟨_, i, hget, rfl⟩

theorem mem_declared : v ∈ declared node pointer keyword ↔
    ∃ field value, (field, value) ∈ entriesOf node keyword ∧
      (v = .name field (pointer ++ "/" ++ keyword ++ "/" ++ escapePointer field) ∨
        v = .schema value (pointer ++ "/" ++ keyword ++ "/" ++ escapePointer field)) := by
  simp [declared]

theorem mem_dependentRequired : v ∈ dependentRequired node pointer ↔
    ∃ field value, (field, value) ∈ entriesOf node "dependentRequired" ∧
      (v = .name field (pointer ++ "/" ++ "dependentRequired" ++ "/" ++ escapePointer field) ∨
        ∃ items, value = .array items ∧ v ∈ namesIn items
          (pointer ++ "/" ++ "dependentRequired" ++ "/" ++ escapePointer field)) := by
  simp only [dependentRequired, List.mem_flatMap, Prod.exists, List.mem_cons]
  refine exists_congr fun field => exists_congr fun value => and_congr_right fun _ =>
    or_congr_right ?_
  cases value <;> simp

theorem mem_subschema : v ∈ subschema node pointer keyword ↔
    ∃ child, node.field? keyword = some child ∧
      v = .schema child (pointer ++ "/" ++ keyword) := by
  unfold subschema
  split
  · rename_i child h
    simp [h]
  · rename_i h
    simp [h]

theorem mem_subschemas : v ∈ subschemas node pointer keyword ↔
    ∃ (child : Json) (i : ℕ), (itemsOf node keyword)[i]? = some child ∧
      v = .schema child (pointer ++ "/" ++ keyword ++ "/" ++ toString i) := by
  simp [subschemas, List.mem_zipIdx_iff_getElem?, eq_comm]

theorem mem_subschemaMap : v ∈ subschemaMap node pointer keyword ↔
    ∃ key child, (key, child) ∈ entriesOf node keyword ∧
      v = .schema child (pointer ++ "/" ++ keyword ++ "/" ++ escapePointer key) := by
  simp [subschemaMap, eq_comm]

-- ---------------------------------------------------------------------------
-- Pointers
-- ---------------------------------------------------------------------------

theorem ofPath_key (h : Pointer.escape keyword = keyword) :
    pointer ++ Pointer.ofPath [.key keyword] = pointer ++ "/" ++ keyword := by
  simp only [Pointer.ofPath, List.map_cons, List.map_nil, Pointer.render, Pointer.token, h,
    String.append_empty, String.append_assoc]

theorem ofPath_key_key (h : Pointer.escape keyword = keyword) :
    pointer ++ Pointer.ofPath [.key keyword, .key name] =
      pointer ++ "/" ++ keyword ++ "/" ++ escapePointer name := by
  simp only [Pointer.ofPath, List.map_cons, List.map_nil, Pointer.render, Pointer.token, h,
    escapePointer_eq, String.append_empty, String.append_assoc]

theorem ofPath_key_index (h : Pointer.escape keyword = keyword) :
    pointer ++ Pointer.ofPath [.key keyword, .index i] =
      pointer ++ "/" ++ keyword ++ "/" ++ toString i := by
  simp only [Pointer.ofPath, List.map_cons, List.map_nil, Pointer.render, Pointer.token, h,
    Pointer.escape_index, String.append_empty, String.append_assoc]

theorem ofPath_key_key_index (h : Pointer.escape keyword = keyword) :
    pointer ++ Pointer.ofPath [.key keyword, .key name, .index i] =
      pointer ++ "/" ++ keyword ++ "/" ++ escapePointer name ++ "/" ++ toString i := by
  simp only [Pointer.ofPath, List.map_cons, List.map_nil, Pointer.render, Pointer.token, h,
    Pointer.escape_index, escapePointer_eq, String.append_empty, String.append_assoc]

def Visit.Tells (node : Json) (pointer : String) : Visit → Prop
  | .name field p => ∃ path, Declares node path field ∧ p = pointer ++ Pointer.ofPath path
  | .schema child p => ∃ path, Applies node path child ∧ p = pointer ++ Pointer.ofPath path

theorem tells_declared (hdeclares : keyword ∈ ["properties", "dependentRequired",
    "dependentSchemas"]) (happlies : keyword ∈ "properties" :: "dependentSchemas" ::
    SUBSCHEMA_MAP_KEYWORDS) (hescape : Pointer.escape keyword = keyword)
    (h : v ∈ declared node pointer keyword) : v.Tells node pointer := by
  obtain ⟨field, value, hmem, rfl | rfl⟩ := mem_declared.mp h
  · obtain ⟨entries, hfield, hmem⟩ := mem_entriesOf.mp hmem
    exact ⟨_, .key hdeclares hfield hmem, (ofPath_key_key hescape).symm⟩
  · obtain ⟨entries, hfield, hmem⟩ := mem_entriesOf.mp hmem
    exact ⟨_, .entry happlies hfield hmem, (ofPath_key_key hescape).symm⟩

theorem tells_of_mem (h : v ∈ visits node pointer) : v.Tells node pointer := by
  simp only [visits, List.mem_append, List.mem_flatMap] at h
  rcases h with (((((h | h) | h) | h) | h) | h) | h
  · exact tells_declared (by decide) (by decide) (by decide) h
  · obtain ⟨i, field, hget, rfl⟩ := mem_namesIn.mp h
    obtain ⟨items, hfield, hget⟩ := getElem?_itemsOf.mp hget
    exact ⟨_, .required hfield hget, (ofPath_key_index (by decide)).symm⟩
  · obtain ⟨field, value, hmem, rfl | ⟨items, rfl, hnames⟩⟩ := mem_dependentRequired.mp h
    · obtain ⟨entries, hfield, hmem⟩ := mem_entriesOf.mp hmem
      exact ⟨_, .key (by decide) hfield hmem, (ofPath_key_key (by decide)).symm⟩
    · obtain ⟨entries, hfield, hmem⟩ := mem_entriesOf.mp hmem
      obtain ⟨i, dependent, hget, rfl⟩ := mem_namesIn.mp hnames
      exact ⟨_, .dependent hfield hmem hget, (ofPath_key_key_index (by decide)).symm⟩
  · exact tells_declared (by decide) (by decide) (by decide) h
  · obtain ⟨keyword, hkeyword, h⟩ := h
    obtain ⟨child, hfield, rfl⟩ := mem_subschema.mp h
    exact ⟨_, .schema hkeyword hfield, (ofPath_key (escape_keyword (by simp [hkeyword]))).symm⟩
  · obtain ⟨keyword, hkeyword, h⟩ := h
    obtain ⟨child, i, hget, rfl⟩ := mem_subschemas.mp h
    obtain ⟨items, hfield, hget⟩ := getElem?_itemsOf.mp hget
    exact ⟨_, .element hkeyword hfield hget,
      (ofPath_key_index (escape_keyword (by simp [hkeyword]))).symm⟩
  · obtain ⟨keyword, hkeyword, h⟩ := h
    obtain ⟨key, child, hmem, rfl⟩ := mem_subschemaMap.mp h
    obtain ⟨entries, hfield, hmem⟩ := mem_entriesOf.mp hmem
    exact ⟨_, .entry (by simp [hkeyword]) hfield hmem,
      (ofPath_key_key (escape_keyword (by simp [hkeyword]))).symm⟩

theorem mem_visits_declared {keyword : String}
    (h : keyword ∈ ["properties", "dependentSchemas"]) (hv : v ∈ declared node pointer keyword) :
    v ∈ visits node pointer := by
  simp only [visits, List.mem_append]
  simp only [List.mem_cons, List.not_mem_nil, or_false] at h
  rcases h with rfl | rfl
  · simp [hv]
  · simp [hv]

theorem mem_visits_dependentRequired (hv : v ∈ dependentRequired node pointer) :
    v ∈ visits node pointer := by
  simp [visits, hv]

theorem mem_visits_of_declares {path : Path} (h : Declares node path field) :
    .name field (pointer ++ Pointer.ofPath path) ∈ visits node pointer := by
  cases h with
  | key hkeyword hfield hmem =>
    have hentry := mem_entriesOf.mpr ⟨_, hfield, hmem⟩
    simp only [List.mem_cons, List.not_mem_nil, or_false] at hkeyword
    rcases hkeyword with rfl | rfl | rfl
    · rw [ofPath_key_key (by decide)]
      exact mem_visits_declared (by simp) (mem_declared.mpr ⟨_, _, hentry, .inl rfl⟩)
    · rw [ofPath_key_key (by decide)]
      exact mem_visits_dependentRequired (mem_dependentRequired.mpr ⟨_, _, hentry, .inl rfl⟩)
    · rw [ofPath_key_key (by decide)]
      exact mem_visits_declared (by simp) (mem_declared.mpr ⟨_, _, hentry, .inl rfl⟩)
  | required hfield hget =>
    rw [ofPath_key_index (by decide)]
    simp only [visits, List.mem_append]
    refine .inl (.inl (.inl (.inl (.inl (.inr (mem_namesIn.mpr ⟨_, _, ?_, rfl⟩))))))
    exact getElem?_itemsOf.mpr ⟨_, hfield, hget⟩
  | dependent hfield hmem hget =>
    rw [ofPath_key_key_index (by decide)]
    have hentry := mem_entriesOf.mpr ⟨_, hfield, hmem⟩
    refine mem_visits_dependentRequired (mem_dependentRequired.mpr ⟨_, _, hentry, .inr ?_⟩)
    exact ⟨_, rfl, mem_namesIn.mpr ⟨_, _, hget, rfl⟩⟩

theorem mem_visits_of_applies {path : Path} (h : Applies node path child) :
    .schema child (pointer ++ Pointer.ofPath path) ∈ visits node pointer := by
  cases h with
  | schema hkeyword hfield =>
    rw [ofPath_key (escape_keyword (by simp [hkeyword]))]
    simp only [visits, List.mem_append]
    refine .inl (.inl (.inr (List.mem_flatMap.mpr ⟨_, hkeyword, ?_⟩)))
    exact mem_subschema.mpr ⟨_, hfield, rfl⟩
  | element hkeyword hfield hget =>
    rw [ofPath_key_index (escape_keyword (by simp [hkeyword]))]
    simp only [visits, List.mem_append]
    refine .inl (.inr (List.mem_flatMap.mpr ⟨_, hkeyword, ?_⟩))
    exact mem_subschemas.mpr ⟨_, _, getElem?_itemsOf.mpr ⟨_, hfield, hget⟩, rfl⟩
  | entry hkeyword hfield hmem =>
    have hentry := mem_entriesOf.mpr ⟨_, hfield, hmem⟩
    rcases List.mem_cons.mp hkeyword with rfl | hkeyword
    · rw [ofPath_key_key (by decide)]
      exact mem_visits_declared (by simp) (mem_declared.mpr ⟨_, _, hentry, .inr rfl⟩)
    rcases List.mem_cons.mp hkeyword with rfl | hkeyword
    · rw [ofPath_key_key (by decide)]
      exact mem_visits_declared (by simp) (mem_declared.mpr ⟨_, _, hentry, .inr rfl⟩)
    · rw [ofPath_key_key (escape_keyword (by simp [hkeyword]))]
      simp only [visits, List.mem_append]
      refine .inr (List.mem_flatMap.mpr ⟨_, hkeyword, ?_⟩)
      exact mem_subschemaMap.mpr ⟨_, _, hentry, rfl⟩

-- ---------------------------------------------------------------------------
-- `walk`
-- ---------------------------------------------------------------------------

theorem Applies.leads {path : Path} (h : Applies node path child) :
    path ≠ [] ∧ node.At path child := by
  cases h with
  | schema _ hfield => exact ⟨nofun, .field hfield⟩
  | element _ hfield hget => exact ⟨nofun, (Value.At.field hfield).trans (.index hget .here)⟩
  | entry _ hfield hmem => exact ⟨nofun, (Value.At.field hfield).trans (.key hmem .here)⟩

theorem Applies.sizeOf_lt {path : Path} (h : Applies node path child) :
    sizeOf child < sizeOf node :=
  h.leads.2.sizeOf_lt h.leads.1

def walk (node : Json) (pointer : String) : List PersonalDataViolation :=
  (visits node pointer).attach.flatMap fun
    | ⟨.name field at_, _⟩ => check field at_
    | ⟨.schema child at_, _⟩ => walk child at_
termination_by sizeOf node
decreasing_by
  rename_i hv
  obtain ⟨path, happlies, -⟩ := tells_of_mem hv
  exact happlies.sizeOf_lt

def lintPersonalData (schema : Json) : List PersonalDataViolation := walk schema ""

end Kippu.PersonalData
