import Kippu.Doc.Value

/-!
# The allow-list

Every field Kippu may pass into an SDK command or pass, down to nested objects. What goes to
the SDK is checked against it first, at runtime: a value of any shape goes in.
-/

namespace Kippu.AllowList

open Doc

/-- What is allowed of a value: `LEAF`, elements all of one kind, or fields by name. -/
inductive FieldSpec
  | leaf
  | array (item : FieldSpec)
  | object (fields : List (String × FieldSpec))

structure PersonalDataBoundaryError where
  field : String
  deriving DecidableEq

def PersonalDataBoundaryError.message (e : PersonalDataBoundaryError) : String :=
  "NFR-6: \"" ++ e.field ++ "\" is not on the allow-list of fields that may reach the ledger"

-- ---------------------------------------------------------------------------
-- `assertAllowed`
-- ---------------------------------------------------------------------------

variable {Leaf : Type}

def elementPath (path : String) (index : ℕ) : String := path ++ "[" ++ toString index ++ "]"

def fieldPath (path field : String) : String := path ++ "." ++ field

mutual

/-- A leaf is a value with no fields of its own: neither a plain object nor an array. -/
def assertAllowed :
    Value Leaf → FieldSpec → String → Except PersonalDataBoundaryError Unit
  | .leaf _, .leaf, _ => .ok ()
  | .array _, .leaf, path | .object _, .leaf, path => .error ⟨path⟩
  | .array items, .array item, path => assertItems items item path 0
  | .leaf _, .array _, path | .object _, .array _, path => .error ⟨path⟩
  | .object entries, .object fields, path => assertFields entries fields path
  | .leaf _, .object _, path | .array _, .object _, path => .error ⟨path⟩

/-- The elements of an array from an index on. -/
def assertItems : List (Value Leaf) → FieldSpec → String → ℕ →
    Except PersonalDataBoundaryError Unit
  | [], _, _, _ => .ok ()
  | item :: items, spec, path, index => do
    assertAllowed item spec (elementPath path index)
    assertItems items spec path (index + 1)

def assertFields : List (String × Value Leaf) → List (String × FieldSpec) → String →
    Except PersonalDataBoundaryError Unit
  | [], _, _ => .ok ()
  | (field, item) :: entries, fields, path =>
    match fields.lookup field with
    | none => .error ⟨fieldPath path field⟩
    | some nested => do
      assertAllowed item nested (fieldPath path field)
      assertFields entries fields path

end

-- ---------------------------------------------------------------------------
-- The lists
-- ---------------------------------------------------------------------------

inductive CommandKind
  | createEvent
  | setEventStatus
  | setEventCapacity
  | addZone
  | removeZone
  | issueTicket
  | transferTicket
  | removeRestriction
  | registerCredential

def CommandKind.name : CommandKind → String
  | .createEvent => "createEvent"
  | .setEventStatus => "setEventStatus"
  | .setEventCapacity => "setEventCapacity"
  | .addZone => "addZone"
  | .removeZone => "removeZone"
  | .issueTicket => "issueTicket"
  | .transferTicket => "transferTicket"
  | .removeRestriction => "removeRestriction"
  | .registerCredential => "registerCredential"

def leaves (names : List String) : FieldSpec := .object (names.map fun name => (name, .leaf))

def zone : FieldSpec := leaves ["id", "kind"]
def placement : FieldSpec := leaves ["kind", "position", "discriminator"]
def policy : FieldSpec := leaves ["kind", "max", "until"]
def restrictions : FieldSpec := leaves ["cannotResale", "cannotTransfer"]

def COMMAND_INPUT_ALLOW_LIST : CommandKind → FieldSpec
  | .createEvent =>
    .object [("salt", .leaf), ("zones", .array zone), ("capacity", .leaf), ("metadata", .leaf)]
  | .setEventStatus => leaves ["event", "status"]
  | .setEventCapacity => leaves ["event", "capacity", "proof"]
  | .addZone => .object [("event", .leaf), ("zone", zone)]
  | .removeZone => leaves ["event", "zone"]
  | .issueTicket => .object [("event", .leaf), ("zone", .leaf), ("placement", placement),
      ("class", .leaf), ("provenance", .leaf), ("policy", policy), ("restrictions", restrictions),
      ("holder", .leaf), ("metadata", .leaf)]
  | .transferTicket => leaves ["event", "ticket", "receiver"]
  | .removeRestriction => leaves ["event", "ticket", "restriction"]
  | .registerCredential => leaves ["account", "registration"]

def PASS_ALLOW_LIST : FieldSpec :=
  .object [("pass", leaves ["ticket", "holder", "id", "notBefore", "notAfter"]),
    ("authorisation", .leaf)]

def PRESENTATION_ALLOW_LIST : FieldSpec := leaves ["presentedAt"]

-- ---------------------------------------------------------------------------
-- What reaches the SDK
-- ---------------------------------------------------------------------------

inductive SdkCall (Signer Leaf : Type)
  | command (kind : CommandKind) (signer : Signer) (input : Value Leaf)
  | submitAccessPass (pass presentation : Value Leaf)

variable {Signer : Type}

def guard (kind : CommandKind) (input : Value Leaf) : Except PersonalDataBoundaryError Unit :=
  assertAllowed input (COMMAND_INPUT_ALLOW_LIST kind) kind.name

/-- `write`: the call of the SDK a command makes, unless its input is refused. -/
def write (kind : CommandKind) (signer : Signer) (input : Value Leaf) :
    Except PersonalDataBoundaryError (SdkCall Signer Leaf) := do
  guard kind input
  return .command kind signer input

def submitAccessPass (pass presentation : Value Leaf) :
    Except PersonalDataBoundaryError (SdkCall Signer Leaf) := do
  assertAllowed pass PASS_ALLOW_LIST "submitAccessPass.pass"
  assertAllowed presentation PRESENTATION_ALLOW_LIST "submitAccessPass.presentation"
  return .submitAccessPass pass presentation

-- ---------------------------------------------------------------------------
-- What is allowed
-- ---------------------------------------------------------------------------

/-- What is specified at a path, with one specification for all the elements of an array. -/
def FieldSpec.at? : FieldSpec → Path → Option FieldSpec
  | spec, [] => some spec
  | .object fields, .key name :: path =>
    match fields.lookup name with
    | some nested => nested.at? path
    | none => none
  | .array item, .index _ :: path => item.at? path
  | _, _ :: _ => none

def FieldSpec.Admits : FieldSpec → Value Leaf → Prop
  | .leaf, .leaf _ | .array _, .array _ | .object _, .object _ => True
  | _, _ => False

/-- Every path of a value is specified, and leads to what is specified there. -/
def FieldSpec.Allows (spec : FieldSpec) (value : Value Leaf) : Prop :=
  ∀ path u, value.At path u → ∃ s, spec.at? path = some s ∧ s.Admits u

/-- Every path of a value is specified, and no specified leaf is an object or an array. -/
def FieldSpec.Permits (spec : FieldSpec) (value : Value Leaf) : Prop :=
  (∀ path u, value.At path u → (spec.at? path).isSome) ∧
    ∀ path u, value.At path u → spec.at? path = some .leaf → ∃ a, u = .leaf a

-- ---------------------------------------------------------------------------
-- One level of a value
-- ---------------------------------------------------------------------------

variable {spec item nested : FieldSpec} {fields : List (String × FieldSpec)} {value : Value Leaf}
variable {items : List (Value Leaf)} {entries : List (String × Value Leaf)} {path : Path}
variable {base name : String}

theorem allows_leaf (a : Leaf) : FieldSpec.leaf.Allows (.leaf a) := by
  intro path u h
  cases h
  exact ⟨.leaf, rfl, trivial⟩

theorem allows_array (h : ∀ v ∈ items, item.Allows v) :
    (FieldSpec.array item).Allows (.array items) := by
  intro path u hat
  cases hat with
  | here => exact ⟨.array item, rfl, trivial⟩
  | index hget hrest => exact h _ (List.mem_of_getElem? hget) _ u hrest

theorem allows_object
    (h : ∀ name v, (name, v) ∈ entries → ∃ s, fields.lookup name = some s ∧ s.Allows v) :
    (FieldSpec.object fields).Allows (.object entries) := by
  intro path u hat
  cases hat with
  | here => exact ⟨.object fields, rfl, trivial⟩
  | key hmem hrest =>
    obtain ⟨s, hs, hallows⟩ := h _ _ hmem
    obtain ⟨s', hs', hadmits⟩ := hallows _ u hrest
    exact ⟨s', by simpa [FieldSpec.at?, hs] using hs', hadmits⟩

def FieldSpec.Offending (spec : FieldSpec) (value : Value Leaf) (path : Path) : Prop :=
  ∃ u, value.At path u ∧ ¬ ∃ s, spec.at? path = some s ∧ s.Admits u

theorem offending_here (h : ¬ spec.Admits value) : spec.Offending value [] := by
  refine ⟨value, .here, ?_⟩
  rintro ⟨s, hs, hadmits⟩
  cases hs
  exact h hadmits

theorem offending_index {i : ℕ} (hget : items[i]? = some value) (h : item.Offending value path) :
    (FieldSpec.array item).Offending (.array items) (.index i :: path) := by
  obtain ⟨u, hat, hnot⟩ := h
  exact ⟨u, .index hget hat, hnot⟩

theorem offending_key (hmem : (name, value) ∈ entries) (hlookup : fields.lookup name = some nested)
    (h : nested.Offending value path) :
    (FieldSpec.object fields).Offending (.object entries) (.key name :: path) := by
  obtain ⟨u, hat, hnot⟩ := h
  refine ⟨u, .key hmem hat, ?_⟩
  simpa [FieldSpec.at?, hlookup] using hnot

theorem offending_unknown (hmem : (name, value) ∈ entries) (hlookup : fields.lookup name = none) :
    (FieldSpec.object fields).Offending (.object entries) [.key name] := by
  refine ⟨value, .key hmem .here, ?_⟩
  rintro ⟨s, hs, -⟩
  simp [FieldSpec.at?, hlookup] at hs

-- ---------------------------------------------------------------------------
-- The whole value
-- ---------------------------------------------------------------------------

def pathText : String → Path → String
  | base, [] => base
  | base, .key name :: path => pathText (fieldPath base name) path
  | base, .index i :: path => pathText (elementPath base i) path

def Judged (spec : FieldSpec) (value : Value Leaf) (base : String) :
    Except PersonalDataBoundaryError Unit → Prop
  | .ok _ => spec.Allows value
  | .error e => ∃ path, spec.Offending value path ∧ e.field = pathText base path

def JudgedItems (item : FieldSpec) (items : List (Value Leaf)) (base : String) (index : ℕ) :
    Except PersonalDataBoundaryError Unit → Prop
  | .ok _ => ∀ v ∈ items, item.Allows v
  | .error e => ∃ i v path, items[i]? = some v ∧ item.Offending v path ∧
      e.field = pathText (elementPath base (index + i)) path

def JudgedFields (fields : List (String × FieldSpec)) (entries : List (String × Value Leaf))
    (base : String) : Except PersonalDataBoundaryError Unit → Prop
  | .ok _ => ∀ name v, (name, v) ∈ entries → ∃ s, fields.lookup name = some s ∧ s.Allows v
  | .error e => ∃ name path, (FieldSpec.object fields).Offending (.object entries)
      (.key name :: path) ∧ e.field = pathText (fieldPath base name) path

theorem judged_here (h : ¬ spec.Admits value) : Judged spec value base (.error ⟨base⟩) :=
  ⟨[], offending_here h, rfl⟩

mutual

theorem assertAllowed_judged (value : Value Leaf) (spec : FieldSpec) (base : String) :
    Judged spec value base (assertAllowed value spec base) := by
  cases value with
  | leaf a =>
    cases spec with
    | leaf => exact allows_leaf a
    | array | object => exact judged_here id
  | array items =>
    cases spec with
    | leaf | object => exact judged_here id
    | array item =>
      have h := assertItems_judged items item base 0
      change Judged _ _ _ (assertItems items item base 0)
      cases hr : assertItems items item base 0 with
      | ok =>
        rw [hr] at h
        exact allows_array h
      | error e =>
        rw [hr] at h
        obtain ⟨i, v, path, hget, hoffending, he⟩ := h
        rw [Nat.zero_add] at he
        exact ⟨.index i :: path, offending_index hget hoffending, he⟩
  | object entries =>
    cases spec with
    | leaf | array => exact judged_here id
    | object fields =>
      have h := assertFields_judged entries fields base
      change Judged _ _ _ (assertFields entries fields base)
      cases hr : assertFields entries fields base with
      | ok =>
        rw [hr] at h
        exact allows_object h
      | error e =>
        rw [hr] at h
        obtain ⟨name, path, hoffending, he⟩ := h
        exact ⟨.key name :: path, hoffending, he⟩

theorem assertItems_judged (items : List (Value Leaf)) (item : FieldSpec) (base : String)
    (index : ℕ) : JudgedItems item items base index (assertItems items item base index) := by
  cases items with
  | nil => exact fun v h => absurd h List.not_mem_nil
  | cons v items =>
    have hv := assertAllowed_judged v item (elementPath base index)
    have hrest := assertItems_judged items item base (index + 1)
    unfold assertItems
    cases hr : assertAllowed v item (elementPath base index) with
    | error e =>
      rw [hr] at hv
      obtain ⟨path, hoffending, he⟩ := hv
      exact ⟨0, v, path, rfl, hoffending, he⟩
    | ok =>
      rw [hr] at hv
      change JudgedItems _ _ _ _ (assertItems items item base (index + 1))
      cases hrs : assertItems items item base (index + 1) with
      | ok =>
        rw [hrs] at hrest
        exact List.forall_mem_cons.mpr ⟨hv, hrest⟩
      | error e =>
        rw [hrs] at hrest
        obtain ⟨i, w, path, hget, hoffending, he⟩ := hrest
        rw [Nat.add_right_comm] at he
        exact ⟨i + 1, w, path, hget, hoffending, he⟩

theorem assertFields_judged (entries : List (String × Value Leaf))
    (fields : List (String × FieldSpec)) (base : String) :
    JudgedFields fields entries base (assertFields entries fields base) := by
  cases entries with
  | nil => exact fun name v h => absurd h List.not_mem_nil
  | cons entry entries =>
    obtain ⟨name, v⟩ := entry
    unfold assertFields
    cases hlookup : fields.lookup name with
    | none => exact ⟨name, [], offending_unknown (List.mem_cons_self ..) hlookup, rfl⟩
    | some nested =>
      have hv := assertAllowed_judged v nested (fieldPath base name)
      have hrest := assertFields_judged entries fields base
      dsimp only
      cases hr : assertAllowed v nested (fieldPath base name) with
      | error e =>
        rw [hr] at hv
        obtain ⟨path, hoffending, he⟩ := hv
        exact ⟨name, path, offending_key (List.mem_cons_self ..) hlookup hoffending, he⟩
      | ok =>
        rw [hr] at hv
        change JudgedFields _ _ _ (assertFields entries fields base)
        cases hrs : assertFields entries fields base with
        | ok =>
          rw [hrs] at hrest
          intro name' v' hmem
          cases hmem with
          | head => exact ⟨nested, hlookup, hv⟩
          | tail _ hmem => exact hrest name' v' hmem
        | error e =>
          rw [hrs] at hrest
          obtain ⟨name', path, ⟨u, hat, hnot⟩, he⟩ := hrest
          cases hat with
          | key hmem hat =>
            exact ⟨name', path, ⟨u, .key (List.mem_cons_of_mem _ hmem) hat, hnot⟩, he⟩

end

theorem Offending.not_allows (h : spec.Offending value path) : ¬ spec.Allows value := by
  intro hallows
  obtain ⟨u, hat, hnot⟩ := h
  exact hnot (hallows path u hat)

theorem assertAllowed_ok_iff : assertAllowed value spec base = .ok () ↔ spec.Allows value := by
  have h := assertAllowed_judged value spec base
  cases hr : assertAllowed value spec base with
  | ok =>
    rw [hr] at h
    exact ⟨fun _ => h, fun _ => rfl⟩
  | error e =>
    rw [hr] at h
    obtain ⟨path, hoffending, -⟩ := h
    exact ⟨nofun, fun hallows => absurd hallows (Offending.not_allows hoffending)⟩

theorem assertAllowed_error (h : ¬ spec.Allows value) :
    ∃ e path, assertAllowed value spec base = .error e ∧ spec.Offending value path ∧
      e.field = pathText base path := by
  have hjudged := assertAllowed_judged value spec base
  cases hr : assertAllowed value spec base with
  | ok =>
    rw [hr] at hjudged
    exact absurd hjudged h
  | error e =>
    rw [hr] at hjudged
    obtain ⟨path, hoffending, he⟩ := hjudged
    exact ⟨e, path, rfl, hoffending, he⟩

theorem bind_ok {x : Except PersonalDataBoundaryError Unit} {f : Unit → Except _ α} {a : α}
    (h : (x >>= f) = .ok a) : x = .ok () ∧ f () = .ok a := by
  cases x with
  | ok => exact ⟨rfl, h⟩
  | error => cases h

theorem write_ok {kind : CommandKind} {signer : Signer} {call : SdkCall Signer Leaf}
    (h : write kind signer value = .ok call) :
    call = .command kind signer value ∧ (COMMAND_INPUT_ALLOW_LIST kind).Allows value := by
  obtain ⟨hguard, hcall⟩ := bind_ok h
  cases hcall
  exact ⟨rfl, assertAllowed_ok_iff.mp hguard⟩

theorem submitAccessPass_ok {pass presentation : Value Leaf} {call : SdkCall Signer Leaf}
    (h : submitAccessPass pass presentation = .ok call) :
    call = .submitAccessPass pass presentation ∧ PASS_ALLOW_LIST.Allows pass ∧
      PRESENTATION_ALLOW_LIST.Allows presentation := by
  obtain ⟨hpass, h⟩ := bind_ok h
  obtain ⟨hpresentation, hcall⟩ := bind_ok h
  cases hcall
  exact ⟨rfl, assertAllowed_ok_iff.mp hpass, assertAllowed_ok_iff.mp hpresentation⟩

/-- A value is accepted exactly if every path of it is specified and leads to what is specified
there, and otherwise refused for a path that does not; and nothing else goes to the SDK. -/
theorem allow_list_exact :
    (∀ (spec : FieldSpec) (value : Value Leaf) (base : String),
      (assertAllowed value spec base = .ok () ↔ spec.Allows value) ∧
      (¬ spec.Allows value → ∃ e path, assertAllowed value spec base = .error e ∧
        spec.Offending value path ∧ e.field = pathText base path)) ∧
    (∀ (kind : CommandKind) (signer : Signer) (input : Value Leaf) call,
      write kind signer input = .ok call →
        call = .command kind signer input ∧ (COMMAND_INPUT_ALLOW_LIST kind).Allows input) ∧
    ∀ (pass presentation : Value Leaf) (call : SdkCall Signer Leaf),
      submitAccessPass pass presentation = .ok call →
        call = .submitAccessPass pass presentation ∧ PASS_ALLOW_LIST.Allows pass ∧
          PRESENTATION_ALLOW_LIST.Allows presentation :=
  ⟨fun _ _ _ => ⟨assertAllowed_ok_iff, assertAllowed_error⟩, fun _ _ _ _ => write_ok,
    fun _ _ _ => submitAccessPass_ok⟩

/-- A zone's id, where the zone is expected. -/
def zoneById : Value String := .object [("event", .leaf "e"), ("zone", .leaf "z")]

/-- Every path of it is specified, and so is every leaf a leaf; but a leaf is no zone. -/
theorem permitted_but_refused :
    (COMMAND_INPUT_ALLOW_LIST .addZone).Permits zoneById ∧
      assertAllowed zoneById (COMMAND_INPUT_ALLOW_LIST .addZone) "addZone" =
        .error ⟨"addZone.zone"⟩ := by
  have hpaths : ∀ path u, zoneById.At path u → path = [] ∨ ∃ name a,
      path = [.key name] ∧ u = .leaf a ∧ (name = "event" ∨ name = "zone") := by
    intro path u hat
    cases hat with
    | here => exact .inl rfl
    | key hmem hrest =>
      simp only [List.mem_cons, Prod.mk.injEq, List.not_mem_nil, or_false] at hmem
      rcases hmem with ⟨rfl, rfl⟩ | ⟨rfl, rfl⟩
      · cases hrest
        exact .inr ⟨_, _, rfl, rfl, .inl rfl⟩
      · cases hrest
        exact .inr ⟨_, _, rfl, rfl, .inr rfl⟩
  refine ⟨⟨fun path u hat => ?_, fun path u hat hleaf => ?_⟩, by decide⟩
  · rcases hpaths path u hat with rfl | ⟨name, a, rfl, rfl, rfl | rfl⟩
    · rfl
    · rfl
    · rfl
  · rcases hpaths path u hat with rfl | ⟨name, a, rfl, rfl, -⟩
    · cases hleaf
    · exact ⟨a, rfl⟩

end Kippu.AllowList
