import Kippu.Metadata.SelfContained
import Kippu.Uploads.Check
import Kippu.Hex
import Kippu.Store

/-!
# Metadata objects

What is stored to be served publicly, by its key: documents of events and classes, images, and
schemas. Organisers write documents and upload images, each in a request that checks and then
puts; a put replaces what is at its key. The URL parser, the JSON text of a document, the schema
validator and the hash are those of a site.
-/

namespace Kippu.Objects

open Doc PersonalData SelfContained

abbrev Call := ℕ

structure Site where
  /-- The origin of a text that `new URL` reads. -/
  originOf : String → Option String
  /-- The public origin. -/
  origin : String
  stringify : Json → List UInt8
  parse : List UInt8 → Option Json
  validate : String → Json → Bool
  sha256 : List UInt8 → List UInt8
  /-- The schema files that the package ships, by their `$id`. -/
  schemaFile : String → List UInt8

structure Object where
  contentType : String
  bytes : List UInt8

def DOCUMENT_CONTENT_TYPE : String := "application/json"

def SCHEMA_CONTENT_TYPE : String := "application/schema+json"

def MAX_DOCUMENT_BYTES : ℕ := 256 * 1024

def SCHEMA_BASE_URL : String := "https://meta.kippu.rocks/v0/schemas/"

/-- The `$id` of each schema, and the key that it names. -/
def SCHEMA_KEYS : List (String × String) :=
  [("https://meta.kippu.rocks/v0/schemas/event/1.0.json", "v0/schemas/event/1.0.json"),
    ("https://meta.kippu.rocks/v0/schemas/class/1.0.json", "v0/schemas/class/1.0.json")]

def DOCUMENT_PREFIXES : List String := ["v0/events/", "v0/classes/"]

-- ---------------------------------------------------------------------------
-- Keys
-- ---------------------------------------------------------------------------

/-- 64 lower-case hexadecimal digits. -/
def isId (id : String) : Bool := id.toList.length = 64 && id.toList.all isHexDigit

structure Locator where
  origin : String
  key : String

def eventKey (event : String) : String := "v0/events/" ++ event ++ ".json"

def classKey (classId : String) : String := "v0/classes/" ++ classId ++ ".json"

def eventLocator (event origin : String) : Locator := ⟨origin, eventKey event⟩

def classLocator (classId origin : String) : Locator := ⟨origin, classKey classId⟩

def extensionOf (mediaType : String) : String := (IMAGE_EXTENSIONS.lookup mediaType).getD ""

def imageKey (w : Site) (event mediaType : String) (bytes : List UInt8) : String :=
  IMAGE_PREFIX ++ event ++ "/" ++ String.ofList ((w.sha256 bytes).flatMap hexByte) ++ "." ++
    extensionOf mediaType

/-- `/^[A-Za-z0-9._-]+$/`, and not a step up or none. -/
def isSegment (segment : List Char) : Bool :=
  !segment.isEmpty && segment.all (fun c => c.isAlphanum || c = '.' || c = '_' || c = '-') &&
    segment ≠ ['.'] && segment ≠ ['.', '.']

def isObjectKey (key : String) : Bool :=
  0 < key.toList.length && key.toList.length ≤ 1024 &&
    (Pointer.segments key.toList).all isSegment

/-- What is known of a site's JSON and its hash. -/
structure Site.Lawful (w : Site) : Prop where
  reads : ∀ (d : Document) schemaId, w.validate schemaId d.tree = true →
    w.parse (w.stringify d.tree) = some d.tree
  hash : ∀ bytes, (w.sha256 bytes).length = 32

-- ---------------------------------------------------------------------------
-- Runs
-- ---------------------------------------------------------------------------

inductive Task
  | idle
  /-- All checks are passed. -/
  | putting (key : String) (object : Object)
  | ended

structure State where
  objects : String → Option Object
  /-- The owner of each event, as the ledger has it. -/
  owner : String → Option OrganiserId
  /-- The event of each class. -/
  classes : String → Option String
  /-- The locator that `organiser_events` has for an event. -/
  linked : String → Option Locator
  task : Call → Task

def State.goto (s : State) (c : Call) (t : Task) : State :=
  { s with task := Function.update s.task c t }

def declaredSchema (document : Json) (kind : String) : Option String :=
  match document.field? "$schema" with
  | some (.leaf (.string declared)) =>
    if (SCHEMA_BASE_URL ++ kind ++ "/").toList.isPrefixOf declared.toList then some declared
    else none
  | _ => none

/-- `write`, up to its put. -/
def writes (w : Site) (locator : Locator) (schemaId : String) (document : Document) :
    Option (String × Object) :=
  if !w.validate schemaId document.tree then none
  else if (foreignReferences w.originOf w.origin document.tree).length > 0 then none
  else
    let bytes := w.stringify document.tree
    if bytes.length > MAX_DOCUMENT_BYTES then none
    else some (locator.key, ⟨DOCUMENT_CONTENT_TYPE, bytes⟩)

def hasField (document : Json) (name text : String) : Bool :=
  match document.field? name with
  | some (.leaf (.string value)) => value = text
  | _ => false

inductive Step (w : Site) (s : State) : State → Prop
  | created (event : String) (organiser : OrganiserId) : isId event → s.owner event = none →
      Step w s { s with owner := Function.update s.owner event (some organiser) }
  /-- With a locator at the origin that is configured then. -/
  | linked (origin : String) : isId event → s.linked event = none →
      Step w s { s with
        linked := Function.update s.linked event (some (eventLocator event origin)) }
  | defined : isId classId → s.classes classId = none →
      Step w s { s with classes := Function.update s.classes classId (some event) }
  | putsEventDocument (document : Document) : s.task c = .idle → isId event →
      s.owner event = some organiser →
      declaredSchema document.tree "event" = some schemaId →
      hasField document.tree "eventId" event →
      writes w ((s.linked event).getD (eventLocator event w.origin)) schemaId document =
        some (key, object) →
      Step w s (s.goto c (.putting key object))
  | putsClassDocument (document : Document) : s.task c = .idle → isId classId →
      s.owner event = some organiser → s.classes classId = some event →
      declaredSchema document.tree "class" = some schemaId →
      hasField document.tree "classId" classId → hasField document.tree "eventId" event →
      writes w (classLocator classId w.origin) schemaId document = some (key, object) →
      Step w s (s.goto c (.putting key object))
  | uploadsImage : s.task c = .idle → isId event → s.owner event = some organiser →
      checkImage mediaType data = .ok bytes →
      Step w s (s.goto c (.putting (imageKey w event mediaType bytes) ⟨mediaType, bytes⟩))
  /-- A schema that is served from the public origin. -/
  | publishes : s.task c = .idle → (schemaId, key) ∈ SCHEMA_KEYS →
      w.originOf schemaId = some w.origin →
      Step w s (s.goto c (.putting key ⟨SCHEMA_CONTENT_TYPE, w.schemaFile schemaId⟩))
  | puts : s.task c = .putting key object → isObjectKey key →
      Step w s ({ s with objects := Function.update s.objects key (some object) }.goto c .ended)
  /-- Its put fails, or its process stops. -/
  | stops : s.task c ≠ .idle → Step w s (s.goto c .ended)

inductive Steps (w : Site) (s : State) : State → Prop
  | refl : Steps w s s
  | step : Steps w s s' → Step w s' s'' → Steps w s s''

structure State.Initial (s : State) : Prop where
  objects : ∀ key, s.objects key = none
  owner : ∀ event, s.owner event = none
  classes : ∀ classId, s.classes classId = none
  linked : ∀ event, s.linked event = none
  task : ∀ c, s.task c = .idle

-- ---------------------------------------------------------------------------
-- The check of what is stored
-- ---------------------------------------------------------------------------

structure StoredDocumentViolation where
  key : String
  references : List ForeignReference
  unreadable : Bool

def checkStoredDocuments (w : Site) (objects : String → Option Object)
    (listed : String → List String) : List StoredDocumentViolation :=
  DOCUMENT_PREFIXES.flatMap fun start => (listed start).filterMap fun key =>
    match objects key with
    | none => none
    | some object =>
      match w.parse object.bytes with
      | none => some ⟨key, [], true⟩
      | some document =>
        let references := foreignReferences w.originOf w.origin document
        if references.length > 0 then some ⟨key, references, false⟩ else none

end Kippu.Objects
