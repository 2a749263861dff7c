import Kippu.Metadata.Objects

/-!
# What is stored can be relocated

Whatever requests ran, the documents stored are those that their requests checked: they conform
to a schema of their kind, name what their key names, and have no URL at another origin. Keys of
different kinds start differently, so that an image, whose key names its content, is never
replaced by anything else.
-/

namespace Kippu.Objects

open Doc PersonalData SelfContained

/-- A document that was written: it conforms to a schema of its kind, and has no URL at another
origin. -/
structure Written (w : Site) (kind : String) (document : Document) (object : Object) : Prop where
  json : object = ⟨DOCUMENT_CONTENT_TYPE, w.stringify document.tree⟩
  schema : ∃ schemaId, declaredSchema document.tree kind = some schemaId ∧
    w.validate schemaId document.tree = true
  references : Relocatable w.originOf w.origin document.tree
  size : object.bytes.length ≤ MAX_DOCUMENT_BYTES

inductive Stored (w : Site) (s : State) : String → Object → Prop
  | event : isId event → (s.owner event).isSome → Written w "event" document object →
      hasField document.tree "eventId" event → Stored w s (eventKey event) object
  | «class» : isId classId → s.classes classId = some event →
      Written w "class" document object → hasField document.tree "classId" classId →
      hasField document.tree "eventId" event → Stored w s (classKey classId) object
  | image : isId event → (s.owner event).isSome → ImageOf mediaType bytes →
      bytes.length ≤ MAX_IMAGE_BYTES → mediaType ∈ IMAGE_EXTENSIONS.map Prod.fst →
      Stored w s (imageKey w event mediaType bytes) ⟨mediaType, bytes⟩
  | schema : (schemaId, key) ∈ SCHEMA_KEYS →
      Stored w s key ⟨SCHEMA_CONTENT_TYPE, w.schemaFile schemaId⟩

structure Keeps (s s' : State) : Prop where
  owner : ∀ event, (s.owner event).isSome → (s'.owner event).isSome
  classes : ∀ classId event, s.classes classId = some event → s'.classes classId = some event

variable {w : Site} {s s' s₀ : State} {key event classId mediaType : String} {object : Object}
  {c : Call} {t : Task}

-- ---------------------------------------------------------------------------
-- Keys apart
-- ---------------------------------------------------------------------------

theorem id_length {id : String} (h : isId id) : id.toList.length = 64 := by
  simp only [isId, Bool.and_eq_true, decide_eq_true_eq] at h
  exact h.1

theorem id_digits {id : String} (h : isId id) : ∀ c ∈ id.toList, isHexDigit c := by
  simp only [isId, Bool.and_eq_true] at h
  exact List.all_eq_true.mp h.2

theorem eventKey_toList : (eventKey event).toList =
    "v0/events/".toList ++ (event.toList ++ ".json".toList) := by
  simp [eventKey]

theorem classKey_toList : (classKey classId).toList =
    "v0/classes/".toList ++ (classId.toList ++ ".json".toList) := by
  simp [classKey]

theorem imageKey_toList {bytes : List UInt8} : (imageKey w event mediaType bytes).toList =
    IMAGE_PREFIX.toList ++ (event.toList ++ ('/' :: ((w.sha256 bytes).flatMap hexByte ++
      ('.' :: (extensionOf mediaType).toList)))) := by
  simp [imageKey, List.append_assoc]

theorem eventKey_start : "v0/events/".toList <+: (eventKey event).toList := by
  rw [eventKey_toList]
  exact List.prefix_append _ _

theorem classKey_start : "v0/classes/".toList <+: (classKey classId).toList := by
  rw [classKey_toList]
  exact List.prefix_append _ _

theorem imageKey_start {bytes : List UInt8} :
    IMAGE_PREFIX.toList <+: (imageKey w event mediaType bytes).toList := by
  rw [imageKey_toList]
  exact List.prefix_append _ _

theorem eventKey_inj {event' : String} (h : isId event) (h' : isId event')
    (he : eventKey event = eventKey event') : event = event' := by
  have hl := congrArg String.toList he
  rw [eventKey_toList, eventKey_toList, List.append_cancel_left_eq] at hl
  exact String.toList_inj.mp
    (List.append_inj_left hl ((id_length h).trans (id_length h').symm))

theorem length_flatMap_hexByte (bytes : List UInt8) :
    (bytes.flatMap hexByte).length = 2 * bytes.length := by
  induction bytes with
  | nil => rfl
  | cons b bytes ih =>
    rw [List.flatMap_cons, List.length_append, ih]
    simp only [hexByte, List.length_cons, List.length_nil]
    omega

theorem imageKey_inj (hw : w.Lawful) {event' mediaType' : String} {bytes bytes' : List UInt8}
    (h : isId event) (h' : isId event')
    (he : imageKey w event mediaType bytes = imageKey w event' mediaType' bytes') :
    w.sha256 bytes = w.sha256 bytes' ∧ extensionOf mediaType = extensionOf mediaType' := by
  have hl := congrArg String.toList he
  rw [imageKey_toList, imageKey_toList, List.append_cancel_left_eq] at hl
  have hrest := List.append_inj_right hl ((id_length h).trans (id_length h').symm)
  have htail := (List.cons.inj hrest).2
  have hlen : ((w.sha256 bytes).flatMap hexByte).length =
      ((w.sha256 bytes').flatMap hexByte).length := by
    simp only [length_flatMap_hexByte, hw.hash]
  obtain ⟨hhash, hext⟩ := List.append_inj htail hlen
  exact ⟨flatMap_hexByte_inj hhash, String.toList_inj.mp (List.cons.inj hext).2⟩

-- ---------------------------------------------------------------------------
-- Keys are object keys
-- ---------------------------------------------------------------------------

theorem isHexDigit_plain {c : Char} (h : isHexDigit c) :
    c.isAlphanum ∧ c ≠ '/' ∧ c ≠ '.' := by
  simp only [isHexDigit, Bool.or_eq_true, Bool.and_eq_true, decide_eq_true_eq] at h
  have halnum : c.isAlphanum = (c.isUpper || c.isLower || c.isDigit) := rfl
  refine ⟨?_, ?_, ?_⟩
  · rw [halnum, Bool.or_eq_true, Bool.or_eq_true]
    rcases h with ⟨low, high⟩ | ⟨low, high⟩
    · exact .inr (Bool.and_eq_true_iff.mpr ⟨decide_eq_true low, decide_eq_true high⟩)
    · have hhigh : c.toNat ≤ 122 := by omega
      exact .inl (.inr (Bool.and_eq_true_iff.mpr ⟨decide_eq_true low, decide_eq_true hhigh⟩))
  · rintro rfl
    revert h
    decide
  · rintro rfl
    revert h
    decide

theorem isSegment_digits {cs rest : List Char} (h : ∀ c ∈ cs, isHexDigit c) (hne : cs ≠ [])
    (hrest : rest.all fun c => c.isAlphanum || c = '.' || c = '_' || c = '-') :
    isSegment (cs ++ rest) := by
  obtain ⟨d, ds, rfl⟩ := List.exists_cons_of_ne_nil hne
  have hd := isHexDigit_plain (h d (by simp))
  have hall : ∀ x ∈ d :: ds, x.isAlphanum := fun x hx => (isHexDigit_plain (h x hx)).1
  simp only [isSegment, Bool.and_eq_true]
  refine ⟨⟨⟨by simp, List.all_eq_true.mpr fun x hx => ?_⟩, ?_⟩, ?_⟩
  · rcases List.mem_append.mp hx with hx | hx
    · simp [hall x hx]
    · exact List.all_eq_true.mp hrest x hx
  · exact decide_eq_true fun he => hd.2.2 (List.cons.inj he).1
  · exact decide_eq_true fun he => hd.2.2 (List.cons.inj he).1

def joined : List (List Char) → List Char
  | [] => []
  | [segment] => segment
  | segment :: next :: rest => segment ++ '/' :: joined (next :: rest)

theorem not_slash {segment : List Char} (h : isSegment segment) : '/' ∉ segment := by
  intro hm
  simp only [isSegment, Bool.and_eq_true] at h
  have := List.all_eq_true.mp h.1.1.2 '/' hm
  revert this
  decide

theorem segments_joined {segments : List (List Char)} (hne : segments ≠ [])
    (h : segments.all isSegment) : Pointer.segments (joined segments) = segments := by
  induction segments with
  | nil => exact absurd rfl hne
  | cons segment rest ih =>
    rw [List.all_cons, Bool.and_eq_true] at h
    cases rest with
    | nil => exact Pointer.segments_eq (not_slash h.1)
    | cons next rest =>
      rw [joined, Pointer.segments_append (not_slash h.1), ih (by simp) h.2]

theorem isObjectKey_joined (segments : List (List Char)) (hkey : key.toList = joined segments)
    (hne : segments ≠ []) (h : segments.all isSegment) (hpos : 0 < key.toList.length)
    (hmax : key.toList.length ≤ 1024) : isObjectKey key := by
  have hall : (Pointer.segments key.toList).all isSegment := by
    rw [hkey, segments_joined hne h]
    exact h
  simp only [isObjectKey, Bool.and_eq_true, decide_eq_true_eq]
  exact ⟨⟨hpos, hmax⟩, hall⟩

theorem isSegment_document {id : String} (h : isId id) :
    isSegment (id.toList ++ ".json".toList) :=
  isSegment_digits (id_digits h) (fun he => by have := id_length h; rw [he] at this; cases this)
    (by decide)

theorem isObjectKey_eventKey (h : isId event) : isObjectKey (eventKey event) := by
  have hlen : (eventKey event).toList.length = 79 := by
    rw [eventKey_toList, List.length_append, List.length_append, id_length h]
    rfl
  refine isObjectKey_joined ["v0".toList, "events".toList, event.toList ++ ".json".toList]
    eventKey_toList (by simp) ?_ (by omega) (by omega)
  simp only [List.all_cons, isSegment_document h]
  decide

theorem isObjectKey_classKey (h : isId classId) : isObjectKey (classKey classId) := by
  have hlen : (classKey classId).toList.length = 80 := by
    rw [classKey_toList, List.length_append, List.length_append, id_length h]
    rfl
  refine isObjectKey_joined ["v0".toList, "classes".toList, classId.toList ++ ".json".toList]
    classKey_toList (by simp) ?_ (by omega) (by omega)
  simp only [List.all_cons, isSegment_document h]
  decide

theorem isObjectKey_imageKey (hw : w.Lawful) (h : isId event) {bytes : List UInt8}
    (hm : mediaType ∈ IMAGE_EXTENSIONS.map Prod.fst) :
    isObjectKey (imageKey w event mediaType bytes) := by
  have hhash : ((w.sha256 bytes).flatMap hexByte).length = 64 := by
    rw [length_flatMap_hexByte, hw.hash]
  have hdigits : ∀ c ∈ (w.sha256 bytes).flatMap hexByte, isHexDigit c := by
    intro c hc
    obtain ⟨b, -, hb⟩ := List.mem_flatMap.mp hc
    exact isHexDigit_of_mem_hexByte hb
  have hext : (('.' :: (extensionOf mediaType).toList).all fun c =>
      c.isAlphanum || c = '.' || c = '_' || c = '-') ∧ (extensionOf mediaType).toList.length ≤ 4 := by
    have : ∀ m ∈ IMAGE_EXTENSIONS.map Prod.fst, (('.' :: (extensionOf m).toList).all fun c =>
        c.isAlphanum || c = '.' || c = '_' || c = '-') ∧ (extensionOf m).toList.length ≤ 4 := by
      decide
    exact this mediaType hm
  have hlen : (imageKey w event mediaType bytes).toList.length =
      140 + (extensionOf mediaType).toList.length := by
    rw [imageKey_toList, List.length_append, List.length_append, List.length_cons,
      List.length_append, List.length_cons, hhash, id_length h]
    change 10 + _ = _
    omega
  have hevent : isSegment event.toList := by
    have hne : event.toList ≠ [] := fun he => by
      have := id_length h
      rw [he] at this
      cases this
    have hseg : isSegment (event.toList ++ []) := isSegment_digits (id_digits h) hne rfl
    rwa [List.append_nil] at hseg
  refine isObjectKey_joined ["v0".toList, "images".toList, event.toList,
    (w.sha256 bytes).flatMap hexByte ++ '.' :: (extensionOf mediaType).toList]
    imageKey_toList (by simp) ?_ (by omega) (by omega)
  have himage := isSegment_digits hdigits (fun he => by rw [he] at hhash; cases hhash) hext.1
  simp only [List.all_cons, hevent, himage]
  decide

-- ---------------------------------------------------------------------------
-- What is at a key
-- ---------------------------------------------------------------------------

theorem schemaKey_start : ∀ file ∈ SCHEMA_KEYS,
    "v0/schemas/".toList <+: file.2.toList ∧ isObjectKey file.2 := by
  decide

theorem Stored.isObjectKey (hw : w.Lawful) (h : Stored w s key object) : isObjectKey key := by
  cases h with
  | event hid => exact isObjectKey_eventKey hid
  | «class» hid => exact isObjectKey_classKey hid
  | image hid _ _ _ hm => exact isObjectKey_imageKey hw hid hm
  | schema hmem => exact (schemaKey_start _ hmem).2

theorem Stored.keeps (hk : Keeps s s') (h : Stored w s key object) : Stored w s' key object := by
  cases h with
  | event hid ho hw hf => exact .event hid (hk.owner _ ho) hw hf
  | «class» hid hc hw hf hf' => exact .class hid (hk.classes _ _ hc) hw hf hf'
  | image hid ho hi hs hm => exact .image hid (hk.owner _ ho) hi hs hm
  | schema hmem => exact .schema hmem

structure Inv (w : Site) (s : State) : Prop where
  objects : ∀ key object, s.objects key = some object → Stored w s key object
  tasks : ∀ c key object, s.task c = .putting key object → Stored w s key object
  linked : ∀ event locator, s.linked event = some locator → locator.key = eventKey event

theorem writes_some {locator : Locator} {schemaId : String} {document : Document}
    (h : writes w locator schemaId document = some (key, object)) : key = locator.key ∧
      object = ⟨DOCUMENT_CONTENT_TYPE, w.stringify document.tree⟩ ∧
      w.validate schemaId document.tree = true ∧
      Relocatable w.originOf w.origin document.tree ∧
      object.bytes.length ≤ MAX_DOCUMENT_BYTES := by
  simp only [writes] at h
  split at h
  · cases h
  next hv =>
    split at h
    · cases h
    next hr =>
      split at h
      · cases h
      next hs =>
        obtain ⟨rfl, rfl⟩ := Prod.mk.inj (Option.some.inj h)
        refine ⟨rfl, rfl, by simpa using hv, foreignReferences_eq_nil.mp ?_, by simpa using hs⟩
        exact List.eq_nil_of_length_eq_zero (by omega)

theorem keeps_goto (s : State) (c : Call) (t : Task) : Keeps s (s.goto c t) :=
  ⟨fun _ h => h, fun _ _ h => h⟩

theorem Inv.goto (hi : Inv w s)
    (ht : ∀ key object, t = .putting key object → Stored w s key object) : Inv w (s.goto c t) where
  objects key object h := (hi.objects key object h).keeps (keeps_goto s c t)
  tasks d key object h := by
    simp only [State.goto, Function.update_apply] at h
    split at h
    · exact (ht key object h).keeps (keeps_goto s c t)
    · exact (hi.tasks d key object h).keeps (keeps_goto s c t)
  linked := hi.linked

theorem Inv.puts (hi : Inv w s) (hc : s.task c = .putting key object) : Inv w
    ({ s with objects := Function.update s.objects key (some object) }.goto c .ended) := by
  have hk : Keeps s ({ s with objects := Function.update s.objects key (some object) }.goto c
      .ended) := ⟨fun _ h => h, fun _ _ h => h⟩
  refine ⟨fun key' object' h => ?_, fun d key' object' h => ?_, hi.linked⟩
  · simp only [State.goto, Function.update_apply] at h
    split at h
    next he =>
      subst he
      obtain rfl := Option.some.inj h
      exact (hi.tasks c _ _ hc).keeps hk
    next => exact (hi.objects key' object' h).keeps hk
  · simp only [State.goto, Function.update_apply] at h
    split at h
    · cases h
    · exact (hi.tasks d key' object' h).keeps hk

theorem Inv.locatorKey (hi : Inv w s) (event : String) :
    ((s.linked event).getD (eventLocator event w.origin)).key = eventKey event := by
  cases hl : s.linked event with
  | none => rfl
  | some locator => exact hi.linked event locator hl

theorem Inv.keeps (hi : Inv w s) (hk : Keeps s s') (ho : s'.objects = s.objects)
    (ht : s'.task = s.task)
    (hl : ∀ event locator, s'.linked event = some locator → locator.key = eventKey event) :
    Inv w s' where
  objects key object h := (hi.objects key object (ho ▸ h)).keeps hk
  tasks d key object h := (hi.tasks d key object (ht ▸ h)).keeps hk
  linked := hl

theorem Inv.step (hi : Inv w s) (hs : Step w s s') : Inv w s' := by
  cases hs with
  | created event organiser _ hn =>
    refine hi.keeps ⟨fun event' h => ?_, fun _ _ h => h⟩ rfl rfl hi.linked
    simp only [Function.update_apply]
    split
    · rfl
    · exact h
  | @linked event origin _ hn =>
    refine hi.keeps ⟨fun _ h => h, fun _ _ h => h⟩ rfl rfl fun event' locator h => ?_
    simp only [Function.update_apply] at h
    split at h
    next he =>
      obtain rfl := Option.some.inj h
      exact he ▸ rfl
    next => exact hi.linked event' locator h
  | @defined classId event _ hn =>
    refine hi.keeps ⟨fun _ h => h, fun classId' event' h => ?_⟩ rfl rfl hi.linked
    have hne : classId' ≠ classId := fun he => by rw [he, hn] at h; cases h
    simpa [Function.update_of_ne hne] using h
  | putsEventDocument _ _ hid ho hd hf hwr =>
    obtain ⟨rfl, hobj, hv, hr, hsize⟩ := writes_some hwr
    refine hi.goto fun key object he => ?_
    obtain ⟨rfl, rfl⟩ := Task.putting.inj he
    rw [hi.locatorKey]
    exact .event hid (by rw [ho]; rfl) ⟨hobj, ⟨_, hd, hv⟩, hr, hsize⟩ hf
  | putsClassDocument _ _ hid ho hcl hd hf hf' hwr =>
    obtain ⟨rfl, hobj, hv, hr, hsize⟩ := writes_some hwr
    refine hi.goto fun key object he => ?_
    obtain ⟨rfl, rfl⟩ := Task.putting.inj he
    exact .class hid hcl ⟨hobj, ⟨_, hd, hv⟩, hr, hsize⟩ hf hf'
  | uploadsImage _ hid ho hcheck =>
    obtain ⟨-, -, hup⟩ := checkUpload_ok_iff.mp hcheck
    obtain ⟨hmax, himage⟩ := uploadable_image.mp hup
    refine hi.goto fun key object he => ?_
    obtain ⟨rfl, rfl⟩ := Task.putting.inj he
    exact .image hid (by rw [ho]; rfl) himage hmax hup.type
  | publishes _ hmem =>
    refine hi.goto fun key object he => ?_
    obtain ⟨rfl, rfl⟩ := Task.putting.inj he
    exact .schema hmem
  | puts hc => exact hi.puts hc
  | stops => exact hi.goto fun _ _ he => by cases he

theorem State.Initial.inv (h : s.Initial) : Inv w s where
  objects key object hk := by simp [h.objects] at hk
  tasks c key object hc := by simp [h.task] at hc
  linked event locator hl := by simp [h.linked] at hl

theorem Inv.steps (hi : Inv w s) (hs : Steps w s s') : Inv w s' := by
  induction hs with
  | refl => exact hi
  | step _ h ih => exact ih.step h

-- ---------------------------------------------------------------------------
-- Over any run
-- ---------------------------------------------------------------------------

theorem Stored.start (h : Stored w s key object) :
    ("v0/events/".toList <+: key.toList ∧ ∃ event, key = eventKey event ∧ isId event ∧
      (s.owner event).isSome ∧ ∃ document, Written w "event" document object ∧
        hasField document.tree "eventId" event) ∨
    ("v0/classes/".toList <+: key.toList ∧ ∃ classId event, key = classKey classId ∧
      isId classId ∧ s.classes classId = some event ∧ ∃ document,
        Written w "class" document object ∧ hasField document.tree "classId" classId ∧
          hasField document.tree "eventId" event) ∨
    (IMAGE_PREFIX.toList <+: key.toList ∧ ∃ event, isId event ∧
      key = imageKey w event object.contentType object.bytes ∧
        object.contentType ∈ IMAGE_EXTENSIONS.map Prod.fst) ∨
    "v0/schemas/".toList <+: key.toList := by
  cases h with
  | event hid ho hwr hf =>
    exact .inl ⟨eventKey_start, _, rfl, hid, ho, _, hwr, hf⟩
  | «class» hid hc hwr hf hf' =>
    exact .inr (.inl ⟨classKey_start, _, _, rfl, hid, hc, _, hwr, hf, hf'⟩)
  | image hid _ _ _ hm =>
    exact .inr (.inr (.inl ⟨imageKey_start, _, hid, rfl, hm⟩))
  | schema hmem => exact .inr (.inr (.inr (schemaKey_start _ hmem).1))

theorem apart {start start' cs : List Char} (h : start <+: cs)
    (hne : ¬ start <+: start' ∧ ¬ start' <+: start) : ¬ start' <+: cs := fun h' =>
  (List.prefix_or_prefix_of_prefix h h').elim hne.1 hne.2

theorem Stored.ofEvent (h : Stored w s (eventKey event) object) (hid : isId event) :
    (s.owner event).isSome ∧ ∃ document, Written w "event" document object ∧
      hasField document.tree "eventId" event := by
  have hstart : "v0/events/".toList <+: (eventKey event).toList := eventKey_start
  rcases h.start with ⟨-, event', he, hid', h⟩ | ⟨h', -⟩ | ⟨h', -⟩ | h'
  · rwa [eventKey_inj hid hid' he]
  · exact absurd h' (apart hstart (by decide))
  · exact absurd h' (apart hstart (by decide))
  · exact absurd h' (apart hstart (by decide))

theorem classKey_inj {classId' : String} (h : isId classId) (h' : isId classId')
    (he : classKey classId = classKey classId') : classId = classId' := by
  have hl := congrArg String.toList he
  rw [classKey_toList, classKey_toList, List.append_cancel_left_eq] at hl
  exact String.toList_inj.mp
    (List.append_inj_left hl ((id_length h).trans (id_length h').symm))

theorem Stored.ofClass (h : Stored w s (classKey classId) object) (hid : isId classId) :
    ∃ event, s.classes classId = some event ∧ ∃ document,
      Written w "class" document object ∧ hasField document.tree "classId" classId ∧
        hasField document.tree "eventId" event := by
  have hstart : "v0/classes/".toList <+: (classKey classId).toList := classKey_start
  rcases h.start with ⟨h', -⟩ | ⟨-, classId', event, he, hid', hc, h⟩ | ⟨h', -⟩ | h'
  · exact absurd h' (apart hstart (by decide))
  · obtain rfl := classKey_inj hid hid' he
    exact ⟨event, hc, h⟩
  · exact absurd h' (apart hstart (by decide))
  · exact absurd h' (apart hstart (by decide))

theorem Stored.document (hw : w.Lawful) (h : Stored w s key object) {start : String}
    (hstart : start ∈ DOCUMENT_PREFIXES) (hkey : start.toList <+: key.toList) :
    ∃ document, w.parse object.bytes = some document ∧
      foreignReferences w.originOf w.origin document = [] := by
  have hread : ∀ {kind document}, Written w kind document object →
      ∃ document, w.parse object.bytes = some document ∧
        foreignReferences w.originOf w.origin document = [] := by
    rintro kind document ⟨rfl, ⟨schemaId, -, hv⟩, hr, -⟩
    exact ⟨document.tree, hw.reads document schemaId hv, foreignReferences_eq_nil.mpr hr⟩
  have hnot : ∀ other : List Char, (∀ p ∈ DOCUMENT_PREFIXES, ¬ p.toList <+: other ∧
      ¬ other <+: p.toList) → ¬ other <+: key.toList := fun other h' =>
    apart hkey (h' start hstart)
  rcases h.start with ⟨-, event, -, -, -, document, hwr, -⟩ |
    ⟨-, classId, event, -, -, -, document, hwr, -⟩ | ⟨h', -⟩ | h'
  · exact hread hwr
  · exact hread hwr
  · exact absurd h' (hnot _ (by decide))
  · exact absurd h' (hnot _ (by decide))

theorem Inv.nothingFound (hi : Inv w s) (hw : w.Lawful) (listed : String → List String)
    (hl : ∀ start ∈ DOCUMENT_PREFIXES, ∀ key ∈ listed start, start.toList <+: key.toList) :
    checkStoredDocuments w s.objects listed = [] := by
  rw [checkStoredDocuments, List.flatMap_eq_nil_iff]
  intro start hstart
  rw [List.filterMap_eq_nil_iff]
  intro key hkey
  cases ho : s.objects key with
  | none => rfl
  | some object =>
    obtain ⟨document, hp, hf⟩ := (hi.objects key object ho).document hw hstart
      (hl start hstart key hkey)
    simp [hp, hf]

theorem extensionOf_inj {mediaType' : String} (h : mediaType ∈ IMAGE_EXTENSIONS.map Prod.fst)
    (h' : mediaType' ∈ IMAGE_EXTENSIONS.map Prod.fst)
    (he : extensionOf mediaType = extensionOf mediaType') : mediaType = mediaType' := by
  have : ∀ m ∈ IMAGE_EXTENSIONS.map Prod.fst, ∀ m' ∈ IMAGE_EXTENSIONS.map Prod.fst,
      extensionOf m = extensionOf m' → m = m' := by decide
  exact this mediaType h mediaType' h' he

theorem Stored.ofImage (h : Stored w s key object) (hkey : IMAGE_PREFIX.toList <+: key.toList) :
    ∃ event, isId event ∧
      key = imageKey w event object.contentType object.bytes ∧
        object.contentType ∈ IMAGE_EXTENSIONS.map Prod.fst := by
  rcases h.start with ⟨h', -⟩ | ⟨h', -⟩ | ⟨-, h⟩ | h'
  · exact absurd h' (apart hkey (by decide))
  · exact absurd h' (apart hkey (by decide))
  · exact h
  · exact absurd h' (apart hkey (by decide))

/-- Whatever was written, uploaded and published, in any order: a check of what is stored finds
nothing, whenever it lists it; what is stored at an event's or a class's key is a document of that
event or class, conforming to the schema it declares; the object store never refuses a key; and an
image is replaced by nothing but what has its type and its hash. -/
theorem stored_documents_relocatable (hw : w.Lawful) (h₀ : s₀.Initial) (hs : Steps w s₀ s) :
    (∀ listed, (∀ start ∈ DOCUMENT_PREFIXES, ∀ key ∈ listed start,
      start.toList <+: key.toList) → checkStoredDocuments w s.objects listed = []) ∧
    (∀ event object, isId event → s.objects (eventKey event) = some object →
      (s.owner event).isSome ∧ ∃ document, Written w "event" document object ∧
        hasField document.tree "eventId" event) ∧
    (∀ classId object, isId classId → s.objects (classKey classId) = some object →
      ∃ event, s.classes classId = some event ∧ ∃ document, Written w "class" document object ∧
        hasField document.tree "classId" classId ∧ hasField document.tree "eventId" event) ∧
    (∀ c key object, s.task c = .putting key object → isObjectKey key) ∧
    ∀ s', Steps w s s' → ∀ key x y, IMAGE_PREFIX.toList <+: key.toList →
      s.objects key = some x → s'.objects key = some y →
        y.contentType = x.contentType ∧ w.sha256 y.bytes = w.sha256 x.bytes := by
  have hi := h₀.inv.steps hs
  refine ⟨hi.nothingFound hw, fun event object hid ho => (hi.objects _ _ ho).ofEvent hid,
    fun classId object hid ho => (hi.objects _ _ ho).ofClass hid,
    fun c key object hc => (hi.tasks c key object hc).isObjectKey hw, ?_⟩
  intro s' hs' key x y hkey hx hy
  obtain ⟨e, hid, hek, hm⟩ := (hi.objects key x hx).ofImage hkey
  obtain ⟨e', hid', hek', hm'⟩ := ((hi.steps hs').objects key y hy).ofImage hkey
  obtain ⟨hhash, hext⟩ := imageKey_inj hw hid' hid (hek'.symm.trans hek)
  exact ⟨extensionOf_inj hm' hm hext, hhash⟩

-- ---------------------------------------------------------------------------
-- A document written
-- ---------------------------------------------------------------------------

def sampleId : String := String.ofList (List.replicate 64 '0')

def sampleSchema : String := "https://meta.kippu.rocks/v0/schemas/event/1.0.json"

def sample : Document where
  tree := .object [("$schema", .leaf (.string sampleSchema)), ("eventId", .leaf (.string sampleId)),
    ("name", .leaf (.string "Concert"))]
  distinct := by
    intro path fields h
    cases h with
    | here => simp
    | @key _ name child _ _ hmem hat =>
      simp only [List.mem_cons, Prod.mk.injEq, List.not_mem_nil, or_false] at hmem
      rcases hmem with ⟨-, rfl⟩ | ⟨-, rfl⟩ | ⟨-, rfl⟩ <;> cases hat

def isSample : Json → Bool
  | .object [(key, .leaf (.string value)), (key', .leaf (.string value')),
      (key'', .leaf (.string value''))] =>
    (key = "$schema" && value = sampleSchema) && (key' = "eventId" && value' = sampleId) &&
      (key'' = "name" && value'' = "Concert")
  | _ => false

theorem eq_sample {t : Json} (h : isSample t) : t = sample.tree := by
  unfold isSample at h
  split at h
  · simp only [Bool.and_eq_true, decide_eq_true_eq] at h
    obtain ⟨⟨⟨rfl, rfl⟩, rfl, rfl⟩, rfl, rfl⟩ := h
    rfl
  · cases h

def sampleText : List UInt8 :=
  ascii ("\x7b\"$schema\":\"" ++ sampleSchema ++ "\",\"eventId\":\"" ++ sampleId ++
    "\",\"name\":\"Concert\"\x7d")

/-- A site whose schemas accept this document alone. -/
def sampleSite : Site where
  originOf _ := some "https://meta.kippu.rocks"
  origin := "https://meta.kippu.rocks"
  stringify _ := sampleText
  parse _ := some sample.tree
  validate _ := isSample
  sha256 bytes := (bytes ++ List.replicate 32 0).take 32
  schemaFile id := ascii ("\x7b\"$id\":\"" ++ id ++ "\"\x7d")

theorem sampleSite_lawful : sampleSite.Lawful where
  reads _ _ hv := congrArg some (eq_sample hv).symm
  hash _ := by simp [sampleSite]

def State.start : State where
  objects _ := none
  owner _ := none
  classes _ := none
  linked _ := none
  task _ := .idle

theorem State.start_initial : State.start.Initial :=
  ⟨fun _ => rfl, fun _ => rfl, fun _ => rfl, fun _ => rfl, fun _ => rfl⟩

theorem sample_writes : writes sampleSite (eventLocator sampleId sampleSite.origin) sampleSchema
    sample = some (eventKey sampleId, ⟨DOCUMENT_CONTENT_TYPE, sampleText⟩) := by
  have hv : sampleSite.validate sampleSchema sample.tree = true := by decide
  have hr : foreignReferences sampleSite.originOf sampleSite.origin sample.tree = [] :=
    foreignReferences_eq_nil.mpr fun _ _ _ => by simp [isForeign, sampleSite]
  have hs : ¬ (sampleSite.stringify sample.tree).length > MAX_DOCUMENT_BYTES := by
    decide +kernel
  simp only [writes, hv, hr]
  rw [if_neg (by simp), if_neg (by simp), if_neg hs]
  have hb : sampleSite.stringify sample.tree = sampleText := by rw [sampleSite]
  rw [hb, eventLocator]

def sampleImage : String := "iVBORw0KGgo="

/-- An event's document is put between the checks of an image and its put; its schema is published
too. -/
theorem stored_documents_relocatable_sample : ∃ s, Steps sampleSite State.start s ∧
    s.objects (eventKey sampleId) = some ⟨DOCUMENT_CONTENT_TYPE, sampleText⟩ ∧
    s.objects "v0/schemas/event/1.0.json" =
      some ⟨SCHEMA_CONTENT_TYPE, sampleSite.schemaFile sampleSchema⟩ ∧
    s.objects (imageKey sampleSite sampleId "image/png" PNG_SIGNATURE) =
      some ⟨"image/png", PNG_SIGNATURE⟩ ∧
    checkStoredDocuments sampleSite s.objects
      (fun start => if start = "v0/events/" then [eventKey sampleId] else []) = [] := by
  have hid : isId sampleId := by decide
  have h₁ : Steps sampleSite State.start _ :=
    Steps.refl.step (Step.created sampleId 1 hid rfl)
  have howner : (Function.update State.start.owner sampleId (some 1)) sampleId = some 1 := by simp
  have hschema : declaredSchema sample.tree "event" = some sampleSchema := by decide
  have himage : checkImage "image/png" sampleImage = .ok PNG_SIGNATURE := by decide +kernel
  have h₂ := h₁.step (Step.uploadsImage (c := 1) rfl hid howner himage)
  have h₃ := h₂.step (Step.putsEventDocument (c := 0) sample rfl hid howner hschema (by decide)
    sample_writes)
  have h₄ := h₃.step (Step.puts (c := 0) (by simp [State.goto]; rfl) (isObjectKey_eventKey hid))
  have hpublished : (sampleSchema, "v0/schemas/event/1.0.json") ∈ SCHEMA_KEYS := by decide
  have h₅ := h₄.step (Step.publishes (c := 2) (by simp [State.goto]; rfl) hpublished rfl)
  have h₆ := h₅.step (Step.puts (c := 2) (by simp [State.goto]; rfl)
    (schemaKey_start _ hpublished).2)
  have himageKey : isObjectKey (imageKey sampleSite sampleId "image/png" PNG_SIGNATURE) :=
    isObjectKey_imageKey sampleSite_lawful hid (by decide)
  have h₇ := h₆.step (Step.puts (c := 1)
    (show _ = Task.putting _ ⟨"image/png", PNG_SIGNATURE⟩ by simp [State.goto]) himageKey)
  have hevent : eventKey sampleId ≠ "v0/schemas/event/1.0.json" := by decide
  have hevent' : eventKey sampleId ≠ imageKey sampleSite sampleId "image/png" PNG_SIGNATURE := by
    decide
  have hfile : "v0/schemas/event/1.0.json" ≠
      imageKey sampleSite sampleId "image/png" PNG_SIGNATURE := by
    decide
  refine ⟨_, h₇, ?_, ?_, by simp [State.goto],
    (stored_documents_relocatable sampleSite_lawful State.start_initial h₇).1 _ ?_⟩
  · simp [State.goto, Function.update_of_ne hevent, Function.update_of_ne hevent']
  · simp [State.goto, Function.update_of_ne hfile]
  intro start _ key hkey
  split at hkey
  next he =>
    rw [he, List.mem_singleton.mp hkey, eventKey_toList]
    exact List.prefix_append _ _
  next => cases hkey

end Kippu.Objects
