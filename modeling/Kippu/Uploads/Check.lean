import Kippu.Base64
import Kippu.Utf16
import Mathlib.Algebra.Group.Nat.Defs

/-!
# Uploads

An image of an event's documents, and the artefact of a capacity proof, are uploaded as base64
text with a declared type. The bytes must be of that type by their signature, and within the
limit; that is all there is to it, whatever checks come first (`checkUpload_ok_iff`).
-/

namespace Kippu

def startsWith (bytes start : List UInt8) (at_ : ℕ) : Bool := start.isPrefixOf (bytes.drop at_)

def PNG_SIGNATURE : List UInt8 := [0x89, 0x50, 0x4e, 0x47, 0x0d, 0x0a, 0x1a, 0x0a]

def JPEG_SIGNATURE : List UInt8 := [0xff, 0xd8, 0xff]

def PDF_SIGNATURE : List UInt8 := [0x25, 0x50, 0x44, 0x46, 0x2d]

def ascii (text : String) : List UInt8 := text.toList.map fun c => UInt8.ofNat c.toNat

/-- Decodes an upload, and checks it against its types and its limit. -/
def checkUpload (noun : String) (types : List String) (sniff : List UInt8 → Option String)
    (max : ℕ) (mediaType data : String) : Except String (List UInt8) :=
  let tooLarge := "an " ++ noun ++ " is at most " ++ toString max ++ " bytes"
  if mediaType ∉ types then
    .error ("an " ++ noun ++ " is one of " ++ ", ".intercalate types ++ ", not " ++ mediaType)
  else if (Utf16.encode data.toList).length > (max + 2) / 3 * 4 then .error tooLarge
  else if !Base64.wellFormed data.toList then
    .error ("the " ++ noun ++ " data is not standard base64")
  else
    let bytes := Base64.decode data.toList
    if bytes.length = 0 then .error ("the " ++ noun ++ " is empty")
    else if bytes.length > max then .error tooLarge
    else if sniff bytes ≠ some mediaType then
      .error ("the " ++ noun ++ "'s bytes are not " ++ mediaType)
    else .ok bytes

-- ---------------------------------------------------------------------------
-- Images
-- ---------------------------------------------------------------------------

def MAX_IMAGE_BYTES : ℕ := 2 * 1024 * 1024

def IMAGE_EXTENSIONS : List (String × String) :=
  [("image/jpeg", "jpg"), ("image/png", "png"), ("image/webp", "webp")]

def IMAGE_PREFIX : String := "v0/images/"

def sniffImageType (bytes : List UInt8) : Option String :=
  if startsWith bytes JPEG_SIGNATURE 0 then some "image/jpeg"
  else if startsWith bytes PNG_SIGNATURE 0 then some "image/png"
  else if startsWith bytes (ascii "RIFF") 0 && startsWith bytes (ascii "WEBP") 8 then
    some "image/webp"
  else none

def checkImage : String → String → Except String (List UInt8) :=
  checkUpload "image" (IMAGE_EXTENSIONS.map Prod.fst) sniffImageType MAX_IMAGE_BYTES

-- ---------------------------------------------------------------------------
-- Artefacts
-- ---------------------------------------------------------------------------

def MAX_PROOF_ARTEFACT_BYTES : ℕ := 2 * 1024 * 1024

def PROOF_ARTEFACT_MEDIA_TYPES : List String := ["application/pdf", "image/jpeg", "image/png"]

def sniffArtefactType (bytes : List UInt8) : Option String :=
  if startsWith bytes PDF_SIGNATURE 0 then some "application/pdf"
  else if startsWith bytes JPEG_SIGNATURE 0 then some "image/jpeg"
  else if startsWith bytes PNG_SIGNATURE 0 then some "image/png"
  else none

def checkArtefact : String → String → Except String (List UInt8) :=
  checkUpload "artefact" PROOF_ARTEFACT_MEDIA_TYPES sniffArtefactType MAX_PROOF_ARTEFACT_BYTES

-- ---------------------------------------------------------------------------
-- What is accepted
-- ---------------------------------------------------------------------------

variable {noun mediaType data : String} {types : List String}
  {sniff : List UInt8 → Option String} {max : ℕ} {bytes : List UInt8}

structure Uploadable (types : List String) (sniff : List UInt8 → Option String) (max : ℕ)
    (mediaType : String) (bytes : List UInt8) : Prop where
  type : mediaType ∈ types
  size : 0 < bytes.length ∧ bytes.length ≤ max
  signature : sniff bytes = some mediaType

theorem lt_of_wellFormed {cs : List Char} {c : Char} (h : Base64.wellFormed cs) (hc : c ∈ cs) :
    c.toNat < 128 := by
  rcases Base64.mem_wellFormed h hc with hd | rfl
  · rcases Base64.isDigit_iff.mp hd with h | h | h | rfl | rfl <;> first | omega | decide
  · decide

/-- Text in ASCII has a code unit for each character. -/
theorem length_encode_of_lt {cs : List Char} (h : ∀ c ∈ cs, c.toNat < 128) :
    (Utf16.encode cs).length = cs.length := by
  induction cs with
  | nil => rfl
  | cons c cs ih =>
    have hc : Utf16.codeUnits c = [c.toNat] := if_pos (by have := h c (by simp); omega)
    have hrest := ih fun d hd => h d (by simp [hd])
    simp only [Utf16.encode] at hrest
    simp [Utf16.encode, hc, hrest]

/-- No check refuses what is within the limits. -/
theorem checkUpload_ok_iff : checkUpload noun types sniff max mediaType data = .ok bytes ↔
    Base64.wellFormed data.toList ∧ Base64.decode data.toList = bytes ∧
      Uploadable types sniff max mediaType bytes := by
  constructor
  · intro h
    unfold checkUpload at h
    simp only [ite_not] at h
    split at h
    next htype =>
      split at h
      · cases h
      · split at h
        · cases h
        next hwell =>
          split at h
          · cases h
          · split at h
            · cases h
            · split at h
              next hsniff =>
                obtain rfl := Except.ok.inj h
                exact ⟨by simpa using hwell, rfl, htype, ⟨by omega, by omega⟩, hsniff⟩
              · cases h
    · cases h
  · rintro ⟨hwell, rfl, htype, ⟨hpos, hmax⟩, hsniff⟩
    have hlen := Base64.length_decode hwell
    have hunits := length_encode_of_lt fun c hc => lt_of_wellFormed hwell hc
    have hshort : ¬ (Utf16.encode data.toList).length > (max + 2) / 3 * 4 := by omega
    simp only [checkUpload]
    rw [if_neg (not_not_intro htype), if_neg hshort, if_neg (by simp [hwell]),
      if_neg (by omega), if_neg (by omega), if_neg (not_not_intro hsniff)]

theorem checkUpload_encode : checkUpload noun types sniff max mediaType
      (String.ofList (Base64.encode bytes)) = .ok bytes ↔
    Uploadable types sniff max mediaType bytes := by
  rw [checkUpload_ok_iff, String.toList_ofList, Base64.decode_encode]
  simp [Base64.wellFormed_encode]

-- ---------------------------------------------------------------------------
-- Signatures
-- ---------------------------------------------------------------------------

/-- Bytes start with each of two signatures, if one of these starts with the other. -/
theorem startsWith_both {start start' : List UInt8} (h : startsWith bytes start 0)
    (h' : startsWith bytes start' 0) : start <+: start' ∨ start' <+: start := by
  simp only [startsWith, List.drop_zero, List.isPrefixOf_iff_prefix] at h h'
  exact List.prefix_or_prefix_of_prefix h h'

theorem not_startsWith {start start' : List UInt8} (h : startsWith bytes start 0)
    (hne : ¬ start <+: start' ∧ ¬ start' <+: start) : ¬ startsWith bytes start' 0 := fun h' =>
  (startsWith_both h h').elim hne.1 hne.2

def ImageOf (mediaType : String) (bytes : List UInt8) : Prop :=
  mediaType = "image/jpeg" ∧ startsWith bytes JPEG_SIGNATURE 0 ∨
  mediaType = "image/png" ∧ startsWith bytes PNG_SIGNATURE 0 ∨
  mediaType = "image/webp" ∧ startsWith bytes (ascii "RIFF") 0 ∧ startsWith bytes (ascii "WEBP") 8

def ArtefactOf (mediaType : String) (bytes : List UInt8) : Prop :=
  mediaType = "application/pdf" ∧ startsWith bytes PDF_SIGNATURE 0 ∨
  mediaType = "image/jpeg" ∧ startsWith bytes JPEG_SIGNATURE 0 ∨
  mediaType = "image/png" ∧ startsWith bytes PNG_SIGNATURE 0

/-- In whatever order the signatures are looked at. -/
theorem sniffImageType_iff : sniffImageType bytes = some mediaType ↔ ImageOf mediaType bytes := by
  have hpng : startsWith bytes PNG_SIGNATURE 0 → ¬ startsWith bytes JPEG_SIGNATURE 0 := fun h =>
    not_startsWith h (by decide)
  have hjpeg : startsWith bytes (ascii "RIFF") 0 → ¬ startsWith bytes JPEG_SIGNATURE 0 := fun h =>
    not_startsWith h (by decide)
  have hriff : startsWith bytes (ascii "RIFF") 0 → ¬ startsWith bytes PNG_SIGNATURE 0 := fun h =>
    not_startsWith h (by decide)
  unfold sniffImageType ImageOf
  grind

theorem sniffArtefactType_iff :
    sniffArtefactType bytes = some mediaType ↔ ArtefactOf mediaType bytes := by
  have hjpeg : startsWith bytes JPEG_SIGNATURE 0 → ¬ startsWith bytes PDF_SIGNATURE 0 := fun h =>
    not_startsWith h (by decide)
  have hpng : startsWith bytes PNG_SIGNATURE 0 → ¬ startsWith bytes PDF_SIGNATURE 0 := fun h =>
    not_startsWith h (by decide)
  have hboth : startsWith bytes PNG_SIGNATURE 0 → ¬ startsWith bytes JPEG_SIGNATURE 0 := fun h =>
    not_startsWith h (by decide)
  unfold sniffArtefactType ArtefactOf
  grind

theorem length_of_startsWith {start : List UInt8} (h : startsWith bytes start 0) :
    start.length ≤ bytes.length := by
  simp only [startsWith, List.drop_zero, List.isPrefixOf_iff_prefix] at h
  exact h.length_le

theorem uploadable_image : Uploadable (IMAGE_EXTENSIONS.map Prod.fst) sniffImageType max mediaType
    bytes ↔ bytes.length ≤ max ∧ ImageOf mediaType bytes := by
  refine ⟨fun h => ⟨h.size.2, sniffImageType_iff.mp h.signature⟩, fun ⟨hmax, h⟩ => ?_⟩
  rcases id h with ⟨rfl, hs⟩ | ⟨rfl, hs⟩ | ⟨rfl, hs, -⟩ <;>
    exact ⟨by decide, ⟨Nat.lt_of_lt_of_le (by decide) (length_of_startsWith hs), hmax⟩,
      sniffImageType_iff.mpr h⟩

theorem uploadable_artefact : Uploadable PROOF_ARTEFACT_MEDIA_TYPES sniffArtefactType max mediaType
    bytes ↔ bytes.length ≤ max ∧ ArtefactOf mediaType bytes := by
  refine ⟨fun h => ⟨h.size.2, sniffArtefactType_iff.mp h.signature⟩, fun ⟨hmax, h⟩ => ?_⟩
  rcases id h with ⟨rfl, hs⟩ | ⟨rfl, hs⟩ | ⟨rfl, hs⟩ <;>
    exact ⟨by decide, ⟨Nat.lt_of_lt_of_le (by decide) (length_of_startsWith hs), hmax⟩,
      sniffArtefactType_iff.mpr h⟩

-- ---------------------------------------------------------------------------
-- Uploads
-- ---------------------------------------------------------------------------

/-- What the bytes of an accepted upload are written as is accepted as the same bytes. -/
theorem checkUpload_again (h : checkUpload noun types sniff max mediaType data = .ok bytes) :
    checkUpload noun types sniff max mediaType (String.ofList (Base64.encode bytes)) = .ok bytes ∧
      (String.ofList (Base64.encode bytes) = data ↔ Base64.zeroEnded data.toList) := by
  obtain ⟨hwell, rfl, hup⟩ := checkUpload_ok_iff.mp h
  refine ⟨checkUpload_encode.mpr hup, ?_⟩
  rw [← Base64.encode_decode_iff hwell, ← String.ofList_inj, String.ofList_toList]

/-- An image or an artefact is accepted exactly when its data is base64 of bytes within the limit
that have the signature of the declared type, and as those bytes. Written as base64 again, they are
accepted again; that is the data that was sent when no bit of it is left over. -/
theorem uploads_exact (mediaType data : String) (bytes : List UInt8) :
    (checkImage mediaType data = .ok bytes ↔ Base64.wellFormed data.toList ∧
      Base64.decode data.toList = bytes ∧ bytes.length ≤ MAX_IMAGE_BYTES ∧
        ImageOf mediaType bytes) ∧
    (checkArtefact mediaType data = .ok bytes ↔ Base64.wellFormed data.toList ∧
      Base64.decode data.toList = bytes ∧ bytes.length ≤ MAX_PROOF_ARTEFACT_BYTES ∧
        ArtefactOf mediaType bytes) ∧
    ∀ check, (check = checkImage ∨ check = checkArtefact) → check mediaType data = .ok bytes →
      check mediaType (String.ofList (Base64.encode bytes)) = .ok bytes ∧
        (String.ofList (Base64.encode bytes) = data ↔ Base64.zeroEnded data.toList) := by
  refine ⟨?_, ?_, fun check hcheck h => ?_⟩
  · rw [checkImage, checkUpload_ok_iff, uploadable_image]
  · rw [checkArtefact, checkUpload_ok_iff, uploadable_artefact]
  · rcases hcheck with rfl | rfl <;> exact checkUpload_again h

/-- `QR==` is accepted, and is not what its byte is written as. -/
example : Base64.wellFormed "QR==".toList ∧
    Base64.encode (Base64.decode "QR==".toList) = "QQ==".toList := by decide

end Kippu
