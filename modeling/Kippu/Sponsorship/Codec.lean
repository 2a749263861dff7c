import Kippu.Sponsorship.Format

/-!
# The codec of sponsorships

The bytes accepted are encodings of sponsorships, each with one sponsorship, and what
a sponsor signs names one target and one cost. All of it rests on the frame: a target
and a cost that have one can be read off it, and no other frame gives them.

Every encoding in an array of its own is accepted; one in a Node `Buffer` is if the
decoder reads the same fields from the start of the buffer behind it.
-/

namespace Kippu.Sponsorship

open Scale

theorem bind_ok {x : Except ε α} {f : α → Except ε β} :
    (x >>= f) = .ok b ↔ ∃ a, x = .ok a ∧ f a = .ok b := by
  cases x <;> simp [bind, Except.bind]

theorem unless_ok [Decidable p] {x : Except ε α} {f : PUnit → Except ε α} :
    (if p then throw e >>= f else x) = .ok a ↔ ¬p ∧ x = .ok a := by
  split
  next h => simp [h, bind, Except.bind, throw, throwThe, MonadExceptOf.throw]
  next h => simp [h]

theorem mapError_ok {x : Except ε α} {f : ε → ε'} : x.mapError f = .ok a ↔ x = .ok a := by
  cases x <;> simp [Except.mapError]

theorem mapError_error {x : Except ε α} {f : ε → ε'} :
    x.mapError f = .error e ↔ ∃ e', x = .error e' ∧ f e' = e := by
  cases x <;> simp [Except.mapError]

theorem bind_error {x : Except ε α} {f : α → Except ε β} :
    x >>= f = .error e ↔ x = .error e ∨ ∃ a, x = .ok a ∧ f a = .error e := by
  cases x <;> simp [bind, Except.bind]

-- ---------------------------------------------------------------------------
-- Frames
-- ---------------------------------------------------------------------------

theorem boundId_ok {id : Bytes} :
    boundId hex = .ok id ↔
      id.length = BOUND_ID_LENGTH ∧ hex = String.ofList (id.flatMap hexByte) := by
  constructor
  · intro h
    unfold boundId at h
    split at h
    next hdigits =>
      split at h
      next => simp at h
      next bs hbytes =>
        split at h
        next hlength =>
          simp only [Except.ok.injEq] at h
          subst h
          have hflat := flatMap_hexByte_of_hexBytes (List.all_eq_true.mp hdigits) hbytes
          exact ⟨hlength, by rw [hflat, String.ofList_toList]⟩
        next => simp at h
    next => simp at h
  · rintro ⟨hlength, rfl⟩
    have hdigits : (id.flatMap hexByte).all isHexDigit := by
      rw [List.all_eq_true]
      intro c hc
      obtain ⟨b, _, hb⟩ := List.mem_flatMap.mp hc
      exact isHexDigit_of_mem_hexByte hb
    simp [boundId, hdigits, hexBytes_flatMap, hlength]

theorem frameOf_ok :
    frameOf target cost = .ok frame ↔
      (0 ≤ cost ∧ cost < 2 ^ 128) ∧ boundId target.boundId = .ok frame.id ∧
      target.digest.length = INPUT_DIGEST_LENGTH ∧
      frame = ⟨SPONSORSHIP_FORMAT_VERSION, SIGNED_INPUT_KIND_INDEX target.kind, frame.id,
        target.digest, cost⟩ := by
  have hrange : ¬(cost < 0 ∨ cost > MAX_NOTIONAL_COST) ↔ 0 ≤ cost ∧ cost < 2 ^ 128 := by
    unfold MAX_NOTIONAL_COST
    omega
  simp only [frameOf, unless_ok, bind_ok, hrange, ne_eq, not_not]
  constructor
  · rintro ⟨hcost, id, hid, hdigest, h⟩
    cases h
    exact ⟨hcost, hid, hdigest, rfl⟩
  · rintro ⟨hcost, hid, hdigest, hframe⟩
    exact ⟨hcost, frame.id, hid, hdigest, by rw [← hframe]; rfl⟩

theorem frameOf_valid (h : frameOf target cost = .ok frame) : frame.Valid := by
  obtain ⟨⟨hlow, hhigh⟩, hid, hdigest, hframe⟩ := frameOf_ok.mp h
  have hbound : (2 : ℤ) ^ 128 ≤ 256 ^ 67 := by decide
  have hkind : SIGNED_INPUT_KIND_INDEX target.kind < 256 := by
    cases target.kind <;> decide
  rw [hframe]
  exact ⟨by simp [SPONSORSHIP_FORMAT_VERSION], hkind, (boundId_ok.mp hid).1, hdigest, hlow,
    lt_of_lt_of_le hhigh hbound⟩

theorem valueOf_frameOf (h : frameOf target cost = .ok frame) :
    valueOf frame authorisation = .ok ⟨target, cost, authorisation⟩ := by
  obtain ⟨_, hid, _, hframe⟩ := frameOf_ok.mp h
  obtain ⟨-, hhex⟩ := boundId_ok.mp hid
  rw [hframe]
  cases target with
  | command operationId digest =>
    simp only [SponsorshipTarget.boundId] at hhex
    simp [valueOf, SponsorshipTarget.kind, SponsorshipTarget.digest, ← hhex, bind, Except.bind, pure,
      Except.pure]
  | accessPass passId digest =>
    simp only [SponsorshipTarget.boundId] at hhex
    simp [valueOf, SponsorshipTarget.kind, SponsorshipTarget.digest, ← hhex, bind, Except.bind, pure,
      Except.pure, SIGNED_INPUT_KIND_INDEX]

theorem frameOf_valueOf {value : SponsorshipValue}
    (h : valueOf frame' authorisation = .ok value)
    (hframe : frameOf value.target value.notionalCost = .ok frame) :
    frame = frame' ∧ value.authorisation = authorisation := by
  obtain ⟨-, hid, -, hfields⟩ := frameOf_ok.mp hframe
  obtain ⟨-, hhex⟩ := boundId_ok.mp hid
  have hsame : ∀ id : Bytes, String.ofList (id.flatMap hexByte) =
      String.ofList (frame.id.flatMap hexByte) → id = frame.id := by
    intro id hid
    have hbytes := congrArg (fun hex => hexBytes hex.toList) hid
    simpa [hexBytes_flatMap] using hbytes
  obtain ⟨version, kind, id, digest, cost⟩ := frame'
  simp only [valueOf, unless_ok, ne_eq, not_not] at h
  obtain ⟨rfl, h⟩ := h
  split at h
  next hkind =>
    cases h
    refine ⟨hfields.trans ?_, rfl⟩
    rw [← hsame id hhex, hkind]
    rfl
  next =>
    split at h
    next hkind =>
      cases h
      refine ⟨hfields.trans ?_, rfl⟩
      rw [← hsame id hhex, hkind]
      rfl
    next => cases h

theorem frameOf_inj (h : frameOf target cost = .ok frame)
    (h' : frameOf target' cost' = .ok frame) : target = target' ∧ cost = cost' := by
  have hvalue : valueOf frame ⟨[], by decide⟩ = _ := valueOf_frameOf h
  rw [valueOf_frameOf h'] at hvalue
  simp only [Except.ok.injEq, SponsorshipValue.mk.injEq] at hvalue
  exact ⟨hvalue.1.symm, hvalue.2.1.symm⟩

theorem frameOf_of_valid {value : SponsorshipValue} (h : value.Valid) :
    ∃ frame, frameOf value.target value.notionalCost = .ok frame := by
  obtain ⟨id, hlength, hhex⟩ := h.id
  exact ⟨⟨_, _, id, _, _⟩, frameOf_ok.mpr ⟨h.cost, boundId_ok.mpr ⟨hlength, hhex⟩, h.digest, rfl⟩⟩

-- ---------------------------------------------------------------------------
-- Sponsorships
-- ---------------------------------------------------------------------------

theorem encodeSponsorship_ok :
    encodeSponsorship value = .ok b ↔ ∃ frame,
      frameOf value.target value.notionalCost = .ok frame ∧
      sponsorshipCodec.enc (frame, value.authorisation) = b := by
  simp [encodeSponsorship, bind_ok, pure, Except.pure]

theorem sponsorshipSigningPayload_ok :
    sponsorshipSigningPayload target cost = .ok payload ↔ ∃ frame,
      frameOf target cost = .ok frame ∧
      SPONSORSHIP_SIGNING_TAG ++ unsignedCodec.enc frame = payload := by
  simp [sponsorshipSigningPayload, bind_ok, pure, Except.pure]

/-- What a sponsor signs names one target and one cost. -/
theorem sponsorshipSigningPayload_inj (h : sponsorshipSigningPayload target cost = .ok payload)
    (h' : sponsorshipSigningPayload target' cost' = .ok payload) :
    target = target' ∧ cost = cost' := by
  obtain ⟨frame, hframe, rfl⟩ := sponsorshipSigningPayload_ok.mp h
  obtain ⟨frame', hframe', henc⟩ := sponsorshipSigningPayload_ok.mp h'
  have hsame : frame' = frame :=
    unsignedCodec.enc_inj (frameOf_valid hframe') (frameOf_valid hframe)
      (List.append_cancel_left henc)
  subst hsame
  exact frameOf_inj hframe hframe'

@[simp] theorem bytes_of (b : Bytes) : (Uint8Array.of b).bytes = b := by
  simp [Uint8Array.of, Uint8Array.bytes]

theorem slice_plain {array : Uint8Array} (h : array.nodeBuffer = false) :
    array.slice.buffer = array.bytes := by
  simp [Uint8Array.slice, h, Uint8Array.of]

theorem decodeSponsorship_ok {array : Uint8Array} :
    decodeSponsorship dec array = .ok value ↔
      (∃ frame authorisation, dec array.slice.buffer = .ok (frame, authorisation) ∧
        valueOf frame authorisation = .ok value) ∧
      encodeSponsorship value = .ok array.bytes := by
  simp only [decodeSponsorship, bind_ok, mapError_ok, unless_ok, ne_eq, not_not]
  constructor
  · rintro ⟨value', ⟨⟨frame, authorisation⟩, hdec, hvalue⟩, b', henc, rfl, h⟩
    cases h
    exact ⟨⟨frame, authorisation, hdec, hvalue⟩, henc⟩
  · rintro ⟨⟨frame, authorisation, hdec, hvalue⟩, henc⟩
    exact ⟨value, ⟨(frame, authorisation), hdec, hvalue⟩, _, henc, rfl, rfl⟩

/-- An encoding is read back where the decoder reads it, and only there. -/
theorem decodeSponsorship_iff {dec : FrameDecoder} {array : Uint8Array} (hdec : dec.ReadsBack)
    (h : encodeSponsorship value = .ok array.bytes) :
    decodeSponsorship dec array = .ok value ↔ dec array.slice.buffer = dec array.bytes := by
  obtain ⟨frame, hframe, henc⟩ := encodeSponsorship_ok.mp h
  have hread : dec array.bytes = .ok (frame, value.authorisation) :=
    henc ▸ hdec frame value.authorisation (frameOf_valid hframe)
  rw [hread, decodeSponsorship_ok]
  constructor
  · rintro ⟨⟨frame', authorisation, hbuffer, hvalue⟩, -⟩
    obtain ⟨rfl, rfl⟩ := frameOf_valueOf hvalue hframe
    exact hbuffer
  · intro hbuffer
    exact ⟨⟨frame, value.authorisation, hbuffer, valueOf_frameOf hframe⟩, h⟩

theorem decodeSponsorship_encodeSponsorship {dec : FrameDecoder} (hdec : dec.ReadsBack)
    (h : encodeSponsorship value = .ok b) : decodeSponsorship dec (.of b) = .ok value :=
  (decodeSponsorship_iff hdec (by simpa using h)).mpr (congrArg dec (slice_plain rfl))

theorem decodeSponsorship_error {array : Uint8Array}
    (h : decodeSponsorship dec array = .error thrown) :
    ∃ message, thrown = .decodeError message := by
  unfold decodeSponsorship at h
  rcases bind_error.mp h with hread | ⟨value, -, h⟩
  · obtain ⟨e, -, rfl⟩ := mapError_error.mp hread
    cases e <;> simp [asDecodeError]
  · rcases bind_error.mp h with hencoded | ⟨b', -, h⟩
    · obtain ⟨e, -, rfl⟩ := mapError_error.mp hencoded
      exact ⟨_, rfl⟩
    · split at h
      · cases h
        exact ⟨_, rfl⟩
      · cases h

/-- Where the decoder starts, it reads what it would from the array's own bytes. -/
def FrameDecoder.Reads (dec : FrameDecoder) (array : Uint8Array) : Prop :=
  dec array.slice.buffer = dec array.bytes

theorem reads_plain {dec : FrameDecoder} {array : Uint8Array} (h : array.nodeBuffer = false) :
    dec.Reads array :=
  congrArg dec (slice_plain h)

/-- Every valid sponsorship is read back; an array is accepted exactly if its bytes encode what is
read from them, exactly if they are no encoding or the decoder reads them, as it does in every plain
array; a refusal is a `DecodeError`; and what is signed names one target and one cost. -/
theorem sponsorship_codec {dec : FrameDecoder} (hdec : dec.ReadsBack) :
    (∀ value : SponsorshipValue, value.Valid →
      ∃ b, encodeSponsorship value = .ok b ∧ decodeSponsorship dec (.of b) = .ok value) ∧
    (∀ array : Uint8Array,
      (∀ value, decodeSponsorship dec array = .ok value ↔
        encodeSponsorship value = .ok array.bytes) ↔
      ((∃ value, encodeSponsorship value = .ok array.bytes) → dec.Reads array)) ∧
    (∀ array : Uint8Array, array.nodeBuffer = false → dec.Reads array) ∧
    (∀ array thrown, decodeSponsorship dec array = .error thrown →
      ∃ message, thrown = .decodeError message) ∧
    (∀ target cost target' cost' payload,
      sponsorshipSigningPayload target cost = .ok payload →
      sponsorshipSigningPayload target' cost' = .ok payload →
      target = target' ∧ cost = cost') := by
  refine ⟨?_, ?_, fun array => reads_plain, ?_, ?_⟩
  · intro value hvalid
    obtain ⟨frame, hframe⟩ := frameOf_of_valid hvalid
    have henc := encodeSponsorship_ok.mpr ⟨frame, hframe, rfl⟩
    exact ⟨_, henc, decodeSponsorship_encodeSponsorship hdec henc⟩
  · intro array
    constructor
    · rintro haccepts ⟨value, henc⟩
      exact (decodeSponsorship_iff hdec henc).mp ((haccepts value).mpr henc)
    · intro hreads value
      constructor
      · intro h
        exact (decodeSponsorship_ok.mp h).2
      · intro henc
        exact (decodeSponsorship_iff hdec henc).mpr (hreads ⟨value, henc⟩)
  · intro array thrown h
    exact decodeSponsorship_error h
  · intro target cost target' cost' payload h h'
    exact sponsorshipSigningPayload_inj h h'

/-- The decoder that the codec itself has; it leaves what follows a frame alone. -/
def frameDecoder : FrameDecoder := fun b =>
  match sponsorshipCodec.dec b with
  | none => .error "unexpected end of input"
  | some (fields, _) => .ok fields

theorem frameDecoder_readsBack : frameDecoder.ReadsBack := by
  intro frame authorisation h
  have hdec : sponsorshipCodec.dec (sponsorshipCodec.enc (frame, authorisation)) = _ :=
    sponsorshipCodec.dec_enc_nil ⟨h, trivial⟩
  simp [frameDecoder, hdec]

def sampleValue : SponsorshipValue :=
  ⟨.command "00112233445566778899aabbccddeeff" (List.replicate 32 7), 0, ⟨[1, 2, 3], by decide⟩⟩

theorem sampleValue_valid : sampleValue.Valid :=
  ⟨⟨[0x00, 0x11, 0x22, 0x33, 0x44, 0x55, 0x66, 0x77, 0x88, 0x99, 0xaa, 0xbb, 0xcc, 0xdd, 0xee,
    0xff], by decide, by decide⟩, by decide, by decide⟩

theorem sponsorship_codec_frameDecoder :
    ∃ b, encodeSponsorship sampleValue = .ok b ∧
      decodeSponsorship frameDecoder (.of b) = .ok sampleValue :=
  (sponsorship_codec frameDecoder_readsBack).1 _ sampleValue_valid

/-- A `Buffer` of those bytes that lies in a pool, after another one's. -/
def Uint8Array.pooled (b : Bytes) : Uint8Array :=
  ⟨1 :: b, 1, b.length, true, by simp [Nat.add_comm]⟩

/-- The encoding of a valid sponsorship is refused when it is in a `Buffer` from the pool. -/
theorem pooled_encoding_refused :
    ¬ ∀ (dec : FrameDecoder), dec.ReadsBack → ∀ array value, value.Valid →
      encodeSponsorship value = .ok array.bytes → decodeSponsorship dec array = .ok value := by
  intro h
  obtain ⟨b, henc, -⟩ := sponsorship_codec_frameDecoder
  have hb : (Uint8Array.pooled b).bytes = b := by simp [Uint8Array.pooled, Uint8Array.bytes]
  have hdecoded := h frameDecoder frameDecoder_readsBack (.pooled b) sampleValue sampleValue_valid
    (by rw [hb]; exact henc)
  have hreads := (decodeSponsorship_iff frameDecoder_readsBack (by rw [hb]; exact henc)).mp hdecoded
  rw [hb] at hreads
  revert hreads
  obtain rfl : _ = b := Except.ok.inj henc
  decide

end Kippu.Sponsorship
