import Kippu.Sponsorship.Verify

/-!
# A sponsorship binds one input

Verification answers for all arrays. It succeeds only on bytes that a configured
sponsor issued, for an input with the same kind, id, digest and framing.
-/

namespace Kippu.Sponsorship

open Scale

variable {Command Pass : Type} {profile : ProfileV0 Command Pass}

-- ---------------------------------------------------------------------------
-- Issuing
-- ---------------------------------------------------------------------------

theorem sign_ok {key : KmsP256Key} :
    key.sign profile payload = .ok authorisation ↔ ∃ signature,
      key.signature profile payload = .ok signature ∧
      profile.verify signature (profile.p256AuthorisationDigest payload) key.publicKey = .ok true ∧
      profile.encodeAuthorisation (.p256 key.publicKey signature) = .ok authorisation := by
  simp only [KmsP256Key.sign, bind_ok, unless_ok, not_not]
  constructor
  · rintro ⟨signature, hsignature, valid, hverify, rfl, henc⟩
    exact ⟨signature, hsignature, hverify, henc⟩
  · rintro ⟨signature, hsignature, hverify, henc⟩
    exact ⟨signature, hsignature, true, hverify, rfl, henc⟩

theorem issueSponsorship_ok {key : KmsP256Key} {input : SponsoredInput Command Pass} :
    issueSponsorship profile key input cost = .ok b ↔ ∃ payload authorisation,
      sponsorshipSigningPayload (sponsorshipTarget profile input) cost = .ok payload ∧
      key.sign profile payload = .ok authorisation ∧
      encodeSponsorship ⟨sponsorshipTarget profile input, cost, authorisation⟩ = .ok b := by
  simp [issueSponsorship, bind_ok]

@[simp] theorem digest_sponsorshipTarget (input : SponsoredInput Command Pass) :
    (sponsorshipTarget profile input).digest = signedInputDigest profile input := by
  cases input <;> rfl

/-- An input's target always has a frame, whatever the cost in range. -/
theorem frameOf_sponsorshipTarget
    (hhash : ∀ bs, (profile.blake2b256 bs).length = INPUT_DIGEST_LENGTH)
    (input : SponsoredInput Command Pass) (hcost : 0 ≤ cost ∧ cost < 2 ^ 128) :
    ∃ frame, frameOf (sponsorshipTarget profile input) cost = .ok frame := by
  apply @frameOf_of_valid ⟨sponsorshipTarget profile input, cost, ⟨[], by decide⟩⟩
  cases input with
  | command signed => exact ⟨signed.operationId.wellFormed, hhash _, hcost⟩
  | accessPass signed => exact ⟨signed.passId.wellFormed, hhash _, hcost⟩

-- ---------------------------------------------------------------------------
-- Verifying
-- ---------------------------------------------------------------------------

/-- A refusal, with whatever text, or a success; never a throw. -/
def Answers (answer : Except Thrown Result) : Prop :=
  (∃ verified, answer = .ok (.ok verified)) ∨ ∃ detail, answer = refused detail

theorem answers_refused (detail : String) : Answers (refused detail) := Or.inr ⟨detail, rfl⟩

theorem verifySignature_answers (h : frameOf value.target value.notionalCost = .ok frame) :
    Answers (verifySignature profile value publicKey signature sponsor) := by
  have hpayload := sponsorshipSigningPayload_ok.mpr ⟨frame, h, rfl⟩
  cases hverify : profile.verify signature (profile.p256AuthorisationDigest
      (SPONSORSHIP_SIGNING_TAG ++ unsignedCodec.enc frame)) publicKey with
  | error thrown =>
    refine Or.inr ⟨"the sponsor's signature does not verify", ?_⟩
    simp [verifySignature, hpayload, hverify, bind, Except.bind]
  | ok valid =>
    cases valid with
    | false =>
      refine Or.inr ⟨"the sponsor's signature does not verify", ?_⟩
      simp [verifySignature, hpayload, hverify, bind, Except.bind]
    | true =>
      refine Or.inl ⟨⟨sponsor, value.notionalCost⟩, ?_⟩
      simp [verifySignature, hpayload, hverify, bind, Except.bind, pure, Except.pure]

theorem verifyAuthorisation_answers (h : frameOf value.target value.notionalCost = .ok frame) :
    Answers (verifyAuthorisation profile value sponsors) := by
  unfold verifyAuthorisation
  split
  · exact answers_refused _
  · exact answers_refused _
  · split
    · exact answers_refused _
    · split
      · exact answers_refused _
      · exact verifySignature_answers h

theorem verifySponsorship_answers {array : Uint8Array} :
    Answers (verifySponsorship profile dec array input sponsors) := by
  unfold verifySponsorship
  split
  next => exact answers_refused _
  next value hvalue =>
    obtain ⟨frame, hframe, -⟩ := encodeSponsorship_ok.mp (decodeSponsorship_ok.mp hvalue).2
    simp only
    split
    · exact answers_refused _
    · split
      · exact answers_refused _
      · exact verifyAuthorisation_answers hframe

theorem verifySignature_ok :
    verifySignature profile value publicKey signature sponsor = .ok (.ok verified) ↔ ∃ payload,
      sponsorshipSigningPayload value.target value.notionalCost = .ok payload ∧
      profile.verify signature (profile.p256AuthorisationDigest payload) publicKey = .ok true ∧
      verified = ⟨sponsor, value.notionalCost⟩ := by
  simp only [verifySignature, bind_ok]
  refine exists_congr fun payload => and_congr_right fun _ => ?_
  cases hverify : profile.verify signature (profile.p256AuthorisationDigest payload) publicKey with
  | error thrown => simp [refused]
  | ok valid => cases valid <;> simp [refused, pure, Except.pure, eq_comm]

theorem verifyAuthorisation_ok :
    verifyAuthorisation profile value sponsors = .ok (.ok verified) ↔
      ∃ publicKey signature sponsor,
        profile.decodeAuthorisation value.authorisation = .ok (.p256 publicKey signature) ∧
        profile.p256AccountId publicKey = .ok sponsor ∧ sponsor ∈ sponsors ∧
        verifySignature profile value publicKey signature sponsor = .ok (.ok verified) := by
  unfold verifyAuthorisation
  split
  next h => simp [h, refused]
  next h => simp [h, refused]
  next publicKey signature h =>
    split
    next hid => simp [h, hid, refused]
    next sponsor hid =>
      split
      next hnot => simp [h, hid, hnot, refused]
      next hmem => simp [h, hid, not_not.mp hmem]

theorem target_eq_iff : sameId target target' ∧ target.digest = target'.digest ↔
    target = target' := by
  cases target <;> cases target' <;> simp [sameId, SponsorshipTarget.digest]

theorem verifySponsorship_ok {array : Uint8Array} :
    verifySponsorship profile dec array input sponsors = .ok (.ok verified) ↔ ∃ value,
      decodeSponsorship dec array = .ok value ∧ value.target = sponsorshipTarget profile input ∧
      verifyAuthorisation profile value sponsors = .ok (.ok verified) := by
  unfold verifySponsorship
  split
  next h => simp [h, refused]
  next value h =>
    simp only [h, Except.ok.injEq, exists_eq_left', ← target_eq_iff]
    split
    next hid => simp_all [refused]
    next hid =>
      split
      next hdigest => simp_all [refused]
      next hdigest => simp_all

-- ---------------------------------------------------------------------------
-- Binding
-- ---------------------------------------------------------------------------

theorem verify_of_issue {dec : FrameDecoder} {key : KmsP256Key} (hdec : dec.ReadsBack)
    (hcanonical : CanonicalAuthorisations profile)
    (hid : profile.p256AccountId key.publicKey = .ok sponsor) (hmem : sponsor ∈ sponsors)
    (h : issueSponsorship profile key input cost = .ok b) :
    verifySponsorship profile dec (.of b) input sponsors = .ok (.ok ⟨sponsor, cost⟩) := by
  obtain ⟨payload, authorisation, hpayload, hsign, henc⟩ := issueSponsorship_ok.mp h
  obtain ⟨signature, -, hverify, hauthorisation⟩ := sign_ok.mp hsign
  refine verifySponsorship_ok.mpr ⟨_, decodeSponsorship_encodeSponsorship hdec henc, rfl, ?_⟩
  refine verifyAuthorisation_ok.mpr ⟨key.publicKey, signature, sponsor, ?_, hid, hmem, ?_⟩
  · exact (hcanonical _ _).mpr hauthorisation
  · exact verifySignature_ok.mpr ⟨payload, hpayload, hverify, rfl⟩

theorem issued_of_verify {issued : List (Issuing Command Pass)} {array : Uint8Array}
    (hcanonical : CanonicalAuthorisations profile) (hcollision : CollisionFree profile)
    (hown : OwnSignatures profile sponsors issued)
    (h : verifySponsorship profile dec array input sponsors = .ok (.ok verified)) :
    ∃ issuing ∈ issued, issuing.issue profile = .ok array.bytes ∧
      profile.p256AccountId issuing.key.publicKey = .ok verified.sponsor ∧
      verified.sponsor ∈ sponsors ∧ issuing.notionalCost = verified.notionalCost ∧
      sponsorshipTarget profile issuing.input = sponsorshipTarget profile input := by
  obtain ⟨value, hvalue, htarget, hauthorised⟩ := verifySponsorship_ok.mp h
  obtain ⟨publicKey, signature, sponsor, hsigned, hid, hmem, hsignature⟩ :=
    verifyAuthorisation_ok.mp hauthorised
  obtain ⟨payload, hpayload, hverify, rfl⟩ := verifySignature_ok.mp hsignature
  obtain ⟨issuing, hissuing, hkey, payload', hpayload', hdigest, hmade⟩ :=
    hown publicKey sponsor signature _ hid hmem hverify
  -- The digest is of this payload, so the call was for this target and cost.
  have hsame := hcollision.payload _ _ hdigest
  subst hsame
  obtain ⟨htarget', hcost⟩ := sponsorshipSigningPayload_inj hpayload hpayload'
  have hsign : issuing.key.sign profile payload' = .ok value.authorisation := by
    refine sign_ok.mpr ⟨signature, hmade, ?_, ?_⟩
    · rw [hkey]
      exact hverify
    · rw [hkey]
      exact (hcanonical _ _).mp hsigned
  refine ⟨issuing, hissuing, ?_, by rw [hkey]; exact hid, hmem, hcost.symm, ?_⟩
  · refine issueSponsorship_ok.mpr ⟨payload', value.authorisation, hpayload', hsign, ?_⟩
    rw [← htarget', ← hcost]
    exact (decodeSponsorship_ok.mp hvalue).2
  · rw [← htarget', htarget]

/-- A verified sponsorship was issued by a configured sponsor for an input with the same
kind, id, digest and framing; what is issued for an input verifies for it; and everything
else is refused, without a throw. -/
theorem sponsorship_binds {dec : FrameDecoder} {sponsors : List AccountId}
    {issued : List (Issuing Command Pass)} (hdec : dec.ReadsBack)
    (hhash : ∀ bs, (profile.blake2b256 bs).length = INPUT_DIGEST_LENGTH)
    (hcanonical : CanonicalAuthorisations profile) (hcollision : CollisionFree profile)
    (hown : OwnSignatures profile sponsors issued) :
    (∀ array input verified,
      verifySponsorship profile dec array input sponsors = .ok (.ok verified) →
      ∃ issuing ∈ issued, issuing.issue profile = .ok array.bytes ∧
        profile.p256AccountId issuing.key.publicKey = .ok verified.sponsor ∧
        verified.sponsor ∈ sponsors ∧ issuing.notionalCost = verified.notionalCost ∧
        sponsorshipTarget profile issuing.input = sponsorshipTarget profile input ∧
        framing profile issuing.input = framing profile input) ∧
    (∀ (key : KmsP256Key) input cost sponsor,
      profile.p256AccountId key.publicKey = .ok sponsor → sponsor ∈ sponsors →
      0 ≤ cost ∧ cost < 2 ^ 128 →
      ∃ payload, sponsorshipSigningPayload (sponsorshipTarget profile input) cost = .ok payload ∧
        ∀ authorisation, key.sign profile payload = .ok authorisation →
          ∃ b, issueSponsorship profile key input cost = .ok b ∧
            verifySponsorship profile dec (.of b) input sponsors = .ok (.ok ⟨sponsor, cost⟩)) ∧
    (∀ array input,
      (∃ verified, verifySponsorship profile dec array input sponsors = .ok (.ok verified)) ∨
      ∃ detail, verifySponsorship profile dec array input sponsors =
        .ok (.error ⟨"ERR-SponsorshipRefused", detail⟩)) := by
  refine ⟨?_, ?_, ?_⟩
  · intro array input verified h
    obtain ⟨issuing, hissuing, hissue, hid, hmem, hcost, htarget⟩ :=
      issued_of_verify hcanonical hcollision hown h
    have hdigest : signedInputDigest profile issuing.input = signedInputDigest profile input := by
      simpa using congrArg SponsorshipTarget.digest htarget
    exact ⟨issuing, hissuing, hissue, hid, hmem, hcost, htarget, hcollision.framing _ _ hdigest⟩
  · intro key input cost sponsor hid hmem hcost
    obtain ⟨frame, hframe⟩ := frameOf_sponsorshipTarget hhash input hcost
    have hpayload := sponsorshipSigningPayload_ok.mpr ⟨frame, hframe, rfl⟩
    refine ⟨_, hpayload, ?_⟩
    intro authorisation hsign
    have hissue := issueSponsorship_ok.mpr
      ⟨_, authorisation, hpayload, hsign, encodeSponsorship_ok.mpr ⟨frame, hframe, rfl⟩⟩
    exact ⟨_, hissue, verify_of_issue hdec hcanonical hid hmem hissue⟩
  · intro array input
    exact verifySponsorship_answers

-- ---------------------------------------------------------------------------
-- One sponsor, one command
-- ---------------------------------------------------------------------------

def sampleId : InputId where
  hex := "00112233445566778899aabbccddeeff"
  wellFormed := ⟨[0x00, 0x11, 0x22, 0x33, 0x44, 0x55, 0x66, 0x77, 0x88, 0x99, 0xaa, 0xbb, 0xcc,
    0xdd, 0xee, 0xff], by decide, by decide⟩

/-- An input of one byte, framed by its kind and its id. -/
def sampleFraming (kind : UInt8) (id : InputId) (input : UInt8) : Bytes :=
  kind :: (hexBytes id.hex.toList).getD [] ++ [input]

def sampleHash (bs : Bytes) : Bytes := (bs ++ List.replicate INPUT_DIGEST_LENGTH 0).take
  INPUT_DIGEST_LENGTH

theorem length_sampleFraming (id : InputId) :
    (sampleFraming kind id input).length = BOUND_ID_LENGTH + 2 := by
  obtain ⟨bs, hlength, hhex⟩ := id.wellFormed
  simp [sampleFraming, hhex, hexBytes_flatMap, hlength]

theorem take_sampleHash (hlength : bs.length = n) (hn : n ≤ INPUT_DIGEST_LENGTH) :
    (sampleHash bs).take n = bs := by
  rw [sampleHash, List.take_take, Nat.min_eq_left hn, List.take_left' hlength]

def sampleTarget : SponsorshipTarget :=
  .command sampleId.hex (sampleHash (sampleFraming 0 sampleId 5))

/-- A key whose signature of a digest is marked as its own. -/
def oneKey : KmsP256Key where
  publicKey := List.replicate 33 2
  signDigest digest := .ok (1 :: digest, "compact")

def oneCommand : SponsoredInput UInt8 UInt8 := .command ⟨sampleId, 5, ⟨[], by decide⟩⟩

/-- A profile whose digests are what they are of, under which only what `oneKey` signed for
`oneCommand` verifies. An authorisation starts with its kind. -/
def oneProfile : ProfileV0 UInt8 UInt8 where
  encodeSignedCommand signed := sampleFraming 0 signed.operationId signed.command
  encodeSignedAccessPass signed := sampleFraming 1 signed.passId signed.pass
  blake2b256 := sampleHash
  encodeAuthorisation
    | .p256 publicKey signature =>
      if h : publicKey.length = 33 ∧ (0 :: (publicKey ++ signature)).length < 2 ^ 53 then
        .ok ⟨0 :: (publicKey ++ signature), h.2⟩
      else .error (.error "expected a public key and a signature")
    | .other kind content =>
      if h : kind = "webauthn" ∧ (1 :: content).length < 2 ^ 53 then .ok ⟨1 :: content, h.2⟩
      else .error (.error "expected a webauthn authorisation")
  decodeAuthorisation authorisation :=
    match authorisation.bytes with
    | 0 :: bs =>
      if 33 ≤ bs.length then .ok (.p256 (bs.take 33) (bs.drop 33))
      else .error (.decodeError "expected a public key and a signature")
    | 1 :: bs => .ok (.other "webauthn" bs)
    | _ => .error (.decodeError "unknown authorisation kind")
  p256AccountId publicKey := .ok (String.ofList (publicKey.flatMap hexByte))
  p256AuthorisationDigest payload := payload
  normaliseP256Signature signature _ := .ok signature
  verify signature digest publicKey :=
    .ok (publicKey = oneKey.publicKey ∧ signature = 1 :: digest ∧
      sponsorshipSigningPayload sampleTarget 0 = .ok digest)

theorem oneProfile_canonical : CanonicalAuthorisations oneProfile := by
  rintro ⟨bytes, hbytes⟩ signed
  constructor
  · intro h
    simp only [oneProfile] at h
    split at h
    next bs =>
      split at h
      next hlength =>
        cases h
        have happend := List.take_append_drop 33 bs
        simp only [oneProfile]
        rw [dif_pos ⟨by simp [hlength], by rwa [happend]⟩]
        simp only [happend]
      next => cases h
    next bs =>
      cases h
      exact dif_pos ⟨rfl, hbytes⟩
    next => cases h
  · intro h
    simp only [oneProfile] at h
    split at h
    next publicKey signature =>
      split at h
      next hlength =>
        cases h
        simp [oneProfile, ← hlength.1]
      next => cases h
    next kind content =>
      split at h
      next hkind =>
        cases h
        simp [oneProfile, hkind.1]
      next => cases h

theorem oneProfile_collisionFree : CollisionFree oneProfile := by
  constructor
  · intro payload payload' h
    exact h
  · have hlength : ∀ input, (framing oneProfile input).length = BOUND_ID_LENGTH + 2 := by
      rintro (signed | signed) <;> exact length_sampleFraming _
    intro input input' h
    rw [← take_sampleHash (hlength input) (by decide),
      ← take_sampleHash (hlength input') (by decide)]
    exact congrArg _ h

theorem oneProfile_ownSignatures (sponsors : List AccountId) :
    OwnSignatures oneProfile sponsors [⟨oneKey, oneCommand, 0⟩] := by
  intro publicKey sponsor signature digest _ _ hverify
  simp only [oneProfile, Except.ok.injEq, decide_eq_true_eq] at hverify
  obtain ⟨rfl, rfl, hpayload⟩ := hverify
  exact ⟨_, List.mem_singleton_self _, rfl, digest, hpayload, rfl, rfl⟩

def oneSponsor : AccountId := String.ofList (oneKey.publicKey.flatMap hexByte)

theorem sponsorship_binds_oneCommand :
    ∃ b, issueSponsorship oneProfile oneKey oneCommand 0 = .ok b ∧
      verifySponsorship oneProfile frameDecoder (.of b) oneCommand [oneSponsor] =
        .ok (.ok ⟨oneSponsor, 0⟩) := by
  obtain ⟨payload, hpayload, h⟩ :=
    (sponsorship_binds frameDecoder_readsBack (fun bs => by simp [oneProfile, sampleHash])
      oneProfile_canonical oneProfile_collisionFree
      (oneProfile_ownSignatures [oneSponsor])).2.1 oneKey oneCommand 0 oneSponsor rfl (by simp)
      (by decide)
  have hlength : (0 :: (oneKey.publicKey ++ 1 :: payload)).length < 2 ^ 53 := by
    obtain rfl : _ = payload := Except.ok.inj hpayload
    decide
  refine h ⟨_, hlength⟩ (sign_ok.mpr ⟨1 :: payload, rfl, ?_, ?_⟩)
  · exact congrArg Except.ok (decide_eq_true ⟨rfl, rfl, hpayload⟩)
  · simp only [oneProfile]
    exact dif_pos ⟨by decide, hlength⟩

end Kippu.Sponsorship
