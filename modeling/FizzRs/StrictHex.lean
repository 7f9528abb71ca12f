import FizzRs.SelfVerification

namespace FizzRs

open WireFormat

/-!
# How strictly the hex strings are parsed

The two hex strings of a credential are cut into slices of two bytes, each of
which goes to `std::stoi`.  Pairs of digits are read as they should be, but so
are a blank or a sign with one digit, a digit with anything behind it, and a last
digit alone.  Parsing is strict exactly on the strings that either are made of
pairs of digits or have a slice that `stoi` refuses.
-/

/-- An even number of hexadecimal digits, in either case, and nothing else. -/
def IsHexString (text : String) : Prop :=
  text.toList.length % 2 = 0 ∧
    ∀ letter ∈ text.toList, (HexCodec.digitValue letter).isSome = true

instance (text : String) : Decidable (IsHexString text) :=
  @instDecidableAnd _ _ inferInstance (List.decidableBAll _ _)

/-- Hex strings are those that decode. -/
theorem isHexString_iff
    (text : String) :
    IsHexString text ↔
      ∃ bytes, HexCodec.decode text.toList = some bytes := by
  rw [← Option.isSome_iff_exists, HexCodec.decode_isSome_iff]
  rfl

/-- The strings differ at most in letter case. -/
def SameUpToCase (first second : String) : Prop :=
  first.toList.map Char.toLower = second.toList.map Char.toLower

/-- Strings with the same decoding differ at most in letter case. -/
theorem sameUpToCase_of_decode
    {first second : String}
    {bytes : List UInt8}
    (firstDecodes : HexCodec.decode first.toList = some bytes)
    (secondDecodes : HexCodec.decode second.toList = some bytes) :
    SameUpToCase first second := by
  unfold SameUpToCase
  rw [HexCodec.map_toLower_of_decode firstDecodes,
    HexCodec.map_toLower_of_decode secondDecodes]

/-- Parsing succeeds exactly when every slice is readable. -/
theorem parseSlices_isOk_iff
    (text : List UInt8) :
    (∃ bytes, parseSlices (slices text) = .ok bytes) ↔
      ∀ slice ∈ slices text, StrToInt.Readable slice := by
  have first :
      ∀ slice rest,
        (∃ bytes, parseSlices (slice :: rest) = .ok bytes) ↔
          (∃ value, StrToInt.stoi slice = .ok value) ∧
            ∃ bytes, parseSlices rest = .ok bytes := by
    intro slice rest
    rw [parseSlices]
    cases StrToInt.stoi slice with
    | error what =>
        simp
    | ok value =>
        cases parseSlices rest with
        | error what =>
            simp
        | ok bytes =>
            simp
  induction text using List.twoStepInduction with
  | nil =>
      simp [slices, parseSlices]
  | singleton byte =>
      rw [slices, first, StrToInt.stoi_single_isOk_iff]
      simp [parseSlices]
  | cons_cons high low rest inductionHypothesis _ =>
      rw [slices, first, StrToInt.stoi_pair_isOk_iff, List.forall_mem_cons]
      exact and_congr_right fun _ => inductionHypothesis

/-- Rebuilding succeeds exactly when both strings are parsed. -/
theorem rebuildCredential_isOk_iff
    (credential : DelegatedCredential) :
    (∃ rebuilt, rebuildCredential credential = .ok rebuilt) ↔
      ∀ slice ∈ slices (utf8 credential.publicKeyDer) ++
          slices (utf8 credential.signature),
        StrToInt.Readable slice := by
  rw [List.forall_mem_append, ← parseSlices_isOk_iff,
    ← parseSlices_isOk_iff]
  constructor
  · rintro ⟨rebuilt, rebuilds⟩
    obtain ⟨parsesKey, parsesSignature, _⟩ :=
      of_rebuildCredential_eq_ok rebuilds
    exact ⟨⟨_, parsesKey⟩, ⟨_, parsesSignature⟩⟩
  · rintro ⟨⟨publicKey, parsesKey⟩, ⟨signature, parsesSignature⟩⟩
    exact ⟨_, rebuildCredential_eq_ok parsesKey parsesSignature⟩

/-- Verification of this record treats its strings as strict hexadecimal. -/
structure ParsesStrictly
    {Key : Type}
    (verifier : SignatureVerifier)
    (generator : FizzCredentialGenerator Key)
    (credential : ServiceCredential) :
    Prop where
  refused :
    ¬ (IsHexString credential.credential.publicKeyDer ∧
        IsHexString credential.credential.signature) →
      verifyDelegatedCredential verifier generator credential = false
  decoded :
    ∀ publicKey signature,
      HexCodec.decode credential.credential.publicKeyDer.toList =
          some publicKey →
        HexCodec.decode credential.credential.signature.toList =
          some signature →
        rebuildCredential credential.credential =
          .ok { validTime := credential.credential.validTime
                expectedVerifyScheme :=
                  credential.credential.expectedVerifyScheme
                publicKey := publicKey
                credentialScheme := credential.credential.credentialScheme
                signature := signature }

/--
Both strings are hex strings, or one of them has a slice of at most two bytes
that neither starts with a digit nor is a blank or sign before a digit.
-/
def StrictOrRefused (credential : DelegatedCredential) : Prop :=
  (IsHexString credential.publicKeyDer ∧
      IsHexString credential.signature) ∨
    ∃ slice ∈ slices (utf8 credential.publicKeyDer) ++
        slices (utf8 credential.signature),
      ¬ StrToInt.Readable slice

/-- A verifier that accepts every signature. -/
def lenientVerifier : SignatureVerifier where
  derEncode _ := .ok []
  prepareSignatureBuffer _ _ := .ok []
  peerVerify _ _ _ _ := .ok ()

/-- Parsing is strict, whatever is verified, exactly under the condition. -/
theorem parsesStrictly_iff
    {Key : Type}
    (generator : FizzCredentialGenerator Key)
    (credential : ServiceCredential) :
    (∀ verifier, ParsesStrictly verifier generator credential) ↔
      StrictOrRefused credential.credential := by
  constructor
  · intro strict
    by_contra lenient
    obtain ⟨notHex, noRefusal⟩ := not_or.mp lenient
    have readable :
        ∀ slice ∈ slices (utf8 credential.credential.publicKeyDer) ++
            slices (utf8 credential.credential.signature),
          StrToInt.Readable slice := by
      intro slice member
      by_contra unreadable
      exact noRefusal ⟨slice, member, unreadable⟩
    obtain ⟨rebuilt, rebuilds⟩ :=
      (rebuildCredential_isOk_iff credential.credential).mpr readable
    have accepted :
        verifyDelegatedCredential lenientVerifier generator credential =
          true :=
      verifyDelegatedCredential_eq_true_iff.mpr ⟨rebuilt, rebuilds, rfl⟩
    have refused := (strict lenientVerifier).refused notHex
    rw [accepted] at refused
    cases refused
  · intro condition verifier
    refine { refused := ?_, decoded := ?_ }
    · intro notHex
      rcases condition with isHex | ⟨slice, member, unreadable⟩
      · exact (notHex isHex).elim
      · by_contra accepted
        obtain ⟨rebuilt, rebuilds, _⟩ :=
          verifyDelegatedCredential_eq_true_iff.mp (by simpa using accepted)
        exact unreadable
          ((rebuildCredential_isOk_iff credential.credential).mp
            ⟨rebuilt, rebuilds⟩ slice member)
    · intro publicKey signature keyDecodes signatureDecodes
      exact
        rebuildCredential_eq_ok (parseHexBytes_of_decode keyDecodes)
          (parseHexBytes_of_decode signatureDecodes)

/-- A record that meets the condition and is rebuilt has hex strings. -/
theorem StrictOrRefused.decodes
    {credential : DelegatedCredential}
    (condition : StrictOrRefused credential)
    {rebuilt : FizzDelegatedCredential}
    (rebuilds : rebuildCredential credential = .ok rebuilt) :
    HexCodec.decode credential.publicKeyDer.toList =
        some rebuilt.publicKey ∧
      HexCodec.decode credential.signature.toList =
        some rebuilt.signature := by
  rcases condition with ⟨keyIsHex, signatureIsHex⟩ | refusal
  · obtain ⟨publicKey, keyDecodes⟩ := (isHexString_iff _).mp keyIsHex
    obtain ⟨signature, signatureDecodes⟩ :=
      (isHexString_iff _).mp signatureIsHex
    obtain ⟨parsesKey, parsesSignature, _⟩ :=
      of_rebuildCredential_eq_ok rebuilds
    rw [parseHexBytes_of_decode keyDecodes] at parsesKey
    rw [parseHexBytes_of_decode signatureDecodes] at parsesSignature
    cases parsesKey
    cases parsesSignature
    exact ⟨keyDecodes, signatureDecodes⟩
  · obtain ⟨slice, member, unreadable⟩ := refusal
    exact
      (unreadable
        ((rebuildCredential_isOk_iff credential).mp ⟨rebuilt, rebuilds⟩
          slice member)).elim

/--
Self-verification parses the hex strings of a record strictly exactly when both
are hex strings or one has a slice that `stoi` refuses.  Two verified records
that meet this condition have strings that differ in letter case only, or
different bytes were verified.
-/
theorem verify_parsesStrictly_iff
    {Key : Type}
    (generator : FizzCredentialGenerator Key) :
    (∀ credential : ServiceCredential,
      (∀ verifier, ParsesStrictly verifier generator credential) ↔
        StrictOrRefused credential.credential) ∧
    (∀ (verifier : SignatureVerifier) (first second : ServiceCredential)
        (firstRebuilt secondRebuilt : FizzDelegatedCredential),
      StrictOrRefused first.credential →
        StrictOrRefused second.credential →
        verifyDelegatedCredential verifier generator first = true →
        verifyDelegatedCredential verifier generator second = true →
        rebuildCredential first.credential = .ok firstRebuilt →
        rebuildCredential second.credential = .ok secondRebuilt →
        (SameUpToCase first.credential.publicKeyDer
              second.credential.publicKeyDer ∧
            SameUpToCase first.credential.signature
              second.credential.signature) ∨
          firstRebuilt.publicKey ≠ secondRebuilt.publicKey ∨
          firstRebuilt.signature ≠ secondRebuilt.signature) := by
  refine ⟨parsesStrictly_iff generator, ?_⟩
  intro verifier first second firstRebuilt secondRebuilt firstStrict
    secondStrict _ _ firstRebuilds secondRebuilds
  obtain ⟨firstKey, firstSignature⟩ := firstStrict.decodes firstRebuilds
  obtain ⟨secondKey, secondSignature⟩ := secondStrict.decodes secondRebuilds
  by_cases sameKey : firstRebuilt.publicKey = secondRebuilt.publicKey
  · by_cases sameSignature :
        firstRebuilt.signature = secondRebuilt.signature
    · rw [← sameKey] at secondKey
      rw [← sameSignature] at secondSignature
      exact .inl
        ⟨sameUpToCase_of_decode firstKey secondKey,
          sameUpToCase_of_decode firstSignature secondSignature⟩
    · exact .inr (.inr sameSignature)
  · exact .inr (.inl sameKey)

theorem verify_parsesStrictly_iff_sample :
    ParsesStrictly minuteVerifier minuteGenerator
      (minuteIssued lateFirstSecond) := by
  apply
    ((verify_parsesStrictly_iff minuteGenerator).1
      (minuteIssued lateFirstSecond)).mpr
  left
  decide +kernel

/-- A record whose signature has a plus sign in place of a leading zero. -/
def signedRecord : ServiceCredential :=
  { minuteIssued lateFirstSecond with
    credential :=
      { (minuteIssued lateFirstSecond).credential with signature := "+1" } }

/-- The record verifies although its signature is no hex string. -/
theorem signedRecord_verifies :
    signedRecord.credential.signature = "+1" ∧
      ¬ IsHexString signedRecord.credential.signature ∧
      verifyDelegatedCredential minuteVerifier minuteGenerator
        signedRecord = true ∧
      ¬ ParsesStrictly minuteVerifier minuteGenerator signedRecord := by
  have notHex : ¬ IsHexString signedRecord.credential.signature := by
    decide +kernel
  have verifies :
      verifyDelegatedCredential minuteVerifier minuteGenerator
        signedRecord = true := by
    decide +kernel
  refine ⟨rfl, notHex, verifies, ?_⟩
  intro strict
  have refused := strict.refused fun bothHex => notHex bothHex.2
  rw [verifies] at refused
  cases refused

end FizzRs
