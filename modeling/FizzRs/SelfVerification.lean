import FizzRs.CredentialVerification

namespace FizzRs

/-!
# What self-verification says about clients

A service credential holds its public key and its expiry twice: in the nested
credential, which `verify_delegated_credential` checks, and beside it, where
`get_public_verification_info` takes what clients compare with.  Nothing in the
self-verification looks at the outer copies.
-/

/--
The outer public key is the lowercase hex of the bytes of the nested one, and the
outer expiry is the certificate's `notBefore` plus the nested `valid_time`.
-/
def ServiceCredential.CopiesAgree
    (parent : ParentCertificate)
    (credential : ServiceCredential) :
    Prop :=
  (parseHexBytes credential.credential.publicKeyDer).map bytesToHexLower =
      .ok credential.publicKeyDer ∧
    UInt64.ofInt
        (parent.notBefore + credential.credential.validTime.toNat) =
      credential.expiresAt

/-- What a rebuilt credential has of its record. -/
theorem of_rebuildCredential_eq_ok
    {credential : DelegatedCredential}
    {rebuilt : FizzDelegatedCredential}
    (rebuilds : rebuildCredential credential = .ok rebuilt) :
    parseHexBytes credential.publicKeyDer = .ok rebuilt.publicKey ∧
      parseHexBytes credential.signature = .ok rebuilt.signature ∧
      rebuilt.validTime = credential.validTime ∧
      rebuilt.expectedVerifyScheme = credential.expectedVerifyScheme ∧
      rebuilt.credentialScheme = credential.credentialScheme := by
  unfold rebuildCredential at rebuilds
  obtain ⟨publicKey, parsesKey, afterKey⟩ := exists_of_bind_eq_ok rebuilds
  obtain ⟨signature, parsesSignature, builds⟩ :=
    exists_of_bind_eq_ok afterKey
  cases builds
  exact ⟨parsesKey, parsesSignature, rfl, rfl, rfl⟩

/-- The verification information of a record matches exactly if its copies agree. -/
theorem matches_iff_copiesAgree
    {Key : Type}
    {fizz : FizzLibrary Key}
    (documented : fizz.Documented)
    (parent : ParentCertificate)
    {credential : ServiceCredential}
    {described : FizzDelegatedCredential}
    (rebuilds :
      rebuildCredential credential.credential = .ok described) :
    (getPublicVerificationInfo credential).Matches described
        (fizz.getCredentialExpiresTime parent described) ↔
      credential.CopiesAgree parent := by
  obtain ⟨parsesKey, _, sameTime, sameScheme, _⟩ :=
    of_rebuildCredential_eq_ok rebuilds
  have expiry :
      unixTimestamp (fizz.getCredentialExpiresTime parent described) =
        UInt64.ofInt
          (parent.notBefore + credential.credential.validTime.toNat) := by
    rw [unixTimestamp, documented.expiresTime, wholeSeconds_mul, sameTime]
  unfold ServiceCredential.CopiesAgree
  rw [parsesKey, ← expiry]
  constructor
  · intro isMatch
    refine ⟨?_, isMatch.expiry⟩
    exact congrArg Except.ok
      ((isMatch.publicKey described.publicKey).mpr rfl)
  · rintro ⟨sameKey, sameExpiry⟩
    exact
      .of_comparisons (Except.ok.inj sameKey) sameTime sameScheme sameExpiry

/--
A client configured for a record that verifies accepts the credential described
in it exactly when the outer copies of the key and of the expiry agree with it.
-/
theorem verified_accepted_iff
    {Key : Type}
    {fizz : FizzLibrary Key}
    {verifier : SignatureVerifier}
    {generator : FizzCredentialGenerator Key}
    {credential : ServiceCredential}
    {caStore : String → CaStore}
    {fault : Option String}
    {caCertPath hostname : String}
    {setters : List ContextSetter}
    {fd : Int}
    {conn : FizzClientConnection}
    (documented : fizz.Documented)
    (verifies :
      verifyDelegatedCredential verifier generator credential = true)
    (configured :
      clientConnect caStore fault
        (setters.foldl ContextSetter.apply
          (newClientTlsContext (getPublicVerificationInfo credential)
            caCertPath)) fd hostname = .ok conn) :
    ∃ described,
      rebuildCredential credential.credential = .ok described ∧
        (verifyVerificationInfoAgainstPeerDelegatedCredential .none conn
            described
            (fizz.getCredentialExpiresTime generator.parentCert
              described) = .ok "" ↔
          credential.CopiesAgree generator.parentCert) := by
  obtain ⟨described, rebuilds, _⟩ :=
    verifyDelegatedCredential_eq_true_iff.mp verifies
  obtain ⟨expects, _⟩ :=
    (carries_newClientTlsContext _ caCertPath
      setters).clientConnect_expects configured
  refine ⟨described, rebuilds, ?_⟩
  rw [verify_eq_ok_empty_iff expects,
    matches_iff_copiesAgree documented generator.parentCert rebuilds]
  constructor
  · rintro ⟨_, _, agree⟩
    exact agree
  · intro agree
    exact ⟨rfl, rfl, agree⟩

theorem verified_accepted_iff_sample :
    ∃ described,
      rebuildCredential (minuteIssued lateFirstSecond).credential =
          .ok described ∧
        verifyVerificationInfoAgainstPeerDelegatedCredential .none
            (minuteClient lateFirstSecond) described
            ((minuteLibrary halfSecond).getCredentialExpiresTime
              epochCertificate described) =
          .ok "" := by
  have verifies :
      verifyDelegatedCredential minuteVerifier minuteGenerator
        (minuteIssued lateFirstSecond) = true := by
    decide +kernel
  have configured :
      clientConnect (fun _ => .loaded) none
          ([].foldl ContextSetter.apply
            (newClientTlsContext
              (getPublicVerificationInfo (minuteIssued lateFirstSecond))
              "ca.pem")) 7 "example.com" =
        .ok (minuteClient lateFirstSecond) := by
    rfl
  have documented : (minuteLibrary halfSecond).Documented :=
    sampleLibrary_documented minuteCredential rfl
  obtain ⟨described, rebuilds, accepted⟩ :=
    verified_accepted_iff documented verifies configured
  refine ⟨described, rebuilds, accepted.mpr ⟨?_, ?_⟩⟩
  · decide +kernel
  · decide +kernel

/-- A record whose outer expiry was changed after it was issued. -/
def shiftedRecord : ServiceCredential :=
  { minuteIssued lateFirstSecond with expiresAt := 61 }

/-- The changed record still verifies, and no client for it accepts. -/
theorem shiftedRecord_rejected :
    (minuteLibrary halfSecond).Documented ∧
      verifyDelegatedCredential minuteVerifier minuteGenerator
        shiftedRecord = true ∧
      ∃ conn described,
        clientConnect (fun _ => .loaded) none
            (newClientTlsContext (getPublicVerificationInfo shiftedRecord)
              "ca.pem") 7 "example.com" = .ok conn ∧
          rebuildCredential shiftedRecord.credential = .ok described ∧
          verifyVerificationInfoAgainstPeerDelegatedCredential .none conn
              described
              ((minuteLibrary halfSecond).getCredentialExpiresTime
                epochCertificate described) =
            .ok ("delegated credential expiry does not match " ++
              "VerificationInfo") := by
  refine ⟨sampleLibrary_documented minuteCredential rfl, by decide +kernel, _,
    minuteCredential, rfl, ?_, rfl⟩
  exact
    rebuildCredential_buildServiceCredential (minuteLibrary halfSecond)
      "service" 60 minuteCredential "ab" "KEY" lateFirstSecond

end FizzRs
