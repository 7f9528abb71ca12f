import FizzRs.ClientAuthentication

namespace FizzRs

/-!
# Issuing a credential and accepting it

`generate_delegated_credential` lets Fizz sign a credential, whose `valid_time`
comes from a clock reading inside Fizz, and then reads the clock again to compute
`expires_at`.  A client recomputes the expiry from the certificate's `notBefore`
and the `valid_time` on the wire.  The two agree when no second begins between
the two readings and `valid_time` fits its 32 bits.

What Fizz and OpenSSL do is a parameter, with the documented behaviour that the
issuer and the client rely on as named assumptions.
-/

/-- A `system_clock` reading: nanoseconds since the epoch in 64 signed bits. -/
structure ClockReading where
  nanos : Int
  inRange : -2 ^ 63 ≤ nanos ∧ nanos < 2 ^ 63
  deriving Repr, DecidableEq

/-- The part of a parent certificate that matters here, in whole seconds. -/
structure ParentCertificate where
  certPem : String
  notBefore : Int
  inRange :
    -2 ^ 63 ≤ notBefore * nanosPerSecond ∧
      notBefore * nanosPerSecond < 2 ^ 63
  deriving Repr, DecidableEq

/-- Raw delegated credential data as the bridge carries it. -/
structure DelegatedCredential where
  validTime : UInt32
  expectedVerifyScheme : UInt16
  publicKeyDer : String
  credentialScheme : UInt16
  signature : String
  deriving Repr, DecidableEq

/-- A complete delegated credential with its metadata. -/
structure ServiceCredential where
  serviceName : String
  credential : DelegatedCredential
  privateKeyPem : String
  publicKeyDer : String
  createdAt : UInt64
  expiresAt : UInt64
  credentialPem : String
  deriving Repr, DecidableEq

/-- What the issuer uses of Fizz and OpenSSL.  `Key` is `EVP_PKEY`. -/
structure FizzLibrary (Key : Type) where
  getSigSchemes : Key → List UInt16
  i2dPubkey : Key → Option (List UInt8)
  writePrivateKey : Key → Option String
  generateCredential :
    ParentCertificate → Key → Key → UInt16 → UInt16 → UInt32 →
      ClockReading → Except String FizzDelegatedCredential
  generateDelegatedCredentialPEM :
    FizzDelegatedCredential → String → String
  loadDCFromPEM : String → Option FizzDelegatedCredential
  getCredentialExpiresTime :
    ParentCertificate → FizzDelegatedCredential → Int

/-- The documented behaviour that issuer and client rely on. -/
structure FizzLibrary.Documented
    {Key : Type}
    (fizz : FizzLibrary Key) :
    Prop where
  validTime :
    ∀ {parent parentKey key parentScheme scheme seconds reading credential},
      fizz.generateCredential parent parentKey key parentScheme scheme
          seconds reading = .ok credential →
        credential.validTime =
          UInt32.ofInt
            (wholeSeconds
                (reading.nanos - parent.notBefore * nanosPerSecond) +
              seconds.toNat)
  publicKey :
    ∀ {parent parentKey key parentScheme scheme seconds reading credential},
      fizz.generateCredential parent parentKey key parentScheme scheme
          seconds reading = .ok credential →
        fizz.i2dPubkey key = some credential.publicKey
  expiresTime :
    ∀ parent credential,
      fizz.getCredentialExpiresTime parent credential =
        (parent.notBefore + credential.validTime.toNat) * nanosPerSecond
  embedded :
    ∀ {parent parentKey key parentScheme scheme seconds reading credential},
      fizz.generateCredential parent parentKey key parentScheme scheme
          seconds reading = .ok credential →
        ∀ keyPem,
          fizz.loadDCFromPEM
              (parent.certPem ++
                fizz.generateDelegatedCredentialPEM credential keyPem) =
            some credential

section Issuance

variable {Key : Type}
variable (fizz : FizzLibrary Key)

/-- The issuer's parent certificate and its key. -/
structure FizzCredentialGenerator (Key : Type) where
  parentCert : ParentCertificate
  parentKey : Key
  deriving Repr, DecidableEq

/-- `publicKeyToDerHex`: a hex stream with fields of width two. -/
def publicKeyToDerHex (key : Key) : Except String String :=
  match fizz.i2dPubkey key with
  | none => .error "Failed to encode public key to DER"
  | some derBuf =>
      .ok (derBuf.foldl
        (fun stream byte =>
          stream ++ String.ofList (HexCodec.numeral 2 byte.toNat))
        "")

/-- `keyToPem`. -/
def keyToPem (key : Key) : Except String String :=
  match fizz.writePrivateKey key with
  | none => .error "Failed to write private key to BIO"
  | some pem => .ok pem

/-- The first signature schemes of the parent key and of the credential key. -/
def selectSchemes
    (parentKey key : Key) :
    Except String (UInt16 × UInt16) :=
  match fizz.getSigSchemes parentKey, fizz.getSigSchemes key with
  | parentScheme :: _, scheme :: _ => .ok (parentScheme, scheme)
  | _, _ => .error "No valid signature schemes available"

/-- The record built from a signed credential and the later clock reading. -/
def buildServiceCredential
    (serviceName : String)
    (validSeconds : UInt32)
    (credential : FizzDelegatedCredential)
    (publicKeyDer keyPem : String)
    (now : ClockReading) :
    ServiceCredential where
  serviceName := serviceName
  credential :=
    { validTime := credential.validTime
      expectedVerifyScheme := credential.expectedVerifyScheme
      publicKeyDer := bytesToHexLower credential.publicKey
      credentialScheme := credential.credentialScheme
      signature := bytesToHexLower credential.signature }
  privateKeyPem := keyPem
  publicKeyDer := publicKeyDer
  createdAt := unixTimestamp now.nanos
  expiresAt :=
    unixTimestamp (now.nanos + validSeconds.toNat * nanosPerSecond)
  credentialPem := fizz.generateDelegatedCredentialPEM credential keyPem

/--
The body of `generate_delegated_credential`, given the generated key, the clock
reading inside Fizz and the one made afterwards.
-/
def issueCredential
    (generator : FizzCredentialGenerator Key)
    (generatedKey : Except String Key)
    (serviceName : String)
    (validSeconds : UInt32)
    (signing now : ClockReading) :
    Except String ServiceCredential := do
  let key ← generatedKey
  let (parentScheme, scheme) ←
    selectSchemes fizz generator.parentKey key
  let credential ←
    fizz.generateCredential generator.parentCert generator.parentKey key
      parentScheme scheme validSeconds signing
  let publicKeyDer ← publicKeyToDerHex fizz key
  let keyPem ← keyToPem fizz key
  return buildServiceCredential fizz serviceName validSeconds credential
    publicKeyDer keyPem now

/-- `generate_delegated_credential`. -/
def generateDelegatedCredential
    (generator : FizzCredentialGenerator Key)
    (generatedKey : Except String Key)
    (serviceName : String)
    (validSeconds : UInt32)
    (signing now : ClockReading) :
    Except String ServiceCredential :=
  match issueCredential fizz generator generatedKey serviceName
      validSeconds signing now with
  | .error what =>
      .error ("Failed to generate delegated credential: " ++ what)
  | .ok credential => .ok credential

end Issuance

/-- `get_public_verification_info`. -/
def getPublicVerificationInfo
    (credential : ServiceCredential) :
    VerificationInfo where
  serviceName := credential.serviceName
  validTime := credential.credential.validTime
  expectedVerifyScheme := credential.credential.expectedVerifyScheme
  publicKeyDer := credential.publicKeyDer
  expiresAt := credential.expiresAt

/-- A computation that succeeds has run its first part successfully. -/
theorem exists_of_bind_eq_ok
    {First Second : Type}
    {first : Except String First}
    {rest : First → Except String Second}
    {result : Second}
    (succeeded : (first >>= rest) = .ok result) :
    ∃ value, first = .ok value ∧ rest value = .ok result := by
  cases first with
  | error what =>
      cases succeeded
  | ok value =>
      exact ⟨value, rfl, succeeded⟩

/-- Both hex printers of the issuer agree. -/
theorem publicKeyToDerHex_eq
    {Key : Type}
    {fizz : FizzLibrary Key}
    {key : Key}
    {der : List UInt8}
    {printed : String}
    (encodes : fizz.i2dPubkey key = some der)
    (prints : publicKeyToDerHex fizz key = .ok printed) :
    printed = bytesToHexLower der := by
  simp only [publicKeyToDerHex, encodes, Except.ok.injEq] at prints
  rw [← prints, bytesToHexLower_eq]
  exact (foldl_append_byteNumeral der "").trans (String.empty_append)

/-- What a successful issuance consists of. -/
theorem generateDelegatedCredential_eq_ok
    {Key : Type}
    {fizz : FizzLibrary Key}
    {generator : FizzCredentialGenerator Key}
    {generatedKey : Except String Key}
    {serviceName : String}
    {validSeconds : UInt32}
    {signing now : ClockReading}
    {issued : ServiceCredential}
    (issues :
      generateDelegatedCredential fizz generator generatedKey serviceName
        validSeconds signing now = .ok issued) :
    ∃ key parentScheme scheme credential publicKeyDer keyPem,
      generatedKey = .ok key ∧
        selectSchemes fizz generator.parentKey key =
          .ok (parentScheme, scheme) ∧
        fizz.generateCredential generator.parentCert generator.parentKey key
          parentScheme scheme validSeconds signing = .ok credential ∧
        publicKeyToDerHex fizz key = .ok publicKeyDer ∧
        issued =
          buildServiceCredential fizz serviceName validSeconds credential
            publicKeyDer keyPem now := by
  unfold generateDelegatedCredential at issues
  split at issues
  · cases issues
  · next credential body =>
      cases issues
      unfold issueCredential at body
      obtain ⟨key, generated, afterKey⟩ := exists_of_bind_eq_ok body
      obtain ⟨⟨parentScheme, scheme⟩, selects, afterSchemes⟩ :=
        exists_of_bind_eq_ok afterKey
      obtain ⟨signed, signs, afterSigning⟩ :=
        exists_of_bind_eq_ok afterSchemes
      obtain ⟨publicKeyDer, prints, afterKeyHex⟩ :=
        exists_of_bind_eq_ok afterSigning
      obtain ⟨keyPem, _, builds⟩ := exists_of_bind_eq_ok afterKeyHex
      cases builds
      exact ⟨key, parentScheme, scheme, signed, publicKeyDer, keyPem,
        generated, selects, signs, prints, rfl⟩

/--
The expiry a client recomputes, in seconds: `notBefore` plus a `valid_time` that
was cut to 32 bits.
-/
def recomputedExpiry
    (parent : ParentCertificate)
    (validSeconds : UInt32)
    (signing : ClockReading) :
    Int :=
  parent.notBefore +
    (wholeSeconds (signing.nanos - parent.notBefore * nanosPerSecond) +
        validSeconds.toNat) % 2 ^ 32

/-- The expiry the issuer records, in seconds. -/
def recordedExpiry
    (validSeconds : UInt32)
    (now : ClockReading) :
    Int :=
  wholeSeconds (now.nanos + validSeconds.toNat * nanosPerSecond)

/-- Neither expiry comes near the limits of a timestamp. -/
theorem expiries_inRange
    (parent : ParentCertificate)
    (validSeconds : UInt32)
    (signing now : ClockReading) :
    (-2 ^ 62 ≤ recomputedExpiry parent validSeconds signing ∧
        recomputedExpiry parent validSeconds signing < 2 ^ 62) ∧
      -2 ^ 62 ≤ recordedExpiry validSeconds now ∧
        recordedExpiry validSeconds now < 2 ^ 62 := by
  have seconds := validSeconds.toNat_lt
  have nowInRange := now.inRange
  have notBeforeInRange := parent.inRange
  have recorded :
      -2 ^ 40 ≤ recordedExpiry validSeconds now ∧
        recordedExpiry validSeconds now ≤ 2 ^ 40 := by
    apply wholeSeconds_bounds <;>
      · simp only [nanosPerSecond]
        omega
  simp only [nanosPerSecond] at notBeforeInRange
  constructor
  · unfold recomputedExpiry
    omega
  · omega

/-- The timestamp a client recomputes from what Fizz signed. -/
theorem unixTimestamp_expiresTime
    {Key : Type}
    {fizz : FizzLibrary Key}
    (documented : fizz.Documented)
    {parent : ParentCertificate}
    {parentKey key : Key}
    {parentScheme scheme : UInt16}
    {validSeconds : UInt32}
    {signing : ClockReading}
    {credential : FizzDelegatedCredential}
    (signs :
      fizz.generateCredential parent parentKey key parentScheme scheme
        validSeconds signing = .ok credential) :
    unixTimestamp (fizz.getCredentialExpiresTime parent credential) =
      UInt64.ofInt (recomputedExpiry parent validSeconds signing) := by
  rw [unixTimestamp, documented.expiresTime, wholeSeconds_mul,
    documented.validTime signs, recomputedExpiry]
  congr 2
  simp only [UInt32.ofInt, UInt32.toNat_ofNat']
  omega

/--
For a certificate that is valid when Fizz signs, the two expiries agree exactly
when both readings fall into one second and `valid_time` fits its 32 bits.
-/
theorem recomputedExpiry_eq_recordedExpiry_iff
    {parent : ParentCertificate}
    {validSeconds : UInt32}
    {signing now : ClockReading}
    (inOrder : signing.nanos ≤ now.nanos)
    (notBeforeEpoch : 0 ≤ signing.nanos)
    (isValid : parent.notBefore * nanosPerSecond ≤ signing.nanos) :
    recomputedExpiry parent validSeconds signing =
        recordedExpiry validSeconds now ↔
      wholeSeconds signing.nanos = wholeSeconds now.nanos ∧
        wholeSeconds signing.nanos - parent.notBefore +
          validSeconds.toNat < 2 ^ 32 := by
  simp only [nanosPerSecond] at isValid
  rw [recomputedExpiry, recordedExpiry, nanosPerSecond,
    wholeSeconds_of_nonneg (by omega), wholeSeconds_of_nonneg (by omega),
    wholeSeconds_of_nonneg (by omega), wholeSeconds_of_nonneg (by omega)]
  constructor
  · intro same
    constructor <;> omega
  · rintro ⟨sameSecond, fits⟩
    omega

/--
A client configured for an issued credential accepts it exactly when the expiry
it recomputes is the one the issuer recorded.  For a certificate that is valid
when Fizz signs, this is so exactly when the two clock readings fall into one
second and `valid_time` fits its 32 bits.
-/
theorem issued_accepted_iff
    {Key : Type}
    {fizz : FizzLibrary Key}
    {generator : FizzCredentialGenerator Key}
    {generatedKey : Except String Key}
    {serviceName : String}
    {validSeconds : UInt32}
    {signing now : ClockReading}
    {issued : ServiceCredential}
    {caStore : String → CaStore}
    {fault : Option String}
    {caCertPath hostname : String}
    {setters : List ContextSetter}
    {fd : Int}
    {conn : FizzClientConnection}
    (documented : fizz.Documented)
    (inOrder : signing.nanos ≤ now.nanos)
    (issues :
      generateDelegatedCredential fizz generator generatedKey serviceName
        validSeconds signing now = .ok issued)
    (configured :
      clientConnect caStore fault
        (setters.foldl ContextSetter.apply
          (newClientTlsContext (getPublicVerificationInfo issued)
            caCertPath)) fd hostname = .ok conn) :
    ∃ served,
      fizz.loadDCFromPEM
          (generator.parentCert.certPem ++ issued.credentialPem) =
          some served ∧
        (verifyVerificationInfoAgainstPeerDelegatedCredential .none conn
            served
            (fizz.getCredentialExpiresTime generator.parentCert served) =
            .ok "" ↔
          recomputedExpiry generator.parentCert validSeconds signing =
            recordedExpiry validSeconds now) ∧
        (0 ≤ signing.nanos →
          generator.parentCert.notBefore * nanosPerSecond ≤
            signing.nanos →
          (verifyVerificationInfoAgainstPeerDelegatedCredential .none conn
              served
              (fizz.getCredentialExpiresTime generator.parentCert served) =
              .ok "" ↔
            wholeSeconds signing.nanos = wholeSeconds now.nanos ∧
              wholeSeconds signing.nanos -
                  generator.parentCert.notBefore +
                validSeconds.toNat < 2 ^ 32)) := by
  obtain ⟨key, parentScheme, scheme, credential, publicKeyDer, keyPem,
    _, _, signs, prints, rfl⟩ := generateDelegatedCredential_eq_ok issues
  obtain ⟨expects, _⟩ :=
    (carries_newClientTlsContext _ caCertPath
      setters).clientConnect_expects configured
  have sameKey : bytesToHexLower credential.publicKey = publicKeyDer :=
    (publicKeyToDerHex_eq (documented.publicKey signs) prints).symm
  obtain ⟨recomputedInRange, recordedInRange⟩ :=
    expiries_inRange generator.parentCert validSeconds signing now
  have accepted :
      verifyVerificationInfoAgainstPeerDelegatedCredential .none conn
          credential
          (fizz.getCredentialExpiresTime generator.parentCert
            credential) = .ok "" ↔
        recomputedExpiry generator.parentCert validSeconds signing =
          recordedExpiry validSeconds now := by
    rw [verify_eq_ok_empty_iff expects,
      ← ofInt_eq_ofInt_iff recomputedInRange recordedInRange,
      ← unixTimestamp_expiresTime documented signs]
    constructor
    · rintro ⟨_, _, isMatch⟩
      exact isMatch.expiry
    · intro sameExpiry
      exact ⟨rfl, rfl, .of_comparisons sameKey rfl rfl sameExpiry⟩
  refine ⟨credential, documented.embedded signs keyPem, accepted, ?_⟩
  intro notBeforeEpoch isValid
  exact accepted.trans
    (recomputedExpiry_eq_recordedExpiry_iff inOrder notBeforeEpoch isValid)

section SmallLibrary

/-- A certificate that is valid from the epoch on. -/
def epochCertificate : ParentCertificate where
  certPem := "CERT"
  notBefore := 0
  inRange := by decide

/-- The credential of a one-byte key, signed within the first second. -/
def minuteCredential : FizzDelegatedCredential where
  validTime := 60
  expectedVerifyScheme := 0x0403
  publicKey := [0xab]
  credentialScheme := 0x0403
  signature := [1]

/-- A library that signs one credential for `epochCertificate` and nothing else. -/
def sampleLibrary
    (signed : FizzDelegatedCredential)
    (reading : ClockReading) :
    FizzLibrary Unit where
  getSigSchemes := fun _ => [0x0403]
  i2dPubkey := fun _ => some signed.publicKey
  writePrivateKey := fun _ => some "KEY"
  generateCredential := fun parent _ _ _ _ seconds now =>
    if parent = epochCertificate ∧ seconds = signed.validTime ∧
        now = reading then
      .ok signed
    else
      .error "not signed here"
  generateDelegatedCredentialPEM := fun _ keyPem => "DC" ++ keyPem
  loadDCFromPEM := fun _ => some signed
  getCredentialExpiresTime := fun parent credential =>
    (parent.notBefore + credential.validTime.toNat) * nanosPerSecond

/-- What such a library signs. -/
theorem of_sampleLibrary_signs
    {signed credential : FizzDelegatedCredential}
    {reading now : ClockReading}
    {parent : ParentCertificate}
    {parentKey key : Unit}
    {parentScheme scheme : UInt16}
    {seconds : UInt32}
    (signs :
      (sampleLibrary signed reading).generateCredential parent parentKey key
        parentScheme scheme seconds now = .ok credential) :
    parent = epochCertificate ∧ seconds = signed.validTime ∧
      now = reading ∧ credential = signed := by
  simp only [sampleLibrary] at signs
  split at signs
  · next guard =>
      exact ⟨guard.1, guard.2.1, guard.2.2, (Except.ok.inj signs).symm⟩
  · cases signs

theorem sampleLibrary_documented
    (signed : FizzDelegatedCredential)
    {reading : ClockReading}
    (firstSecond : wholeSeconds reading.nanos = 0) :
    (sampleLibrary signed reading).Documented where
  validTime := by
    intro parent parentKey key parentScheme scheme seconds now credential
      signs
    obtain ⟨rfl, rfl, rfl, rfl⟩ := of_sampleLibrary_signs signs
    have small := credential.validTime.toNat_lt
    have whole :
        UInt32.ofInt (credential.validTime.toNat : Int) =
          credential.validTime := by
      apply UInt32.toNat_inj.mp
      simp only [UInt32.ofInt, UInt32.toNat_ofNat']
      omega
    simp [epochCertificate, firstSecond, whole]
  publicKey := by
    intro parent parentKey key parentScheme scheme seconds now credential
      signs
    obtain ⟨_, _, _, rfl⟩ := of_sampleLibrary_signs signs
    rfl
  expiresTime := fun _ _ => rfl
  embedded := by
    intro parent parentKey key parentScheme scheme seconds now credential
      signs keyPem
    obtain ⟨_, _, _, rfl⟩ := of_sampleLibrary_signs signs
    rfl

/-- A library that signs `minuteCredential`. -/
def minuteLibrary (reading : ClockReading) : FizzLibrary Unit :=
  sampleLibrary minuteCredential reading

/-- Half a second after the epoch. -/
def halfSecond : ClockReading where
  nanos := 500000000
  inRange := by decide

/-- The last nanosecond of the first second. -/
def lateFirstSecond : ClockReading where
  nanos := 999999999
  inRange := by decide

/-- One second after the epoch. -/
def oneSecond : ClockReading where
  nanos := 1000000000
  inRange := by decide

/-- The credential issued with a first reading in the first second. -/
def minuteIssued (now : ClockReading) : ServiceCredential :=
  buildServiceCredential (minuteLibrary halfSecond) "service" 60
    minuteCredential "ab" "KEY" now

/-- A client configured for an issued credential. -/
def minuteClient (now : ClockReading) : FizzClientConnection where
  fd := 7
  transport := true
  handshakeComplete := false
  errorMessage := ""
  peerCertPem := "example.com"
  caCertPath := "ca.pem"
  dcExtension := some dcSigSchemes
  expectedServiceName := "service"
  expectedValidTime := 60
  expectedVerifyScheme := 0x0403
  expectedPublicKeyDerHex := "ab"
  expectedExpiresAt := (minuteIssued now).expiresAt
  dcEnabled := true
  readCallback := false

theorem issued_accepted_iff_sample :
    ∃ served,
      (minuteLibrary halfSecond).loadDCFromPEM
          ("CERT" ++ (minuteIssued lateFirstSecond).credentialPem) =
          some served ∧
        verifyVerificationInfoAgainstPeerDelegatedCredential .none
            (minuteClient lateFirstSecond) served
            ((minuteLibrary halfSecond).getCredentialExpiresTime
              epochCertificate served) =
          .ok "" := by
  have issues :
      generateDelegatedCredential (minuteLibrary halfSecond)
          { parentCert := epochCertificate, parentKey := () } (.ok ())
          "service" 60 halfSecond lateFirstSecond =
        .ok (minuteIssued lateFirstSecond) := by
    rfl
  have configured :
      clientConnect (fun _ => .loaded) none
          ([].foldl ContextSetter.apply
            (newClientTlsContext
              (getPublicVerificationInfo (minuteIssued lateFirstSecond))
              "ca.pem")) 7 "example.com" =
        .ok (minuteClient lateFirstSecond) := by
    rfl
  obtain ⟨served, loads, _, accepted⟩ :=
    issued_accepted_iff (sampleLibrary_documented minuteCredential rfl)
      (by decide) issues configured
  exact ⟨served, loads, (accepted (by decide) (by decide)).mpr (by decide)⟩

/--
A second that begins between the two readings makes the issuer record an expiry
one second later than the one on the wire, and the client rejects the credential
it was configured for.
-/
theorem secondBoundary_rejected :
    (minuteLibrary lateFirstSecond).Documented ∧
      lateFirstSecond.nanos ≤ oneSecond.nanos ∧
      ∃ issued conn served,
        generateDelegatedCredential (minuteLibrary lateFirstSecond)
            { parentCert := epochCertificate, parentKey := () } (.ok ())
            "service" 60 lateFirstSecond oneSecond = .ok issued ∧
          clientConnect (fun _ => .loaded) none
              (newClientTlsContext (getPublicVerificationInfo issued)
                "ca.pem") 7 "example.com" = .ok conn ∧
          (minuteLibrary lateFirstSecond).loadDCFromPEM
              (epochCertificate.certPem ++ issued.credentialPem) =
            some served ∧
          verifyVerificationInfoAgainstPeerDelegatedCredential .none conn
              served
              ((minuteLibrary lateFirstSecond).getCredentialExpiresTime
                epochCertificate served) =
            .ok ("delegated credential expiry does not match " ++
              "VerificationInfo") := by
  refine ⟨sampleLibrary_documented minuteCredential rfl, by decide,
    minuteIssued oneSecond, minuteClient oneSecond, minuteCredential,
    rfl, rfl, rfl, rfl⟩

end SmallLibrary

end FizzRs
