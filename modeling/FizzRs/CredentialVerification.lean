import FizzRs.SerdeRoundTrip
import FizzRs.StrToInt

namespace FizzRs

open WireFormat

/-!
# The issuer verifies a credential itself

`verify_delegated_credential` rebuilds the credential that Fizz signed from the
record that is stored: numbers are copied, and the public key and the signature
are parsed from hexadecimal, two bytes of text at a time.  Fizz then checks the
signature under the parent certificate.  Every exception makes the result false.
-/

/-- What self-verification uses of Fizz, folly and OpenSSL. -/
structure SignatureVerifier where
  derEncode : ParentCertificate → Except String (List UInt8)
  prepareSignatureBuffer :
    FizzDelegatedCredential → List UInt8 → Except String (List UInt8)
  peerVerify :
    ParentCertificate → UInt16 → List UInt8 → List UInt8 →
      Except String Unit

/-- `substr(i, 2)` for `i = 0, 2, ...` below the length. -/
def slices : List UInt8 → List (List UInt8)
  | [] => []
  | [last] => [[last]]
  | first :: second :: rest => [first, second] :: slices rest

/-- The parsing loop: `stoi` of each slice, cut to a byte. -/
def parseSlices : List (List UInt8) → Except String (List UInt8)
  | [] => .ok []
  | byteStr :: rest =>
      match StrToInt.stoi byteStr with
      | .error what => .error what
      | .ok value =>
          match parseSlices rest with
          | .error what => .error what
          | .ok bytes => .ok (UInt8.ofInt value :: bytes)

/-- Parse bytes from a hex string. -/
def parseHexBytes (text : String) : Except String (List UInt8) :=
  parseSlices (slices (utf8 text))

/-- Reconstruct the credential from the record. -/
def rebuildCredential
    (credential : DelegatedCredential) :
    Except String FizzDelegatedCredential := do
  let pkBytes ← parseHexBytes credential.publicKeyDer
  let sigBytes ← parseHexBytes credential.signature
  return {
    validTime := credential.validTime
    expectedVerifyScheme := credential.expectedVerifyScheme
    publicKey := pkBytes
    credentialScheme := credential.credentialScheme
    signature := sigBytes }

/-- Check the signature of a rebuilt credential. -/
def verifySignature
    (verifier : SignatureVerifier)
    (parentCert : ParentCertificate)
    (credential : FizzDelegatedCredential) :
    Except String Unit := do
  let certDer ← verifier.derEncode parentCert
  let signatureBuffer ← verifier.prepareSignatureBuffer credential certDer
  verifier.peerVerify parentCert credential.credentialScheme
    signatureBuffer credential.signature

/-- `verify_delegated_credential`. -/
def verifyDelegatedCredential
    (verifier : SignatureVerifier)
    (generator : FizzCredentialGenerator Key)
    (credential : ServiceCredential) :
    Bool :=
  match rebuildCredential credential.credential with
  | .error _ => false
  | .ok rebuilt =>
      match verifySignature verifier generator.parentCert rebuilt with
      | .error _ => false
      | .ok () => true

/-- The only byte of a digit is a digit of the same value. -/
theorem utf8EncodeChar_of_digit
    {letter : Char}
    {value : Nat}
    (isDigit : HexCodec.digitValue letter = some value) :
    ∃ byte,
      String.utf8EncodeChar letter = [byte] ∧
        StrToInt.digit? byte = some value := by
  obtain ⟨_, codes⟩ := HexCodec.of_codeValue_eq_some isDigit
  have ascii : letter.val.toNat ≤ 127 := by
    have sameCode : letter.toNat = letter.val.toNat := rfl
    omega
  refine ⟨UInt8.ofNat letter.val.toNat, ?_, ?_⟩
  · simp only [String.utf8EncodeChar, ascii, if_true]
  · have sameByte :
        (UInt8.ofNat letter.val.toNat).toNat = letter.toNat := by
      rw [UInt8.toNat_ofNat']
      exact Nat.mod_eq_of_lt (by omega)
    rw [StrToInt.digit?, sameByte]
    exact isDigit

/-- A pair of digits is parsed as the byte it spells. -/
theorem parseSlices_pair
    {high low : Char}
    {highValue lowValue : Nat}
    {rest : List UInt8}
    {bytes : List UInt8}
    (isHigh : HexCodec.digitValue high = some highValue)
    (isLow : HexCodec.digitValue low = some lowValue)
    (parsesRest : parseSlices (slices rest) = .ok bytes) :
    parseSlices
        (slices
          (String.utf8EncodeChar high ++
            (String.utf8EncodeChar low ++ rest))) =
      .ok (UInt8.ofNat (16 * highValue + lowValue) :: bytes) := by
  obtain ⟨first, firstByte, firstDigit⟩ := utf8EncodeChar_of_digit isHigh
  obtain ⟨second, secondByte, secondDigit⟩ := utf8EncodeChar_of_digit isLow
  have cut :
      UInt8.ofInt ((16 * highValue + lowValue : Nat) : Int) =
        UInt8.ofNat (16 * highValue + lowValue) := by
    apply UInt8.toNat_inj.mp
    simp only [UInt8.ofInt, UInt8.toNat_ofNat']
    omega
  rw [firstByte, secondByte]
  simp only [List.cons_append, List.nil_append, slices, parseSlices,
    StrToInt.stoi_two_digits firstDigit secondDigit, parsesRest, cut]

/-- A string that decodes is parsed as its decoding. -/
theorem parseHexBytes_of_decode
    {text : String}
    {bytes : List UInt8}
    (decodes : HexCodec.decode text.toList = some bytes) :
    parseHexBytes text = .ok bytes := by
  have parses :
      ∀ letters : List Char, ∀ bytes,
        HexCodec.decode letters = some bytes →
          parseSlices (slices (letters.flatMap String.utf8EncodeChar)) =
            .ok bytes := by
    intro letters
    induction letters using List.twoStepInduction with
    | nil =>
        intro bytes decodes
        cases decodes
        rfl
    | singleton letter =>
        intro bytes decodes
        cases decodes
    | cons_cons high low rest inductionHypothesis _ =>
        intro bytes decodes
        obtain ⟨highValue, lowValue, others, isHigh, isLow, isRest, shape⟩ :=
          HexCodec.decode_cons_cons_eq_some_iff.mp decodes
        subst bytes
        rw [List.flatMap_cons, List.flatMap_cons]
        exact
          parseSlices_pair isHigh isLow (inductionHypothesis others isRest)
  exact parses text.toList bytes decodes

/-- Printed bytes are parsed as they were. -/
theorem parseHexBytes_bytesToHexLower
    (bytes : List UInt8) :
    parseHexBytes (bytesToHexLower bytes) = .ok bytes := by
  apply parseHexBytes_of_decode
  rw [bytesToHexLower_eq, String.toList_ofList]
  exact HexCodec.decode_encode bytes

/-- A record whose strings decode is rebuilt with the decoded bytes. -/
theorem rebuildCredential_eq_ok
    {credential : DelegatedCredential}
    {publicKey signature : List UInt8}
    (parsesKey : parseHexBytes credential.publicKeyDer = .ok publicKey)
    (parsesSignature :
      parseHexBytes credential.signature = .ok signature) :
    rebuildCredential credential =
      .ok { validTime := credential.validTime
            expectedVerifyScheme := credential.expectedVerifyScheme
            publicKey := publicKey
            credentialScheme := credential.credentialScheme
            signature := signature } := by
  rw [rebuildCredential, parsesKey, parsesSignature]
  rfl

/-- The record built from a signed credential is rebuilt as that credential. -/
theorem rebuildCredential_buildServiceCredential
    {Key : Type}
    (fizz : FizzLibrary Key)
    (serviceName : String)
    (validSeconds : UInt32)
    (credential : FizzDelegatedCredential)
    (publicKeyDer keyPem : String)
    (now : ClockReading) :
    rebuildCredential
        (buildServiceCredential fizz serviceName validSeconds credential
          publicKeyDer keyPem now).credential =
      .ok credential :=
  rebuildCredential_eq_ok
    (parseHexBytes_bytesToHexLower credential.publicKey)
    (parseHexBytes_bytesToHexLower credential.signature)

/-- Verification succeeds exactly when both parts of it do. -/
theorem verifyDelegatedCredential_eq_true_iff
    {Key : Type}
    {verifier : SignatureVerifier}
    {generator : FizzCredentialGenerator Key}
    {credential : ServiceCredential} :
    verifyDelegatedCredential verifier generator credential = true ↔
      ∃ rebuilt,
        rebuildCredential credential.credential = .ok rebuilt ∧
          verifySignature verifier generator.parentCert rebuilt =
            .ok () := by
  unfold verifyDelegatedCredential
  cases rebuildCredential credential.credential with
  | error what =>
      simp
  | ok rebuilt =>
      cases checked :
          verifySignature verifier generator.parentCert rebuilt with
      | error what =>
          simp [checked]
      | ok nothing =>
          simp [checked]

/--
The documented behaviour of Fizz: the signature that `generateCredential` made
passes the check over the same buffer, certificate and scheme.
-/
structure SignatureVerifier.AcceptsSigned
    {Key : Type}
    (verifier : SignatureVerifier)
    (fizz : FizzLibrary Key) :
    Prop where
  accepts :
    ∀ {parent parentKey key parentScheme scheme seconds reading credential},
      fizz.generateCredential parent parentKey key parentScheme scheme
          seconds reading = .ok credential →
        ∃ certDer signatureBuffer,
          verifier.derEncode parent = .ok certDer ∧
            verifier.prepareSignatureBuffer credential certDer =
              .ok signatureBuffer ∧
            verifier.peerVerify parent credential.credentialScheme
              signatureBuffer credential.signature = .ok ()

/-- What Fizz signed passes the check. -/
theorem SignatureVerifier.AcceptsSigned.verifySignature_eq_ok
    {Key : Type}
    {verifier : SignatureVerifier}
    {fizz : FizzLibrary Key}
    (accepts : verifier.AcceptsSigned fizz)
    {parent : ParentCertificate}
    {parentKey key : Key}
    {parentScheme scheme : UInt16}
    {seconds : UInt32}
    {reading : ClockReading}
    {credential : FizzDelegatedCredential}
    (signs :
      fizz.generateCredential parent parentKey key parentScheme scheme
        seconds reading = .ok credential) :
    verifySignature verifier parent credential = .ok () := by
  obtain ⟨certDer, signatureBuffer, encodes, prepares, verifies⟩ :=
    accepts.accepts signs
  rw [verifySignature, encodes]
  simp only [bind, Except.bind, prepares]
  exact verifies

/--
The record verifies as the credential that Fizz signed: that credential is rebuilt
from it, whoever checks the signature checks it of that credential, and Fizz's own
check succeeds.
-/
structure VerifiesAs
    {Key : Type}
    (fizz : FizzLibrary Key)
    (generator : FizzCredentialGenerator Key)
    (signed : FizzDelegatedCredential)
    (record : ServiceCredential) :
    Prop where
  rebuilt : rebuildCredential record.credential = .ok signed
  verdict :
    ∀ verifier : SignatureVerifier,
      verifyDelegatedCredential verifier generator record = true ↔
        verifySignature verifier generator.parentCert signed = .ok ()
  verified :
    ∀ verifier : SignatureVerifier,
      verifier.AcceptsSigned fizz →
        verifyDelegatedCredential verifier generator record = true

/-- A record from which the signed credential is rebuilt verifies as it. -/
theorem VerifiesAs.of_rebuilt
    {Key : Type}
    {fizz : FizzLibrary Key}
    {generator : FizzCredentialGenerator Key}
    {key : Key}
    {parentScheme scheme : UInt16}
    {seconds : UInt32}
    {reading : ClockReading}
    {signed : FizzDelegatedCredential}
    (signs :
      fizz.generateCredential generator.parentCert generator.parentKey key
        parentScheme scheme seconds reading = .ok signed)
    {record : ServiceCredential}
    (rebuilt : rebuildCredential record.credential = .ok signed) :
    VerifiesAs fizz generator signed record := by
  have verdict :
      ∀ verifier : SignatureVerifier,
        verifyDelegatedCredential verifier generator record = true ↔
          verifySignature verifier generator.parentCert signed = .ok () := by
    intro verifier
    rw [verifyDelegatedCredential_eq_true_iff]
    constructor
    · rintro ⟨other, isOther, accepted⟩
      rw [rebuilt] at isOther
      cases isOther
      exact accepted
    · intro accepted
      exact ⟨signed, rebuilt, accepted⟩
  exact
    { rebuilt := rebuilt
      verdict := verdict
      verified := fun verifier accepts =>
        (verdict verifier).mpr (accepts.verifySignature_eq_ok signs) }

/--
A generated credential verifies as the one Fizz signed, and so it does after the
record went through storage, into which every working writer puts it.
-/
theorem generated_verifies
    {Key : Type}
    {fizz : FizzLibrary Key}
    {generator : FizzCredentialGenerator Key}
    {generatedKey : Except String Key}
    {serviceName : String}
    {validSeconds : UInt32}
    {signing now : ClockReading}
    {issued : ServiceCredential}
    (issues :
      generateDelegatedCredential fizz generator generatedKey serviceName
        validSeconds signing now = .ok issued) :
    ∃ key parentScheme scheme signed,
      generatedKey = .ok key ∧
        selectSchemes fizz generator.parentKey key =
          .ok (parentScheme, scheme) ∧
        fizz.generateCredential generator.parentCert generator.parentKey key
          parentScheme scheme validSeconds signing = .ok signed ∧
        VerifiesAs fizz generator signed issued ∧
        ∀ {Value : Type} {writer : Serializer Value}
          {reader : Deserializer Value},
          Faithful writer reader →
            (writer.Works →
              ∃ wire,
                Serialize.serialize writer
                    ({ inner := issued } : DelegatedCredentialData) =
                  .ok wire) ∧
              ∀ wire,
                Serialize.serialize writer
                    ({ inner := issued } : DelegatedCredentialData) =
                  .ok wire →
                ∃ stored : DelegatedCredentialData,
                  Deserialize.deserialize reader wire = .ok stored ∧
                    VerifiesAs fizz generator signed stored.inner := by
  obtain ⟨key, parentScheme, scheme, signed, publicKeyDer, keyPem, generated,
    selects, signs, _, shape⟩ := generateDelegatedCredential_eq_ok issues
  have rebuilt : rebuildCredential issued.credential = .ok signed := by
    rw [shape]
    exact rebuildCredential_buildServiceCredential fizz serviceName
      validSeconds signed publicKeyDer keyPem now
  have verifies : VerifiesAs fizz generator signed issued :=
    .of_rebuilt signs rebuilt
  refine
    ⟨key, parentScheme, scheme, signed, generated, selects, signs, verifies,
      ?_⟩
  intro Value writer reader faithful
  have stores := DelegatedCredentialData.roundTrips faithful
  refine ⟨fun works => stores.written works _, ?_⟩
  intro wire written
  exact ⟨{ inner := issued }, stores.readBack _ _ written, verifies⟩

/-- A verifier that accepts the signature of `minuteCredential` alone. -/
def minuteVerifier : SignatureVerifier where
  derEncode _ := .ok [0x30]
  prepareSignatureBuffer credential certDer :=
    .ok (certDer ++ credential.publicKey)
  peerVerify _ scheme signatureBuffer signature :=
    if scheme = 0x0403 ∧ signatureBuffer = [0x30, 0xab] ∧
        signature = [1] then
      .ok ()
    else
      .error "Signature verification failed"

/-- The generator of the samples. -/
def minuteGenerator : FizzCredentialGenerator Unit where
  parentCert := epochCertificate
  parentKey := ()

theorem minuteVerifier_acceptsSigned
    (reading : ClockReading) :
    minuteVerifier.AcceptsSigned (minuteLibrary reading) where
  accepts := by
    intro parent parentKey key parentScheme scheme seconds now credential
      signs
    obtain ⟨_, _, _, rfl⟩ := of_sampleLibrary_signs signs
    exact ⟨[0x30], [0x30, 0xab], rfl, rfl, rfl⟩

/-- The issued credential verifies, stored or not, and not for every verifier. -/
theorem generated_verifies_sample :
    VerifiesAs (minuteLibrary halfSecond) minuteGenerator minuteCredential
        sampleData.inner ∧
      verifyDelegatedCredential minuteVerifier minuteGenerator
        sampleData.inner = true ∧
      verifyDelegatedCredential
          { minuteVerifier with
            peerVerify := fun _ _ _ _ => .error "no match" }
          minuteGenerator sampleData.inner = false ∧
      ∀ shape,
        ∃ stored : DelegatedCredentialData,
          Deserialize.deserialize (treeReader shape) sampleDataTree =
              .ok stored ∧
            verifyDelegatedCredential minuteVerifier minuteGenerator
              stored.inner = true := by
  have issues :
      generateDelegatedCredential (minuteLibrary halfSecond) minuteGenerator
          (.ok ()) "service" 60 halfSecond lateFirstSecond =
        .ok sampleData.inner :=
    rfl
  have accepts := minuteVerifier_acceptsSigned halfSecond
  obtain ⟨key, parentScheme, scheme, signed, _, _, signs, verifies,
    storage⟩ := generated_verifies issues
  cases signs
  refine ⟨verifies, verifies.verified _ accepts, ?_, ?_⟩
  · rw [Bool.eq_false_iff, ne_eq, verifies.verdict]
    nofun
  · intro shape
    obtain ⟨stored, reads, storedVerifies⟩ :=
      (storage (tree_faithful shape)).2 sampleDataTree rfl
    exact ⟨stored, reads, storedVerifies.verified _ accepts⟩

end FizzRs
