import FizzRs.CertificateLoading
import FizzRs.CredentialVerification
import FizzRs.JsonDump
import FizzRs.VerificationInfoJson

namespace FizzRs

open JsonText
open WireFormat

/-!
# From the sidecar to the two demo programs

The sidecar signs a credential with the key of the parent certificate and writes
two files.  One is for the server, which never sees that key; the other is for
clients, which are configured from it.  The files are written by a JSON library,
of which it is only known that it prints JSON, and read by derived `Deserialize`
code.

Unlike `generate_delegated_credential`, the sidecar takes the expiry from the
certificate and the signed `valid_time`, as a client recomputes it.  No clock
reading but the one inside Fizz is involved, and every client that reads the
client file accepts what every server that reads the server file presents.
-/

namespace Sidecar

/-- What the server needs. -/
structure ServerCredential where
  signatureScheme : UInt16
  credentialPEM : String
  deriving Repr, DecidableEq

/-- What the client needs. -/
structure ClientVerificationInfo where
  verifyScheme : UInt16
  publicKeyDer : String
  validTime : UInt32
  expiresAt : UInt64
  deriving Repr, DecidableEq

section Generation

variable {Key : Type}
variable (fizz : FizzLibrary Key)
variable (verifier : SignatureVerifier)

/-- `publicKeyToDer`: one call for the length, another one for the bytes. -/
def publicKeyToDer (pkey : Key) : Except String String :=
  match fizz.i2dPubkey pkey with
  | none => .error "Failed to get DER length"
  | some _ =>
      match fizz.i2dPubkey pkey with
      | none => .error "Failed to convert public key to DER"
      | some derData =>
          .ok (derData.foldl
            (fun hexStream byte =>
              hexStream ++ String.ofList (HexCodec.numeral 2 byte.toNat))
            "")

/-- `verifyCredential`. -/
def verifyCredential
    (parentCert : ParentCertificate)
    (credential : FizzDelegatedCredential) :
    Except String Unit :=
  match verifySignature verifier parentCert credential with
  | .error what => .error ("Credential self-verification failed: " ++ what)
  | .ok () => .ok ()

/-- The two structures made of a signed credential. -/
def buildResult
    (parentCert : ParentCertificate)
    (credential : FizzDelegatedCredential)
    (credSigScheme : UInt16)
    (publicKeyDer keyPEM : String) :
    ServerCredential × ClientVerificationInfo :=
  ({ signatureScheme := credSigScheme
     credentialPEM :=
       fizz.generateDelegatedCredentialPEM credential keyPEM },
    { verifyScheme := credential.expectedVerifyScheme
      publicKeyDer := publicKeyDer
      validTime := credential.validTime
      expiresAt :=
        unixTimestamp
          (fizz.getCredentialExpiresTime parentCert credential) })

/--
`generateDelegatedCredential`, given the generated key and the clock reading
inside Fizz.
-/
def generateDelegatedCredential
    (parentCert : ParentCertificate)
    (parentKey : Key)
    (generatedKey : Except String Key)
    (validitySeconds : UInt32)
    (signing : ClockReading) :
    Except String (ServerCredential × ClientVerificationInfo) := do
  let credKey ← generatedKey
  let (parentSigScheme, credSigScheme) ←
    selectSchemes fizz parentKey credKey
  let credential ←
    fizz.generateCredential parentCert parentKey credKey parentSigScheme
      credSigScheme validitySeconds signing
  let _ ← verifyCredential verifier parentCert credential
  let publicKeyDer ← publicKeyToDer fizz credKey
  let keyPEM ← keyToPem fizz credKey
  return buildResult fizz parentCert credential credSigScheme publicKeyDer
    keyPEM

end Generation

section Program

/-- What `main` uses of OpenSSL and Fizz besides. -/
structure FileLibrary (Key : Type) where
  pemReadX509 : String → Option ParentCertificate
  pemReadPrivateKey : String → Option Key
  checkExtensions : ParentCertificate → Except String Unit
  selfCert : Key → ParentCertificate → Except String Unit

variable {Key : Type}
variable (fizz : FizzLibrary Key)
variable (verifier : SignatureVerifier)
variable (library : FileLibrary Key)
variable (json : Printer)
variable (files : String → Option String)

/-- `loadCertificate`. -/
def loadCertificate (certPath : String) : Except String ParentCertificate :=
  match files certPath with
  | none => .error ("Cannot open certificate file: " ++ certPath)
  | some certPem =>
      match library.pemReadX509 certPem with
      | none => .error ("Failed to parse certificate from: " ++ certPath)
      | some cert => .ok cert

/-- `loadPrivateKey`. -/
def loadPrivateKey (keyPath : String) : Except String Key :=
  match files keyPath with
  | none => .error ("Cannot open private key file: " ++ keyPath)
  | some keyPem =>
      match library.pemReadPrivateKey keyPem with
      | none => .error ("Failed to parse private key from: " ++ keyPath)
      | some key => .ok key

/-- The members of the server file. -/
def serverEntries
    (serverCredential : ServerCredential) :
    List (String × Scalar) :=
  [("signatureScheme", .unsigned serverCredential.signatureScheme.toUInt64),
    ("credentialPEM", .string serverCredential.credentialPEM)]

/-- The members of the client file. -/
def clientEntries
    (info : ClientVerificationInfo) :
    List (String × Scalar) :=
  [("service_name", .string ""),
    ("valid_time", .unsigned info.validTime.toUInt64),
    ("expected_verify_scheme", .unsigned info.verifyScheme.toUInt64),
    ("public_key_der", .string info.publicKeyDer),
    ("expires_at", .unsigned info.expiresAt)]

/-- The texts of the two files that `main` writes. -/
structure Written where
  fizzServerJson : String
  fizzClientJson : String
  deriving Repr, DecidableEq

/-- `file << object.dump(2) << std::endl` for both objects. -/
def writeFiles
    (result : ServerCredential × ClientVerificationInfo) :
    Written where
  fizzServerJson := json.dump 2 (serverEntries result.1) ++ "\n"
  fizzClientJson := json.dump 2 (clientEntries result.2) ++ "\n"

/-- How long the delegation is valid for: a week. -/
def validitySeconds : UInt32 :=
  24 * 7 * 3600

/-- `main`; an exception ends it before a file is opened for writing. -/
def main
    (generatedKey : Except String Key)
    (signing : ClockReading) :
    Except String Written := do
  let certificate ← loadCertificate library files "fizz.crt"
  let certificateKey ← loadPrivateKey library files "fizz.key"
  let _ ← library.checkExtensions certificate
  let _ ← library.selfCert certificateKey certificate
  let key ← loadPrivateKey library files "fizz.key"
  let result ←
    generateDelegatedCredential fizz verifier certificate key generatedKey
      validitySeconds signing
  return writeFiles json result

end Program

/-- A run of the sidecar that wrote its files. -/
structure Run
    {Key : Type}
    (fizz : FizzLibrary Key)
    (verifier : SignatureVerifier)
    (library : FileLibrary Key)
    (json : Printer) where
  files : String → Option String
  generatedKey : Except String Key
  signing : ClockReading
  written : Written
  succeeds :
    main fizz verifier library json files generatedKey signing =
      .ok written

/-- The certificate that a run loaded and the credential that Fizz signed in it. -/
structure Run.Signed
    {Key : Type}
    {fizz : FizzLibrary Key}
    {verifier : SignatureVerifier}
    {library : FileLibrary Key}
    {json : Printer}
    (run : Run fizz verifier library json)
    (parent : ParentCertificate)
    (credential : FizzDelegatedCredential) :
    Prop where
  certificate : loadCertificate library run.files "fizz.crt" = .ok parent
  signs :
    ∃ parentKey key schemes,
      loadPrivateKey library run.files "fizz.key" = .ok parentKey ∧
        run.generatedKey = .ok key ∧
        selectSchemes fizz parentKey key = .ok schemes ∧
        fizz.generateCredential parent parentKey key schemes.1 schemes.2
          validitySeconds run.signing = .ok credential

section Inversion

variable {Key : Type}
variable {fizz : FizzLibrary Key}
variable {verifier : SignatureVerifier}
variable {library : FileLibrary Key}
variable {json : Printer}

/-- Both hex printers of public keys agree with the printer of the client. -/
theorem publicKeyToDer_eq
    {key : Key}
    {der : List UInt8}
    {printed : String}
    (encodes : fizz.i2dPubkey key = some der)
    (prints : publicKeyToDer fizz key = .ok printed) :
    printed = bytesToHexLower der := by
  simp only [publicKeyToDer, encodes, Except.ok.injEq] at prints
  rw [← prints, bytesToHexLower_eq]
  exact (foldl_append_byteNumeral der "").trans (String.empty_append)

/-- What a successful generation consists of. -/
theorem of_generateDelegatedCredential_eq_ok
    {parentCert : ParentCertificate}
    {parentKey : Key}
    {generatedKey : Except String Key}
    {validity : UInt32}
    {signing : ClockReading}
    {result : ServerCredential × ClientVerificationInfo}
    (generates :
      generateDelegatedCredential fizz verifier parentCert parentKey
        generatedKey validity signing = .ok result) :
    ∃ key schemes credential publicKeyDer keyPEM,
      generatedKey = .ok key ∧
        selectSchemes fizz parentKey key = .ok schemes ∧
        fizz.generateCredential parentCert parentKey key schemes.1
          schemes.2 validity signing = .ok credential ∧
        publicKeyToDer fizz key = .ok publicKeyDer ∧
        result =
          buildResult fizz parentCert credential schemes.2 publicKeyDer
            keyPEM := by
  unfold generateDelegatedCredential at generates
  obtain ⟨key, generated, afterKey⟩ := exists_of_bind_eq_ok generates
  obtain ⟨schemes, selects, afterSchemes⟩ := exists_of_bind_eq_ok afterKey
  obtain ⟨credential, signs, afterSigning⟩ :=
    exists_of_bind_eq_ok afterSchemes
  obtain ⟨_, _, afterCheck⟩ := exists_of_bind_eq_ok afterSigning
  obtain ⟨publicKeyDer, prints, afterHex⟩ := exists_of_bind_eq_ok afterCheck
  obtain ⟨keyPEM, _, builds⟩ := exists_of_bind_eq_ok afterHex
  cases builds
  exact ⟨key, schemes, credential, publicKeyDer, keyPEM, generated, selects,
    signs, prints, rfl⟩

/-- What a successful run consists of. -/
theorem of_main_eq_ok
    {files : String → Option String}
    {generatedKey : Except String Key}
    {signing : ClockReading}
    {written : Written}
    (succeeds :
      main fizz verifier library json files generatedKey signing =
        .ok written) :
    ∃ certificate key result,
      loadCertificate library files "fizz.crt" = .ok certificate ∧
        loadPrivateKey library files "fizz.key" = .ok key ∧
        generateDelegatedCredential fizz verifier certificate key
          generatedKey validitySeconds signing = .ok result ∧
        written = writeFiles json result := by
  unfold main at succeeds
  obtain ⟨certificate, loads, afterCertificate⟩ :=
    exists_of_bind_eq_ok succeeds
  obtain ⟨_, _, afterFirstKey⟩ := exists_of_bind_eq_ok afterCertificate
  obtain ⟨_, _, afterCheck⟩ := exists_of_bind_eq_ok afterFirstKey
  obtain ⟨_, _, afterSelfCert⟩ := exists_of_bind_eq_ok afterCheck
  obtain ⟨key, loadsKey, afterKey⟩ := exists_of_bind_eq_ok afterSelfCert
  obtain ⟨result, generates, writes⟩ := exists_of_bind_eq_ok afterKey
  cases writes
  exact ⟨certificate, key, result, loads, loadsKey, generates, rfl⟩

/--
Every run that wrote its files signed a credential, and the files are made of
this credential.
-/
theorem Run.exists_signed
    (documented : fizz.Documented)
    (run : Run fizz verifier library json) :
    ∃ parent credential scheme keyPEM,
      run.Signed parent credential ∧
        run.written =
          writeFiles json
            (buildResult fizz parent credential scheme
              (bytesToHexLower credential.publicKey) keyPEM) := by
  obtain ⟨parent, parentKey, result, loads, loadsKey, generates, writes⟩ :=
    of_main_eq_ok run.succeeds
  obtain ⟨key, schemes, credential, publicKeyDer, keyPEM, generated, selects,
    signs, prints, builds⟩ := of_generateDelegatedCredential_eq_ok generates
  have signed : run.Signed parent credential :=
    ⟨loads, parentKey, key, schemes, loadsKey, generated, selects, signs⟩
  refine ⟨parent, credential, schemes.2, keyPEM, signed, ?_⟩
  rw [writes, builds, publicKeyToDer_eq (documented.publicKey signs) prints]

/-- A run has one certificate and one credential. -/
theorem Run.Signed.unique
    {run : Run fizz verifier library json}
    {parent otherParent : ParentCertificate}
    {credential other : FizzDelegatedCredential}
    (signed : run.Signed parent credential)
    (otherSigned : run.Signed otherParent other) :
    parent = otherParent ∧ credential = other := by
  obtain ⟨loads, parentKey, key, schemes, loadsKey, generated, selects,
    signs⟩ := signed
  obtain ⟨otherLoads, otherParentKey, otherKey, otherSchemes, otherLoadsKey,
    otherGenerated, otherSelects, otherSigns⟩ := otherSigned
  obtain rfl := Except.ok.inj (loads.symm.trans otherLoads)
  obtain rfl := Except.ok.inj (loadsKey.symm.trans otherLoadsKey)
  obtain rfl := Except.ok.inj (generated.symm.trans otherGenerated)
  obtain rfl := Except.ok.inj (selects.symm.trans otherSelects)
  exact ⟨rfl, Except.ok.inj (signs.symm.trans otherSigns)⟩

/-- The files of a run are made of the credential that was signed in it. -/
theorem Run.Signed.written_eq
    (documented : fizz.Documented)
    {run : Run fizz verifier library json}
    {parent : ParentCertificate}
    {credential : FizzDelegatedCredential}
    (signed : run.Signed parent credential) :
    ∃ scheme keyPEM,
      run.written =
        writeFiles json
          (buildResult fizz parent credential scheme
            (bytesToHexLower credential.publicKey) keyPEM) := by
  obtain ⟨otherParent, other, scheme, keyPEM, otherSigned, writes⟩ :=
    run.exists_signed documented
  obtain ⟨rfl, rfl⟩ := signed.unique otherSigned
  exact ⟨scheme, keyPEM, writes⟩

end Inversion

end Sidecar

namespace DemoServer

/-- What the demo server reads from its file. -/
structure DelegatedCredential where
  signatureScheme : UInt16
  credentialPEM : String
  deriving Repr, DecidableEq

namespace DelegatedCredential

/-- The types of the fields, in order. -/
def Content : Fin 2 → Type
  | 0 => UInt16
  | 1 => String

/-- The derived visitor. -/
def visitor : StructVisitor Content DelegatedCredential where
  name := "DelegatedCredential"
  fields := #v["signatureScheme", "credentialPEM"]
  tables :=
    { visitStr := [("signatureScheme", 0), ("credentialPEM", 1)]
      visitBytes :=
        [(utf8 "signatureScheme", 0), (utf8 "credentialPEM", 1)]
      visitU64 := [(0, 0), (1, 1)] }
  duplicateField := #v["signatureScheme", "credentialPEM"]
  invalidLength := "struct DelegatedCredential with 2 elements"
  read format
    | 0 => @Deserialize.deserialize UInt16 _ _ format
    | 1 => @Deserialize.deserialize String _ _ format
  missing
    | 0 => (missingField "signatureScheme" : Except DeError UInt16)
    | 1 => (missingField "credentialPEM" : Except DeError String)
  build field :=
    { signatureScheme := field 0
      credentialPEM := field 1 }
  readElement format
    | 0 => @Deserialize.deserialize UInt16 _ _ format
    | 1 => @Deserialize.deserialize String _ _ format
  buildSeq field :=
    { signatureScheme := field 0
      credentialPEM := field 1 }

/-- The contents of the fields. -/
def contents
    (credential : DelegatedCredential) :
    (field : Fin 2) → Content field
  | 0 => credential.signatureScheme
  | 1 => credential.credentialPEM

theorem visitor_sound :
    visitor.Sound :=
  .of_listings (by decide) (by decide) rfl
    (by
      intro field
      fin_cases field <;> rfl)
    (fun _ => rfl) rfl

theorem visitor_describes :
    visitor.Describes contents where
  build_contents _ := rfl
  contents_build fields := by
    funext field
    fin_cases field <;> rfl

end DelegatedCredential

instance : Deserialize DelegatedCredential where
  deserialize := DelegatedCredential.visitor.deserialize

end DemoServer

/-- `DelegatedCredentialData::from_pem`: the text, and nothing else. -/
def DelegatedCredentialData.fromPem (pem : String) : DelegatedCredentialData where
  inner :=
    { serviceName := ""
      credential :=
        { validTime := 0
          expectedVerifyScheme := 0
          publicKeyDer := ""
          credentialScheme := 0
          signature := "" }
      privateKeyPem := ""
      publicKeyDer := ""
      createdAt := 0
      expiresAt := 0
      credentialPem := pem }

/-- `serde_json::from_reader` at a type. -/
def fromReader
    (Record : Type)
    [Deserialize Record]
    (text : String) :
    Option Record :=
  match parse text with
  | none => none
  | some json =>
      match Deserialize.deserialize Json.deserializer json with
      | .error _ => none
      | .ok record => some record

/-- The PEM that the demo server makes its context from. -/
def DemoServer.combined
    (cert : CertificatePublic)
    (credentialFile : String) :
    Option String :=
  (fromReader DelegatedCredential credentialFile).map fun json =>
    combinedPem cert (DelegatedCredentialData.fromPem json.credentialPEM).inner

/-- The context of the demo client. -/
def DemoClient.tlsContext
    (verificationInfoFile publicCertificateFile : String) :
    Option FizzClientContext :=
  (fromReader VerificationInfo verificationInfoFile).map fun info =>
    newClientTlsContext info publicCertificateFile

section Reading

variable {printer : Printer}

/-- What clients read in the client file. -/
def Sidecar.ClientVerificationInfo.info
    (verification : Sidecar.ClientVerificationInfo) :
    VerificationInfo where
  serviceName := ""
  validTime := verification.validTime
  expectedVerifyScheme := verification.verifyScheme
  publicKeyDer := verification.publicKeyDer
  expiresAt := verification.expiresAt

/-- A text that is a value of a type is read at this type. -/
theorem fromReader_eq_some
    {Record : Type}
    [Deserialize Record]
    {text : String}
    {json : Json}
    {record : Record}
    (parsed : parse text = some json)
    (deserialized :
      Deserialize.deserialize Json.deserializer json = .ok record) :
    fromReader Record text = some record := by
  simp only [fromReader, parsed, deserialized]

/-- Clients read their file as it was meant. -/
theorem fromReader_clientEntries
    (prints : printer.Documented)
    (verification : Sidecar.ClientVerificationInfo) :
    fromReader VerificationInfo
        (printer.dump 2 (Sidecar.clientEntries verification) ++ "\n") =
      some verification.info := by
  have distinct :
      ((Sidecar.clientEntries verification).map Prod.fst).Nodup := by
    change ["service_name", "valid_time", "expected_verify_scheme",
      "public_key_der", "expires_at"].Nodup
    decide
  have accepted :
      VerificationInfo.visitor.visitMap Json.deserializer
          (List.ofFn fun field =>
            (.name (VerificationInfo.visitor.fields.get field),
              verification.info.jsonValue field)) =
        .ok (VerificationInfo.visitor.build verification.info.contents) :=
    VerificationInfo.visitor_sound.visitMap_ofFn (fun _ => rfl)
      verification.info.read_jsonValue
  obtain ⟨json, parsed, deserialized⟩ :=
    prints.exists_json VerificationInfo.visitor_sound
      VerificationInfo.visitor_describes distinct accepted 2
  exact fromReader_eq_some parsed deserialized

/-- The server reads its file as it was meant. -/
theorem fromReader_serverEntries
    (prints : printer.Documented)
    (credential : Sidecar.ServerCredential) :
    fromReader DemoServer.DelegatedCredential
        (printer.dump 2 (Sidecar.serverEntries credential) ++ "\n") =
      some
        { signatureScheme := credential.signatureScheme
          credentialPEM := credential.credentialPEM } := by
  have distinct :
      ((Sidecar.serverEntries credential).map Prod.fst).Nodup := by
    change ["signatureScheme", "credentialPEM"].Nodup
    decide
  have accepted :
      DemoServer.DelegatedCredential.visitor.visitMap Json.deserializer
          (List.ofFn fun field =>
            (.name
                (DemoServer.DelegatedCredential.visitor.fields.get field),
              ![.number (.natural credential.signatureScheme.toNat),
                .string credential.credentialPEM] field)) =
        .ok (DemoServer.DelegatedCredential.visitor.build
          (DemoServer.DelegatedCredential.contents
            { signatureScheme := credential.signatureScheme
              credentialPEM := credential.credentialPEM })) := by
    refine
      DemoServer.DelegatedCredential.visitor_sound.visitMap_ofFn
        (fun _ => rfl) ?_
    intro field
    fin_cases field
    · have read :=
        Json.unsigned_natural credential.signatureScheme.toNat_lt
          UInt16.ofNat
      rw [UInt16.ofNat_toNat] at read
      exact read
    · rfl
  obtain ⟨json, parsed, deserialized⟩ :=
    prints.exists_json DemoServer.DelegatedCredential.visitor_sound
      DemoServer.DelegatedCredential.visitor_describes distinct accepted 2
  exact fromReader_eq_some parsed deserialized

end Reading

section Handover

variable {Key : Type}
variable {fizz : FizzLibrary Key}
variable {verifier : SignatureVerifier}
variable {library : Sidecar.FileLibrary Key}
variable {json : Printer}

/-- A parsed certificate stands for the text it was parsed from. -/
def Sidecar.FileLibrary.KeepsText (library : FileLibrary Key) : Prop :=
  ∀ text cert, library.pemReadX509 text = some cert → cert.certPem = text

/-- Two signed credentials with the same values in all that a client compares. -/
structure Sidecar.SameDelegation
    (parent otherParent : ParentCertificate)
    (issued served : FizzDelegatedCredential) :
    Prop where
  publicKey : issued.publicKey = served.publicKey
  validTime : issued.validTime = served.validTime
  verifyScheme : issued.expectedVerifyScheme = served.expectedVerifyScheme
  notBefore : parent.notBefore = otherParent.notBefore

/-- The expiry of a credential in seconds, as clients compare it. -/
theorem unixTimestamp_getCredentialExpiresTime
    (documented : fizz.Documented)
    (parent : ParentCertificate)
    (credential : FizzDelegatedCredential) :
    unixTimestamp (fizz.getCredentialExpiresTime parent credential) =
      UInt64.ofInt (parent.notBefore + credential.validTime.toNat) := by
  rw [unixTimestamp, documented.expiresTime, wholeSeconds_mul]

/-- An expiry is nowhere near the limits of a timestamp. -/
theorem expirySeconds_inRange
    (parent : ParentCertificate)
    (validTime : UInt32) :
    -2 ^ 62 ≤ parent.notBefore + validTime.toNat ∧
      parent.notBefore + validTime.toNat < 2 ^ 62 := by
  have inRange := parent.inRange
  have small := validTime.toNat_lt
  simp only [nanosPerSecond] at inRange
  omega

/-- The information in a client file matches the same delegations only. -/
theorem matches_buildResult_iff
    (documented : fizz.Documented)
    (parent otherParent : ParentCertificate)
    (issued served : FizzDelegatedCredential)
    (scheme : UInt16)
    (keyPEM : String) :
    (Sidecar.buildResult fizz parent issued scheme
          (bytesToHexLower issued.publicKey) keyPEM).2.info.Matches served
        (fizz.getCredentialExpiresTime otherParent served) ↔
      Sidecar.SameDelegation parent otherParent issued served := by
  have sameExpiry :
      unixTimestamp (fizz.getCredentialExpiresTime otherParent served) =
          unixTimestamp (fizz.getCredentialExpiresTime parent issued) ↔
        otherParent.notBefore + served.validTime.toNat =
          parent.notBefore + issued.validTime.toNat := by
    rw [unixTimestamp_getCredentialExpiresTime documented,
      unixTimestamp_getCredentialExpiresTime documented]
    exact
      ofInt_eq_ofInt_iff (expirySeconds_inRange otherParent _)
        (expirySeconds_inRange parent _)
  constructor
  · intro isMatch
    have sameTime : served.validTime = issued.validTime := isMatch.validTime
    have expiry := sameExpiry.mp isMatch.expiry
    rw [sameTime] at expiry
    exact
      { publicKey := (isMatch.publicKey issued.publicKey).mp rfl
        validTime := sameTime.symm
        verifyScheme := isMatch.verifyScheme.symm
        notBefore := by omega }
  · intro same
    refine
      .of_comparisons ?_ same.validTime.symm same.verifyScheme.symm ?_
    · rw [← same.publicKey]
      rfl
    · refine sameExpiry.mpr ?_
      rw [same.validTime, same.notBefore]

/-- The server presents the credential of the run that wrote its file. -/
theorem exists_combined
    (documented : fizz.Documented)
    (prints : json.Documented)
    (keepsText : library.KeepsText)
    {run : Sidecar.Run fizz verifier library json}
    {parent : ParentCertificate}
    {credential : FizzDelegatedCredential}
    (signed : run.Signed parent credential)
    {cert : CertificatePublic}
    (sameText : some cert.certPem = run.files "fizz.crt") :
    ∃ pem,
      DemoServer.combined cert run.written.fizzServerJson = some pem ∧
        fizz.loadDCFromPEM pem = some credential := by
  obtain ⟨scheme, keyPEM, writes⟩ := signed.written_eq documented
  obtain ⟨loads, _, _, _, _, _, _, signs⟩ := signed
  have certText : cert.certPem = parent.certPem := by
    rw [Sidecar.loadCertificate, ← sameText] at loads
    simp only at loads
    split at loads
    · cases loads
    · next parsed =>
        cases loads
        exact (keepsText _ _ parsed).symm
  refine ⟨_, ?_, documented.embedded signs keyPEM⟩
  rw [writes, DemoServer.combined, Sidecar.writeFiles,
    fromReader_serverEntries prints]
  simp only [Option.map_some, combinedPem, certText]
  rfl

/-- The client expects the credential of the run that wrote its file. -/
theorem exists_tlsContext
    (documented : fizz.Documented)
    (prints : json.Documented)
    {run : Sidecar.Run fizz verifier library json}
    {parent : ParentCertificate}
    {credential : FizzDelegatedCredential}
    (signed : run.Signed parent credential)
    (caCertPath : String) :
    ∃ scheme keyPEM,
      DemoClient.tlsContext run.written.fizzClientJson caCertPath =
        some (newClientTlsContext
          (Sidecar.buildResult fizz parent credential scheme
            (bytesToHexLower credential.publicKey) keyPEM).2.info
          caCertPath) := by
  obtain ⟨scheme, keyPEM, writes⟩ := signed.written_eq documented
  refine ⟨scheme, keyPEM, ?_⟩
  rw [writes, DemoClient.tlsContext, Sidecar.writeFiles,
    fromReader_clientEntries prints]
  rfl

end Handover

section WeekLibrary

/-- The credential of a one-byte key, valid for a week. -/
def weekCredential : FizzDelegatedCredential :=
  { minuteCredential with validTime := 604800 }

/-- A library that signs `weekCredential`. -/
def weekLibrary : FizzLibrary Unit :=
  sampleLibrary weekCredential halfSecond

/-- A library that knows one certificate and one key. -/
def weekFiles : Sidecar.FileLibrary Unit where
  pemReadX509 text := if text = "CERT" then some epochCertificate else none
  pemReadPrivateKey _ := some ()
  checkExtensions _ := .ok ()
  selfCert _ _ := .ok ()

theorem weekFiles_keepsText :
    weekFiles.KeepsText := by
  intro text cert parsed
  simp only [weekFiles] at parsed
  split at parsed
  · next isCert =>
      cases parsed
      exact isCert.symm
  · cases parsed

/-- What the sidecar of the samples makes. -/
def weekResult : Sidecar.ServerCredential × Sidecar.ClientVerificationInfo :=
  Sidecar.buildResult weekLibrary epochCertificate weekCredential 0x0403 "ab"
    "KEY"

/-- A run of the sidecar. -/
def weekRun :
    Sidecar.Run weekLibrary minuteVerifier weekFiles sortedPrinter where
  files path :=
    if path = "fizz.crt" then
      some "CERT"
    else
      some "KEY"
  generatedKey := .ok ()
  signing := halfSecond
  written := Sidecar.writeFiles sortedPrinter weekResult
  succeeds := rfl

/-- A loader that takes every text. -/
def anyCertificate : CertificateLibrary Unit Unit where
  pemReadX509 _ := some ()
  getPubkey := some
  getSigSchemes _ := .ok [0x0403]

end WeekLibrary

end FizzRs
