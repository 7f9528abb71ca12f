import FizzRs.CertificateLoading
import FizzRs.PemSeam

namespace FizzRs

open PemText

/-!
# Server contexts

`new_server_tls_context` hands the parent certificate and the delegated
credential to Fizz as one PEM text, the first text followed by the second one
with nothing between them.  Whether both survive depends on the seam.  The
certificate is stored as it was loaded, and a text whose last line has no
terminator is loaded like any other.

Fizz's reader is a parameter that is given the blocks of a text: it works line
by line, and a marker counts only as a whole line.
-/

/-- Certificate and private key data. -/
structure CertificateData where
  certPem : String
  keyPem : String
  sigSchemes : List UInt16
  deriving Repr, DecidableEq

/-- The certificate that a server presents by default. -/
inductive DefaultCertificate (SelfCert : Type) where
  | delegated (dcCert : SelfCert)
  | plain (selfCert : SelfCert)
  deriving Repr, DecidableEq

/-- `FizzServerContext`, with what it configures in the Fizz context. -/
structure FizzServerContext (SelfCert : Type) where
  certManager : DefaultCertificate SelfCert
  supportedVersions : List UInt16
  supportedCiphers : List UInt16
  supportedSigSchemes : List UInt16
  supportedGroups : List UInt16
  alpnProtocols : List String
  supportedAlpns : List String
  deriving Repr, DecidableEq

/-- What server contexts use of Fizz and OpenSSL. -/
structure ServerLibrary (X509 Key SelfCert : Type) where
  loadDCFromPEM : List Block → Except String (Option SelfCert)
  pemReadX509 : String → Option X509
  pemReadPrivateKey : String → Option Key
  selfCert : Key → X509 → Except String SelfCert

section Construction

variable {X509 Key SelfCert : Type}
variable (library : ServerLibrary X509 Key SelfCert)

/-- The settings that both constructors make. -/
def configured
    (certManager : DefaultCertificate SelfCert) :
    FizzServerContext SelfCert where
  certManager := certManager
  supportedVersions := [0x0304]
  supportedCiphers := [0x1301, 0x1302, 0x1303]
  supportedSigSchemes := [0x0403, 0x0503, 0x0603, 0x0804]
  supportedGroups := [29, 23, 24, 25]
  alpnProtocols := []
  supportedAlpns := []

/-- `new_server_tls_context`. -/
def newServerTlsContext
    (parentCert : CertificatePublic)
    (delegatedCred : ServiceCredential) :
    Except String (FizzServerContext SelfCert) :=
  match library.loadDCFromPEM
      (contents (combinedPem parentCert delegatedCred)) with
  | .error what =>
      .error ("Failed to create server TLS context: " ++ what)
  | .ok none =>
      .error ("Failed to create server TLS context: " ++
        "Failed to load delegated credential from PEM")
  | .ok (some dcCert) => .ok (configured (.delegated dcCert))

/-- The certificate of a server without a delegated credential. -/
def parentSelfCert
    (parentCert : CertificateData) :
    Except String SelfCert :=
  match library.pemReadX509 parentCert.certPem with
  | none => .error "Failed to parse parent certificate PEM"
  | some cert =>
      match library.pemReadPrivateKey parentCert.keyPem with
      | none => .error "Failed to parse parent private key PEM"
      | some key => library.selfCert key cert

/-- `new_server_tls_context_no_dc`. -/
def newServerTlsContextNoDc
    (parentCert : CertificateData) :
    Except String (FizzServerContext SelfCert) :=
  match parentSelfCert library parentCert with
  | .error what =>
      .error ("Failed to create non-DC server TLS context: " ++ what)
  | .ok selfCert => .ok (configured (.plain selfCert))

end Construction

/-- `server_context_set_alpn_protocols`. -/
def serverContextSetAlpnProtocols
    (context : FizzServerContext SelfCert)
    (protocols : List String) :
    FizzServerContext SelfCert :=
  { context with
    alpnProtocols := protocols
    supportedAlpns :=
      if protocols = [] then context.supportedAlpns else protocols }

/--
The certificate text and the credential text stay apart: the credential has no
block, or every block begun in the certificate text is ended there and the
credential starts on a line of its own or with a blank line.
-/
def SeamKept (certPem credentialPem : String) : Prop :=
  contents credentialPem = [] ∨
    (openBlock none (rows certPem) = none ∧
      (endsLine certPem.toList = true ∨ startsBlank credentialPem = true))

instance (certPem credentialPem : String) :
    Decidable (SeamKept certPem credentialPem) :=
  inferInstanceAs (Decidable (_ ∨ _))

/--
For a certificate text that was loaded and a credential that is a sequence of
blocks, the combined text reads as the blocks of both exactly when the seam is
kept.  Then a server context is made from every certificate and credential that
Fizz accepts block by block.
-/
theorem combinedPem_keeps_blocks_iff
    {X509 PublicKey : Type}
    {library : CertificateLibrary X509 PublicKey}
    {files : String → Option ByteArray}
    {source : CertificateSource}
    {certPem : String}
    {parentCert : CertificatePublic}
    {delegatedCred : ServiceCredential}
    (hasText : source.text? files = some certPem)
    (loads : loadCertificatePublic library files source = .ok parentCert)
    (wellFormed : WellFormed delegatedCred.credentialPem) :
    (contents (combinedPem parentCert delegatedCred) =
        contents certPem ++ contents delegatedCred.credentialPem ↔
      SeamKept certPem delegatedCred.credentialPem) ∧
    (SeamKept certPem delegatedCred.credentialPem →
      ∀ (Key SelfCert : Type)
        (server : ServerLibrary X509 Key SelfCert) dcCert,
        server.loadDCFromPEM
            (contents certPem ++ contents delegatedCred.credentialPem) =
          .ok (some dcCert) →
        newServerTlsContext server parentCert delegatedCred =
          .ok (configured (.delegated dcCert))) := by
  obtain ⟨stored, _⟩ := of_loadCertificatePublic_eq_ok loads
  rw [hasText, Option.some.injEq] at stored
  subst certPem
  have keeps :
      contents (combinedPem parentCert delegatedCred) =
          contents parentCert.certPem ++
            contents delegatedCred.credentialPem ↔
        SeamKept parentCert.certPem delegatedCred.credentialPem :=
    contents_append_iff parentCert.certPem wellFormed
  refine ⟨keeps, ?_⟩
  intro kept Key SelfCert server dcCert accepts
  rw [newServerTlsContext, keeps.mpr kept, accepts]

/-- A credential and nothing else. -/
def credentialText : String :=
  "-----BEGIN FIZZ DELEGATED CREDENTIAL-----\nREM=\n-----END FIZZ DELEGATED CREDENTIAL-----\n"

/-- `certificateText` without its final line break. -/
def unterminatedCertificateText : String :=
  "-----BEGIN CERTIFICATE-----\nQ0VSVA==\n-----END CERTIFICATE-----"

/-- A credential record with this PEM. -/
def credentialWithPem (credentialPem : String) : ServiceCredential where
  serviceName := "echo"
  credential :=
    { validTime := 7200
      expectedVerifyScheme := 0x0403
      publicKeyDer := ""
      credentialScheme := 0x0403
      signature := "" }
  privateKeyPem := ""
  publicKeyDer := ""
  createdAt := 0
  expiresAt := 0
  credentialPem := credentialPem

/-- A server library that wants a certificate and a credential, and no more. -/
def twoBlockLibrary : ServerLibrary Block Block Unit where
  loadDCFromPEM found :=
    if found.map Block.label =
        ["CERTIFICATE".toList, "FIZZ DELEGATED CREDENTIAL".toList] then
      .ok (some ())
    else
      .ok none
  pemReadX509 := firstCertificate
  pemReadPrivateKey _ := none
  selfCert _ _ := .error ""

theorem wellFormed_credentialText :
    WellFormed credentialText := by
  decide +kernel

/-- The block of `credentialText`. -/
def credentialBlock : Block where
  label := "FIZZ DELEGATED CREDENTIAL".toList
  lines := lines credentialText.toList

/-- The block of `unterminatedCertificateText`. -/
def unterminatedBlock : Block where
  label := "CERTIFICATE".toList
  lines := lines unterminatedCertificateText.toList

theorem contents_certificateText :
    contents certificateText = [certificateBlock.stripped] := by
  rw [contents_eq_map_blocks, blocks_certificateText]
  rfl

theorem contents_credentialText :
    contents credentialText = [credentialBlock.stripped] := by
  have found : blocks credentialText = [credentialBlock] := by
    decide +kernel
  rw [contents_eq_map_blocks, found]
  rfl

theorem blocks_unterminatedCertificateText :
    blocks unterminatedCertificateText = [unterminatedBlock] := by
  decide +kernel

theorem contents_unterminatedCertificateText :
    contents unterminatedCertificateText =
      [unterminatedBlock.stripped] := by
  rw [contents_eq_map_blocks, blocks_unterminatedCertificateText]
  rfl

theorem combinedPem_keeps_blocks_iff_sample :
    ∃ loaded,
      loadCertificatePublic blockLibrary (fun _ => none)
          (.pem certificateText) = .ok loaded ∧
        newServerTlsContext twoBlockLibrary loaded
            (credentialWithPem credentialText) =
          .ok (configured (.delegated ())) := by
  have found : firstCertificate certificateText = some certificateBlock := by
    rw [firstCertificate, blocks_certificateText]
    rfl
  have loads := blockLibrary_loads found
  have closed : openBlock none (rows certificateText) = none := by
    decide +kernel
  have kept : SeamKept certificateText credentialText :=
    .inr ⟨closed, .inl (by decide +kernel)⟩
  have accepts :
      twoBlockLibrary.loadDCFromPEM
          (contents certificateText ++ contents credentialText) =
        .ok (some ()) := by
    rw [contents_certificateText, contents_credentialText]
    rfl
  have wellFormed :
      WellFormed (credentialWithPem credentialText).credentialPem :=
    wellFormed_credentialText
  have keeps := combinedPem_keeps_blocks_iff rfl loads wellFormed
  exact ⟨_, loads,
    keeps.2 kept _ _ twoBlockLibrary () accepts⟩

/--
A certificate whose last line has no terminator is loaded, the credential is
well formed, and Fizz accepts the blocks of both.  Their combination has no
block left, and no server context is made.
-/
theorem unterminatedCertificate_spoils :
    ∃ loaded,
      loadCertificatePublic blockLibrary (fun _ => none)
          (.pem unterminatedCertificateText) = .ok loaded ∧
        WellFormed (credentialWithPem credentialText).credentialPem ∧
        twoBlockLibrary.loadDCFromPEM
            (contents unterminatedCertificateText ++
              contents credentialText) = .ok (some ()) ∧
        contents
            (combinedPem loaded (credentialWithPem credentialText)) = [] ∧
        contents
            (combinedPem loaded (credentialWithPem credentialText)) ≠
          contents unterminatedCertificateText ++
            contents (credentialWithPem credentialText).credentialPem ∧
        newServerTlsContext twoBlockLibrary loaded
            (credentialWithPem credentialText) =
          .error ("Failed to create server TLS context: " ++
            "Failed to load delegated credential from PEM") := by
  have accepts :
      twoBlockLibrary.loadDCFromPEM
          (contents unterminatedCertificateText ++
            contents credentialText) = .ok (some ()) := by
    rw [contents_unterminatedCertificateText, contents_credentialText]
    rfl
  have found :
      firstCertificate unterminatedCertificateText =
        some unterminatedBlock := by
    rw [firstCertificate, blocks_unterminatedCertificateText]
    rfl
  have loads := blockLibrary_loads found
  have nothing :
      contents (unterminatedCertificateText ++ credentialText) = [] := by
    rw [contents, rows, String.toList_append]
    decide +kernel
  have something : contents credentialText ≠ [] := by
    rw [contents_credentialText]
    exact List.cons_ne_nil _ _
  refine ⟨_, loads, wellFormed_credentialText, accepts, nothing, ?_, ?_⟩
  · intro same
    have both := nothing.symm.trans same
    exact something (List.append_eq_nil_iff.mp both.symm).2
  · rw [newServerTlsContext]
    have combined :
        contents
          (combinedPem
            { certPem := unterminatedCertificateText
              sigSchemes := [0x0403] }
            (credentialWithPem credentialText)) = [] := nothing
    rw [combined]
    rfl

end FizzRs
