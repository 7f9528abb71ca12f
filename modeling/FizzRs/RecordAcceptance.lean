import FizzRs.SerdeRoundTrip

namespace FizzRs

open WireFormat

/-!
# Which maps are records

Credentials are read from files that other programs wrote, with keys in any
order and with keys of their own.  For each of the four records this module says
which lists of entries `visit_map` accepts: every field once, at its type, and
nothing that cannot be skipped.  The fields are written out here with their names;
their types are those of the records.
-/

/-- The fields of a raw credential. -/
def DelegatedCredential.declared :
    Vector (DeclaredField DelegatedCredential) 5 :=
  #v[.of "valid_time" DelegatedCredential.validTime,
    .of "expected_verify_scheme" DelegatedCredential.expectedVerifyScheme,
    .of "public_key_der" DelegatedCredential.publicKeyDer,
    .of "credential_scheme" DelegatedCredential.credentialScheme,
    .of "signature" DelegatedCredential.signature]

/-- The fields of a service credential. -/
def ServiceCredential.declared :
    Vector (DeclaredField ServiceCredential) 7 :=
  #v[.of "service_name" ServiceCredential.serviceName,
    .of "credential" ServiceCredential.credential,
    .of "private_key_pem" ServiceCredential.privateKeyPem,
    .of "public_key_der" ServiceCredential.publicKeyDer,
    .of "created_at" ServiceCredential.createdAt,
    .of "expires_at" ServiceCredential.expiresAt,
    .of "credential_pem" ServiceCredential.credentialPem]

/-- The fields of a verification info. -/
def VerificationInfo.declared :
    Vector (DeclaredField VerificationInfo) 5 :=
  #v[.of "service_name" VerificationInfo.serviceName,
    .of "valid_time" VerificationInfo.validTime,
    .of "expected_verify_scheme" VerificationInfo.expectedVerifyScheme,
    .of "public_key_der" VerificationInfo.publicKeyDer,
    .of "expires_at" VerificationInfo.expiresAt]

/-- The field of the wrapper. -/
def DelegatedCredentialData.declared :
    Vector (DeclaredField DelegatedCredentialData) 1 :=
  #v[.of "inner" DelegatedCredentialData.inner]

theorem DelegatedCredential.visitor_declares :
    visitor.Declares contents declared := by
  intro field
  fin_cases field <;> rfl

theorem ServiceCredential.visitor_declares :
    visitor.Declares contents declared := by
  intro field
  fin_cases field <;> rfl

theorem VerificationInfo.visitor_declares :
    visitor.Declares contents declared := by
  intro field
  fin_cases field <;> rfl

theorem DelegatedCredentialData.visitor_declares :
    visitor.Declares contents declared := by
  intro field
  fin_cases field
  rfl

/--
For every format, the four map visitors accept exactly the lists of entries in
which each field name occurs once with a value of its type and all other values
can be skipped.  The record has the values of these entries, in whatever order
they stand and whatever is skipped between them; a missing field and a repeated
field are errors.
-/
theorem visitMap_acceptsExactly
    {Value : Type}
    (format : Deserializer Value) :
    AcceptsExactly format DelegatedCredential.declared
        (DelegatedCredential.visitor.visitMap format) ∧
      AcceptsExactly format ServiceCredential.declared
        (ServiceCredential.visitor.visitMap format) ∧
      AcceptsExactly format VerificationInfo.declared
        (VerificationInfo.visitor.visitMap format) ∧
      AcceptsExactly format DelegatedCredentialData.declared
        (DelegatedCredentialData.visitor.visitMap format) := by
  refine ⟨?_, ?_, ?_, ?_⟩
  · exact
      DelegatedCredential.visitor_sound.acceptsExactly
        DelegatedCredential.visitor_describes
        DelegatedCredential.visitor_declares format
  · exact
      ServiceCredential.visitor_sound.acceptsExactly
        ServiceCredential.visitor_describes
        ServiceCredential.visitor_declares format
  · exact
      VerificationInfo.visitor_sound.acceptsExactly
        VerificationInfo.visitor_describes
        VerificationInfo.visitor_declares format
  · exact
      DelegatedCredentialData.visitor_sound.acceptsExactly
        DelegatedCredentialData.visitor_describes
        DelegatedCredentialData.visitor_declares format

/-- The fields of a verification info in another order, under all kinds of keys. -/
def shuffledInfo : List (Identifier × Tree) :=
  [(.index 4, .u64 60),
    (.name "comment", .string "for the staging cluster"),
    (.bytes (utf8 "public_key_der"), .string "ab"),
    (.name "valid_time", .u32 60),
    (.name "service_name", .string "service"),
    (.name "expected_verify_scheme", .u16 0x0403)]

/-- The fields of a service credential in another order, the raw one nested. -/
def shuffledCredential : List (Identifier × Tree) :=
  [(.name "credential_pem", .string "DCKEY"),
    (.name "credential", sampleCredentialTree),
    (.name "expires_at", .u64 60),
    (.name "created_at", .u64 0),
    (.name "public_key_der", .string "ab"),
    (.name "private_key_pem", .string "KEY"),
    (.name "service_name", .string "service")]

theorem visitMap_acceptsExactly_sample :
    VerificationInfo.visitor.visitMap (treeReader .nameKeys) shuffledInfo =
        .ok (getPublicVerificationInfo sampleData.inner) ∧
      ServiceCredential.visitor.visitMap (treeReader .nameKeys)
          shuffledCredential =
        .ok sampleData.inner ∧
      (∃ fault,
        VerificationInfo.visitor.visitMap (treeReader .nameKeys)
          ((.name "valid_time", .u32 60) :: shuffledInfo) = .error fault) ∧
      ∃ fault,
        VerificationInfo.visitor.visitMap (treeReader .nameKeys)
          shuffledInfo.tail = .error fault := by
  obtain ⟨_, credentials, infos, _⟩ :=
    visitMap_acceptsExactly (treeReader .nameKeys)
  refine ⟨?_, ?_, ?_, ?_⟩
  · rw [infos.assigned]
    refine ⟨fun field => ?_, fun _ _ _ => rfl⟩
    fin_cases field <;> exact ⟨_, rfl, rfl⟩
  · rw [credentials.assigned]
    refine ⟨fun field => ?_, fun _ _ _ => rfl⟩
    fin_cases field <;> exact ⟨_, rfl, rfl⟩
  · exact infos.repeated _ 1 (by decide)
  · exact infos.missing _ 4 rfl

end FizzRs
