import FizzRs.CredentialIssuance
import FizzRs.WireFormat

namespace FizzRs

open WireFormat

/-!
# The records as they are stored and sent

The four records have hand-edited `Serialize` and `Deserialize` implementations.
Each lists its fields several times: in the order of `serialize`, in the tables
of `visit_u64`, `visit_str` and `visit_bytes`, in `visit_seq`, in the errors about
duplicate and missing fields, and in `FIELDS`.  The listings stand here one by
one, as the code has them.
-/

/-- A value whose every request fails with `missing_field`, except for options. -/
def missingFieldDeserializer (field : String) : Deserializer Unit where
  deserializeU16 _ := .error (.missingField field)
  deserializeU32 _ := .error (.missingField field)
  deserializeU64 _ := .error (.missingField field)
  deserializeString _ := .error (.missingField field)
  deserializeOption _ := .ok none
  deserializeIgnoredAny _ := .error (.missingField field)
  deserializeStruct _ _ _ := .error (.missingField field)

/-- `missing_field`: what a type makes of a field that is not there. -/
def missingField
    [Deserialize Target]
    (field : String) :
    Except DeError Target :=
  Deserialize.deserialize (missingFieldDeserializer field) ()

/-- A delegated credential with associated metadata. -/
structure DelegatedCredentialData where
  inner : ServiceCredential
  deriving Repr, DecidableEq

namespace DelegatedCredential

/-- The types of the fields, in order. -/
def Content : Fin 5 → Type
  | 0 => UInt32
  | 1 => UInt16
  | 2 => String
  | 3 => UInt16
  | 4 => String

/-- `serialize`. -/
def serialize
    (format : Serializer Value)
    (credential : DelegatedCredential) :
    Except String Value := do
  let field0 ← serializeField format "valid_time" credential.validTime
  let field1 ←
    serializeField format "expected_verify_scheme"
      credential.expectedVerifyScheme
  let field2 ← serializeField format "public_key_der" credential.publicKeyDer
  let field3 ←
    serializeField format "credential_scheme"
      credential.credentialScheme
  let field4 ← serializeField format "signature" credential.signature
  format.serializeStruct "DelegatedCredential" 5
    [field0, field1, field2, field3, field4]

/-- The listings of the visitor, and the types it asks for. -/
def visitor : StructVisitor Content DelegatedCredential where
  name := "DelegatedCredential"
  fields :=
    #v["valid_time", "expected_verify_scheme", "public_key_der",
      "credential_scheme", "signature"]
  tables :=
    { visitStr :=
        [("valid_time", 0), ("expected_verify_scheme", 1),
          ("public_key_der", 2), ("credential_scheme", 3), ("signature", 4)]
      visitBytes :=
        [(utf8 "valid_time", 0), (utf8 "expected_verify_scheme", 1),
          (utf8 "public_key_der", 2), (utf8 "credential_scheme", 3),
          (utf8 "signature", 4)]
      visitU64 := [(0, 0), (1, 1), (2, 2), (3, 3), (4, 4)] }
  duplicateField :=
    #v["valid_time", "expected_verify_scheme", "public_key_der",
      "credential_scheme", "signature"]
  invalidLength := "struct DelegatedCredential with 5 elements"
  read format
    | 0 => @Deserialize.deserialize UInt32 _ _ format
    | 1 => @Deserialize.deserialize UInt16 _ _ format
    | 2 => @Deserialize.deserialize String _ _ format
    | 3 => @Deserialize.deserialize UInt16 _ _ format
    | 4 => @Deserialize.deserialize String _ _ format
  missing
    | 0 => (missingField "valid_time" : Except DeError UInt32)
    | 1 => (missingField "expected_verify_scheme" : Except DeError UInt16)
    | 2 => (missingField "public_key_der" : Except DeError String)
    | 3 => (missingField "credential_scheme" : Except DeError UInt16)
    | 4 => (missingField "signature" : Except DeError String)
  build field :=
    { validTime := field 0
      expectedVerifyScheme := field 1
      publicKeyDer := field 2
      credentialScheme := field 3
      signature := field 4 }
  readElement format
    | 0 => @Deserialize.deserialize UInt32 _ _ format
    | 1 => @Deserialize.deserialize UInt16 _ _ format
    | 2 => @Deserialize.deserialize String _ _ format
    | 3 => @Deserialize.deserialize UInt16 _ _ format
    | 4 => @Deserialize.deserialize String _ _ format
  buildSeq field :=
    { validTime := field 0
      expectedVerifyScheme := field 1
      publicKeyDer := field 2
      credentialScheme := field 3
      signature := field 4 }

/-- The contents of the fields. -/
def contents
    (credential : DelegatedCredential) :
    (field : Fin 5) → Content field
  | 0 => credential.validTime
  | 1 => credential.expectedVerifyScheme
  | 2 => credential.publicKeyDer
  | 3 => credential.credentialScheme
  | 4 => credential.signature

/-- Write the content of a field. -/
def write
    (format : Serializer Value) :
    (field : Fin 5) → Content field → Except String Value
  | 0 => @Serialize.serialize UInt32 _ _ format
  | 1 => @Serialize.serialize UInt16 _ _ format
  | 2 => @Serialize.serialize String _ _ format
  | 3 => @Serialize.serialize UInt16 _ _ format
  | 4 => @Serialize.serialize String _ _ format

end DelegatedCredential

instance : Serialize DelegatedCredential where
  serialize := DelegatedCredential.serialize

instance : Deserialize DelegatedCredential where
  deserialize := DelegatedCredential.visitor.deserialize

namespace ServiceCredential

/-- The types of the fields, in order. -/
def Content : Fin 7 → Type
  | 0 => String
  | 1 => DelegatedCredential
  | 2 => String
  | 3 => String
  | 4 => UInt64
  | 5 => UInt64
  | 6 => String

/-- `serialize`. -/
def serialize
    (format : Serializer Value)
    (credential : ServiceCredential) :
    Except String Value := do
  let field0 ← serializeField format "service_name" credential.serviceName
  let field1 ← serializeField format "credential" credential.credential
  let field2 ←
    serializeField format "private_key_pem"
      credential.privateKeyPem
  let field3 ← serializeField format "public_key_der" credential.publicKeyDer
  let field4 ← serializeField format "created_at" credential.createdAt
  let field5 ← serializeField format "expires_at" credential.expiresAt
  let field6 ← serializeField format "credential_pem" credential.credentialPem
  format.serializeStruct "ServiceCredential" 7
    [field0, field1, field2, field3, field4, field5, field6]

/-- The listings of the visitor, and the types it asks for. -/
def visitor : StructVisitor Content ServiceCredential where
  name := "ServiceCredential"
  fields :=
    #v["service_name", "credential", "private_key_pem", "public_key_der",
      "created_at", "expires_at", "credential_pem"]
  tables :=
    { visitStr :=
        [("service_name", 0), ("credential", 1), ("private_key_pem", 2),
          ("public_key_der", 3), ("created_at", 4), ("expires_at", 5),
          ("credential_pem", 6)]
      visitBytes :=
        [(utf8 "service_name", 0), (utf8 "credential", 1),
          (utf8 "private_key_pem", 2), (utf8 "public_key_der", 3),
          (utf8 "created_at", 4), (utf8 "expires_at", 5),
          (utf8 "credential_pem", 6)]
      visitU64 := [(0, 0), (1, 1), (2, 2), (3, 3), (4, 4), (5, 5), (6, 6)] }
  duplicateField :=
    #v["service_name", "credential", "private_key_pem", "public_key_der",
      "created_at", "expires_at", "credential_pem"]
  invalidLength := "struct ServiceCredential with 7 elements"
  read format
    | 0 => @Deserialize.deserialize String _ _ format
    | 1 => @Deserialize.deserialize DelegatedCredential _ _ format
    | 2 => @Deserialize.deserialize String _ _ format
    | 3 => @Deserialize.deserialize String _ _ format
    | 4 => @Deserialize.deserialize UInt64 _ _ format
    | 5 => @Deserialize.deserialize UInt64 _ _ format
    | 6 => @Deserialize.deserialize String _ _ format
  missing
    | 0 => (missingField "service_name" : Except DeError String)
    | 1 => (missingField "credential" : Except DeError DelegatedCredential)
    | 2 => (missingField "private_key_pem" : Except DeError String)
    | 3 => (missingField "public_key_der" : Except DeError String)
    | 4 => (missingField "created_at" : Except DeError UInt64)
    | 5 => (missingField "expires_at" : Except DeError UInt64)
    | 6 => (missingField "credential_pem" : Except DeError String)
  build field :=
    { serviceName := field 0
      credential := field 1
      privateKeyPem := field 2
      publicKeyDer := field 3
      createdAt := field 4
      expiresAt := field 5
      credentialPem := field 6 }
  readElement format
    | 0 => @Deserialize.deserialize String _ _ format
    | 1 => @Deserialize.deserialize DelegatedCredential _ _ format
    | 2 => @Deserialize.deserialize String _ _ format
    | 3 => @Deserialize.deserialize String _ _ format
    | 4 => @Deserialize.deserialize UInt64 _ _ format
    | 5 => @Deserialize.deserialize UInt64 _ _ format
    | 6 => @Deserialize.deserialize String _ _ format
  buildSeq field :=
    { serviceName := field 0
      credential := field 1
      privateKeyPem := field 2
      publicKeyDer := field 3
      createdAt := field 4
      expiresAt := field 5
      credentialPem := field 6 }

/-- The contents of the fields. -/
def contents
    (credential : ServiceCredential) :
    (field : Fin 7) → Content field
  | 0 => credential.serviceName
  | 1 => credential.credential
  | 2 => credential.privateKeyPem
  | 3 => credential.publicKeyDer
  | 4 => credential.createdAt
  | 5 => credential.expiresAt
  | 6 => credential.credentialPem

/-- Write the content of a field. -/
def write
    (format : Serializer Value) :
    (field : Fin 7) → Content field → Except String Value
  | 0 => @Serialize.serialize String _ _ format
  | 1 => @Serialize.serialize DelegatedCredential _ _ format
  | 2 => @Serialize.serialize String _ _ format
  | 3 => @Serialize.serialize String _ _ format
  | 4 => @Serialize.serialize UInt64 _ _ format
  | 5 => @Serialize.serialize UInt64 _ _ format
  | 6 => @Serialize.serialize String _ _ format

end ServiceCredential

instance : Serialize ServiceCredential where
  serialize := ServiceCredential.serialize

instance : Deserialize ServiceCredential where
  deserialize := ServiceCredential.visitor.deserialize

namespace VerificationInfo

/-- The types of the fields, in order. -/
def Content : Fin 5 → Type
  | 0 => String
  | 1 => UInt32
  | 2 => UInt16
  | 3 => String
  | 4 => UInt64

/-- `serialize`. -/
def serialize
    (format : Serializer Value)
    (info : VerificationInfo) :
    Except String Value := do
  let field0 ← serializeField format "service_name" info.serviceName
  let field1 ← serializeField format "valid_time" info.validTime
  let field2 ←
    serializeField format "expected_verify_scheme"
      info.expectedVerifyScheme
  let field3 ← serializeField format "public_key_der" info.publicKeyDer
  let field4 ← serializeField format "expires_at" info.expiresAt
  format.serializeStruct "VerificationInfo" 5
    [field0, field1, field2, field3, field4]

/-- The listings of the visitor, and the types it asks for. -/
def visitor : StructVisitor Content VerificationInfo where
  name := "VerificationInfo"
  fields :=
    #v["service_name", "valid_time", "expected_verify_scheme",
      "public_key_der", "expires_at"]
  tables :=
    { visitStr :=
        [("service_name", 0), ("valid_time", 1),
          ("expected_verify_scheme", 2), ("public_key_der", 3),
          ("expires_at", 4)]
      visitBytes :=
        [(utf8 "service_name", 0), (utf8 "valid_time", 1),
          (utf8 "expected_verify_scheme", 2), (utf8 "public_key_der", 3),
          (utf8 "expires_at", 4)]
      visitU64 := [(0, 0), (1, 1), (2, 2), (3, 3), (4, 4)] }
  duplicateField :=
    #v["service_name", "valid_time", "expected_verify_scheme",
      "public_key_der", "expires_at"]
  invalidLength := "struct VerificationInfo with 5 elements"
  read format
    | 0 => @Deserialize.deserialize String _ _ format
    | 1 => @Deserialize.deserialize UInt32 _ _ format
    | 2 => @Deserialize.deserialize UInt16 _ _ format
    | 3 => @Deserialize.deserialize String _ _ format
    | 4 => @Deserialize.deserialize UInt64 _ _ format
  missing
    | 0 => (missingField "service_name" : Except DeError String)
    | 1 => (missingField "valid_time" : Except DeError UInt32)
    | 2 => (missingField "expected_verify_scheme" : Except DeError UInt16)
    | 3 => (missingField "public_key_der" : Except DeError String)
    | 4 => (missingField "expires_at" : Except DeError UInt64)
  build field :=
    { serviceName := field 0
      validTime := field 1
      expectedVerifyScheme := field 2
      publicKeyDer := field 3
      expiresAt := field 4 }
  readElement format
    | 0 => @Deserialize.deserialize String _ _ format
    | 1 => @Deserialize.deserialize UInt32 _ _ format
    | 2 => @Deserialize.deserialize UInt16 _ _ format
    | 3 => @Deserialize.deserialize String _ _ format
    | 4 => @Deserialize.deserialize UInt64 _ _ format
  buildSeq field :=
    { serviceName := field 0
      validTime := field 1
      expectedVerifyScheme := field 2
      publicKeyDer := field 3
      expiresAt := field 4 }

/-- The contents of the fields. -/
def contents
    (info : VerificationInfo) :
    (field : Fin 5) → Content field
  | 0 => info.serviceName
  | 1 => info.validTime
  | 2 => info.expectedVerifyScheme
  | 3 => info.publicKeyDer
  | 4 => info.expiresAt

/-- Write the content of a field. -/
def write
    (format : Serializer Value) :
    (field : Fin 5) → Content field → Except String Value
  | 0 => @Serialize.serialize String _ _ format
  | 1 => @Serialize.serialize UInt32 _ _ format
  | 2 => @Serialize.serialize UInt16 _ _ format
  | 3 => @Serialize.serialize String _ _ format
  | 4 => @Serialize.serialize UInt64 _ _ format

end VerificationInfo

instance : Serialize VerificationInfo where
  serialize := VerificationInfo.serialize

instance : Deserialize VerificationInfo where
  deserialize := VerificationInfo.visitor.deserialize

namespace DelegatedCredentialData

/-- The types of the fields, in order. -/
def Content : Fin 1 → Type
  | 0 => ServiceCredential

/-- `serialize`. -/
def serialize
    (format : Serializer Value)
    (data : DelegatedCredentialData) :
    Except String Value := do
  let field0 ← serializeField format "inner" data.inner
  format.serializeStruct "DelegatedCredentialData" 1
    [field0]

/-- The listings of the visitor, and the types it asks for. -/
def visitor : StructVisitor Content DelegatedCredentialData where
  name := "DelegatedCredentialData"
  fields :=
    #v["inner"]
  tables :=
    { visitStr :=
        [("inner", 0)]
      visitBytes :=
        [(utf8 "inner", 0)]
      visitU64 := [(0, 0)] }
  duplicateField :=
    #v["inner"]
  invalidLength := "struct DelegatedCredentialData with 1 element"
  read format
    | 0 => @Deserialize.deserialize ServiceCredential _ _ format
  missing
    | 0 => (missingField "inner" : Except DeError ServiceCredential)
  build field :=
    { inner := field 0 }
  readElement format
    | 0 => @Deserialize.deserialize ServiceCredential _ _ format
  buildSeq field :=
    { inner := field 0 }

/-- The contents of the fields. -/
def contents
    (data : DelegatedCredentialData) :
    (field : Fin 1) → Content field
  | 0 => data.inner

/-- Write the content of a field. -/
def write
    (format : Serializer Value) :
    (field : Fin 1) → Content field → Except String Value
  | 0 => @Serialize.serialize ServiceCredential _ _ format

end DelegatedCredentialData

instance : Serialize DelegatedCredentialData where
  serialize := DelegatedCredentialData.serialize

instance : Deserialize DelegatedCredentialData where
  deserialize := DelegatedCredentialData.visitor.deserialize

end FizzRs
