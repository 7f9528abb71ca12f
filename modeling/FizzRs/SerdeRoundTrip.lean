import FizzRs.SerdeRecords
import Mathlib.Data.Fin.VecNotation
import Mathlib.Data.Fintype.Basic
import Mathlib.Tactic.FinCases

namespace FizzRs

open WireFormat

/-!
# Records come back from storage as they were

The listings of each record agree with one another, so a format that gives back
the numbers, strings and structs it was given also gives back the record, in
whichever shape it presents a struct.
-/

namespace DelegatedCredential

/-- The listings of the visitor agree. -/
theorem visitor_sound :
    visitor.Sound :=
  .of_listings (by decide) (by decide) rfl
    (by
      intro field
      fin_cases field <;> rfl)
    (fun _ => rfl) rfl

/-- The contents of a raw credential are its fields. -/
theorem visitor_describes :
    visitor.Describes contents where
  build_contents _ := rfl
  contents_build fields := by
    funext field
    fin_cases field <;> rfl

/-- What `serialize` emits: every field under its name, in the listed order. -/
theorem serialize_eq_ok_iff
    (writer : Serializer Value)
    (credential : DelegatedCredential)
    (wire : Value) :
    serialize writer credential = .ok wire ↔
      visitor.Emitted writer (write writer) credential.contents wire := by
  simp only [serialize, serializeField_bind_eq_ok]
  constructor
  · intro emitted
    obtain
      ⟨value0, written0, value1, written1, value2, written2, value3, written3,
        value4, written4, isWire⟩ := emitted
    refine ⟨![value0, value1, value2, value3, value4], ?_, isWire⟩
    intro field
    fin_cases field <;> assumption
  · rintro ⟨value, written, isWire⟩
    exact ⟨value 0, written 0, value 1, written 1, value 2, written 2,
      value 3, written 3, value 4, written 4, isWire⟩

/-- A faithful format gives the record back. -/
theorem roundTrips
    {writer : Serializer Value}
    {reader : Deserializer Value}
    (faithful : Faithful writer reader) :
    RoundTrips writer reader DelegatedCredential := by
  refine
    visitor_sound.readsBack visitor_describes faithful
      (serialize_eq_ok_iff writer) ?_
  intro field
  fin_cases field
  · exact faithful.roundTrips_u32
  · exact faithful.roundTrips_u16
  · exact faithful.roundTrips_string
  · exact faithful.roundTrips_u16
  · exact faithful.roundTrips_string

end DelegatedCredential

namespace ServiceCredential

/-- The listings of the visitor agree. -/
theorem visitor_sound :
    visitor.Sound :=
  .of_listings (by decide) (by decide) rfl
    (by
      intro field
      fin_cases field <;> rfl)
    (fun _ => rfl) rfl

/-- The contents of a service credential are its fields. -/
theorem visitor_describes :
    visitor.Describes contents where
  build_contents _ := rfl
  contents_build fields := by
    funext field
    fin_cases field <;> rfl

/-- What `serialize` emits: every field under its name, in the listed order. -/
theorem serialize_eq_ok_iff
    (writer : Serializer Value)
    (credential : ServiceCredential)
    (wire : Value) :
    serialize writer credential = .ok wire ↔
      visitor.Emitted writer (write writer) credential.contents wire := by
  simp only [serialize, serializeField_bind_eq_ok]
  constructor
  · intro emitted
    obtain
      ⟨value0, written0, value1, written1, value2, written2, value3, written3,
        value4, written4, value5, written5, value6, written6, isWire⟩ := emitted
    refine ⟨![value0, value1, value2, value3, value4, value5, value6], ?_, isWire⟩
    intro field
    fin_cases field <;> assumption
  · rintro ⟨value, written, isWire⟩
    exact ⟨value 0, written 0, value 1, written 1, value 2, written 2,
      value 3, written 3, value 4, written 4, value 5, written 5, value 6,
      written 6, isWire⟩

/-- A faithful format gives the record back. -/
theorem roundTrips
    {writer : Serializer Value}
    {reader : Deserializer Value}
    (faithful : Faithful writer reader) :
    RoundTrips writer reader ServiceCredential := by
  refine
    visitor_sound.readsBack visitor_describes faithful
      (serialize_eq_ok_iff writer) ?_
  intro field
  fin_cases field
  · exact faithful.roundTrips_string
  · exact DelegatedCredential.roundTrips faithful
  · exact faithful.roundTrips_string
  · exact faithful.roundTrips_string
  · exact faithful.roundTrips_u64
  · exact faithful.roundTrips_u64
  · exact faithful.roundTrips_string

end ServiceCredential

namespace VerificationInfo

/-- The listings of the visitor agree. -/
theorem visitor_sound :
    visitor.Sound :=
  .of_listings (by decide) (by decide) rfl
    (by
      intro field
      fin_cases field <;> rfl)
    (fun _ => rfl) rfl

/-- The contents of a verification info are its fields. -/
theorem visitor_describes :
    visitor.Describes contents where
  build_contents _ := rfl
  contents_build fields := by
    funext field
    fin_cases field <;> rfl

/-- What `serialize` emits: every field under its name, in the listed order. -/
theorem serialize_eq_ok_iff
    (writer : Serializer Value)
    (info : VerificationInfo)
    (wire : Value) :
    serialize writer info = .ok wire ↔
      visitor.Emitted writer (write writer) info.contents wire := by
  simp only [serialize, serializeField_bind_eq_ok]
  constructor
  · intro emitted
    obtain
      ⟨value0, written0, value1, written1, value2, written2, value3, written3,
        value4, written4, isWire⟩ := emitted
    refine ⟨![value0, value1, value2, value3, value4], ?_, isWire⟩
    intro field
    fin_cases field <;> assumption
  · rintro ⟨value, written, isWire⟩
    exact ⟨value 0, written 0, value 1, written 1, value 2, written 2,
      value 3, written 3, value 4, written 4, isWire⟩

/-- A faithful format gives the record back. -/
theorem roundTrips
    {writer : Serializer Value}
    {reader : Deserializer Value}
    (faithful : Faithful writer reader) :
    RoundTrips writer reader VerificationInfo := by
  refine
    visitor_sound.readsBack visitor_describes faithful
      (serialize_eq_ok_iff writer) ?_
  intro field
  fin_cases field
  · exact faithful.roundTrips_string
  · exact faithful.roundTrips_u32
  · exact faithful.roundTrips_u16
  · exact faithful.roundTrips_string
  · exact faithful.roundTrips_u64

end VerificationInfo

namespace DelegatedCredentialData

/-- The listings of the visitor agree. -/
theorem visitor_sound :
    visitor.Sound :=
  .of_listings (by decide) (by decide) rfl
    (by
      intro field
      fin_cases field
      rfl)
    (fun _ => rfl) rfl

/-- The content of the wrapper is the credential in it. -/
theorem visitor_describes :
    visitor.Describes contents where
  build_contents _ := rfl
  contents_build fields := by
    funext field
    fin_cases field
    rfl

/-- What `serialize` emits: every field under its name, in the listed order. -/
theorem serialize_eq_ok_iff
    (writer : Serializer Value)
    (data : DelegatedCredentialData)
    (wire : Value) :
    serialize writer data = .ok wire ↔
      visitor.Emitted writer (write writer) data.contents wire := by
  simp only [serialize, serializeField_bind_eq_ok]
  constructor
  · intro emitted
    obtain
      ⟨value0, written0, isWire⟩ := emitted
    refine ⟨![value0], ?_, isWire⟩
    intro field
    fin_cases field
    exact written0
  · rintro ⟨value, written, isWire⟩
    exact ⟨value 0, written 0, isWire⟩

/-- A faithful format gives the record back. -/
theorem roundTrips
    {writer : Serializer Value}
    {reader : Deserializer Value}
    (faithful : Faithful writer reader) :
    RoundTrips writer reader DelegatedCredentialData := by
  refine
    visitor_sound.readsBack visitor_describes faithful
      (serialize_eq_ok_iff writer) ?_
  intro field
  fin_cases field
  · exact ServiceCredential.roundTrips faithful

end DelegatedCredentialData

/--
For all four records and a faithful format, whatever the shape of its structs:
`serialize` emits something for every value unless the format refuses one of its
parts, and what it emits is deserialized to the same value.
-/
theorem serde_roundTrip
    {Value : Type}
    {writer : Serializer Value}
    {reader : Deserializer Value}
    (faithful : Faithful writer reader) :
    RoundTrips writer reader DelegatedCredential ∧
      RoundTrips writer reader ServiceCredential ∧
      RoundTrips writer reader VerificationInfo ∧
      RoundTrips writer reader DelegatedCredentialData :=
  ⟨DelegatedCredential.roundTrips faithful,
    ServiceCredential.roundTrips faithful,
    VerificationInfo.roundTrips faithful,
    DelegatedCredentialData.roundTrips faithful⟩

/-- A format that keeps what it was given as a tree. -/
inductive Tree where
  | u16 (number : UInt16)
  | u32 (number : UInt32)
  | u64 (number : UInt64)
  | string (text : String)
  | struct (name : String) (emitted : List (String × Tree))

/-- Writing a tree. -/
def treeWriter : Serializer Tree where
  serializeU16 number := .ok (.u16 number)
  serializeU32 number := .ok (.u32 number)
  serializeU64 number := .ok (.u64 number)
  serializeString text := .ok (.string text)
  serializeStruct name _ emitted := .ok (.struct name emitted)

/-- Reading a tree whose structs are presented in the given shape. -/
def treeReader (shape : Shape) : Deserializer Tree where
  deserializeU16
    | .u16 number => .ok number
    | _ => .error (.custom "expected u16")
  deserializeU32
    | .u32 number => .ok number
    | _ => .error (.custom "expected u32")
  deserializeU64
    | .u64 number => .ok number
    | _ => .error (.custom "expected u64")
  deserializeString
    | .string text => .ok text
    | _ => .error (.custom "expected a string")
  deserializeOption value := .ok (some value)
  deserializeIgnoredAny _ := .ok ()
  deserializeStruct name _
    | .struct written emitted =>
        if written = name then
          .ok (shape.present emitted)
        else
          .error (.custom "expected another struct")
    | _ => .error (.custom "expected a struct")

/-- Trees are read back as they were written. -/
theorem tree_faithful
    (shape : Shape) :
    Faithful treeWriter (treeReader shape) where
  u16 := by
    intro number value written
    cases written
    rfl
  u32 := by
    intro number value written
    cases written
    rfl
  u64 := by
    intro number value written
    cases written
    rfl
  string := by
    intro text value written
    cases written
    rfl
  struct := by
    intro name emitted value written
    cases written
    exact ⟨shape, by simp [treeReader]⟩

theorem treeWriter_works :
    treeWriter.Works :=
  ⟨fun _ => ⟨_, rfl⟩, fun _ => ⟨_, rfl⟩, fun _ => ⟨_, rfl⟩,
    fun _ => ⟨_, rfl⟩, fun _ _ _ => ⟨_, rfl⟩⟩

/-- A credential as the issuer hands it out. -/
def sampleData : DelegatedCredentialData where
  inner := minuteIssued lateFirstSecond

/-- The raw credential in it, as it is stored. -/
def sampleCredentialTree : Tree :=
  .struct "DelegatedCredential"
    [("valid_time", .u32 60),
      ("expected_verify_scheme", .u16 0x0403),
      ("public_key_der", .string "ab"),
      ("credential_scheme", .u16 0x0403),
      ("signature", .string "01")]

/-- The whole credential, as it is stored. -/
def sampleDataTree : Tree :=
  .struct "DelegatedCredentialData"
    [("inner",
      .struct "ServiceCredential"
        [("service_name", .string "service"),
          ("credential", sampleCredentialTree),
          ("private_key_pem", .string "KEY"),
          ("public_key_der", .string "ab"),
          ("created_at", .u64 0),
          ("expires_at", .u64 60),
          ("credential_pem", .string "DCKEY")])]

/-- What clients of this credential are configured with, as it is stored. -/
def sampleInfoTree : Tree :=
  .struct "VerificationInfo"
    [("service_name", .string "service"),
      ("valid_time", .u32 60),
      ("expected_verify_scheme", .u16 0x0403),
      ("public_key_der", .string "ab"),
      ("expires_at", .u64 60)]

theorem serde_roundTrip_trees :
    Serialize.serialize treeWriter sampleData = .ok sampleDataTree ∧
      Serialize.serialize treeWriter
          (getPublicVerificationInfo sampleData.inner) =
        .ok sampleInfoTree ∧
      (∀ info : VerificationInfo, ∃ wire,
        Serialize.serialize treeWriter info = .ok wire) ∧
      ∀ shape,
        Deserialize.deserialize (treeReader shape) sampleDataTree =
            .ok sampleData ∧
          Deserialize.deserialize (treeReader shape) sampleCredentialTree =
            .ok sampleData.inner.credential ∧
          Deserialize.deserialize (treeReader shape) sampleInfoTree =
            .ok (getPublicVerificationInfo sampleData.inner) := by
  refine ⟨rfl, rfl, ?_, ?_⟩
  · exact
      (serde_roundTrip (tree_faithful .nameKeys)).2.2.1.written
        treeWriter_works
  · intro shape
    obtain ⟨credentials, _, infos, data⟩ :=
      serde_roundTrip (tree_faithful shape)
    exact ⟨data.readBack _ _ rfl, credentials.readBack _ _ rfl,
      infos.readBack _ _ rfl⟩

end FizzRs
