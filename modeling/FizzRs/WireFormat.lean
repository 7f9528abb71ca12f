import Mathlib.Algebra.Group.Nat.Defs
import FizzRs.RecordVisitor

namespace WireFormat

open RecordVisitor

/-!
# Data formats and the types that go through them

A format turns numbers, strings and structs into values of its own and back.  A
struct comes back as keyed entries or as a bare sequence, whichever the format
chose; its keys are field names, their bytes, or field numbers.  A type that is
read back asks the format for one of these things and visits what it gets.

The last part joins the two directions: a visitor whose tables list the fields
in the order in which they were emitted reads what was emitted.
-/

/-- The key of an entry, as the format presents it. -/
inductive Identifier where
  | name (text : String)
  | bytes (encoded : List UInt8)
  | index (number : UInt64)
  deriving Repr, DecidableEq

/-- The UTF-8 bytes of a text. -/
def utf8 (text : String) : List UInt8 :=
  text.toList.flatMap String.utf8EncodeChar

/-- Different texts have different bytes. -/
theorem utf8_injective :
    Function.Injective utf8 := by
  intro first second same
  have sameEncoding :
      first.toList.utf8Encode = second.toList.utf8Encode :=
    congrArg List.toByteArray same
  have sameChars := congrArg ByteArray.utf8Decode? sameEncoding
  simp only [List.utf8Decode?_utf8Encode, Option.some.injEq] at sameChars
  exact String.toList_injective (congrArg Array.toList sameChars)

/-- Errors of reading, those of the format itself being `custom`. -/
inductive DeError where
  | duplicateField (field : String)
  | missingField (field : String)
  | invalidLength (length : Nat) (expected : String)
  | custom (message : String)
  deriving Repr, DecidableEq

/-- What a visitor of a struct is given. -/
inductive StructAccess (Value : Type) where
  | map (entries : List (Identifier × Value))
  | seq (elements : List Value)
  deriving Repr, DecidableEq

/-- The reading half of a format. -/
structure Deserializer (Value : Type) where
  deserializeU16 : Value → Except DeError UInt16
  deserializeU32 : Value → Except DeError UInt32
  deserializeU64 : Value → Except DeError UInt64
  deserializeString : Value → Except DeError String
  deserializeOption : Value → Except DeError (Option Value)
  deserializeIgnoredAny : Value → Except DeError Unit
  deserializeStruct :
    String → List String → Value → Except DeError (StructAccess Value)

/-- The writing half of a format.  A struct is given its name, length and fields. -/
structure Serializer (Value : Type) where
  serializeU16 : UInt16 → Except String Value
  serializeU32 : UInt32 → Except String Value
  serializeU64 : UInt64 → Except String Value
  serializeString : String → Except String Value
  serializeStruct :
    String → Nat → List (String × Value) → Except String Value

/-- Types that can be read through any format. -/
class Deserialize (Target : Type) where
  deserialize :
    {Value : Type} → Deserializer Value → Value → Except DeError Target

/-- Types that can be written through any format. -/
class Serialize (Source : Type) where
  serialize :
    {Value : Type} → Serializer Value → Source → Except String Value

instance : Deserialize UInt16 where
  deserialize format := format.deserializeU16

instance : Deserialize UInt32 where
  deserialize format := format.deserializeU32

instance : Deserialize UInt64 where
  deserialize format := format.deserializeU64

instance : Deserialize String where
  deserialize format := format.deserializeString

instance : Serialize UInt16 where
  serialize format := format.serializeU16

instance : Serialize UInt32 where
  serialize format := format.serializeU32

instance : Serialize UInt64 where
  serialize format := format.serializeU64

instance : Serialize String where
  serialize format := format.serializeString

/-- Write one field of a struct. -/
def serializeField
    [Serialize Source]
    (format : Serializer Value)
    (name : String)
    (content : Source) :
    Except String (String × Value) :=
  (Serialize.serialize format content).map fun value => (name, value)

/-- The three tables by which a visitor tells the fields of a struct. -/
structure FieldTables (n : Nat) where
  visitStr : List (String × Fin n)
  visitBytes : List (List UInt8 × Fin n)
  visitU64 : List (UInt64 × Fin n)

/-- The field of a key, if it has one. -/
def FieldTables.identify
    {n : Nat}
    (tables : FieldTables n) :
    Identifier → Option (Fin n)
  | .name text => tables.visitStr.lookup text
  | .bytes encoded => tables.visitBytes.lookup encoded
  | .index number => tables.visitU64.lookup number

/--
How a struct is read: the texts of its error messages, its tables, the types it
asks for under a key and in a sequence, and the record it builds in both cases.
-/
structure StructVisitor
    {n : Nat}
    (Content : Fin n → Type)
    (Record : Type) where
  name : String
  fields : Vector String n
  tables : FieldTables n
  duplicateField : Vector String n
  invalidLength : String
  read :
    {Value : Type} →
    Deserializer Value →
    (field : Fin n) →
    Value →
    Except DeError (Content field)
  missing : (field : Fin n) → Except DeError (Content field)
  build : ((field : Fin n) → Content field) → Record
  readElement :
    {Value : Type} →
    Deserializer Value →
    (field : Fin n) →
    Value →
    Except DeError (Content field)
  buildSeq : ((field : Fin n) → Content field) → Record

namespace StructVisitor

section

variable {n : Nat} {Content : Fin n → Type} {Record : Type}

/-- The entry reader of a visitor. -/
def entryReader
    (visitor : StructVisitor Content Record)
    (format : Deserializer Value) :
    EntryReader Content Identifier Value DeError where
  identify := visitor.tables.identify
  read := visitor.read format
  skip := format.deserializeIgnoredAny
  duplicate field := .duplicateField (visitor.duplicateField.get field)
  missing := visitor.missing

/-- Read the struct from keyed entries. -/
def visitMap
    (visitor : StructVisitor Content Record)
    (format : Deserializer Value)
    (entries : List (Identifier × Value)) :
    Except DeError Record :=
  ((visitor.entryReader format).visitMap entries).map visitor.build

/-- Read the struct from a sequence. -/
def visitSeq
    (visitor : StructVisitor Content Record)
    (format : Deserializer Value)
    (elements : List Value) :
    Except DeError Record :=
  (RecordVisitor.visitSeq (visitor.readElement format)
    (fun field => .invalidLength field.val visitor.invalidLength)
    elements).map visitor.buildSeq

/-- Visit what the format gives. -/
def visit
    (visitor : StructVisitor Content Record)
    (format : Deserializer Value) :
    StructAccess Value → Except DeError Record
  | .map entries => visitor.visitMap format entries
  | .seq elements => visitor.visitSeq format elements

/-- Ask the format for the struct and visit it. -/
def deserialize
    (visitor : StructVisitor Content Record)
    (format : Deserializer Value)
    (value : Value) :
    Except DeError Record :=
  match format.deserializeStruct visitor.name visitor.fields.toList value with
  | .error fault => .error fault
  | .ok access => visitor.visit format access

end

end StructVisitor

/-- A key means this field of a struct with these fields. -/
def Identifier.Names
    {n : Nat}
    (fields : Vector String n)
    (field : Fin n) :
    Identifier → Prop
  | .name text => fields.get field = text
  | .bytes encoded => utf8 (fields.get field) = encoded
  | .index number => UInt64.ofNat field.val = number

instance
    {n : Nat}
    (fields : Vector String n)
    (field : Fin n) :
    (identifier : Identifier) → Decidable (identifier.Names fields field)
  | .name _ => inferInstanceAs (Decidable (_ = _))
  | .bytes _ => inferInstanceAs (Decidable (_ = _))
  | .index _ => inferInstanceAs (Decidable (_ = _))

/-- A table lists the keys of all fields in order, no key twice. -/
structure IsTable
    {n : Nat}
    (table : List (Key × Fin n))
    (key : Fin n → Key) :
    Prop where
  listing : table = (List.finRange n).map fun field => (key field, field)
  distinct : Function.Injective key

/-- Looking a key up in a listing of distinct keys. -/
theorem lookup_map_eq_some_iff
    [BEq Key]
    [LawfulBEq Key]
    {n : Nat}
    {key : Fin n → Key}
    (distinct : Function.Injective key)
    (listed : List (Fin n))
    {wanted : Key}
    {field : Fin n} :
    (listed.map fun each => (key each, each)).lookup wanted = some field ↔
      field ∈ listed ∧ key field = wanted := by
  induction listed with
  | nil =>
      simp
  | cons first rest inductionHypothesis =>
      rw [List.map_cons, List.lookup_cons]
      by_cases here : wanted = key first
      · subst wanted
        simp only [BEq.rfl, Option.some.injEq, List.mem_cons]
        constructor
        · intro same
          subst first
          exact ⟨.inl rfl, rfl⟩
        · rintro ⟨_, same⟩
          exact (distinct same).symm
      · have elsewhere : (wanted == key first) = false := by
          simpa using here
        simp only [elsewhere, inductionHypothesis, List.mem_cons]
        constructor
        · rintro ⟨member, same⟩
          exact ⟨.inr member, same⟩
        · rintro ⟨member, same⟩
          rcases member with isFirst | member
          · subst field
            exact (here same.symm).elim
          · exact ⟨member, same⟩

/-- A table finds the field that a key belongs to. -/
theorem IsTable.lookup_eq_some_iff
    [BEq Key]
    [LawfulBEq Key]
    {n : Nat}
    {table : List (Key × Fin n)}
    {key : Fin n → Key}
    (isTable : IsTable table key)
    {wanted : Key}
    {field : Fin n} :
    table.lookup wanted = some field ↔ key field = wanted := by
  rw [isTable.listing, lookup_map_eq_some_iff isTable.distinct]
  simp

/-- The three tables agree with the list of fields and with each other. -/
structure FieldTables.Lists
    {n : Nat}
    (tables : FieldTables n)
    (fields : Vector String n) :
    Prop where
  str : IsTable tables.visitStr fields.get
  bytes : IsTable tables.visitBytes fun field => utf8 (fields.get field)
  u64 : IsTable tables.visitU64 fun field => UInt64.ofNat field.val

/-- The tables that list these fields in order. -/
def FieldTables.listing
    {n : Nat}
    (fields : Vector String n) :
    FieldTables n where
  visitStr := (List.finRange n).map fun field => (fields.get field, field)
  visitBytes :=
    (List.finRange n).map fun field => (utf8 (fields.get field), field)
  visitU64 :=
    (List.finRange n).map fun field => (UInt64.ofNat field.val, field)

/-- Tables that list distinct names, their bytes and their numbers agree. -/
theorem FieldTables.Lists.of_listing
    {n : Nat}
    {fields : Vector String n}
    (fewFields : n ≤ 2 ^ 64)
    (distinct : fields.toList.Nodup) :
    (FieldTables.listing fields).Lists fields := by
  have injective : Function.Injective fields.get := by
    intro first second same
    have sameEntry :
        fields.toList.get ⟨first, by simp⟩ =
          fields.toList.get ⟨second, by simp⟩ := by
      simpa [Vector.get] using same
    have sameIndex :=
      List.nodup_iff_injective_get.mp distinct sameEntry
    exact Fin.ext (Fin.mk.inj sameIndex)
  refine ⟨⟨rfl, injective⟩, ⟨rfl, utf8_injective.comp injective⟩, rfl, ?_⟩
  intro first second same
  have sameNumber := congrArg UInt64.toNat same
  simp only [UInt64.toNat_ofNat'] at sameNumber
  apply Fin.ext
  omega

/-- Agreeing tables recognise exactly the keys that mean a field. -/
theorem FieldTables.Lists.identify_eq_some_iff
    {n : Nat}
    {tables : FieldTables n}
    {fields : Vector String n}
    (lists : tables.Lists fields)
    {identifier : Identifier}
    {field : Fin n} :
    tables.identify identifier = some field ↔
      identifier.Names fields field := by
  cases identifier with
  | name text =>
      exact lists.str.lookup_eq_some_iff
  | bytes encoded =>
      exact lists.bytes.lookup_eq_some_iff
  | index number =>
      exact lists.u64.lookup_eq_some_iff

/-- The shapes in which a format may present a struct. -/
inductive Shape where
  | nameKeys
  | byteKeys
  | indexKeys
  | sequence
  deriving Repr, DecidableEq

/-- Present the emitted fields in a shape. -/
def Shape.present
    (emitted : List (String × Value)) :
    Shape → StructAccess Value
  | .nameKeys =>
      .map (emitted.map fun field => (.name field.1, field.2))
  | .byteKeys =>
      .map (emitted.map fun field => (.bytes (utf8 field.1), field.2))
  | .indexKeys =>
      .map (emitted.mapIdx fun index field =>
        (.index (UInt64.ofNat index), field.2))
  | .sequence => .seq (emitted.map Prod.snd)

/--
A format that reads back what it wrote: numbers and strings as they were, and a
struct, asked for by its name and fields, in one of the shapes.
-/
structure Faithful
    (writer : Serializer Value)
    (reader : Deserializer Value) :
    Prop where
  u16 :
    ∀ {number value},
      writer.serializeU16 number = .ok value →
      reader.deserializeU16 value = .ok number
  u32 :
    ∀ {number value},
      writer.serializeU32 number = .ok value →
      reader.deserializeU32 value = .ok number
  u64 :
    ∀ {number value},
      writer.serializeU64 number = .ok value →
      reader.deserializeU64 value = .ok number
  string :
    ∀ {text value},
      writer.serializeString text = .ok value →
      reader.deserializeString value = .ok text
  struct :
    ∀ {name emitted value},
      writer.serializeStruct name emitted.length emitted = .ok value →
      ∃ shape : Shape,
        reader.deserializeStruct name (emitted.map Prod.fst) value =
          .ok (shape.present emitted)

/-- A writer that takes everything it is given. -/
structure Serializer.Works (writer : Serializer Value) : Prop where
  u16 : ∀ number, ∃ value, writer.serializeU16 number = .ok value
  u32 : ∀ number, ∃ value, writer.serializeU32 number = .ok value
  u64 : ∀ number, ∃ value, writer.serializeU64 number = .ok value
  string : ∀ text, ∃ value, writer.serializeString text = .ok value
  struct :
    ∀ name length emitted,
      ∃ value, writer.serializeStruct name length emitted = .ok value

/--
What is written is read back as it was, and everything is written unless the
writer refuses something.
-/
structure ReadsBack
    (writer : Serializer Value)
    (write : Source → Except String Value)
    (read : Value → Except DeError Source) :
    Prop where
  written : writer.Works → ∀ source, ∃ value, write source = .ok value
  readBack :
    ∀ source value, write source = .ok value → read value = .ok source

/-- A type is read back through a format as it was written. -/
def RoundTrips
    (writer : Serializer Value)
    (reader : Deserializer Value)
    (Subject : Type)
    [Serialize Subject]
    [Deserialize Subject] :
    Prop :=
  ReadsBack writer
    (Serialize.serialize writer : Subject → Except String Value)
    (Deserialize.deserialize reader)

namespace Faithful

variable {writer : Serializer Value} {reader : Deserializer Value}

theorem roundTrips_u16
    (faithful : Faithful writer reader) :
    RoundTrips writer reader UInt16 :=
  ⟨fun works => works.u16, fun _ _ => faithful.u16⟩

theorem roundTrips_u32
    (faithful : Faithful writer reader) :
    RoundTrips writer reader UInt32 :=
  ⟨fun works => works.u32, fun _ _ => faithful.u32⟩

theorem roundTrips_u64
    (faithful : Faithful writer reader) :
    RoundTrips writer reader UInt64 :=
  ⟨fun works => works.u64, fun _ _ => faithful.u64⟩

theorem roundTrips_string
    (faithful : Faithful writer reader) :
    RoundTrips writer reader String :=
  ⟨fun works => works.string, fun _ _ => faithful.string⟩

end Faithful

/-- Writing a field first and then the others. -/
theorem serializeField_bind_eq_ok
    [Serialize Source]
    {format : Serializer Value}
    {name : String}
    {content : Source}
    {others : String × Value → Except String Value}
    {value : Value} :
    (serializeField format name content >>= others) = .ok value ↔
      ∃ written,
        Serialize.serialize format content = .ok written ∧
          others (name, written) = .ok value := by
  unfold serializeField
  cases Serialize.serialize format content with
  | error message =>
      simp [Except.map, bind, Except.bind]
  | ok written =>
      simp [Except.map, bind, Except.bind]

/-- In a list without repetitions, one element passes the test for a given one. -/
theorem filterMap_eq_singleton
    {n : Nat}
    (value : Fin n → Value)
    {wanted : Fin n}
    {listed : List (Fin n)}
    (distinct : listed.Nodup)
    (member : wanted ∈ listed) :
    (listed.filterMap fun field =>
      if field = wanted then some (value field) else none) =
        [value wanted] := by
  induction listed with
  | nil =>
      cases member
  | cons first rest inductionHypothesis =>
      rw [List.nodup_cons] at distinct
      by_cases here : first = wanted
      · subst wanted
        have noOther :
            (rest.filterMap fun field =>
              if field = first then some (value field) else none) = [] := by
          rw [List.filterMap_eq_nil_iff]
          intro field memberRest
          have differs : field ≠ first := by
            rintro rfl
            exact distinct.1 memberRest
          simp [differs]
        simp [noOther]
      · have memberRest : wanted ∈ rest := by
          rcases List.mem_cons.mp member with isFirst | memberRest
          · exact (here isFirst.symm).elim
          · exact memberRest
        simpa [here] using inductionHypothesis distinct.2 memberRest

/-- The values that stand under keys of a field, in order. -/
def occurrences
    {n : Nat}
    (fields : Vector String n)
    (field : Fin n)
    (entries : List (Identifier × Value)) :
    List Value :=
  entries.filterMap fun entry =>
    if entry.1.Names fields field then some entry.2 else none

/-- The key of an entry means some field. -/
def isKnown
    {n : Nat}
    (fields : Vector String n)
    (entry : Identifier × Value) :
    Bool :=
  (List.finRange n).any fun field => entry.1.Names fields field

/-- Every value under an unknown key can be skipped. -/
def Skippable
    {n : Nat}
    (fields : Vector String n)
    (format : Deserializer Value)
    (entries : List (Identifier × Value)) :
    Prop :=
  ∀ entry ∈ entries,
    isKnown fields entry = false →
      format.deserializeIgnoredAny entry.2 = .ok ()

/-- A field of a record: its name, how its type is read, and where it is kept. -/
structure DeclaredField (Record : Type) where
  name : String
  Content : Type
  deserialize :
    {Value : Type} → Deserializer Value → Value → Except DeError Content
  get : Record → Content

/-- A field that is read as its type is. -/
def DeclaredField.of
    [Deserialize Target]
    (name : String)
    (get : Record → Target) :
    DeclaredField Record where
  name := name
  Content := Target
  deserialize := Deserialize.deserialize
  get := get

/-- The names of declared fields. -/
def fieldNames
    {n : Nat}
    (declared : Vector (DeclaredField Record) n) :
    Vector String n :=
  ⟨(declared.toList.map DeclaredField.name).toArray, by simp⟩

/-- The value is read as what the record has in this field. -/
def DeclaredField.Reads
    (field : DeclaredField Record)
    (format : Deserializer Value)
    (value : Value)
    (record : Record) :
    Prop :=
  field.deserialize format value = .ok (field.get record)

/--
Which lists of entries a map visitor accepts, and what it makes of them, in terms
of the declared fields alone.
-/
structure AcceptsExactly
    {n : Nat}
    (format : Deserializer Value)
    (declared : Vector (DeclaredField Record) n)
    (visitMap : List (Identifier × Value) → Except DeError Record) :
    Prop where
  accepted :
    ∀ entries,
      (∃ record, visitMap entries = .ok record) ↔
        (∀ field,
          ∃ value content,
            occurrences (fieldNames declared) field entries = [value] ∧
              (declared.get field).deserialize format value =
                .ok content) ∧
          Skippable (fieldNames declared) format entries
  assigned :
    ∀ entries record,
      visitMap entries = .ok record ↔
        (∀ field,
          ∃ value,
            occurrences (fieldNames declared) field entries = [value] ∧
              (declared.get field).Reads format value record) ∧
          Skippable (fieldNames declared) format entries
  permuted :
    ∀ entries others record,
      entries.Perm others →
        (visitMap entries = .ok record ↔ visitMap others = .ok record)
  extended :
    ∀ entries others record,
      (entries.filter (isKnown (fieldNames declared))).Perm
          (others.filter (isKnown (fieldNames declared))) →
        visitMap entries = .ok record →
        (visitMap others = .ok record ↔
          Skippable (fieldNames declared) format others)
  missing :
    ∀ entries field,
      occurrences (fieldNames declared) field entries = [] →
        ∃ fault, visitMap entries = .error fault
  repeated :
    ∀ entries field,
      2 ≤ (occurrences (fieldNames declared) field entries).length →
        ∃ fault, visitMap entries = .error fault

namespace StructVisitor

section

variable {n : Nat} {Content : Fin n → Type} {Record : Type}
variable {visitor : StructVisitor Content Record}
variable {format : Deserializer Value}

/-- Entries that name each field once, in order, present each value to its field. -/
theorem valuesOf_ofFn
    {key : Fin n → Identifier}
    (named : ∀ field, visitor.tables.identify (key field) = some field)
    (value : Fin n → Value)
    (wanted : Fin n) :
    (visitor.entryReader format).valuesOf wanted
        (List.ofFn fun field => (key field, value field)) =
      [value wanted] := by
  rw [List.ofFn_eq_map]
  simp only [EntryReader.valuesOf, entryReader, List.filterMap_map,
    Function.comp_def, named, Option.some.injEq]
  exact
    filterMap_eq_singleton value (List.nodup_finRange n)
      (List.mem_finRange wanted)

/--
A visitor that can be relied upon: its tables list its fields, no field has a
default, and sequences are read at the same types into the same record.
-/
structure Sound (visitor : StructVisitor Content Record) : Prop where
  lists : visitor.tables.Lists visitor.fields
  required : ∀ field content, visitor.missing field ≠ .ok content
  elements :
    ∀ {Value : Type} (format : Deserializer Value),
      visitor.readElement format = visitor.read format
  sameRecord : visitor.buildSeq = visitor.build

/-- Listings that agree make a visitor sound. -/
theorem Sound.of_listings
    (fewFields : n ≤ 2 ^ 64)
    (distinct : visitor.fields.toList.Nodup)
    (tables : visitor.tables = .listing visitor.fields)
    (missing :
      ∀ field,
        visitor.missing field =
          .error (.missingField (visitor.fields.get field)))
    (elements :
      ∀ {Value : Type} (format : Deserializer Value),
        visitor.readElement format = visitor.read format)
    (sameRecord : visitor.buildSeq = visitor.build) :
    visitor.Sound where
  lists := by
    rw [tables]
    exact .of_listing fewFields distinct
  required := by
    intro field content given
    rw [missing] at given
    cases given
  elements := elements
  sameRecord := sameRecord

/-- Entries that name each field once give the record of their contents. -/
theorem Sound.visitMap_ofFn
    (sound : visitor.Sound)
    {key : Fin n → Identifier}
    {value : Fin n → Value}
    {contents : (field : Fin n) → Content field}
    (named : ∀ field, (key field).Names visitor.fields field)
    (reads :
      ∀ field, visitor.read format field (value field) = .ok (contents field)) :
    visitor.visitMap format
        (List.ofFn fun field => (key field, value field)) =
      .ok (visitor.build contents) := by
  have identified :
      ∀ field, visitor.tables.identify (key field) = some field := by
    intro field
    exact sound.lists.identify_eq_some_iff.mpr (named field)
  have accepted :
      (visitor.entryReader format).visitMap
          (List.ofFn fun field => (key field, value field)) =
        .ok contents := by
    rw [EntryReader.visitMap_eq_ok_iff sound.required]
    constructor
    · intro field
      exact ⟨value field, valuesOf_ofFn identified value field, reads field⟩
    · intro entry member unknown
      obtain ⟨field, shape⟩ := List.mem_ofFn.mp member
      subst entry
      have known := identified field
      simp only [entryReader] at unknown
      rw [unknown] at known
      cases known
  rw [visitMap, accepted]
  rfl

/-- A visitor reads the emitted fields in every shape. -/
theorem Sound.visit_present
    (sound : visitor.Sound)
    {value : Fin n → Value}
    {contents : (field : Fin n) → Content field}
    (reads :
      ∀ field, visitor.read format field (value field) = .ok (contents field))
    (shape : Shape) :
    visitor.visit format
        (shape.present
          (List.ofFn fun field => (visitor.fields.get field, value field))) =
      .ok (visitor.build contents) := by
  cases shape with
  | nameKeys =>
      simp only [Shape.present, visit, List.map_ofFn, Function.comp_def]
      exact sound.visitMap_ofFn (fun _ => rfl) reads
  | byteKeys =>
      simp only [Shape.present, visit, List.map_ofFn, Function.comp_def]
      exact sound.visitMap_ofFn (fun _ => rfl) reads
  | indexKeys =>
      have numbered :
          ((List.ofFn fun field =>
            (visitor.fields.get field, value field)).mapIdx
              fun index field =>
                (Identifier.index (UInt64.ofNat index), field.2)) =
            List.ofFn fun field : Fin n =>
              (Identifier.index (UInt64.ofNat field.val), value field) := by
        apply List.ext_getElem
        · simp
        · intro index _ _
          simp
      simp only [Shape.present, visit, numbered]
      exact sound.visitMap_ofFn (fun _ => rfl) reads
  | sequence =>
      simp only [Shape.present, visit, List.map_ofFn, Function.comp_def]
      have read :
          RecordVisitor.visitSeq (visitor.read format)
              (fun field =>
                DeError.invalidLength field.val visitor.invalidLength)
              (List.ofFn value) =
            .ok contents := by
        apply RecordVisitor.visitSeq_eq_ok
        intro field
        exact ⟨value field, by simp, reads field⟩
      rw [visitSeq, sound.elements, sound.sameRecord, read]
      rfl

/-- What a faithful format wrote of the fields is read back as their record. -/
theorem Sound.deserialize_written
    (sound : visitor.Sound)
    {writer : Serializer Value}
    (faithful : Faithful writer format)
    {value : Fin n → Value}
    {wire : Value}
    {contents : (field : Fin n) → Content field}
    (written :
      writer.serializeStruct visitor.name n
          (List.ofFn fun field => (visitor.fields.get field, value field)) =
        .ok wire)
    (reads :
      ∀ field, visitor.read format field (value field) = .ok (contents field)) :
    visitor.deserialize format wire = .ok (visitor.build contents) := by
  have presented :
      ∃ shape : Shape,
        format.deserializeStruct visitor.name visitor.fields.toList wire =
          .ok (shape.present
            (List.ofFn fun field =>
              (visitor.fields.get field, value field))) := by
    have names :
        (List.ofFn fun field : Fin n =>
          (visitor.fields.get field, value field)).map Prod.fst =
            visitor.fields.toList := by
      apply List.ext_getElem
      · simp
      · intro index _ _
        simp [Vector.get]
    rw [← names]
    apply faithful.struct
    rw [List.length_ofFn]
    exact written
  obtain ⟨shape, presents⟩ := presented
  rw [deserialize, presents]
  exact sound.visit_present reads shape

/-- The contents of a record are what it is built from. -/
structure Describes
    (visitor : StructVisitor Content Record)
    (contents : Record → (field : Fin n) → Content field) :
    Prop where
  build_contents : ∀ record, visitor.build (contents record) = record
  contents_build : ∀ fields, contents (visitor.build fields) = fields

/--
What is emitted of these contents: every field under its name, in the order in
which the visitor lists them.
-/
def Emitted
    (visitor : StructVisitor Content Record)
    (writer : Serializer Value)
    (write : (field : Fin n) → Content field → Except String Value)
    (contents : (field : Fin n) → Content field)
    (wire : Value) :
    Prop :=
  ∃ value : Fin n → Value,
    (∀ field, write field (contents field) = .ok (value field)) ∧
      writer.serializeStruct visitor.name n
          (List.ofFn fun field => (visitor.fields.get field, value field)) =
        .ok wire

/-- A record whose fields are read back is read back. -/
theorem Sound.readsBack
    (sound : visitor.Sound)
    {contents : Record → (field : Fin n) → Content field}
    (describes : visitor.Describes contents)
    {writer : Serializer Value}
    (faithful : Faithful writer format)
    {write : (field : Fin n) → Content field → Except String Value}
    {serialize : Record → Except String Value}
    (emits :
      ∀ record wire,
        serialize record = .ok wire ↔
          visitor.Emitted writer write (contents record) wire)
    (fields :
      ∀ field, ReadsBack writer (write field) (visitor.read format field)) :
    ReadsBack writer serialize (visitor.deserialize format) where
  written := by
    intro works record
    choose value written using fun field =>
      (fields field).written works (contents record field)
    obtain ⟨wire, isWire⟩ := works.struct visitor.name n
      (List.ofFn fun field => (visitor.fields.get field, value field))
    exact ⟨wire, (emits record wire).mpr ⟨value, written, isWire⟩⟩
  readBack := by
    intro record wire isWritten
    obtain ⟨value, written, isWire⟩ := (emits record wire).mp isWritten
    have reads :
        ∀ field,
          visitor.read format field (value field) =
            .ok (contents record field) :=
      fun field => (fields field).readBack _ _ (written field)
    rw [sound.deserialize_written faithful isWire reads,
      describes.build_contents]

/-- The visitor sorts values by field as the field names do. -/
theorem Sound.valuesOf_eq
    (sound : visitor.Sound)
    (field : Fin n)
    (entries : List (Identifier × Value)) :
    (visitor.entryReader format).valuesOf field entries =
      occurrences visitor.fields field entries := by
  unfold EntryReader.valuesOf occurrences
  congr 1
  funext entry
  simp only [entryReader, sound.lists.identify_eq_some_iff]

/-- The visitor knows the keys that the field names know. -/
theorem Sound.isKnown_eq
    (sound : visitor.Sound)
    (format : Deserializer Value) :
    (visitor.entryReader format).isKnown = isKnown visitor.fields := by
  funext entry
  rw [Bool.eq_iff_iff]
  simp only [EntryReader.isKnown, isKnown, entryReader, List.any_eq_true,
    List.mem_finRange, true_and, decide_eq_true_eq,
    Option.isSome_iff_exists, sound.lists.identify_eq_some_iff]

/-- The visitor skips the values whose keys the field names do not know. -/
theorem Sound.skips_iff
    (sound : visitor.Sound)
    (entries : List (Identifier × Value)) :
    (visitor.entryReader format).Skips entries ↔
      Skippable visitor.fields format entries := by
  apply forall_congr'
  intro entry
  apply imp_congr_right
  intro _
  rw [← sound.isKnown_eq format]
  simp [EntryReader.isKnown, entryReader]

/-- A record is accepted exactly when its contents are collected. -/
theorem Describes.visitMap_eq_ok_iff
    {contents : Record → (field : Fin n) → Content field}
    (describes : visitor.Describes contents)
    {entries : List (Identifier × Value)}
    {record : Record} :
    visitor.visitMap format entries = .ok record ↔
      (visitor.entryReader format).visitMap entries =
        .ok (contents record) := by
  unfold visitMap
  cases (visitor.entryReader format).visitMap entries with
  | error fault =>
      simp [Except.map]
  | ok fields =>
      simp only [Except.map, Except.ok.injEq]
      constructor
      · intro built
        rw [← built, describes.contents_build]
      · intro same
        rw [same, describes.build_contents]

/-- What a visitor accepts, in terms of the field names. -/
theorem Sound.visitMap_eq_ok_iff
    (sound : visitor.Sound)
    {contents : Record → (field : Fin n) → Content field}
    (describes : visitor.Describes contents)
    {entries : List (Identifier × Value)}
    {record : Record} :
    visitor.visitMap format entries = .ok record ↔
      (∀ field,
        ∃ value,
          occurrences visitor.fields field entries = [value] ∧
            visitor.read format field value =
              .ok (contents record field)) ∧
        Skippable visitor.fields format entries := by
  rw [describes.visitMap_eq_ok_iff,
    EntryReader.visitMap_eq_ok_iff sound.required, sound.skips_iff]
  simp only [EntryReader.ReadsEach, sound.valuesOf_eq]
  rfl

/-- Of an accepted list, every entry of a field holds the content of the field. -/
theorem Sound.read_of_mem
    (sound : visitor.Sound)
    {contents : Record → (field : Fin n) → Content field}
    (describes : visitor.Describes contents)
    {entries : List (Identifier × Value)}
    {record : Record}
    (accepted : visitor.visitMap format entries = .ok record)
    {entry : Identifier × Value}
    (member : entry ∈ entries)
    {field : Fin n}
    (named : entry.1.Names visitor.fields field) :
    visitor.read format field entry.2 = .ok (contents record field) := by
  obtain ⟨value, occurs, reads⟩ :=
    ((sound.visitMap_eq_ok_iff describes).mp accepted).1 field
  have present : entry.2 ∈ occurrences visitor.fields field entries := by
    refine List.mem_filterMap.mpr ⟨entry, member, ?_⟩
    rw [if_pos named]
  rw [occurs, List.mem_singleton] at present
  rw [present]
  exact reads

/-- Unknown entries may come and go while they can be skipped. -/
theorem Sound.visitMap_extended
    (sound : visitor.Sound)
    {contents : Record → (field : Fin n) → Content field}
    (describes : visitor.Describes contents)
    {entries others : List (Identifier × Value)}
    {record : Record}
    (sameKnown :
      (entries.filter (isKnown visitor.fields)).Perm
        (others.filter (isKnown visitor.fields)))
    (accepted : visitor.visitMap format entries = .ok record) :
    visitor.visitMap format others = .ok record ↔
      Skippable visitor.fields format others := by
  rw [← sound.isKnown_eq format] at sameKnown
  rw [describes.visitMap_eq_ok_iff] at accepted ⊢
  rw [EntryReader.visitMap_of_perm sound.required sameKnown accepted,
    sound.skips_iff]

/-- Entries may be permuted. -/
theorem Sound.visitMap_permuted
    (sound : visitor.Sound)
    {contents : Record → (field : Fin n) → Content field}
    (describes : visitor.Describes contents)
    {entries others : List (Identifier × Value)}
    {record : Record}
    (sameEntries : entries.Perm others)
    (accepted : visitor.visitMap format entries = .ok record) :
    visitor.visitMap format others = .ok record := by
  have skippable := ((sound.visitMap_eq_ok_iff describes).mp accepted).2
  have sameKnown := sameEntries.filter (isKnown visitor.fields)
  apply (sound.visitMap_extended describes sameKnown accepted).mpr
  intro entry member
  exact skippable entry (sameEntries.mem_iff.mpr member)

/-- A result that is not `ok` is an error. -/
theorem exists_error
    {result : Except DeError Record}
    (refused : ∀ record, result ≠ .ok record) :
    ∃ fault, result = .error fault := by
  cases result with
  | error fault =>
      exact ⟨fault, rfl⟩
  | ok record =>
      exact (refused record rfl).elim

/-- A field as the visitor has it. -/
def declaredField
    (visitor : StructVisitor Content Record)
    (contents : Record → (field : Fin n) → Content field)
    (field : Fin n) :
    DeclaredField Record where
  name := visitor.fields.get field
  Content := Content field
  deserialize format := visitor.read format field
  get record := contents record field

/-- The visitor has exactly the declared fields. -/
def Declares
    (visitor : StructVisitor Content Record)
    (contents : Record → (field : Fin n) → Content field)
    (declared : Vector (DeclaredField Record) n) :
    Prop :=
  ∀ field, declared.get field = visitor.declaredField contents field

namespace Declares

variable {contents : Record → (field : Fin n) → Content field}
variable {declared : Vector (DeclaredField Record) n}

/-- So it has their names, -/
theorem names
    (declares : visitor.Declares contents declared) :
    fieldNames declared = visitor.fields := by
  apply Vector.ext
  intro index inRange
  have same : declared[index].name = visitor.fields[index] :=
    congrArg DeclaredField.name (declares ⟨index, inRange⟩)
  simpa [fieldNames] using same

/-- refuses what they refuse, -/
theorem readable
    (declares : visitor.Declares contents declared)
    (format : Deserializer Value)
    (field : Fin n)
    (value : Value) :
    (∃ content, visitor.read format field value = .ok content) ↔
      ∃ content,
        (declared.get field).deserialize format value = .ok content := by
  rw [declares field]
  rfl

/-- and reads what they read. -/
theorem reads
    (declares : visitor.Declares contents declared)
    (format : Deserializer Value)
    (field : Fin n)
    (value : Value)
    (record : Record) :
    visitor.read format field value = .ok (contents record field) ↔
      (declared.get field).Reads format value record := by
  rw [declares field]
  rfl

end Declares

/-- Sound visitors accept exactly the records they are meant for. -/
theorem Sound.acceptsExactly
    (sound : visitor.Sound)
    {contents : Record → (field : Fin n) → Content field}
    (describes : visitor.Describes contents)
    {declared : Vector (DeclaredField Record) n}
    (declares : visitor.Declares contents declared)
    (format : Deserializer Value) :
    AcceptsExactly format declared (visitor.visitMap format) := by
  have assigned :
      ∀ entries record,
        visitor.visitMap format entries = .ok record ↔
          (∀ field,
            ∃ value,
              occurrences visitor.fields field entries = [value] ∧
                (declared.get field).Reads format value record) ∧
            Skippable visitor.fields format entries := by
    intro entries record
    simp only [sound.visitMap_eq_ok_iff describes, declares.reads]
  constructor
  case assigned =>
    simp only [declares.names]
    exact assigned
  case accepted =>
    simp only [declares.names]
    intro entries
    constructor
    · rintro ⟨record, accepted⟩
      obtain ⟨reads, skippable⟩ := (assigned entries record).mp accepted
      refine ⟨fun field => ?_, skippable⟩
      obtain ⟨value, occurs, readsValue⟩ := reads field
      exact ⟨value, _, occurs, readsValue⟩
    · rintro ⟨reads, skippable⟩
      have readable :
          ∀ field, ∃ value content,
            occurrences visitor.fields field entries = [value] ∧
              visitor.read format field value = .ok content := by
        intro field
        obtain ⟨value, content, occurs, readsValue⟩ := reads field
        obtain ⟨own, readsOwn⟩ :=
          (declares.readable format field value).mpr ⟨content, readsValue⟩
        exact ⟨value, own, occurs, readsOwn⟩
      choose value content occurs readsValue using readable
      refine ⟨visitor.build content, ?_⟩
      rw [sound.visitMap_eq_ok_iff describes]
      refine ⟨fun field => ?_, skippable⟩
      rw [describes.contents_build]
      exact ⟨value field, occurs field, readsValue field⟩
  case permuted =>
    intro entries others record sameEntries
    exact ⟨sound.visitMap_permuted describes sameEntries,
      sound.visitMap_permuted describes sameEntries.symm⟩
  case extended =>
    simp only [declares.names]
    intro entries others record sameKnown accepted
    exact sound.visitMap_extended describes sameKnown accepted
  case missing =>
    simp only [declares.names]
    intro entries field absent
    apply exists_error
    intro record accepted
    obtain ⟨value, occurs, _⟩ := ((assigned entries record).mp accepted).1 field
    rw [absent] at occurs
    cases occurs
  case repeated =>
    simp only [declares.names]
    intro entries field several
    apply exists_error
    intro record accepted
    obtain ⟨value, occurs, _⟩ := ((assigned entries record).mp accepted).1 field
    rw [occurs] at several
    simp at several

end

end StructVisitor

end WireFormat
