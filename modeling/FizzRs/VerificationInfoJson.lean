import FizzRs.JsonSpelling
import FizzRs.RecordAcceptance

namespace FizzRs

open JsonText
open WireFormat

/-!
# Verification infos as JSON

`to_json` puts the fields between fixed pieces of text.  Nothing in the
repository reads the result: `from_json` is not implemented, and clients read it
with a JSON reader and the `Deserialize` implementation.  This module says for
which infos they read what was written.
-/

/-- `verification_info_to_json`. -/
def verificationInfoToJson (info : VerificationInfo) : String :=
  "\x7b" ++
    "\"service_name\":\"" ++ info.serviceName ++ "\"," ++
    "\"valid_time\":" ++ toString info.validTime ++ "," ++
    "\"expected_verify_scheme\":" ++ toString info.expectedVerifyScheme ++
    "," ++
    "\"public_key_der\":\"" ++ info.publicKeyDer ++ "\"," ++
    "\"expires_at\":" ++ toString info.expiresAt ++
    "\x7d"

namespace VerificationInfo

/-- `to_json`. -/
def toJson (info : VerificationInfo) : String :=
  verificationInfoToJson info

/-- What a client reads from a text. -/
def Reads
    (text : String)
    (info : VerificationInfo) :
    Prop :=
  ∃ json,
    parse text = some json ∧
      Deserialize.deserialize Json.deserializer json = .ok info

/-- A text is read in one way only. -/
theorem Reads.unique
    {text : String}
    {first second : VerificationInfo}
    (readsFirst : Reads text first)
    (readsSecond : Reads text second) :
    first = second := by
  obtain ⟨json, parsed, deserialized⟩ := readsFirst
  obtain ⟨other, otherParsed, otherDeserialized⟩ := readsSecond
  rw [parsed] at otherParsed
  obtain rfl := Option.some.inj otherParsed
  rw [deserialized] at otherDeserialized
  exact Except.ok.inj otherDeserialized

/-- Both strings may stand between quotes as they are. -/
structure Unescaped (info : VerificationInfo) : Prop where
  serviceName : Plain info.serviceName.toList
  publicKeyDer : Plain info.publicKeyDer.toList

/-- The values of the five members, in order. -/
def jsonValue (info : VerificationInfo) : Fin 5 → Json
  | 0 => .string info.serviceName
  | 1 => .number (.natural info.validTime.toNat)
  | 2 => .number (.natural info.expectedVerifyScheme.toNat)
  | 3 => .string info.publicKeyDer
  | 4 => .number (.natural info.expiresAt.toNat)

/-- The pieces of the text that end in a comma, with what they should mean. -/
def jsonPieces
    (info : VerificationInfo) :
    List (List Char × (String × Json)) :=
  [(named "service_name" (quoted info.serviceName.toList),
      ("service_name", .string info.serviceName)),
    (named "valid_time" (Nat.toDigits 10 info.validTime.toNat),
      ("valid_time", .number (.natural info.validTime.toNat))),
    (named "expected_verify_scheme"
        (Nat.toDigits 10 info.expectedVerifyScheme.toNat),
      ("expected_verify_scheme",
        .number (.natural info.expectedVerifyScheme.toNat))),
    (named "public_key_der" (quoted info.publicKeyDer.toList),
      ("public_key_der", .string info.publicKeyDer))]

/-- The last piece of the text. -/
def lastPiece (info : VerificationInfo) : List Char :=
  named "expires_at" (Nat.toDigits 10 info.expiresAt.toNat)

/-- The text is an opening brace, the pieces, and a closing brace. -/
theorem toList_toJson
    (info : VerificationInfo) :
    info.toJson.toList =
      '{' :: (listed info.jsonPieces ++ (info.lastPiece ++ ['}'])) := by
  have validTime :
      (toString info.validTime).toList =
        Nat.toDigits 10 info.validTime.toNat :=
    Nat.toList_repr
  have expectedVerifyScheme :
      (toString info.expectedVerifyScheme).toList =
        Nat.toDigits 10 info.expectedVerifyScheme.toNat :=
    Nat.toList_repr
  have expiresAt :
      (toString info.expiresAt).toList =
        Nat.toDigits 10 info.expiresAt.toNat :=
    Nat.toList_repr
  unfold toJson verificationInfoToJson
  simp [validTime, expectedVerifyScheme, expiresAt, listed, jsonPieces,
    lastPiece, named, quoted]

/-- The names of the fields need no escapes. -/
theorem plain_fields :
    ∀ field, Plain (visitor.fields.get field).toList := by
  decide

/-- The pieces up to the second string mean what they should. -/
theorem jsonPieces_spelled
    (fuel : Nat)
    {info : VerificationInfo}
    (plain : Plain info.serviceName.toList) :
    ∀ piece ∈ info.jsonPieces.take 3,
      Spells (member (value (fuel + 1))) piece.1 piece.2 := by
  have serviceName := spells_string fuel plain
  rw [String.ofList_toList] at serviceName
  simp only [jsonPieces, List.take_succ_cons, List.take_zero,
    List.forall_mem_cons, List.not_mem_nil, false_implies, implies_true,
    and_true]
  refine ⟨?_, ?_, ?_⟩
  · exact spells_member (plain_fields 0) serviceName
  · exact spells_member (plain_fields 1) (spells_natural fuel _)
  · exact spells_member (plain_fields 2) (spells_natural fuel _)

/-- All pieces mean what they should when both strings are plain. -/
theorem Unescaped.jsonPieces_spelled
    (fuel : Nat)
    {info : VerificationInfo}
    (unescaped : info.Unescaped) :
    ∀ piece ∈ info.jsonPieces,
      Spells (member (value (fuel + 1))) piece.1 piece.2 := by
  have before :=
    VerificationInfo.jsonPieces_spelled fuel unescaped.serviceName
  have publicKeyDer := spells_string fuel unescaped.publicKeyDer
  rw [String.ofList_toList] at publicKeyDer
  intro piece member
  rw [← List.take_append_drop 3 info.jsonPieces, List.mem_append] at member
  rcases member with early | late
  · exact before piece early
  · simp only [jsonPieces, List.drop_succ_cons, List.drop_zero,
      List.mem_singleton] at late
    subst late
    exact spells_member (plain_fields 3) publicKeyDer

/-- The values of the members are read as the fields. -/
theorem read_jsonValue
    (info : VerificationInfo)
    (field : Fin 5) :
    visitor.read Json.deserializer field (info.jsonValue field) =
      .ok (info.contents field) := by
  fin_cases field
  · rfl
  · have read :=
      Json.unsigned_natural info.validTime.toNat_lt UInt32.ofNat
    rw [UInt32.ofNat_toNat] at read
    exact read
  · have read :=
      Json.unsigned_natural info.expectedVerifyScheme.toNat_lt UInt16.ofNat
    rw [UInt16.ofNat_toNat] at read
    exact read
  · rfl
  · have read :=
      Json.unsigned_natural info.expiresAt.toNat_lt UInt64.ofNat
    rw [UInt64.ofNat_toNat] at read
    exact read

/-- Infos whose strings are plain are read back. -/
theorem Unescaped.reads
    {info : VerificationInfo}
    (unescaped : info.Unescaped) :
    Reads info.toJson info := by
  have spelledLast :
      Spells (member (value 1)) info.lastPiece
        ("expires_at", info.jsonValue 4) :=
    spells_member (plain_fields 4) (spells_natural 0 _)
  have readLast :
      items (member (value 1)) '}' 1 (info.lastPiece ++ ['}']) =
        some ([("expires_at", info.jsonValue 4)], []) :=
    items_last (spelledLast.reads ⟨'}', [], rfl, .inr (.inl rfl)⟩) rfl 0
  have found :
      items (member (value 1)) '}' (1 + info.jsonPieces.length)
          (listed info.jsonPieces ++ (info.lastPiece ++ ['}'])) =
        some
          (info.jsonPieces.map Prod.snd ++
            [("expires_at", info.jsonValue 4)], []) := by
    rw [items_listed (by decide) (unescaped.jsonPieces_spelled 0)
      (spelledLast.unpadded.append ['}']), readLast]
    rfl
  have parsed := parse_of_members info.toList_toJson rfl found
  refine ⟨_, parsed, ?_⟩
  have accepted :
      visitor.visitMap Json.deserializer
          (List.ofFn fun field =>
            (.name (visitor.fields.get field), info.jsonValue field)) =
        .ok (visitor.build info.contents) :=
    visitor_sound.visitMap_ofFn (fun _ => rfl) info.read_jsonValue
  exact accepted

/-- A string that is read back was plain, if the pieces before it are. -/
theorem plain_of_items
    {info : VerificationInfo}
    {fuel itemsFuel : Nat}
    {members : List (String × Json)}
    {remaining : List Char}
    (scanned :
      items (member (value (fuel + 1))) '}' itemsFuel
          (listed info.jsonPieces ++ (info.lastPiece ++ ['}'])) =
        some (members, remaining))
    (accepted :
      visitor.visitMap Json.deserializer
          (members.map fun member => (.name member.1, member.2)) =
        .ok info)
    {before after : List (List Char × (String × Json))}
    {field : Fin 5}
    {written : String}
    {meaning : String × Json}
    (pieces :
      info.jsonPieces =
        before ++
          (named (visitor.fields.get field) (quoted written.toList),
            meaning) :: after)
    (spelled :
      ∀ piece ∈ before,
        Spells (member (value (fuel + 1))) piece.1 piece.2)
    (opens :
      (listed after ++ (info.lastPiece ++ ['}'])).head? = some '"')
    (readsString :
      ∀ content,
        visitor.read Json.deserializer field (.string content) =
            .ok (info.contents field) →
          content = written) :
    Plain written.toList := by
  obtain ⟨rest, isRest⟩ := List.head?_eq_some_iff.mp opens
  have shape :
      quoted written.toList ++ ',' :: '"' :: rest =
        '"' :: (written.toList ++ '"' :: ',' :: '"' :: rest) := by
    simp [quoted]
  rw [pieces, listed_append_named, isRest, shape] at scanned
  obtain ⟨content, following, readContent, isMember⟩ :=
    mem_of_items_named (by decide) spelled (plain_fields field) scanned
  have read :=
    visitor_sound.read_of_mem visitor_describes accepted
      (List.mem_map_of_mem isMember) rfl
  have same := readsString _ read
  rw [← same, String.toList_ofList] at readContent ⊢
  exact plain_of_scanString (by decide) readContent

/-- Infos that are read back have plain strings. -/
theorem unescaped_of_reads
    {info : VerificationInfo}
    (reads : Reads info.toJson info) :
    info.Unescaped := by
  obtain ⟨json, parsed, deserialized⟩ := reads
  obtain ⟨fuel, members, remaining, isObject, scanned⟩ :=
    exists_members_of_parse info.toList_toJson rfl parsed
  subst isObject
  have accepted :
      visitor.visitMap Json.deserializer
          (members.map fun member => (.name member.1, member.2)) =
        .ok info :=
    deserialized
  have pieces :
      info.jsonPieces =
        [] ++
          (named (visitor.fields.get 0) (quoted info.serviceName.toList),
            ("service_name", .string info.serviceName)) ::
              info.jsonPieces.drop 1 :=
    rfl
  have serviceName : Plain info.serviceName.toList :=
    plain_of_items scanned accepted pieces (by simp) rfl
      (fun _ same => Except.ok.inj same)
  have laterPieces :
      info.jsonPieces =
        info.jsonPieces.take 3 ++
          (named (visitor.fields.get 3) (quoted info.publicKeyDer.toList),
            ("public_key_der", .string info.publicKeyDer)) :: [] :=
    rfl
  have publicKeyDer : Plain info.publicKeyDer.toList :=
    plain_of_items scanned accepted laterPieces
      (jsonPieces_spelled fuel serviceName) rfl
      (fun _ same => Except.ok.inj same)
  exact ⟨serviceName, publicKeyDer⟩

/-- Plain infos with the same text are the same. -/
theorem Unescaped.eq_of_toJson_eq
    {first second : VerificationInfo}
    (firstUnescaped : first.Unescaped)
    (secondUnescaped : second.Unescaped)
    (sameText : first.toJson = second.toJson) :
    first = second := by
  have readsFirst := firstUnescaped.reads
  rw [sameText] at readsFirst
  exact readsFirst.unique secondUnescaped.reads

/--
A client reads back what was written exactly when neither string contains a
quote, a backslash or a control character.  Of such an info it can read nothing
else, and no two of them have the same text.
-/
theorem toJson_readsBack_iff
    (info : VerificationInfo) :
    (Reads info.toJson info ↔ info.Unescaped) ∧
      (info.Unescaped →
        (∀ read, Reads info.toJson read → read = info) ∧
          ∀ other : VerificationInfo,
            other.Unescaped → other.toJson = info.toJson →
              other = info) := by
  refine ⟨⟨unescaped_of_reads, Unescaped.reads⟩, ?_⟩
  intro unescaped
  refine ⟨?_, ?_⟩
  · intro read readsOther
    exact readsOther.unique unescaped.reads
  · intro other otherUnescaped sameText
    exact otherUnescaped.eq_of_toJson_eq unescaped sameText

/-- An info with an ordinary name. -/
def ordinaryInfo : VerificationInfo where
  serviceName := "payments.internal"
  validTime := 3600
  expectedVerifyScheme := 0x0403
  publicKeyDer := "3059301306072a"
  expiresAt := 1700000000

/-- An ordinary info is read back. -/
theorem ordinaryInfo_readsBack :
    Reads ordinaryInfo.toJson ordinaryInfo :=
  (toJson_readsBack_iff ordinaryInfo).1.mpr ⟨by decide, by decide⟩

/-- An info with a quote in its name. -/
def quotedInfo : VerificationInfo :=
  { ordinaryInfo with serviceName := "pay\"ments" }

/-- The text of this info is no JSON text, so nothing is read from it. -/
theorem quotedInfo_not_json :
    parse quotedInfo.toJson = none ∧
      ¬Reads quotedInfo.toJson quotedInfo := by
  have refused : parse quotedInfo.toJson = none :=
    Option.isNone_iff_eq_none.mp (by decide +kernel)
  refine ⟨refused, ?_⟩
  rintro ⟨json, parsed, _⟩
  rw [refused] at parsed
  cases parsed

/-- An info whose key imitates the fields before it. -/
def imitatingKey : VerificationInfo where
  serviceName := "a"
  validTime := 1
  expectedVerifyScheme := 1
  publicKeyDer :=
    "b\",\"valid_time\":2,\"expected_verify_scheme\":2," ++
      "\"public_key_der\":\"c"
  expiresAt := 3

/-- An info whose name imitates the fields after it. -/
def imitatingName : VerificationInfo where
  serviceName :=
    "a\",\"valid_time\":1,\"expected_verify_scheme\":1," ++
      "\"public_key_der\":\"b"
  validTime := 2
  expectedVerifyScheme := 2
  publicKeyDer := "c"
  expiresAt := 3

/-- Texts do not determine infos once the strings are not plain. -/
theorem toJson_not_injective :
    ¬Function.Injective toJson := by
  intro injective
  have sameText : imitatingKey.toJson = imitatingName.toJson := by
    decide +kernel
  have different : imitatingKey ≠ imitatingName := by
    decide +kernel
  exact different (injective sameText)

end VerificationInfo

end FizzRs
