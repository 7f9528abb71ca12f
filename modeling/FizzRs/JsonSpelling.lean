import FizzRs.JsonText
import FizzRs.WireFormat

namespace JsonText

/-!
# How values are spelled

A piece of text spells a value when the reader finds this value in front of every
delimiter.  Plain strings in quotes and printed numbers spell themselves, and an
object that is put together from such pieces has exactly the members that were
put into it.  The last section makes JSON values a data format.
-/

section Spelling

/-- A text that begins with something that can follow a value. -/
def Delimited (text : List Char) : Prop :=
  ∃ letter rest,
    text = letter :: rest ∧ (letter = ',' ∨ letter = '}' ∨ letter = ']')

/-- A text with no whitespace in front. -/
def Unpadded (text : List Char) : Prop :=
  ∃ letter rest, text = letter :: rest ∧ isBlank letter = false

/-- A piece of text that is read as this item wherever it can stand. -/
structure Spells
    (item : Scanner Item)
    (piece : List Char)
    (meaning : Item) :
    Prop where
  unpadded : Unpadded piece
  reads :
    ∀ {rest}, Delimited rest → item (piece ++ rest) = some (meaning, rest)

theorem Unpadded.skipBlanks_eq
    {text : List Char}
    (unpadded : Unpadded text) :
    skipBlanks text = text := by
  obtain ⟨letter, rest, shape, notBlank⟩ := unpadded
  subst shape
  simp [skipBlanks, notBlank]

theorem Unpadded.append
    {text : List Char}
    (unpadded : Unpadded text)
    (rest : List Char) :
    Unpadded (text ++ rest) := by
  obtain ⟨letter, others, shape, notBlank⟩ := unpadded
  subst shape
  exact ⟨letter, others ++ rest, rfl, notBlank⟩

theorem Delimited.unpadded
    {text : List Char}
    (delimited : Delimited text) :
    Unpadded text := by
  obtain ⟨letter, rest, shape, isLetter⟩ := delimited
  refine ⟨letter, rest, shape, ?_⟩
  rcases isLetter with same | same | same
  all_goals
    subst same
    rfl

/-- A text in quotes. -/
def quoted (content : List Char) : List Char :=
  '"' :: content ++ ['"']

/-- A name and what stands behind its colon. -/
def named
    (name : String)
    (body : List Char) :
    List Char :=
  quoted name.toList ++ ':' :: body

/-- A quoted string is a value, whatever the scan of its content says. -/
theorem value_quote
    (fuel : Nat)
    (rest : List Char) :
    value (fuel + 1) ('"' :: rest) =
      (scanString rest).map fun (content, remaining) =>
        (.string (String.ofList content), remaining) := by
  simp [value, scalar]

/-- A plain text in quotes spells itself. -/
theorem spells_string
    (fuel : Nat)
    {content : List Char}
    (plain : Plain content) :
    Spells (value (fuel + 1)) (quoted content)
      (.string (String.ofList content)) where
  unpadded := ⟨'"', content ++ ['"'], rfl, rfl⟩
  reads := by
    intro rest _
    rw [quoted, List.append_assoc, List.cons_append, value_quote,
      List.singleton_append, scanString_plain plain]
    rfl

/-- A natural number as it is written. -/
def Numeral.natural (number : Nat) : Numeral where
  negative := false
  integer := number
  fraction := []
  exponent := none

/-- Only zero is printed with a zero in front. -/
theorem eq_zero_of_head?_toDigits
    {number : Nat}
    (zeroInFront : (Nat.toDigits 10 number).head? = some '0') :
    number = 0 := by
  induction number using Nat.strongRecOn with
  | _ number inductionHypothesis =>
      by_cases small : number < 10
      · rw [Nat.toDigits_of_lt_base small] at zeroInFront
        have digits :
            ∀ digit : Fin 10,
              Nat.digitChar digit.val = '0' → digit.val = 0 := by
          decide
        exact digits ⟨number, small⟩ (Option.some.inj zeroInFront)
      · have large := Nat.le_of_not_lt small
        rw [Nat.toDigits_of_base_le (by decide) large,
          List.head?_append_of_ne_nil _ Nat.toDigits_ne_nil] at zeroInFront
        have quotient :=
          inductionHypothesis (number / 10) (by omega) zeroInFront
        omega

/-- The digits of a printed number are read back as a run. -/
theorem digitRun_toDigits
    (number : Nat)
    {rest : List Char}
    (delimited : Delimited rest) :
    digitRun (Nat.toDigits 10 number ++ rest) =
      some (Nat.toDigits 10 number, rest) := by
  have areDigits :
      ∀ letter ∈ Nat.toDigits 10 number, Char.isDigit letter = true :=
    fun _ => Nat.isDigit_of_mem_toDigits (by decide) (by decide)
  obtain ⟨letter, others, shape, isLetter⟩ := delimited
  subst shape
  have notDigit : Char.isDigit letter = false := by
    rcases isLetter with same | same | same
    all_goals
      subst same
      rfl
  simp [digitRun, List.takeWhile_append_of_pos areDigits,
    List.dropWhile_append_of_pos areDigits, notDigit,
    Nat.toDigits_ne_nil]

/-- The integer part of a printed number is the number. -/
theorem integerPart_toDigits
    (number : Nat)
    {rest : List Char}
    (delimited : Delimited rest) :
    integerPart (Nat.toDigits 10 number ++ rest) =
      some (number, rest) := by
  have noZeros :
      ¬((Nat.toDigits 10 number).head? = some '0' ∧
        1 < (Nat.toDigits 10 number).length) := by
    rintro ⟨zeroInFront, long⟩
    have isZero := eq_zero_of_head?_toDigits zeroInFront
    subst isZero
    simp at long
  simp only [integerPart, digitRun_toDigits number delimited, noZeros,
    if_false, Nat.ofDigitChars_ten_toDigits]

/-- A printed number is read back. -/
theorem scanNumber_toDigits
    (number : Nat)
    {rest : List Char}
    (delimited : Delimited rest) :
    scanNumber (Nat.toDigits 10 number ++ rest) =
      some (.natural number, rest) := by
  have unsigned : (Nat.toDigits 10 number).head? ≠ some '-' := by
    intro signed
    have isDigit :=
      Nat.isDigit_of_mem_toDigits (by decide) (by decide)
        (List.mem_of_head? signed)
    cases isDigit
  have noFraction : fractionPart rest = some ([], rest) := by
    obtain ⟨letter, others, shape, isLetter⟩ := delimited
    subst shape
    rcases isLetter with same | same | same
    all_goals
      subst same
      rfl
  have noExponent : exponentPart rest = some (none, rest) := by
    obtain ⟨letter, others, shape, isLetter⟩ := delimited
    subst shape
    rcases isLetter with same | same | same
    all_goals
      subst same
      rfl
  simp [scanNumber, unsigned, integerPart_toDigits number delimited,
    noFraction, noExponent, Numeral.natural]

/-- A printed number spells the number. -/
theorem spells_natural
    (fuel number : Nat) :
    Spells (value (fuel + 1)) (Nat.toDigits 10 number)
      (.number (.natural number)) := by
  obtain ⟨letter, others, shape⟩ :=
    List.exists_cons_of_ne_nil (Nat.toDigits_ne_nil (n := number) (b := 10))
  have isDigit : Char.isDigit letter = true := by
    apply Nat.isDigit_of_mem_toDigits (b := 10) (n := number) (by decide)
      (by decide)
    simp [shape]
  have isNumber :
      ∀ other, Char.isDigit other = false → letter ≠ other := by
    intro other notDigit same
    rw [same, notDigit] at isDigit
    cases isDigit
  constructor
  · refine ⟨letter, others, shape, ?_⟩
    simp [isBlank, isNumber ' ' rfl, isNumber '\t' rfl, isNumber '\n' rfl,
      isNumber '\r' rfl]
  · intro rest delimited
    have read := scanNumber_toDigits number delimited
    rw [shape, List.cons_append] at read ⊢
    simp [value, scalar, isNumber '{' rfl, isNumber '[' rfl,
      isNumber '"' rfl, isNumber 't' rfl, isNumber 'f' rfl,
      isNumber 'n' rfl, read]

theorem unpadded_named
    (name : String)
    (body : List Char) :
    Unpadded (named name body) :=
  ⟨'"', name.toList ++ ['"'] ++ ':' :: body, rfl, rfl⟩

/-- What follows a plain name and a colon is the value of the member. -/
theorem member_named
    (value : Scanner Json)
    {name : String}
    {text : List Char}
    (plain : Plain name.toList)
    (unpadded : Unpadded text) :
    member value (named name text) =
      (value text).map fun (content, remaining) =>
        ((name, content), remaining) := by
  have colon : skipBlanks (':' :: text) = ':' :: text := rfl
  simp [member, named, quoted, scanString_plain plain, colon,
    unpadded.skipBlanks_eq]

/-- A member is spelled by its name and its value. -/
theorem spells_member
    {value : Scanner Json}
    {name : String}
    {piece : List Char}
    {json : Json}
    (plain : Plain name.toList)
    (spells : Spells value piece json) :
    Spells (member value) (named name piece) (name, json) where
  unpadded := unpadded_named name piece
  reads := by
    intro rest delimited
    have shape : named name piece ++ rest = named name (piece ++ rest) := by
      simp [named]
    rw [shape, member_named value plain (spells.unpadded.append rest),
      spells.reads delimited]
    rfl

/-- Pieces with a comma behind each. -/
def listed (pieces : List (List Char × Item)) : List Char :=
  pieces.flatMap fun piece => piece.1 ++ [',']

/-- The text from one of the pieces on. -/
theorem listed_append_named
    (before after : List (List Char × Item))
    (name : String)
    (body : List Char)
    (meaning : Item)
    (tail : List Char) :
    listed (before ++ (named name body, meaning) :: after) ++ tail =
      listed before ++
        named name (body ++ ',' :: (listed after ++ tail)) := by
  simp [listed, named]

theorem unpadded_listed
    {item : Scanner Item}
    {pieces : List (List Char × Item)}
    (spelled : ∀ piece ∈ pieces, Spells item piece.1 piece.2)
    {tail : List Char}
    (unpadded : Unpadded tail) :
    Unpadded (listed pieces ++ tail) := by
  rcases pieces with _ | ⟨first, others⟩
  · exact unpadded
  · have firstUnpadded := (spelled first (by simp)).unpadded
    simp only [listed, List.flatMap_cons, List.append_assoc]
    exact firstUnpadded.append _

/-- Spelled items are found in front of whatever comes after them. -/
theorem items_listed
    {item : Scanner Item}
    {close : Char}
    (notClose : ',' ≠ close)
    {pieces : List (List Char × Item)}
    (spelled : ∀ piece ∈ pieces, Spells item piece.1 piece.2)
    {tail : List Char}
    (unpadded : Unpadded tail)
    (fuel : Nat) :
    items item close (fuel + pieces.length) (listed pieces ++ tail) =
      (items item close fuel tail).map fun (others, remaining) =>
        (pieces.map Prod.snd ++ others, remaining) := by
  induction pieces with
  | nil =>
      simp [listed]
  | cons first others inductionHypothesis =>
      obtain ⟨firstSpelled, othersSpelled⟩ := List.forall_mem_cons.mp spelled
      have delimited : Delimited (',' :: (listed others ++ tail)) :=
        ⟨',', _, rfl, .inl rfl⟩
      have shape :
          listed (first :: others) ++ tail =
            first.1 ++ ',' :: (listed others ++ tail) := by
        simp [listed]
      have skipped :=
        (unpadded_listed othersSpelled unpadded).skipBlanks_eq
      rw [shape, List.length_cons, ← Nat.add_assoc, items,
        firstSpelled.reads delimited]
      simp only [delimited.unpadded.skipBlanks_eq, notClose, if_false,
        if_true, skipped, inductionHypothesis othersSpelled,
        Option.map_map]
      rfl

end Spelling

section Objects

/-- The object that a text with a member in it denotes. -/
theorem exists_members_of_parse
    {text : String}
    {inner : List Char}
    {json : Json}
    (shape : text.toList = '{' :: inner)
    (opens : inner.head? = some '"')
    (parsed : parse text = some json) :
    ∃ fuel members remaining,
      json = .object members ∧
        items (member (value (fuel + 1))) '}' (fuel + 1) inner =
          some (members, remaining) := by
  obtain ⟨rest, isInner⟩ := List.head?_eq_some_iff.mp opens
  have size : inner.length = rest.length + 1 := by
    rw [isInner, List.length_cons]
  have quote : skipBlanks inner = '"' :: rest := by
    rw [isInner]
    rfl
  have brace : skipBlanks ('{' :: inner) = '{' :: inner := rfl
  simp only [parse, shape, brace, List.length_cons, value, if_true]
    at parsed
  split at parsed
  · cases parsed
  · rename_i remaining scanned
    split at parsed
    · simp only [Option.some.injEq] at parsed
      subst parsed
      obtain ⟨members, read, isObject⟩ := exists_of_map_eq_some _ scanned
      refine ⟨rest.length, members, remaining, isObject, ?_⟩
      simp only [bracketed, quote, size] at read
      rw [← isInner] at read
      simpa using read
    · cases parsed

/-- A text whose members were found denotes the object of these members. -/
theorem parse_of_members
    {text : String}
    {inner : List Char}
    {fuel membersFuel : Nat}
    {members : List (String × Json)}
    (shape : text.toList = '{' :: inner)
    (opens : inner.head? = some '"')
    (scanned :
      items (member (value fuel)) '}' membersFuel inner =
        some (members, [])) :
    parse text = some (.object members) := by
  obtain ⟨rest, isInner⟩ := List.head?_eq_some_iff.mp opens
  have quote : skipBlanks inner = '"' :: rest := by
    rw [isInner]
    rfl
  have brace : skipBlanks ('{' :: inner) = '{' :: inner := rfl
  have scannedQuote :
      items (member (value fuel)) '}' membersFuel ('"' :: rest) =
        some (members, []) := by
    rw [← isInner]
    exact scanned
  have inside :
      bracketed (member (value fuel)) '}' inner = some (members, []) :=
    bracketed_of_items (member_shortens (value_shortens fuel)) quote
      (by decide) scannedQuote
  have read :
      value (fuel + 1) ('{' :: inner) = some (.object members, []) := by
    rw [value, if_pos rfl, inside]
    rfl
  rw [parse, shape, brace, value_transfer le_rfl read]
  rfl

/--
The scan of a string in a member decides which member is found, whatever is
listed before it.
-/
theorem mem_of_items_named
    {fuel itemsFuel : Nat}
    {close : Char}
    (notClose : ',' ≠ close)
    {before : List (List Char × (String × Json))}
    (spelled :
      ∀ piece ∈ before,
        Spells (member (value (fuel + 1))) piece.1 piece.2)
    {name : String}
    {tail remaining : List Char}
    {members : List (String × Json)}
    (plain : Plain name.toList)
    (scanned :
      items (member (value (fuel + 1))) close itemsFuel
          (listed before ++ named name ('"' :: tail)) =
        some (members, remaining)) :
    ∃ content rest,
      scanString tail = some (content, rest) ∧
        (name, .string (String.ofList content)) ∈ members := by
  have shortens : Shortens (member (value (fuel + 1))) :=
    member_shortens (value_shortens (fuel + 1))
  have refuelled :=
    items_transfer shortens (fun _ read => read) le_rfl
      (Nat.le_add_right _ (1 + before.length)) scanned
  rw [← Nat.add_assoc,
    items_listed notClose spelled (unpadded_named name ('"' :: tail))]
    at refuelled
  obtain ⟨others, readOthers, isMembers⟩ := exists_of_map_eq_some _ refuelled
  subst isMembers
  obtain ⟨first, rest, _, _, read, _, continues⟩ := items_cases readOthers
  rw [member_named _ plain ⟨'"', tail, rfl, rfl⟩, value_quote] at read
  obtain ⟨json, readValue, isFirst⟩ := exists_of_map_eq_some _ read
  obtain ⟨content, readString, isString⟩ :=
    exists_of_map_eq_some
      (fun content => Json.string (String.ofList content)) readValue
  refine ⟨content, rest, readString, List.mem_append_right _ ?_⟩
  rw [← isString, ← isFirst]
  rcases continues with ⟨_, isFound, _⟩ | ⟨_, _, _, _, isFound⟩
  all_goals
    rw [isFound]
    simp

end Objects

section Format

open WireFormat

/-- The number of a literal without sign, fraction and exponent. -/
def Json.natural? : Json → Option Nat
  | .number numeral =>
      if numeral = .natural numeral.integer then
        some numeral.integer
      else
        none
  | _ => none

/-- Unsigned integers below a bound. -/
def Json.unsigned
    (bound : Nat)
    (ofNat : Nat → Target)
    (json : Json) :
    Except DeError Target :=
  match json.natural? with
  | none => .error (.custom "invalid type")
  | some integer =>
      if integer < bound then
        .ok (ofNat integer)
      else
        .error (.custom "invalid value")

/--
JSON values as a data format: structs are objects, or arrays that end with the
last field.
-/
def Json.deserializer : Deserializer Json where
  deserializeU16 := Json.unsigned (2 ^ 16) UInt16.ofNat
  deserializeU32 := Json.unsigned (2 ^ 32) UInt32.ofNat
  deserializeU64 := Json.unsigned (2 ^ 64) UInt64.ofNat
  deserializeString
    | .string content => .ok content
    | _ => .error (.custom "invalid type")
  deserializeOption
    | .null => .ok none
    | json => .ok (some json)
  deserializeIgnoredAny _ := .ok ()
  deserializeStruct _ fields
    | .object members =>
        .ok (.map (members.map fun member => (.name member.1, member.2)))
    | .array elements =>
        if elements.length ≤ fields.length then
          .ok (.seq elements)
        else
          .error (.custom "trailing characters")
    | _ => .error (.custom "invalid type")

/-- A natural number below the bound is read. -/
theorem Json.unsigned_natural
    {bound number : Nat}
    (small : number < bound)
    (ofNat : Nat → Target) :
    Json.unsigned bound ofNat (.number (.natural number)) =
      .ok (ofNat number) := by
  simp [unsigned, natural?, Numeral.natural, small]

end Format

end JsonText
