import FizzRs.JsonSpelling

namespace JsonText

/-!
# Printing objects

What a program may rely on when a JSON library prints an object for it: the text
is JSON, and it denotes an object with the given members, in some order.  A record
that can be read from its members is then read from the text.

The rest of the module is a printer that keeps this promise, whatever the strings
are.  It lays objects out with one member to a line and orders them by name.
Strings are escaped where the grammar asks for it: quotes, backslashes and control
characters.
-/

section Printers

open WireFormat

/-- The values of a printed object. -/
inductive Scalar where
  | string (content : String)
  | unsigned (number : UInt64)
  deriving Repr, DecidableEq

/-- What a printed value denotes. -/
def Scalar.json : Scalar → Json
  | .string content => .string content
  | .unsigned number => .number (.natural number.toNat)

/-- What a printed member denotes. -/
def memberJson (entry : String × Scalar) : String × Json :=
  (entry.1, entry.2.json)

/-- A text is read as this value, whatever whitespace follows it. -/
def Denotes
    (text : String)
    (json : Json) :
    Prop :=
  ∀ blanks : List Char,
    (∀ letter ∈ blanks, isBlank letter = true) →
      parse (text ++ String.ofList blanks) = some json

/-- A library that prints objects: `object(entries).dump(indent)`. -/
structure Printer where
  dump : Nat → List (String × Scalar) → String

/-- The documented behaviour: the text denotes an object with these members. -/
structure Printer.Documented (printer : Printer) : Prop where
  denotes :
    ∀ indent entries,
      (entries.map Prod.fst).Nodup →
        ∃ ordered : List (String × Scalar),
          ordered.Perm entries ∧
            Denotes (printer.dump indent entries)
              (.object (ordered.map memberJson))

/-- The members of a struct, as a reader meets them. -/
def structEntries
    (entries : List (String × Scalar)) :
    List (Identifier × Json) :=
  entries.map fun entry => (.name entry.1, entry.2.json)

/-- A record that is read from its members is read from the printed line. -/
theorem Printer.Documented.exists_json
    {n : Nat}
    {Content : Fin n → Type}
    {Record : Type}
    {visitor : StructVisitor Content Record}
    {contents : Record → (field : Fin n) → Content field}
    (sound : visitor.Sound)
    (describes : visitor.Describes contents)
    {printer : Printer}
    (documented : printer.Documented)
    {entries : List (String × Scalar)}
    {record : Record}
    (distinct : (entries.map Prod.fst).Nodup)
    (accepted :
      visitor.visitMap Json.deserializer (structEntries entries) =
        .ok record)
    (indent : Nat) :
    ∃ json,
      parse (printer.dump indent entries ++ "\n") = some json ∧
        visitor.deserialize Json.deserializer json = .ok record := by
  obtain ⟨ordered, sameMembers, denotes⟩ :=
    documented.denotes indent entries distinct
  have blank : ∀ letter ∈ ['\n'], isBlank letter = true := by
    intro letter member
    rw [List.mem_singleton.mp member]
    rfl
  refine ⟨_, denotes ['\n'] blank, ?_⟩
  have reordered :
      (structEntries entries).Perm (structEntries ordered) :=
    sameMembers.symm.map _
  have isStruct :
      (ordered.map memberJson).map
          (fun member => (Identifier.name member.1, member.2)) =
        structEntries ordered :=
    List.map_map
  rw [StructVisitor.deserialize]
  change visitor.visitMap Json.deserializer (List.map _ _) = _
  rw [isStruct]
  exact sound.visitMap_permuted describes reordered accepted

end Printers

section Escapes

/-- How a letter is written inside a string. -/
def escapeLetter (letter : Char) : List Char :=
  if letter = '\x08' then
    ['\\', 'b']
  else if letter = '\t' then
    ['\\', 't']
  else if letter = '\n' then
    ['\\', 'n']
  else if letter = '\x0c' then
    ['\\', 'f']
  else if letter = '\r' then
    ['\\', 'r']
  else if letter = '"' then
    ['\\', '"']
  else if letter = '\\' then
    ['\\', '\\']
  else if letter.toNat < 0x20 then
    '\\' :: 'u' :: HexCodec.numeral 4 letter.toNat
  else
    [letter]

/-- How a text is written inside a string. -/
def escaped (content : List Char) : List Char :=
  content.flatMap escapeLetter

/-- The code of a control character is read from its four digits. -/
theorem codeUnit_numeral
    {code : Nat}
    (isControl : code < 0x20)
    (rest : List Char) :
    codeUnit (HexCodec.numeral 4 code ++ rest) = some (code, rest) := by
  have digits :
      ∀ code : Fin 32,
        HexCodec.numeral 4 code.val =
          ['0', '0', Nat.digitChar (code.val / 16),
            Nat.digitChar (code.val % 16)] := by
    decide
  have shape := digits ⟨code, isControl⟩
  have zero : HexCodec.digitValue '0' = some 0 := rfl
  have high :
      HexCodec.digitValue (Nat.digitChar (code / 16)) = some (code / 16) :=
    HexCodec.digitValue_digitChar (by omega)
  have low :
      HexCodec.digitValue (Nat.digitChar (code % 16)) = some (code % 16) :=
    HexCodec.digitValue_digitChar (by omega)
  simp only at shape
  rw [shape]
  simp only [List.cons_append, List.nil_append, codeUnit, zero, high, low]
  congr 2
  omega

/-- A backslash is followed by an escape. -/
theorem scanString_backslash
    {rest following : List Char}
    {meaning : Char}
    (decoded : escape rest = some (meaning, following)) :
    scanString ('\\' :: rest) =
      (scanString following).map fun (content, remaining) =>
        (meaning :: content, remaining) := by
  rw [scanString]
  simp only [Char.reduceEq, if_false, if_true]
  split
  · next refused =>
      rw [refused] at decoded
      cases decoded
  · next other remaining accepted =>
      rw [accepted] at decoded
      cases decoded
      rfl

/-- A written letter is read as itself. -/
theorem scanString_escapeLetter
    (letter : Char)
    (rest : List Char) :
    scanString (escapeLetter letter ++ rest) =
      (scanString rest).map fun (content, remaining) =>
        (letter :: content, remaining) := by
  unfold escapeLetter
  split_ifs with isBackspace isTab isBreak isFeed isReturn isQuote
    isBackslash isControl
  · subst letter
    exact scanString_backslash rfl
  · subst letter
    exact scanString_backslash rfl
  · subst letter
    exact scanString_backslash rfl
  · subst letter
    exact scanString_backslash rfl
  · subst letter
    exact scanString_backslash rfl
  · subst letter
    exact scanString_backslash rfl
  · subst letter
    exact scanString_backslash rfl
  · have small : letter.toNat < 0xd800 ∨ 0xdfff < letter.toNat := by
      omega
    have decoded :
        escape ('u' :: (HexCodec.numeral 4 letter.toNat ++ rest)) =
          some (letter, rest) := by
      simp only [escape, if_true, codeUnit_numeral isControl, small,
        Char.ofNat_toNat]
    exact scanString_backslash decoded
  · exact scanString_cons ⟨isQuote, isBackslash, by omega⟩ rest

/-- A written text is read as itself, up to the closing quote. -/
theorem scanString_escaped
    (content rest : List Char) :
    scanString (escaped content ++ '"' :: rest) = some (content, rest) := by
  induction content with
  | nil =>
      exact scanString_quote rest
  | cons letter others inductionHypothesis =>
      have shape :
          escaped (letter :: others) ++ '"' :: rest =
            escapeLetter letter ++ (escaped others ++ '"' :: rest) := by
        simp [escaped]
      rw [shape, scanString_escapeLetter, inductionHypothesis]
      rfl

end Escapes

section Scalars

/-- How a value is printed. -/
def Scalar.print : Scalar → List Char
  | .string content => quoted (escaped content.toList)
  | .unsigned number => Nat.toDigits 10 number.toNat

/-- A letter that ends a number. -/
def EndsNumber (letter : Char) : Prop :=
  Char.isDigit letter = false ∧ letter ≠ '.' ∧ letter ≠ 'e' ∧ letter ≠ 'E'

instance (letter : Char) : Decidable (EndsNumber letter) :=
  inferInstanceAs (Decidable (_ ∧ _))

/-- A printed number is read up to the letter that ends it. -/
theorem scanNumber_before
    (number : Nat)
    {letter : Char}
    (ends : EndsNumber letter)
    (rest : List Char) :
    scanNumber (Nat.toDigits 10 number ++ letter :: rest) =
      some (.natural number, letter :: rest) := by
  obtain ⟨notDigit, notPoint, notSmall, notCapital⟩ := ends
  have areDigits :
      ∀ digit ∈ Nat.toDigits 10 number, Char.isDigit digit = true :=
    fun _ => Nat.isDigit_of_mem_toDigits (by decide) (by decide)
  have run :
      digitRun (Nat.toDigits 10 number ++ letter :: rest) =
        some (Nat.toDigits 10 number, letter :: rest) := by
    simp [digitRun, List.takeWhile_append_of_pos areDigits,
      List.dropWhile_append_of_pos areDigits, notDigit,
      Nat.toDigits_ne_nil]
  have noZeros :
      ¬((Nat.toDigits 10 number).head? = some '0' ∧
        1 < (Nat.toDigits 10 number).length) := by
    rintro ⟨zeroInFront, long⟩
    have isZero := eq_zero_of_head?_toDigits zeroInFront
    subst isZero
    simp at long
  have unsigned :
      (Nat.toDigits 10 number ++ letter :: rest).head? ≠ some '-' := by
    rw [List.head?_append_of_ne_nil _ Nat.toDigits_ne_nil]
    intro signed
    have isDigit := areDigits '-' (List.mem_of_head? signed)
    cases isDigit
  have whole :
      integerPart (Nat.toDigits 10 number ++ letter :: rest) =
        some (number, letter :: rest) := by
    simp only [integerPart, run, noZeros, if_false,
      Nat.ofDigitChars_ten_toDigits]
  have noFraction :
      fractionPart (letter :: rest) = some ([], letter :: rest) := by
    unfold fractionPart
    split
    · next shape =>
        exact absurd (List.cons.inj shape).1 notPoint
    · rfl
  have noExponent :
      exponentPart (letter :: rest) = some (none, letter :: rest) := by
    simp [exponentPart, notSmall, notCapital]
  simp only [scanNumber, unsigned, if_false, whole, noFraction,
    noExponent, Option.bind_eq_bind, Option.bind_some, decide_false,
    Numeral.natural]

/-- A printed value is read up to the letter behind it. -/
theorem value_print
    (scalar : Scalar)
    {letter : Char}
    (ends : EndsNumber letter)
    (fuel : Nat)
    (rest : List Char) :
    value (fuel + 1) (scalar.print ++ letter :: rest) =
      some (scalar.json, letter :: rest) := by
  cases scalar with
  | string content =>
      have shape :
          (Scalar.string content).print ++ letter :: rest =
            '"' :: (escaped content.toList ++ '"' :: letter :: rest) := by
        simp [Scalar.print, quoted]
      rw [shape, value_quote, scanString_escaped]
      simp [Scalar.json]
  | unsigned number =>
      have read := scanNumber_before number.toNat ends rest
      obtain ⟨digit, others, shape⟩ :=
        List.exists_cons_of_ne_nil
          (Nat.toDigits_ne_nil (n := number.toNat) (b := 10))
      have isDigit : Char.isDigit digit = true := by
        apply Nat.isDigit_of_mem_toDigits (b := 10) (n := number.toNat)
          (by decide) (by decide)
        simp [shape]
      have isNumber :
          ∀ other, Char.isDigit other = false → digit ≠ other := by
        intro other notDigit same
        rw [same, notDigit] at isDigit
        cases isDigit
      rw [Scalar.print]
      rw [shape, List.cons_append] at read ⊢
      simp [value, scalar, isNumber '{' rfl, isNumber '[' rfl,
        isNumber '"' rfl, isNumber 't' rfl, isNumber 'f' rfl,
        isNumber 'n' rfl, read, Scalar.json]

/-- A printed value has no whitespace in front. -/
theorem unpadded_print
    (scalar : Scalar) :
    Unpadded scalar.print := by
  cases scalar with
  | string content =>
      exact ⟨'"', _, rfl, rfl⟩
  | unsigned number =>
      exact (spells_natural 0 number.toNat).unpadded

end Scalars

section Layout

/-- A member on a line of its own, indented. -/
def dumpMember
    (indent : Nat)
    (entry : String × Scalar) :
    List Char :=
  List.replicate indent ' ' ++ quoted (escaped entry.1.toList) ++
    ':' :: ' ' :: entry.2.print

/-- The lines of an object. -/
def dumpMembers (indent : Nat) : List (String × Scalar) → List Char
  | [] => []
  | [last] => dumpMember indent last ++ ['\n']
  | first :: others =>
      dumpMember indent first ++ ',' :: '\n' :: dumpMembers indent others

/-- An object with its members in the given order, as `dump(indent)` prints it. -/
def dumpObject
    (indent : Nat)
    (entries : List (String × Scalar)) :
    List Char :=
  if entries = [] then
    ['{', '}']
  else
    '{' :: '\n' :: dumpMembers indent entries ++ ['}']

/-- Indentation is whitespace. -/
theorem skipBlanks_replicate
    (indent : Nat)
    {text : List Char}
    (unpadded : Unpadded text) :
    skipBlanks (List.replicate indent ' ' ++ text) = text := by
  have blanks :
      ∀ letter ∈ List.replicate indent ' ', isBlank letter = true := by
    intro letter isIn
    rw [List.eq_of_mem_replicate isIn]
    rfl
  rw [skipBlanks, List.dropWhile_append_of_pos blanks]
  exact unpadded.skipBlanks_eq

/-- A printed member from its name on. -/
def memberText (entry : String × Scalar) : List Char :=
  '"' :: (escaped entry.1.toList ++ '"' :: ':' :: ' ' :: entry.2.print)

/-- A line is its indentation and the member. -/
theorem dumpMember_eq
    (indent : Nat)
    (entry : String × Scalar) :
    dumpMember indent entry =
      List.replicate indent ' ' ++ memberText entry := by
  simp [dumpMember, memberText, quoted]

theorem skipBlanks_dumpMember
    (indent : Nat)
    (entry : String × Scalar)
    (rest : List Char) :
    skipBlanks (dumpMember indent entry ++ rest) =
      memberText entry ++ rest := by
  rw [dumpMember_eq, List.append_assoc]
  exact skipBlanks_replicate indent ⟨'"', _, rfl, rfl⟩

/-- A printed member is read up to the letter behind it. -/
theorem member_memberText
    (entry : String × Scalar)
    {letter : Char}
    (ends : EndsNumber letter)
    (fuel : Nat)
    (rest : List Char) :
    member (value (fuel + 1)) (memberText entry ++ letter :: rest) =
      some (memberJson entry, letter :: rest) := by
  have shape :
      memberText entry ++ letter :: rest =
        '"' :: (escaped entry.1.toList ++
          '"' :: ':' :: ' ' :: (entry.2.print ++ letter :: rest)) := by
    simp [memberText]
  have colon :
      skipBlanks (':' :: ' ' :: (entry.2.print ++ letter :: rest)) =
        ':' :: ' ' :: (entry.2.print ++ letter :: rest) := rfl
  have space :
      skipBlanks (' ' :: (entry.2.print ++ letter :: rest)) =
        entry.2.print ++ letter :: rest :=
    skipBlanks_replicate 1 ((unpadded_print entry.2).append _)
  rw [shape]
  simp only [member, scanString_escaped, colon, space,
    value_print entry.2 ends, Option.map_some, String.ofList_toList,
    memberJson]

/-- The lines of an object are read as its members. -/
theorem items_dumpMembers
    (indent fuel : Nat)
    (entries : List (String × Scalar))
    (notEmpty : entries ≠ [])
    (rest : List Char) :
    items (member (value (fuel + 1))) '}' entries.length
        (skipBlanks (dumpMembers indent entries ++ '}' :: rest)) =
      some (entries.map memberJson, rest) := by
  fun_induction dumpMembers indent entries with
  | case1 =>
      exact absurd rfl notEmpty
  | case2 last =>
      rw [List.append_assoc, List.singleton_append, skipBlanks_dumpMember]
      exact
        items_last (member_memberText last (by decide) fuel _) rfl 0
  | case3 first others isLonger inductionHypothesis =>
      have someOthers : others ≠ [] := fun none => isLonger none
      rw [List.append_assoc, List.cons_append, List.cons_append,
        skipBlanks_dumpMember]
      exact
        items_more (by decide)
          (member_memberText first (by decide) fuel _) rfl
          (inductionHypothesis someOthers)

/-- The first line begins with a quote. -/
theorem exists_skipBlanks_dumpMembers
    (indent : Nat)
    {entries : List (String × Scalar)}
    (notEmpty : entries ≠ [])
    (rest : List Char) :
    ∃ following,
      skipBlanks (dumpMembers indent entries ++ rest) =
        '"' :: following := by
  rcases entries with _ | ⟨first, _ | ⟨second, others⟩⟩
  · exact absurd rfl notEmpty
  · rw [dumpMembers, List.append_assoc, skipBlanks_dumpMember]
    exact ⟨_, rfl⟩
  · rw [dumpMembers, List.append_assoc, skipBlanks_dumpMember]
    · exact ⟨_, rfl⟩
    · exact List.cons_ne_nil second others

/-- Every printed object is read back. -/
theorem denotes_dumpObject
    (indent : Nat)
    (entries : List (String × Scalar)) :
    Denotes (String.ofList (dumpObject indent entries))
      (.object (entries.map memberJson)) := by
  intro blanks areBlank
  have nothing : skipBlanks blanks = [] := by
    rw [skipBlanks, List.dropWhile_eq_nil_iff]
    exact areBlank
  rw [parse, String.toList_append, String.toList_ofList,
    String.toList_ofList]
  by_cases empty : entries = []
  · subst empty
    have read :
        value 1 ('{' :: '}' :: blanks) = some (.object [], blanks) :=
      rfl
    have brace :
        skipBlanks ('{' :: '}' :: blanks) = '{' :: '}' :: blanks :=
      rfl
    rw [dumpObject, if_pos rfl, List.cons_append, List.singleton_append,
      brace, value_transfer le_rfl read]
    simp [nothing]
  · have shape :
        dumpObject indent entries ++ blanks =
          '{' :: '\n' :: (dumpMembers indent entries ++ '}' :: blanks) := by
      simp [dumpObject, empty]
    have brace :
        ∀ text, skipBlanks ('{' :: text) = '{' :: text :=
      fun _ => rfl
    have lineEnd :
        ∀ text, skipBlanks ('\n' :: text) = skipBlanks text :=
      fun _ => rfl
    obtain ⟨following, quote⟩ :=
      exists_skipBlanks_dumpMembers indent empty ('}' :: blanks)
    have scanned := items_dumpMembers indent 0 entries empty blanks
    rw [quote] at scanned
    have inside :
        bracketed (member (value 1)) '}'
            ('\n' :: (dumpMembers indent entries ++ '}' :: blanks)) =
          some (entries.map memberJson, blanks) :=
      bracketed_of_items (member_shortens (value_shortens 1))
        ((lineEnd _).trans quote) (by decide) scanned
    have read :
        value 2
            ('{' :: '\n' :: (dumpMembers indent entries ++ '}' :: blanks)) =
          some (.object (entries.map memberJson), blanks) := by
      rw [value, if_pos rfl, inside]
      rfl
    rw [shape, brace, value_transfer le_rfl read]
    simp [nothing]

end Layout

section Order

/-- The printer: members ordered by name. -/
def sortedPrinter : Printer where
  dump indent entries :=
    String.ofList
      (dumpObject indent
        (entries.mergeSort fun first second => first.1 ≤ second.1))

theorem sortedPrinter_documented :
    sortedPrinter.Documented where
  denotes indent entries _ :=
    ⟨_, List.mergeSort_perm entries _, denotes_dumpObject indent _⟩

end Order

end JsonText
