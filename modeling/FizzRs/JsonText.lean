import Mathlib.Data.List.Basic
import Mathlib.Data.List.TakeWhile
import FizzRs.HexCodec

namespace JsonText

/-!
# JSON texts

A reader of RFC 8259 texts.  It keeps what the grammar distinguishes: members
stay in the order of the text, repeated names included, and a number keeps its
integer, fraction and exponent apart.  Escapes are replaced by what they stand
for; half a surrogate pair stands for nothing and is refused.

Values nest, so the reader has fuel.  The length of a text is always enough.
-/

/-- A number as it is written. -/
structure Numeral where
  negative : Bool
  integer : Nat
  fraction : List Char
  exponent : Option Int
  deriving Repr, DecidableEq

/-- What a JSON text denotes. -/
inductive Json where
  | null
  | bool (value : Bool)
  | number (numeral : Numeral)
  | string (content : String)
  | array (elements : List Json)
  | object (members : List (String × Json))
  deriving Repr

/-- A scanner reads something off the front of a text. -/
abbrev Scanner (Result : Type) : Type :=
  List Char → Option (Result × List Char)

/-- Insignificant whitespace. -/
def isBlank (letter : Char) : Bool :=
  letter = ' ' ∨ letter = '\t' ∨ letter = '\n' ∨ letter = '\r'

/-- Drop the whitespace at the front. -/
def skipBlanks (text : List Char) : List Char :=
  text.dropWhile isBlank

/-- The escapes of one letter. -/
def shortEscape (letter : Char) : Option Char :=
  [('"', '"'), ('\\', '\\'), ('/', '/'), ('b', '\x08'), ('f', '\x0c'),
    ('n', '\n'), ('r', '\r'), ('t', '\t')].lookup letter

/-- Four hexadecimal digits. -/
def codeUnit : Scanner Nat
  | first :: second :: third :: fourth :: rest =>
      match HexCodec.digitValue first, HexCodec.digitValue second,
        HexCodec.digitValue third, HexCodec.digitValue fourth with
      | some a, some b, some c, some d =>
          some (((a * 16 + b) * 16 + c) * 16 + d, rest)
      | _, _, _, _ => none
  | _ => none

/-- The second half of a surrogate pair, with its own escape. -/
def lowSurrogate : Scanner Nat
  | '\\' :: 'u' :: rest =>
      match codeUnit rest with
      | none => none
      | some (unit, following) =>
          if 0xdc00 ≤ unit ∧ unit ≤ 0xdfff then
            some (unit, following)
          else
            none
  | _ => none

/-- What follows a backslash. -/
def escape : Scanner Char
  | [] => none
  | letter :: rest =>
      if letter = 'u' then
        match codeUnit rest with
        | none => none
        | some (unit, following) =>
            if unit < 0xd800 ∨ 0xdfff < unit then
              some (Char.ofNat unit, following)
            else if unit < 0xdc00 then
              match lowSurrogate following with
              | none => none
              | some (low, remaining) =>
                  some
                    (Char.ofNat
                      (0x10000 + (unit - 0xd800) * 0x400 + (low - 0xdc00)),
                      remaining)
            else
              none
      else
        (shortEscape letter).map fun meaning => (meaning, rest)

/-- A scanner leaves less than it was given. -/
def Shortens (scanner : Scanner Result) : Prop :=
  ∀ {text result rest},
    scanner text = some (result, rest) → rest.length < text.length

/-- A result that was made from something was made from what was scanned. -/
theorem exists_of_map_eq_some
    {scanned : Option (Found × List Char)}
    (make : Found → Result)
    {result : Result}
    {remaining : List Char}
    (mapped :
      (scanned.map fun (found, rest) => (make found, rest)) =
        some (result, remaining)) :
    ∃ found, scanned = some (found, remaining) ∧ result = make found := by
  simp only [Option.map_eq_some_iff, Prod.exists, Prod.mk.injEq] at mapped
  obtain ⟨found, _, isScanned, isResult, same⟩ := mapped
  subst same
  exact ⟨found, isScanned, isResult.symm⟩

/-- The letters that four hexadecimal digits used up. -/
theorem codeUnit_uses
    {text rest : List Char}
    {unit : Nat}
    (scanned : codeUnit text = some (unit, rest)) :
    ∃ used, text = used ++ rest ∧ '"' ∉ used := by
  unfold codeUnit at scanned
  split at scanned
  · rename_i first second third fourth following
    split at scanned
    · rename_i a b c d isFirst isSecond isThird isFourth
      simp only [Option.some.injEq, Prod.mk.injEq] at scanned
      obtain ⟨_, same⟩ := scanned
      subst following
      refine ⟨[first, second, third, fourth], rfl, ?_⟩
      intro quoted
      have quote : HexCodec.digitValue '"' = none := rfl
      simp only [List.mem_cons, List.not_mem_nil, or_false] at quoted
      rcases quoted with same | same | same | same
      all_goals
        subst same
        simp [quote] at isFirst isSecond isThird isFourth
    · cases scanned
  · cases scanned

/-- The letters that the second half of a pair used up. -/
theorem lowSurrogate_uses
    {text rest : List Char}
    {unit : Nat}
    (scanned : lowSurrogate text = some (unit, rest)) :
    ∃ used, text = used ++ rest ∧ '"' ∉ used := by
  unfold lowSurrogate at scanned
  split at scanned
  · split at scanned
    · cases scanned
    · rename_i read
      split at scanned
      · simp only [Option.some.injEq, Prod.mk.injEq] at scanned
        obtain ⟨_, same⟩ := scanned
        subst same
        obtain ⟨used, shape, unquoted⟩ := codeUnit_uses read
        refine ⟨'\\' :: 'u' :: used, by simp [shape], ?_⟩
        simpa using unquoted
      · cases scanned
  · cases scanned

/-- An escape uses up letters, and a quote only when it stands alone. -/
theorem escape_uses
    {text rest : List Char}
    {meaning : Char}
    (scanned : escape text = some (meaning, rest)) :
    ∃ letter used,
      text = letter :: used ++ rest ∧
        ('"' ∈ letter :: used → used = []) := by
  unfold escape at scanned
  split at scanned
  · cases scanned
  · rename_i letter following
    split at scanned
    · rename_i isLong
      subst isLong
      split at scanned
      · cases scanned
      · rename_i unit remaining read
        obtain ⟨used, shape, unquoted⟩ := codeUnit_uses read
        split at scanned
        · simp only [Option.some.injEq, Prod.mk.injEq] at scanned
          obtain ⟨_, same⟩ := scanned
          subst same
          refine ⟨'u', used, by simp [shape], ?_⟩
          simp [unquoted]
        · split at scanned
          · split at scanned
            · cases scanned
            · rename_i low others readLow
              obtain ⟨usedLow, shapeLow, unquotedLow⟩ :=
                lowSurrogate_uses readLow
              simp only [Option.some.injEq, Prod.mk.injEq] at scanned
              obtain ⟨_, same⟩ := scanned
              subst same
              refine ⟨'u', used ++ usedLow, by simp [shape, shapeLow], ?_⟩
              simp [unquoted, unquotedLow]
          · cases scanned
    · simp only [Option.map_eq_some_iff, Prod.mk.injEq] at scanned
      obtain ⟨_, _, _, same⟩ := scanned
      subst same
      exact ⟨letter, [], rfl, fun _ => rfl⟩

theorem escape_shortens :
    Shortens escape := by
  intro text meaning rest scanned
  obtain ⟨letter, used, shape, _⟩ := escape_uses scanned
  rw [shape, List.cons_append, List.length_cons, List.length_append]
  omega

/-- The content of a string, after the opening quote. -/
def scanString : Scanner (List Char)
  | [] => none
  | letter :: rest =>
      if letter = '"' then
        some ([], rest)
      else if letter = '\\' then
        match decoded : escape rest with
        | none => none
        | some (meaning, following) =>
            have : following.length < rest.length := escape_shortens decoded
            (scanString following).map fun (content, remaining) =>
              (meaning :: content, remaining)
      else if letter.toNat < 0x20 then
        none
      else
        (scanString rest).map fun (content, remaining) =>
          (letter :: content, remaining)
termination_by text => text.length

/-- A nonempty run of digits. -/
def digitRun : Scanner (List Char) :=
  fun text =>
    let digits := text.takeWhile Char.isDigit
    if digits = [] then
      none
    else
      some (digits, text.dropWhile Char.isDigit)

/-- The integer part of a number: no zeros in front. -/
def integerPart : Scanner Nat :=
  fun text =>
    match digitRun text with
    | none => none
    | some (digits, rest) =>
        if digits.head? = some '0' ∧ 1 < digits.length then
          none
        else
          some (Nat.ofDigitChars 10 digits 0, rest)

/-- The fraction, where there is one. -/
def fractionPart : Scanner (List Char)
  | '.' :: rest => digitRun rest
  | text => some ([], text)

/-- The exponent, where there is one. -/
def exponentPart : Scanner (Option Int)
  | [] => some (none, [])
  | letter :: rest =>
      if letter = 'e' ∨ letter = 'E' then
        let unsigned := if rest.head? = some '-' ∨ rest.head? = some '+' then
          rest.tail else rest
        (digitRun unsigned).map fun (digits, remaining) =>
          let size : Int := Nat.ofDigitChars 10 digits 0
          (some (if rest.head? = some '-' then -size else size), remaining)
      else
        some (none, letter :: rest)

/-- A number. -/
def scanNumber : Scanner Numeral :=
  fun text => do
    let negative := text.head? = some '-'
    let (integer, afterInteger) ←
      integerPart (if negative then text.tail else text)
    let (fraction, afterFraction) ← fractionPart afterInteger
    let (exponent, rest) ← exponentPart afterFraction
    some
      ({ negative := negative
         integer := integer
         fraction := fraction
         exponent := exponent },
        rest)

/-- The rest of one of the three words. -/
def scanWord
    (word : String)
    (meaning : Json) :
    Scanner Json :=
  fun text =>
    if word.toList.isPrefixOf text then
      some (meaning, text.drop word.toList.length)
    else
      none

/-- Items separated by commas, up to a closing letter. -/
def items
    (item : Scanner Item)
    (close : Char) :
    Nat → Scanner (List Item)
  | 0, _ => none
  | fuel + 1, text =>
      match item text with
      | none => none
      | some (first, rest) =>
          match skipBlanks rest with
          | [] => none
          | next :: following =>
              if next = close then
                some ([first], following)
              else if next = ',' then
                (items item close fuel (skipBlanks following)).map
                  fun (others, remaining) => (first :: others, remaining)
              else
                none

/-- The inside of a pair of brackets. -/
def bracketed
    (item : Scanner Item)
    (close : Char) :
    Scanner (List Item) :=
  fun text =>
    match skipBlanks text with
    | [] => none
    | next :: following =>
        if next = close then
          some ([], following)
        else
          items item close text.length (next :: following)

/-- A name, a colon and a value. -/
def member (value : Scanner Json) : Scanner (String × Json)
  | '"' :: rest =>
      match scanString rest with
      | none => none
      | some (name, afterName) =>
          match skipBlanks afterName with
          | ':' :: following =>
              (value (skipBlanks following)).map fun (content, remaining) =>
                ((String.ofList name, content), remaining)
          | _ => none
  | _ => none

/-- A value that holds no others. -/
def scalar : Scanner Json
  | [] => none
  | letter :: rest =>
      if letter = '"' then
        (scanString rest).map fun (content, remaining) =>
          (.string (String.ofList content), remaining)
      else if letter = 't' then
        scanWord "rue" (.bool true) rest
      else if letter = 'f' then
        scanWord "alse" (.bool false) rest
      else if letter = 'n' then
        scanWord "ull" .null rest
      else
        (scanNumber (letter :: rest)).map fun (numeral, remaining) =>
          (.number numeral, remaining)

/-- A value. -/
def value : Nat → Scanner Json
  | 0, _ => none
  | _ + 1, [] => none
  | fuel + 1, letter :: rest =>
      if letter = '{' then
        (bracketed (member (value fuel)) '}' rest).map
          fun (members, remaining) => (.object members, remaining)
      else if letter = '[' then
        (bracketed (value fuel) ']' rest).map
          fun (elements, remaining) => (.array elements, remaining)
      else
        scalar (letter :: rest)

/-- A whole text: one value, with whitespace around it. -/
def parse (text : String) : Option Json :=
  match value text.toList.length (skipBlanks text.toList) with
  | none => none
  | some (json, rest) =>
      if skipBlanks rest = [] then
        some json
      else
        none

section Strings

/-- Letters that stand for themselves in a string. -/
def IsPlain (letter : Char) : Prop :=
  letter ≠ '"' ∧ letter ≠ '\\' ∧ 0x20 ≤ letter.toNat

instance (letter : Char) : Decidable (IsPlain letter) :=
  inferInstanceAs (Decidable (_ ∧ _))

/-- Texts that may stand between quotes as they are. -/
def Plain (content : List Char) : Prop :=
  ∀ letter ∈ content, IsPlain letter

instance (content : List Char) : Decidable (Plain content) :=
  List.decidableBAll IsPlain content

theorem scanString_quote
    (rest : List Char) :
    scanString ('"' :: rest) = some ([], rest) := by
  simp [scanString]

/-- A plain letter is read as itself. -/
theorem scanString_cons
    {letter : Char}
    (isPlain : IsPlain letter)
    (rest : List Char) :
    scanString (letter :: rest) =
      (scanString rest).map fun (content, remaining) =>
        (letter :: content, remaining) := by
  obtain ⟨noQuote, noBackslash, noControl⟩ := isPlain
  rw [scanString]
  simp [noQuote, noBackslash, Nat.not_lt.mpr noControl]

/-- A plain text between quotes is read as itself. -/
theorem scanString_plain
    {content : List Char}
    (plain : Plain content)
    (rest : List Char) :
    scanString (content ++ '"' :: rest) = some (content, rest) := by
  induction content with
  | nil =>
      exact scanString_quote rest
  | cons letter others inductionHypothesis =>
      obtain ⟨isPlain, othersPlain⟩ := List.forall_mem_cons.mp plain
      rw [List.cons_append, scanString_cons isPlain,
        inductionHypothesis othersPlain]
      rfl

/-- What a scan that succeeds has seen first. -/
theorem scanString_cases
    {letter : Char}
    {rest content remaining : List Char}
    (scanned : scanString (letter :: rest) = some (content, remaining)) :
    (letter = '"' ∧ content = [] ∧ remaining = rest) ∨
      (letter = '\\' ∧
        ∃ meaning following others,
          escape rest = some (meaning, following) ∧
            scanString following = some (others, remaining) ∧
              content = meaning :: others) ∨
      (IsPlain letter ∧
        ∃ others,
          scanString rest = some (others, remaining) ∧
            content = letter :: others) := by
  rw [scanString] at scanned
  split at scanned
  · rename_i isQuote
    simp only [Option.some.injEq, Prod.mk.injEq] at scanned
    exact .inl ⟨isQuote, scanned.1.symm, scanned.2.symm⟩
  · rename_i noQuote
    split at scanned
    · rename_i isBackslash
      split at scanned
      · cases scanned
      · rename_i meaning following decoded
        obtain ⟨others, read, shape⟩ := exists_of_map_eq_some _ scanned
        exact
          .inr (.inl
            ⟨isBackslash, meaning, following, others, decoded, read, shape⟩)
    · rename_i noBackslash
      split at scanned
      · cases scanned
      · rename_i noControl
        obtain ⟨others, read, shape⟩ := exists_of_map_eq_some _ scanned
        exact
          .inr (.inr
            ⟨⟨noQuote, noBackslash, Nat.le_of_not_lt noControl⟩, others,
              read, shape⟩)

theorem scanString_shortens :
    Shortens scanString := by
  intro text
  induction size : text.length using Nat.strongRecOn
    generalizing text with
  | _ size inductionHypothesis =>
      intro content remaining scanned
      rcases text with _ | ⟨letter, rest⟩
      · simp [scanString] at scanned
      · rw [List.length_cons] at size
        rcases scanString_cases scanned with
          ⟨_, _, same⟩ | ⟨_, _, following, _, decoded, read, _⟩ |
            ⟨_, _, read, _⟩
        · subst remaining
          omega
        · have shorter := escape_shortens decoded
          have shortest :=
            inductionHypothesis following.length (by omega) rfl read
          omega
        · have shorter := inductionHypothesis rest.length (by omega) rfl read
          omega

/-- An escape ends before a quote that follows, unless it is the quote's. -/
theorem escape_before_quote
    {written tail following : List Char}
    {meaning : Char}
    (scanned : escape (written ++ '"' :: tail) = some (meaning, following)) :
    (∃ used left,
      used ≠ [] ∧
        written = used ++ left ∧
          following = left ++ '"' :: tail) ∨
      (written = [] ∧ following = tail) := by
  obtain ⟨letter, used, shape, alone⟩ := escape_uses scanned
  rcases List.append_eq_append_iff.mp shape with
    ⟨excess, isUsed, isTail⟩ | ⟨left, isWritten, isFollowing⟩
  · rcases excess with _ | ⟨quote, others⟩
    · refine .inl ⟨letter :: used, [], by simp, ?_, ?_⟩
      · simpa using isUsed.symm
      · simpa using isTail.symm
    · simp only [List.cons_append, List.cons.injEq] at isTail
      obtain ⟨isQuote, isTail⟩ := isTail
      subst quote
      have onlyQuote : used = [] := by
        apply alone
        simp [isUsed]
      subst used
      have nothingLeft : written = [] ∧ others = [] := by
        have sizes := congrArg List.length isUsed
        simp only [List.length_cons, List.length_nil, List.length_append]
          at sizes
        constructor
        · exact List.eq_nil_of_length_eq_zero (by omega)
        · exact List.eq_nil_of_length_eq_zero (by omega)
      obtain ⟨noneWritten, noOthers⟩ := nothingLeft
      subst others
      exact .inr ⟨noneWritten, isTail.symm⟩
  · exact .inl ⟨letter :: used, left, by simp, isWritten, isFollowing⟩

/--
What may happen to a text that was put between quotes as it is, with a separator
and another quote behind it: it is plain and read as itself, it is read as
something shorter, or its last letter is a backslash that hides the quote.
-/
inductive ReadBetween
    (separator : Char) :
    List Char → List Char → Prop where
  | itself {written : List Char} :
      Plain written → ReadBetween separator written written
  | shorter {written read : List Char} :
      read.length < written.length → ReadBetween separator written read
  | beyond {written read : List Char} :
      read.getLast? = some separator →
      written.getLast? = some '\\' →
      ReadBetween separator written read

namespace ReadBetween

variable {separator : Char}
variable {written read : List Char}

/-- A plain letter in front changes nothing. -/
theorem cons
    {letter : Char}
    (isPlain : IsPlain letter)
    (between : ReadBetween separator written read) :
    ReadBetween separator (letter :: written) (letter :: read) := by
  cases between with
  | itself plain =>
      exact .itself (List.forall_mem_cons.mpr ⟨isPlain, plain⟩)
  | shorter fewer =>
      exact .shorter (Nat.succ_lt_succ fewer)
  | beyond lastRead lastWritten =>
      refine .beyond ?_ ?_
      · rw [List.getLast?_cons, lastRead]
        rfl
      · rw [List.getLast?_cons, lastWritten]
        rfl

/-- An escape in front is longer than what it stands for. -/
theorem escaped
    {used : List Char}
    (nonempty : used ≠ [])
    (meaning : Char)
    (between : ReadBetween separator written read) :
    ReadBetween separator ('\\' :: (used ++ written)) (meaning :: read) := by
  have usedSize := List.length_pos_iff.mpr nonempty
  cases between with
  | itself plain =>
      refine .shorter ?_
      simp only [List.length_cons, List.length_append]
      omega
  | shorter fewer =>
      refine .shorter ?_
      simp only [List.length_cons, List.length_append]
      omega
  | beyond lastRead lastWritten =>
      refine .beyond ?_ ?_
      · rw [List.getLast?_cons, lastRead]
        rfl
      · rw [List.getLast?_cons, List.getLast?_append, lastWritten]
        rfl

end ReadBetween

/-- Every scan of a text between quotes is one of the three. -/
theorem scanString_between_quotes
    {separator : Char}
    (separatorPlain : IsPlain separator)
    {written read rest remaining : List Char}
    (scanned :
      scanString (written ++ '"' :: separator :: '"' :: rest) =
        some (read, remaining)) :
    ReadBetween separator written read := by
  induction size : written.length using Nat.strongRecOn
    generalizing written read with
  | _ size inductionHypothesis =>
      rcases written with _ | ⟨letter, others⟩
      · rw [List.nil_append, scanString_quote] at scanned
        simp only [Option.some.injEq, Prod.mk.injEq] at scanned
        rw [← scanned.1]
        exact .itself (by simp [Plain])
      · rw [List.length_cons] at size
        rcases scanString_cases scanned with
          ⟨_, shape, _⟩ | ⟨isBackslash, meaning, following, content,
            decoded, readRest, shape⟩ | ⟨isPlain, content, readRest, shape⟩
        · subst read
          exact .shorter (by simp)
        · subst letter
          subst read
          rcases escape_before_quote decoded with
            ⟨used, left, nonempty, isOthers, isFollowing⟩ |
              ⟨isOthers, isFollowing⟩
          · subst others
            subst following
            rw [List.length_append] at size
            have usedSize := List.length_pos_iff.mpr nonempty
            have between :=
              inductionHypothesis left.length (by omega) readRest rfl
            exact between.escaped nonempty meaning
          · subst others
            subst following
            rw [scanString_cons separatorPlain, scanString_quote] at readRest
            simp only [Option.map_some, Option.some.injEq, Prod.mk.injEq]
              at readRest
            rw [← readRest.1]
            exact .beyond rfl rfl
        · subst read
          have between :=
            inductionHypothesis others.length (by omega) readRest rfl
          exact between.cons isPlain

/-- A text that is read between quotes as itself is plain. -/
theorem plain_of_scanString
    {separator : Char}
    (separatorPlain : IsPlain separator)
    {content rest remaining : List Char}
    (scanned :
      scanString (content ++ '"' :: separator :: '"' :: rest) =
        some (content, remaining)) :
    Plain content := by
  have between := scanString_between_quotes separatorPlain scanned
  cases between with
  | itself plain =>
      exact plain
  | shorter fewer =>
      exact (Nat.lt_irrefl _ fewer).elim
  | beyond lastRead lastWritten =>
      rw [lastWritten] at lastRead
      have isBackslash := Option.some.inj lastRead
      exact (separatorPlain.2.1 isBackslash.symm).elim

end Strings

section Fuel

theorem length_skipBlanks_le
    (text : List Char) :
    (skipBlanks text).length ≤ text.length :=
  List.length_dropWhile_le _ _

theorem digitRun_shortens :
    Shortens digitRun := by
  intro text digits rest scanned
  simp only [digitRun] at scanned
  split at scanned
  · cases scanned
  · rename_i nonempty
    simp only [Option.some.injEq, Prod.mk.injEq] at scanned
    rw [← scanned.2]
    have split := congrArg List.length
      (List.takeWhile_append_dropWhile (p := Char.isDigit) (l := text))
    have positive := List.length_pos_iff.mpr nonempty
    rw [List.length_append] at split
    omega

theorem integerPart_shortens :
    Shortens integerPart := by
  intro text integer rest scanned
  unfold integerPart at scanned
  split at scanned
  · cases scanned
  · rename_i digits following read
    split at scanned
    · cases scanned
    · simp only [Option.some.injEq, Prod.mk.injEq] at scanned
      rw [← scanned.2]
      exact digitRun_shortens read

theorem length_fractionPart_le
    {text fraction rest : List Char}
    (scanned : fractionPart text = some (fraction, rest)) :
    rest.length ≤ text.length := by
  unfold fractionPart at scanned
  split at scanned
  · have shorter := digitRun_shortens scanned
    rw [List.length_cons]
    omega
  · simp only [Option.some.injEq, Prod.mk.injEq] at scanned
    exact (congrArg List.length scanned.2).ge

theorem length_exponentPart_le
    {text rest : List Char}
    {exponent : Option Int}
    (scanned : exponentPart text = some (exponent, rest)) :
    rest.length ≤ text.length := by
  unfold exponentPart at scanned
  split at scanned
  · simp only [Option.some.injEq, Prod.mk.injEq] at scanned
    exact (congrArg List.length scanned.2).ge
  · rename_i letter following
    split at scanned
    · simp only [Option.map_eq_some_iff, Prod.exists, Prod.mk.injEq]
        at scanned
      obtain ⟨digits, remaining, read, _, same⟩ := scanned
      subst same
      have shorter := digitRun_shortens read
      rw [List.length_cons]
      split at shorter
      · rw [List.length_tail] at shorter
        omega
      · omega
    · simp only [Option.some.injEq, Prod.mk.injEq] at scanned
      exact (congrArg List.length scanned.2).ge

theorem scanNumber_shortens :
    Shortens scanNumber := by
  intro text numeral rest scanned
  simp only [scanNumber, bind, Option.bind_eq_some_iff, Prod.exists,
    Option.some.injEq, Prod.mk.injEq] at scanned
  obtain ⟨integer, afterInteger, readInteger, fraction, afterFraction,
    readFraction, exponent, remaining, readExponent, _, same⟩ := scanned
  subst same
  have shorter := integerPart_shortens readInteger
  have afterPoint := length_fractionPart_le readFraction
  have afterExponent := length_exponentPart_le readExponent
  split at shorter
  · rw [List.length_tail] at shorter
    omega
  · omega

/-- What a run of items that succeeds consists of. -/
theorem items_cases
    {item : Scanner Item}
    {close : Char}
    {fuel : Nat}
    {text remaining : List Char}
    {found : List Item}
    (scanned : items item close (fuel + 1) text = some (found, remaining)) :
    ∃ first rest next following,
      item text = some (first, rest) ∧
        skipBlanks rest = next :: following ∧
          ((next = close ∧ found = [first] ∧ remaining = following) ∨
            (next ≠ close ∧
              next = ',' ∧
                ∃ others,
                  items item close fuel (skipBlanks following) =
                      some (others, remaining) ∧
                    found = first :: others)) := by
  rw [items] at scanned
  split at scanned
  · cases scanned
  · rename_i first rest read
    split at scanned
    · cases scanned
    · rename_i next following skipped
      refine ⟨first, rest, next, following, read, skipped, ?_⟩
      split at scanned
      · rename_i isClose
        simp only [Option.some.injEq, Prod.mk.injEq] at scanned
        exact .inl ⟨isClose, scanned.1.symm, scanned.2.symm⟩
      · rename_i notClose
        split at scanned
        · rename_i isComma
          obtain ⟨others, readOthers, isFound⟩ :=
            exists_of_map_eq_some _ scanned
          exact .inr ⟨notClose, isComma, others, readOthers, isFound⟩
        · cases scanned

/-- The last item stands before the closing letter. -/
theorem items_last
    {item : Scanner Item}
    {close : Char}
    {text rest following : List Char}
    {first : Item}
    (read : item text = some (first, rest))
    (closes : skipBlanks rest = close :: following)
    (fuel : Nat) :
    items item close (fuel + 1) text = some ([first], following) := by
  simp [items, read, closes]

/-- Every other item stands before a comma. -/
theorem items_more
    {item : Scanner Item}
    {close : Char}
    {fuel : Nat}
    {text rest following remaining : List Char}
    {first : Item}
    {others : List Item}
    (notClose : ',' ≠ close)
    (read : item text = some (first, rest))
    (continues : skipBlanks rest = ',' :: following)
    (readOthers :
      items item close fuel (skipBlanks following) =
        some (others, remaining)) :
    items item close (fuel + 1) text =
      some (first :: others, remaining) := by
  simp [items, read, continues, notClose, readOthers]

theorem items_shortens
    {item : Scanner Item}
    (shortens : Shortens item)
    (close : Char)
    (fuel : Nat) :
    Shortens (items item close fuel) := by
  induction fuel with
  | zero =>
      intro text found remaining scanned
      cases scanned
  | succ fuel inductionHypothesis =>
      intro text found remaining scanned
      obtain ⟨first, rest, next, following, read, skipped, continues⟩ :=
        items_cases scanned
      have shorter := shortens read
      have noLonger := length_skipBlanks_le rest
      rw [skipped, List.length_cons] at noLonger
      rcases continues with ⟨_, _, same⟩ | ⟨_, _, _, readOthers, _⟩
      · subst same
        omega
      · have shorterOthers := inductionHypothesis readOthers
        have noLongerOthers := length_skipBlanks_le following
        omega

/--
Items that another scanner reads alike are found by it too, with any fuel that
covers the text.
-/
theorem items_transfer
    {item other : Scanner Item}
    {close : Char}
    {fuel otherFuel size : Nat}
    {text remaining : List Char}
    {found : List Item}
    (shortens : Shortens item)
    (agrees :
      ∀ {text result},
        text.length ≤ size → item text = some result →
          other text = some result)
    (small : text.length ≤ size)
    (enough : text.length ≤ otherFuel)
    (scanned : items item close fuel text = some (found, remaining)) :
    items other close otherFuel text = some (found, remaining) := by
  induction fuel generalizing otherFuel text found with
  | zero =>
      cases scanned
  | succ fuel inductionHypothesis =>
      obtain ⟨first, rest, next, following, read, skipped, continues⟩ :=
        items_cases scanned
      have shorter := shortens read
      have noLonger := length_skipBlanks_le rest
      rw [skipped, List.length_cons] at noLonger
      rcases otherFuel with _ | otherFuel
      · omega
      · rcases continues with
          ⟨isClose, isFound, same⟩ |
            ⟨notClose, isComma, others, readOthers, isFound⟩
        · subst isClose
          subst isFound
          subst same
          exact items_last (agrees small read) skipped otherFuel
        · subst isComma
          subst isFound
          have noLongerOthers := length_skipBlanks_le following
          exact
            items_more notClose (agrees small read) skipped
              (inductionHypothesis (by omega) (by omega) readOthers)

/-- What the inside of brackets that succeeds consists of. -/
theorem bracketed_cases
    {item : Scanner Item}
    {close : Char}
    {text remaining : List Char}
    {found : List Item}
    (scanned : bracketed item close text = some (found, remaining)) :
    ∃ next following,
      skipBlanks text = next :: following ∧
        ((next = close ∧ found = [] ∧ remaining = following) ∨
          (next ≠ close ∧
            items item close text.length (next :: following) =
              some (found, remaining))) := by
  unfold bracketed at scanned
  split at scanned
  · cases scanned
  · rename_i next following skipped
    refine ⟨next, following, skipped, ?_⟩
    split at scanned
    · rename_i isClose
      simp only [Option.some.injEq, Prod.mk.injEq] at scanned
      exact .inl ⟨isClose, scanned.1.symm, scanned.2.symm⟩
    · rename_i notClose
      exact .inr ⟨notClose, scanned⟩

/-- Brackets around items that were found with some fuel. -/
theorem bracketed_of_items
    {item : Scanner Item}
    {close next : Char}
    {fuel : Nat}
    {text following remaining : List Char}
    {found : List Item}
    (shortens : Shortens item)
    (skipped : skipBlanks text = next :: following)
    (notClose : next ≠ close)
    (scanned :
      items item close fuel (next :: following) = some (found, remaining)) :
    bracketed item close text = some (found, remaining) := by
  have noLonger := length_skipBlanks_le text
  rw [skipped] at noLonger
  simp only [bracketed, skipped, notClose, if_false]
  exact items_transfer shortens (fun _ read => read) le_rfl noLonger scanned

theorem bracketed_shortens
    {item : Scanner Item}
    (shortens : Shortens item)
    (close : Char) :
    Shortens (bracketed item close) := by
  intro text found remaining scanned
  obtain ⟨next, following, skipped, continues⟩ := bracketed_cases scanned
  have noLonger := length_skipBlanks_le text
  rw [skipped, List.length_cons] at noLonger
  rcases continues with ⟨_, _, same⟩ | ⟨_, read⟩
  · subst same
    omega
  · have shorter := items_shortens shortens close _ read
    rw [List.length_cons] at shorter
    omega

theorem bracketed_transfer
    {item other : Scanner Item}
    {close : Char}
    {text remaining : List Char}
    {found : List Item}
    (shortens : Shortens item)
    (agrees :
      ∀ {shorter result},
        shorter.length ≤ text.length → item shorter = some result →
          other shorter = some result)
    (scanned : bracketed item close text = some (found, remaining)) :
    bracketed other close text = some (found, remaining) := by
  obtain ⟨next, following, skipped, continues⟩ := bracketed_cases scanned
  have noLonger := length_skipBlanks_le text
  rw [skipped] at noLonger
  rcases continues with ⟨isClose, isFound, same⟩ | ⟨notClose, read⟩
  · subst isClose
    subst isFound
    subst same
    simp [bracketed, skipped]
  · simp only [bracketed, skipped, notClose, if_false]
    exact items_transfer shortens agrees noLonger noLonger read

/-- What a member that was found consists of. -/
theorem member_cases
    {value : Scanner Json}
    {text remaining : List Char}
    {found : String × Json}
    (scanned : member value text = some (found, remaining)) :
    ∃ rest name afterName following content,
      text = '"' :: rest ∧
        scanString rest = some (name, afterName) ∧
          skipBlanks afterName = ':' :: following ∧
            value (skipBlanks following) = some (content, remaining) ∧
              found = (String.ofList name, content) := by
  unfold member at scanned
  split at scanned
  · rename_i rest
    split at scanned
    · cases scanned
    · rename_i name afterName readName
      split at scanned
      · rename_i following skipped
        obtain ⟨content, read, isFound⟩ := exists_of_map_eq_some _ scanned
        exact
          ⟨rest, name, afterName, following, content, rfl, readName, skipped,
            read, isFound⟩
      · cases scanned
  · cases scanned

/-- The value of a member stands in a shorter text. -/
theorem length_memberValue_lt
    {rest name afterName following : List Char}
    (readName : scanString rest = some (name, afterName))
    (skipped : skipBlanks afterName = ':' :: following) :
    (skipBlanks following).length < ('"' :: rest).length := by
  have shorterName := scanString_shortens readName
  have noLonger := length_skipBlanks_le afterName
  have noLongerValue := length_skipBlanks_le following
  rw [skipped, List.length_cons] at noLonger
  rw [List.length_cons]
  omega

theorem member_shortens
    {value : Scanner Json}
    (shortens : Shortens value) :
    Shortens (member value) := by
  intro text found remaining scanned
  obtain ⟨rest, name, afterName, following, content, shape, readName,
    skipped, read, _⟩ := member_cases scanned
  subst shape
  exact (shortens read).trans (length_memberValue_lt readName skipped)

theorem member_transfer
    {value other : Scanner Json}
    {text remaining : List Char}
    {found : String × Json}
    (agrees :
      ∀ {shorter result},
        shorter.length ≤ text.length → value shorter = some result →
          other shorter = some result)
    (scanned : member value text = some (found, remaining)) :
    member other text = some (found, remaining) := by
  obtain ⟨rest, name, afterName, following, content, shape, readName,
    skipped, read, isFound⟩ := member_cases scanned
  subst shape
  subst isFound
  have readOther :=
    agrees (length_memberValue_lt readName skipped).le read
  simp only [member, readName, skipped, readOther, Option.map_some]

/-- The three words leave no more than they are given. -/
theorem length_scanWord_le
    {word : String}
    {meaning json : Json}
    {text rest : List Char}
    (scanned : scanWord word meaning text = some (json, rest)) :
    rest.length ≤ text.length := by
  unfold scanWord at scanned
  split at scanned
  · simp only [Option.some.injEq, Prod.mk.injEq] at scanned
    rw [← scanned.2, List.length_drop]
    exact Nat.sub_le _ _
  · cases scanned

theorem scalar_shortens :
    Shortens scalar := by
  intro text json remaining scanned
  unfold scalar at scanned
  split at scanned
  · cases scanned
  · rename_i letter rest
    rw [List.length_cons]
    split_ifs at scanned
    · obtain ⟨content, read, _⟩ :=
        exists_of_map_eq_some
          (fun content => Json.string (String.ofList content)) scanned
      have shorter := scanString_shortens read
      omega
    · exact Nat.lt_succ_of_le (length_scanWord_le scanned)
    · exact Nat.lt_succ_of_le (length_scanWord_le scanned)
    · exact Nat.lt_succ_of_le (length_scanWord_le scanned)
    · obtain ⟨numeral, read, _⟩ := exists_of_map_eq_some _ scanned
      exact scanNumber_shortens read

theorem value_shortens
    (fuel : Nat) :
    Shortens (value fuel) := by
  induction fuel with
  | zero =>
      intro text json remaining scanned
      cases scanned
  | succ fuel inductionHypothesis =>
      intro text json remaining scanned
      rcases text with _ | ⟨letter, rest⟩
      · cases scanned
      · rw [value] at scanned
        split_ifs at scanned
        · obtain ⟨members, read, _⟩ := exists_of_map_eq_some _ scanned
          have shorter :=
            bracketed_shortens (member_shortens inductionHypothesis) _ read
          rw [List.length_cons]
          omega
        · obtain ⟨elements, read, _⟩ := exists_of_map_eq_some _ scanned
          have shorter := bracketed_shortens inductionHypothesis _ read
          rw [List.length_cons]
          omega
        · exact scalar_shortens scanned

/-- The length of a text is fuel enough for every answer about it. -/
theorem value_transfer
    {fuel otherFuel : Nat}
    {text : List Char}
    {result : Json × List Char}
    (enough : text.length ≤ otherFuel)
    (scanned : value fuel text = some result) :
    value otherFuel text = some result := by
  induction fuel generalizing otherFuel text result with
  | zero =>
      cases scanned
  | succ fuel inductionHypothesis =>
      rcases text with _ | ⟨letter, rest⟩
      · cases scanned
      · rw [List.length_cons] at enough
        rcases otherFuel with _ | otherFuel
        · omega
        · have agrees :
              ∀ {shorter result},
                shorter.length ≤ rest.length →
                  value fuel shorter = some result →
                    value otherFuel shorter = some result := by
            intro shorter result small read
            exact inductionHypothesis (by omega) read
          rw [value] at scanned ⊢
          split_ifs at scanned ⊢
          · obtain ⟨⟨members, remaining⟩, read, shape⟩ :=
              Option.map_eq_some_iff.mp scanned
            rw [bracketed_transfer (member_shortens (value_shortens fuel))
              (fun small =>
                member_transfer fun smaller =>
                  agrees (smaller.trans small)) read]
            exact congrArg some shape
          · obtain ⟨⟨elements, remaining⟩, read, shape⟩ :=
              Option.map_eq_some_iff.mp scanned
            rw [bracketed_transfer (value_shortens fuel) agrees read]
            exact congrArg some shape
          · exact scanned

end Fuel

end JsonText
