import Mathlib.Data.List.Induction
import Mathlib.Logic.Function.Basic

namespace HexCodec

/-!
# Fixed-width hexadecimal

A code that spells each symbol with a word of one fixed positive width is
injective on whole messages as soon as it is injective on symbols.  Printed
hexadecimal bytes are such a code: two lowercase digits for each byte, however
the printing function pads them.
-/

section BlockCodes

variable {Symbol Letter : Type}

/-- Block codes of one positive width are injective on messages. -/
theorem flatMap_injective
    {spell : Symbol → List Letter}
    {width : Nat}
    (positive : 0 < width)
    (uniform : ∀ symbol, (spell symbol).length = width)
    (distinct : Function.Injective spell) :
    Function.Injective fun message : List Symbol =>
      message.flatMap spell := by
  intro first
  induction first with
  | nil =>
      intro second same
      rcases second with _ | ⟨symbol, rest⟩
      · rfl
      · have sameLength := congrArg List.length same
        simp only [List.flatMap_nil, List.length_nil, List.flatMap_cons,
          List.length_append, uniform] at sameLength
        omega
  | cons symbol rest inductionHypothesis =>
      intro second same
      rcases second with _ | ⟨other, otherRest⟩
      · have sameLength := congrArg List.length same
        simp only [List.flatMap_nil, List.length_nil, List.flatMap_cons,
          List.length_append, uniform] at sameLength
        omega
      · simp only [List.flatMap_cons] at same
        obtain ⟨sameWord, sameTail⟩ :=
          List.append_inj same (by rw [uniform, uniform])
        rw [distinct sameWord, inductionHypothesis sameTail]

end BlockCodes

/-- The hexadecimal numeral of a value, padded with zeros to a least width. -/
def numeral (width value : Nat) : List Char :=
  (Nat.toDigits 16 value).leftpad width '0'

/-- A byte is printed as its two hexadecimal digits. -/
theorem numeral_two
    {value : Nat}
    (isByte : value < 256) :
    numeral 2 value =
      [Nat.digitChar (value / 16), Nat.digitChar (value % 16)] := by
  by_cases small : value < 16
  · have quotient : value / 16 = 0 := Nat.div_eq_of_lt small
    have remainder : value % 16 = value := Nat.mod_eq_of_lt small
    rw [numeral, Nat.toDigits_of_lt_base small, quotient, remainder]
    rfl
  · have quotient : value / 16 < 16 := by
      omega
    rw [numeral, Nat.toDigits_of_base_le (by omega) (by omega),
      Nat.toDigits_of_lt_base quotient]
    rfl

/-- Different digits are different characters. -/
theorem digitChar_injective
    {first second : Nat}
    (firstDigit : first < 16)
    (secondDigit : second < 16)
    (same : Nat.digitChar first = Nat.digitChar second) :
    first = second := by
  have distinct :
      ∀ left : Fin 16, ∀ right : Fin 16,
        Nat.digitChar left = Nat.digitChar right → left = right := by
    decide
  simpa using distinct ⟨first, firstDigit⟩ ⟨second, secondDigit⟩ same

/-- The two digits of a byte. -/
def byteNumeral (byte : UInt8) : List Char :=
  numeral 2 byte.toNat

theorem length_byteNumeral
    (byte : UInt8) :
    (byteNumeral byte).length = 2 := by
  rw [byteNumeral, numeral_two byte.toNat_lt]
  rfl

theorem byteNumeral_injective :
    Function.Injective byteNumeral := by
  intro first second same
  have firstByte := first.toNat_lt
  have secondByte := second.toNat_lt
  rw [byteNumeral, byteNumeral, numeral_two firstByte,
    numeral_two secondByte, List.cons.injEq, List.cons.injEq] at same
  have sameHigh :=
    digitChar_injective (by omega) (by omega) same.1
  have sameLow :=
    digitChar_injective (by omega) (by omega) same.2.1
  apply UInt8.toNat_inj.mp
  omega

/-- Lowercase hexadecimal, two digits for each byte. -/
def encode (bytes : List UInt8) : List Char :=
  bytes.flatMap byteNumeral

/-- Different byte strings have different encodings. -/
theorem encode_injective :
    Function.Injective encode :=
  flatMap_injective Nat.two_pos length_byteNumeral byteNumeral_injective

/-- The value of the hexadecimal digit with this character code, in either case. -/
def codeValue (code : Nat) : Option Nat :=
  if 48 ≤ code ∧ code ≤ 57 then
    some (code - 48)
  else if 97 ≤ code ∧ code ≤ 102 then
    some (code - 87)
  else if 65 ≤ code ∧ code ≤ 70 then
    some (code - 55)
  else
    none

/-- The value of a hexadecimal digit. -/
def digitValue (letter : Char) : Option Nat :=
  codeValue letter.toNat

/-- The codes of the digits, and the bound on their values. -/
theorem of_codeValue_eq_some
    {code value : Nat}
    (isDigit : codeValue code = some value) :
    value < 16 ∧
      (48 ≤ code ∧ code ≤ 57 ∨ 97 ≤ code ∧ code ≤ 102 ∨
        65 ≤ code ∧ code ≤ 70) := by
  unfold codeValue at isDigit
  split at isDigit
  · cases isDigit
    omega
  · split at isDigit
    · cases isDigit
      omega
    · split at isDigit
      · cases isDigit
        omega
      · cases isDigit

/-- The lowercase form of a digit is the printed one. -/
theorem toLower_of_digitValue
    {letter : Char}
    {value : Nat}
    (isDigit : digitValue letter = some value) :
    letter.toLower = Nat.digitChar value := by
  have asciiDigits :
      ∀ code : Fin 128, ∀ value ∈ codeValue code,
        (Char.ofNat code).toLower = Nat.digitChar value := by
    decide
  obtain ⟨_, codes⟩ := of_codeValue_eq_some isDigit
  have fromCode := asciiDigits ⟨letter.toNat, by omega⟩ value isDigit
  simpa only [Char.ofNat_toNat] using fromCode

/-- A printed digit has its value. -/
theorem digitValue_digitChar
    {value : Nat}
    (isDigit : value < 16) :
    digitValue (Nat.digitChar value) = some value := by
  have printed :
      ∀ digit : Fin 16,
        digitValue (Nat.digitChar digit) = some digit.val := by
    decide
  exact printed ⟨value, isDigit⟩

/-- Strict decoding: pairs of digits and nothing else. -/
def decode : List Char → Option (List UInt8)
  | [] => some []
  | [_] => none
  | high :: low :: rest =>
      match digitValue high, digitValue low, decode rest with
      | some highValue, some lowValue, some bytes =>
          some (UInt8.ofNat (16 * highValue + lowValue) :: bytes)
      | _, _, _ => none

/-- What a successful decoding of a pair and the rest consists of. -/
theorem decode_cons_cons_eq_some_iff
    {high low : Char}
    {rest : List Char}
    {bytes : List UInt8} :
    decode (high :: low :: rest) = some bytes ↔
      ∃ highValue lowValue others,
        digitValue high = some highValue ∧
          digitValue low = some lowValue ∧
          decode rest = some others ∧
          bytes = UInt8.ofNat (16 * highValue + lowValue) :: others := by
  rw [decode]
  constructor
  · intro decodes
    split at decodes
    · next highValue lowValue others isHigh isLow isRest =>
        cases decodes
        exact ⟨highValue, lowValue, others, isHigh, isLow, isRest, rfl⟩
    · cases decodes
  · rintro ⟨highValue, lowValue, others, isHigh, isLow, isRest, shape⟩
    rw [isHigh, isLow, isRest, shape]

/-- The digits of the first byte come first. -/
theorem encode_cons
    (byte : UInt8)
    (rest : List UInt8) :
    encode (byte :: rest) =
      Nat.digitChar (byte.toNat / 16) ::
        Nat.digitChar (byte.toNat % 16) :: encode rest := by
  rw [encode, List.flatMap_cons, byteNumeral, numeral_two byte.toNat_lt]
  rfl

/-- Printed bytes decode to themselves. -/
theorem decode_encode
    (bytes : List UInt8) :
    decode (encode bytes) = some bytes := by
  induction bytes with
  | nil =>
      rfl
  | cons byte rest inductionHypothesis =>
      have isByte := byte.toNat_lt
      rw [encode_cons, decode_cons_cons_eq_some_iff]
      refine
        ⟨byte.toNat / 16, byte.toNat % 16, rest,
          digitValue_digitChar (by omega), digitValue_digitChar (by omega),
          inductionHypothesis, ?_⟩
      rw [Nat.div_add_mod, UInt8.ofNat_toNat]

/-- Apart from letter case, a text that decodes is the printed form. -/
theorem map_toLower_of_decode
    {text : List Char}
    {bytes : List UInt8}
    (decodes : decode text = some bytes) :
    text.map Char.toLower = encode bytes := by
  induction text using List.twoStepInduction generalizing bytes with
  | nil =>
      cases decodes
      rfl
  | singleton letter =>
      cases decodes
  | cons_cons high low rest inductionHypothesis _ =>
      obtain ⟨highValue, lowValue, others, isHigh, isLow, isRest, shape⟩ :=
        decode_cons_cons_eq_some_iff.mp decodes
      subst bytes
      have highBound := (of_codeValue_eq_some isHigh).1
      have lowBound := (of_codeValue_eq_some isLow).1
      have sameValue :
          (UInt8.ofNat (16 * highValue + lowValue)).toNat =
            16 * highValue + lowValue := by
        rw [UInt8.toNat_ofNat']
        omega
      have highPart : (16 * highValue + lowValue) / 16 = highValue := by
        omega
      have lowPart : (16 * highValue + lowValue) % 16 = lowValue := by
        omega
      rw [List.map_cons, List.map_cons, inductionHypothesis isRest,
        toLower_of_digitValue isHigh, toLower_of_digitValue isLow,
        encode_cons, sameValue, highPart, lowPart]

/-- The texts that decode are those of even length made of digits. -/
theorem decode_isSome_iff
    (text : List Char) :
    (decode text).isSome = true ↔
      text.length % 2 = 0 ∧
        ∀ letter ∈ text, (digitValue letter).isSome = true := by
  induction text using List.twoStepInduction with
  | nil =>
      simp [decode]
  | singleton letter =>
      simp [decode]
  | cons_cons high low rest inductionHypothesis _ =>
      have parts :
          (decode (high :: low :: rest)).isSome = true ↔
            (digitValue high).isSome = true ∧
              (digitValue low).isSome = true ∧
              (decode rest).isSome = true := by
        rw [decode]
        cases digitValue high <;> cases digitValue low <;>
          cases decode rest <;> simp
      rw [parts, inductionHypothesis]
      simp only [List.length_cons, List.forall_mem_cons]
      constructor
      · rintro ⟨isHigh, isLow, even, digits⟩
        exact ⟨by omega, isHigh, isLow, digits⟩
      · rintro ⟨even, isHigh, isLow, digits⟩
        exact ⟨isHigh, isLow, by omega, digits⟩

end HexCodec
