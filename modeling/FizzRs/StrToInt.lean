import Mathlib.Algebra.Group.Int.Defs
import FizzRs.HexCodec

namespace StrToInt

/-!
# `strtol` and `std::stoi` in base sixteen

The parser skips white space, takes an optional sign and an optional `0x` that a
digit follows, and then as many digits as there are.  It fails only if there is
none; what comes after the digits is ignored, a NUL byte like any other.

Two-byte slices show how lenient that is: a slice is read as soon as it starts
with a digit, or with a blank or a sign and then a digit.
-/

/-- White space of the C locale. -/
def isSpace (byte : UInt8) : Bool :=
  byte.toNat = 32 ∨ (9 ≤ byte.toNat ∧ byte.toNat ≤ 13)

/-- A plus or minus sign. -/
def isSign (byte : UInt8) : Bool :=
  byte.toNat = 43 ∨ byte.toNat = 45

/-- The value of a digit. -/
def digit? (byte : UInt8) : Option Nat :=
  HexCodec.codeValue byte.toNat

/-- Take an optional sign; the flag tells whether it was a minus. -/
def takeSign : List UInt8 → Bool × List UInt8
  | [] => (false, [])
  | byte :: rest =>
      if isSign byte then (byte.toNat = 45, rest) else (false, byte :: rest)

/-- Drop a `0x` that a digit follows. -/
def dropBase : List UInt8 → List UInt8
  | zero :: letter :: digit :: rest =>
      if zero.toNat = 48 ∧ (letter.toNat = 120 ∨ letter.toNat = 88) ∧
          (digit? digit).isSome then
        digit :: rest
      else
        zero :: letter :: digit :: rest
  | text => text

/-- The digits that a text starts with. -/
def leadingDigits : List UInt8 → List Nat
  | [] => []
  | byte :: rest =>
      match digit? byte with
      | some value => value :: leadingDigits rest
      | none => []

/-- `strtol` in base sixteen, `none` when nothing was converted. -/
def strtol (text : List UInt8) : Option Int :=
  let (negative, body) := takeSign (text.dropWhile isSpace)
  match leadingDigits (dropBase body) with
  | [] => none
  | digits =>
      let magnitude : Nat :=
        digits.foldl (fun value digit => 16 * value + digit) 0
      some (if negative then -(magnitude : Int) else magnitude)

/-- `std::stoi` in base sixteen: nothing converted and out of range both throw. -/
def stoi (text : List UInt8) : Except String Int :=
  match strtol text with
  | none => .error "stoi"
  | some value =>
      if -2 ^ 31 ≤ value ∧ value < 2 ^ 31 then
        .ok value
      else
        .error "stoi"

/-- Digits are neither blanks nor signs. -/
theorem of_digit?_eq_some
    {byte : UInt8}
    {value : Nat}
    (isDigit : digit? byte = some value) :
    value < 16 ∧ isSpace byte = false ∧ isSign byte = false := by
  obtain ⟨bound, codes⟩ := HexCodec.of_codeValue_eq_some isDigit
  refine ⟨bound, ?_, ?_⟩
  · simp only [isSpace, decide_eq_false_iff_not]
    omega
  · simp only [isSign, decide_eq_false_iff_not]
    omega

/-- A blank is no sign. -/
theorem isSign_of_isSpace
    {byte : UInt8}
    (blank : isSpace byte = true) :
    isSign byte = false := by
  simp only [isSpace, decide_eq_true_eq] at blank
  simp only [isSign, decide_eq_false_iff_not]
  omega

/-- A single byte is read if it is a digit. -/
theorem strtol_single
    (byte : UInt8) :
    strtol [byte] = (digit? byte).map fun value : Nat => (value : Int) := by
  cases isDigit : digit? byte with
  | some value =>
      obtain ⟨_, notSpace, notSign⟩ := of_digit?_eq_some isDigit
      simp [strtol, takeSign, dropBase, leadingDigits, notSpace, notSign,
        isDigit]
  | none =>
      by_cases blank : isSpace byte = true
      · simp [strtol, takeSign, dropBase, leadingDigits, blank]
      · by_cases sign : isSign byte = true
        · simp [strtol, takeSign, dropBase, leadingDigits, blank, sign]
        · simp [strtol, takeSign, dropBase, leadingDigits, blank, sign,
            isDigit]

/-- After a first digit the second one counts if there is one. -/
theorem strtol_pair_of_digit
    {first : UInt8}
    {high : Nat}
    (isHigh : digit? first = some high)
    (second : UInt8) :
    strtol [first, second] =
      some
        (((digit? second).elim high fun low => 16 * high + low : Nat) :
          Int) := by
  obtain ⟨_, notSpace, notSign⟩ := of_digit?_eq_some isHigh
  cases isLow : digit? second with
  | some low =>
      simp [strtol, takeSign, dropBase, leadingDigits, notSpace, notSign,
        isHigh, isLow]
  | none =>
      simp [strtol, takeSign, dropBase, leadingDigits, notSpace, notSign,
        isHigh, isLow]

/-- A blank in front is skipped. -/
theorem strtol_pair_of_space
    {first : UInt8}
    (blank : isSpace first = true)
    (second : UInt8) :
    strtol [first, second] = strtol [second] := by
  simp [strtol, blank]

/-- A sign in front applies to the digit after it. -/
theorem strtol_pair_of_sign
    {first : UInt8}
    (sign : isSign first = true)
    (second : UInt8) :
    strtol [first, second] =
      (digit? second).map fun value : Nat =>
        if first.toNat = 45 then -(value : Int) else value := by
  have notSpace : isSpace first = false := by
    by_contra blank
    have noSign := isSign_of_isSpace (by simpa using blank)
    simp_all
  cases isDigit : digit? second with
  | some value =>
      simp [strtol, takeSign, dropBase, leadingDigits, notSpace, sign,
        isDigit]
  | none =>
      simp [strtol, takeSign, dropBase, leadingDigits, notSpace, sign,
        isDigit]

/-- Anything else in front is no number. -/
theorem strtol_pair_of_other
    {first : UInt8}
    (noDigit : digit? first = none)
    (noSpace : isSpace first = false)
    (noSign : isSign first = false)
    (second : UInt8) :
    strtol [first, second] = none := by
  simp [strtol, takeSign, dropBase, leadingDigits, noSpace, noSign, noDigit]

/-- Small numbers are in range. -/
theorem stoi_of_strtol
    {text : List UInt8}
    {value : Int}
    (parsed : strtol text = some value)
    (small : -256 < value ∧ value < 256) :
    stoi text = .ok value := by
  have inRange : -2 ^ 31 ≤ value ∧ value < 2 ^ 31 := by
    omega
  simp only [stoi, parsed, inRange, and_self, if_true]

/-- Two digits are read as their number. -/
theorem stoi_two_digits
    {first second : UInt8}
    {high low : Nat}
    (isHigh : digit? first = some high)
    (isLow : digit? second = some low) :
    stoi [first, second] = .ok ((16 * high + low : Nat) : Int) := by
  have highBound := (of_digit?_eq_some isHigh).1
  have lowBound := (of_digit?_eq_some isLow).1
  apply stoi_of_strtol
  · rw [strtol_pair_of_digit isHigh, isLow]
    rfl
  · omega

/-- The slices of one or two bytes that are read. -/
def Readable : List UInt8 → Prop
  | [] => False
  | [first] => (digit? first).isSome = true
  | first :: second :: _ =>
      (digit? first).isSome = true ∨
        ((isSpace first = true ∨ isSign first = true) ∧
          (digit? second).isSome = true)

instance : (slice : List UInt8) → Decidable (Readable slice)
  | [] => inferInstanceAs (Decidable False)
  | [_] => inferInstanceAs (Decidable (_ = _))
  | _ :: _ :: _ => inferInstanceAs (Decidable (_ ∨ _))

/-- Where the number in a text is known to be small, reading it cannot fail. -/
theorem stoi_isOk_iff
    {text : List UInt8}
    (small : ∀ value, strtol text = some value → -256 < value ∧ value < 256) :
    (∃ value, stoi text = .ok value) ↔ (strtol text).isSome = true := by
  cases parsed : strtol text with
  | none =>
      simp [stoi, parsed]
  | some value =>
      have reads := stoi_of_strtol parsed (small value parsed)
      simp [reads]

/-- The number of a digit, with whatever sign, is small. -/
theorem small_of_digit
    {byte : UInt8}
    {number : Nat → Int}
    (bounded : ∀ value < 16, -256 < number value ∧ number value < 256)
    {value : Int}
    (parsed : (digit? byte).map number = some value) :
    -256 < value ∧ value < 256 := by
  obtain ⟨digit, isDigit, shape⟩ := Option.map_eq_some_iff.mp parsed
  subst value
  exact bounded digit (of_digit?_eq_some isDigit).1

/-- A byte is read exactly if it is a digit. -/
theorem stoi_single_isOk_iff
    (byte : UInt8) :
    (∃ value, stoi [byte] = .ok value) ↔ Readable [byte] := by
  have parsed := strtol_single byte
  rw [stoi_isOk_iff, parsed, Option.isSome_map]
  · rfl
  · rw [parsed]
    intro value
    apply small_of_digit
    omega

/-- Two bytes are read exactly if they are readable. -/
theorem stoi_pair_isOk_iff
    (first second : UInt8) :
    (∃ value, stoi [first, second] = .ok value) ↔
      Readable [first, second] := by
  cases isHigh : digit? first with
  | some high =>
      have highBound := (of_digit?_eq_some isHigh).1
      have parsed := strtol_pair_of_digit isHigh second
      rw [stoi_isOk_iff]
      · simp [parsed, Readable, isHigh]
      · intro value isValue
        rw [parsed] at isValue
        cases isLow : digit? second with
        | some low =>
            have lowBound := (of_digit?_eq_some isLow).1
            rw [isLow] at isValue
            simp only [Option.elim_some, Option.some.injEq] at isValue
            omega
        | none =>
            rw [isLow] at isValue
            simp only [Option.elim_none, Option.some.injEq] at isValue
            omega
  | none =>
      by_cases blank : isSpace first = true
      · have parsed :=
          (strtol_pair_of_space blank second).trans (strtol_single second)
        rw [stoi_isOk_iff, parsed, Option.isSome_map]
        · simp [Readable, isHigh, blank]
        · rw [parsed]
          intro value
          apply small_of_digit
          omega
      · by_cases sign : isSign first = true
        · have parsed := strtol_pair_of_sign sign second
          rw [stoi_isOk_iff, parsed, Option.isSome_map]
          · simp [Readable, isHigh, sign]
          · rw [parsed]
            intro value
            apply small_of_digit
            intro digit bound
            split <;> omega
        · have parsed :=
            strtol_pair_of_other isHigh (by simpa using blank)
              (by simpa using sign) second
          simp [stoi, parsed, Readable, isHigh, blank, sign]

end StrToInt
