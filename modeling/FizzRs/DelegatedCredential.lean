import Mathlib.Algebra.Group.Int.Defs
import Mathlib.Algebra.Group.Nat.Defs
import FizzRs.HexCodec

namespace FizzRs

/-!
# Delegated credentials and what clients know of them

The shared records of the bridge, the credential as Fizz holds it, the lowercase
hexadecimal that both sides compare, and the conversion from clock readings to
Unix timestamps.

A `system_clock` reading is its count of nanoseconds since the epoch.
-/

/-- Public verification information for clients. -/
structure VerificationInfo where
  serviceName : String
  validTime : UInt32
  expectedVerifyScheme : UInt16
  publicKeyDer : String
  expiresAt : UInt64
  deriving Repr, DecidableEq

/-- `fizz::extensions::DelegatedCredential`, with coalesced buffers. -/
structure FizzDelegatedCredential where
  validTime : UInt32
  expectedVerifyScheme : UInt16
  publicKey : List UInt8
  credentialScheme : UInt16
  signature : List UInt8
  deriving Repr, DecidableEq

/-- `snprintf` with `%02x` into a buffer with room for two characters. -/
def snprintf02x (byte : UInt8) : List Char :=
  (HexCodec.numeral 2 byte.toNat).take 2

/-- Lowercase hex encoding of raw bytes, appended byte by byte. -/
def bytesToHexLower (data : List UInt8) : String :=
  data.foldl (fun out byte => out ++ String.ofList (snprintf02x byte)) ""

@[simp] theorem snprintf02x_eq
    (byte : UInt8) :
    snprintf02x byte = HexCodec.byteNumeral byte := by
  apply List.take_of_length_le
  exact Nat.le_of_eq (HexCodec.length_byteNumeral byte)

/-- Appending printed bytes to some text appends their encoding. -/
theorem foldl_append_byteNumeral
    (data : List UInt8)
    (out : String) :
    data.foldl
        (fun out byte => out ++ String.ofList (HexCodec.byteNumeral byte))
        out =
      out ++ String.ofList (HexCodec.encode data) := by
  induction data generalizing out with
  | nil =>
      simp [HexCodec.encode]
  | cons byte rest inductionHypothesis =>
      rw [List.foldl_cons, inductionHypothesis]
      simp [HexCodec.encode, String.append_assoc]

/-- The printing loop computes the encoding. -/
theorem bytesToHexLower_eq
    (data : List UInt8) :
    bytesToHexLower data = String.ofList (HexCodec.encode data) := by
  simp only [bytesToHexLower, snprintf02x_eq, foldl_append_byteNumeral,
    String.empty_append]

/-- Different byte strings print differently. -/
theorem bytesToHexLower_injective :
    Function.Injective bytesToHexLower := by
  intro first second same
  rw [bytesToHexLower_eq, bytesToHexLower_eq] at same
  exact HexCodec.encode_injective (String.ofList_injective same)

/-- The nanoseconds of one second. -/
def nanosPerSecond : Int :=
  1000000000

/-- `duration_cast<seconds>`, which rounds towards the epoch. -/
def wholeSeconds (nanos : Int) : Int :=
  nanos.tdiv nanosPerSecond

/-- From the epoch on, whole seconds are rounded down. -/
theorem wholeSeconds_of_nonneg
    {nanos : Int}
    (notBeforeEpoch : 0 ≤ nanos) :
    wholeSeconds nanos = nanos / 1000000000 :=
  Int.tdiv_eq_ediv_of_nonneg notBeforeEpoch

/-- Rounding towards the epoch is symmetric. -/
theorem wholeSeconds_neg
    (nanos : Int) :
    wholeSeconds (-nanos) = -wholeSeconds nanos :=
  Int.neg_tdiv nanos nanosPerSecond

/-- Whole seconds of a multiple of a second. -/
theorem wholeSeconds_mul
    (seconds : Int) :
    wholeSeconds (seconds * nanosPerSecond) = seconds := by
  apply Int.mul_tdiv_cancel
  decide

/-- Readings within some whole seconds of the epoch have as many at most. -/
theorem wholeSeconds_bounds
    {nanos bound : Int}
    (lower : -(bound * 1000000000) ≤ nanos)
    (upper : nanos ≤ bound * 1000000000) :
    -bound ≤ wholeSeconds nanos ∧ wholeSeconds nanos ≤ bound := by
  by_cases notBeforeEpoch : 0 ≤ nanos
  · rw [wholeSeconds_of_nonneg notBeforeEpoch]
    omega
  · have mirrored : wholeSeconds nanos = -wholeSeconds (-nanos) := by
      rw [wholeSeconds_neg, Int.neg_neg]
    rw [mirrored, wholeSeconds_of_nonneg (by omega)]
    omega

/-- A clock reading as the unsigned Unix timestamp the bridge carries. -/
def unixTimestamp (nanos : Int) : UInt64 :=
  UInt64.ofInt (wholeSeconds nanos)

/-- The timestamp of a representable reading is its number of whole seconds. -/
theorem toNat_unixTimestamp
    {nanos : Int}
    (notBeforeEpoch : 0 ≤ wholeSeconds nanos)
    (representable : wholeSeconds nanos < 2 ^ 64) :
    ((unixTimestamp nanos).toNat : Int) = wholeSeconds nanos := by
  have reduced :
      wholeSeconds nanos % 2 ^ 64 = wholeSeconds nanos :=
    Int.emod_eq_of_lt notBeforeEpoch representable
  rw [unixTimestamp, UInt64.ofInt, reduced, UInt64.toNat_ofNat']
  omega

/-- Seconds within the signed range have different timestamps. -/
theorem ofInt_eq_ofInt_iff
    {first second : Int}
    (firstInRange : -2 ^ 62 ≤ first ∧ first < 2 ^ 62)
    (secondInRange : -2 ^ 62 ≤ second ∧ second < 2 ^ 62) :
    UInt64.ofInt first = UInt64.ofInt second ↔ first = second := by
  constructor
  · intro same
    have sameNat := congrArg UInt64.toNat same
    simp only [UInt64.ofInt, UInt64.toNat_ofNat'] at sameNat
    omega
  · intro same
    rw [same]

end FizzRs
