import FizzRs.ClientHandshake
import FizzRs.CredentialVerification

namespace FizzRs

open WireFormat

/-!
# Agreement of the hex codecs

Public keys are printed by `snprintf` when a connection compares them, by a
table of nibbles when the benchmark does, and through a stream when a credential
is issued.  They are read back by `hex_to_bytes` in Rust and by the `substr` and
`stoi` loop in C++.  On printed bytes all of these agree, so the check of the
benchmark accepts the same credentials as the check of a connection.
-/

/-- The digits that `bytes_to_hex` of the benchmark looks up. -/
def lut : List Char :=
  "0123456789abcdef".toList

/-- `lut[index]`; behind the digits is the terminator of the literal. -/
def lutAt (index : Nat) : Char :=
  lut.getD index '\x00'

/-- The loop of `bytes_to_hex`: two assignments for the byte at `index`. -/
def fillHex : List UInt8 → Nat → List Char → List Char
  | [], _, out => out
  | byte :: rest, index, out =>
      fillHex rest (index + 1)
        ((out.set (2 * index) (lutAt ((byte.toNat >>> 4) &&& 0xF))).set
          (2 * index + 1) (lutAt (byte.toNat &&& 0xF)))

/-- `bytes_to_hex` inside `verify_peer_dc`, into a string of the final size. -/
def bytesToHex (data : List UInt8) : String :=
  String.ofList
    (fillHex data 0 (List.replicate (data.length * 2) '\x00'))

/--
`verify_peer_dc`: the empty string on success, otherwise a short error message,
unless a call of it throws.
-/
def verifyPeerDc
    (faults : CheckFaults)
    (context : FizzClientContext)
    (credential : FizzDelegatedCredential)
    (expiresTime : Int) :
    Except String String :=
  match faults.encodeKey with
  | some what => .error what
  | none =>
      if bytesToHex credential.publicKey ≠ context.publicKeyDer then
        .ok "DC public key does not match VerificationInfo"
      else if credential.validTime ≠ context.validTime then
        .ok "DC valid_time does not match VerificationInfo"
      else if credential.expectedVerifyScheme ≠
          context.expectedVerifyScheme then
        .ok "DC verify scheme does not match VerificationInfo"
      else
        match faults.readExpiry with
        | some what => .error what
        | none =>
            if unixTimestamp expiresTime ≠ context.expiresAt then
              .ok "DC expiry does not match VerificationInfo"
            else
              .ok ""

/-- `str::is_char_boundary`: continuation bytes are not boundaries. -/
def isCharBoundary
    (text : List UInt8)
    (index : Nat) :
    Bool :=
  if index = 0 then
    true
  else
    match text[index]? with
    | some byte => byte.toNat < 128 || 192 ≤ byte.toNat
    | none => index = text.length

/-- `str::get` of a range. -/
def strGet
    (text : List UInt8)
    (start stop : Nat) :
    Option (List UInt8) :=
  if start ≤ stop ∧ isCharBoundary text start ∧
      isCharBoundary text stop then
    some ((text.drop start).take (stop - start))
  else
    none

/-- The digits of `from_str_radix`, with a checked multiplication and addition. -/
def radixDigits : List UInt8 → Nat → Option Nat
  | [], value => some value
  | byte :: rest, value =>
      match StrToInt.digit? byte with
      | none => none
      | some digit =>
          if 16 * value + digit < 256 then
            radixDigits rest (16 * value + digit)
          else
            none

/-- `u8::from_str_radix` in base sixteen: a plus sign may come first. -/
def fromStrRadix : List UInt8 → Option UInt8
  | [] => none
  | first :: rest =>
      if first.toNat = 43 then
        if rest = [] then
          none
        else
          (radixDigits rest 0).map UInt8.ofNat
      else
        (radixDigits (first :: rest) 0).map UInt8.ofNat

/-- `hex_to_bytes`: pieces that do not parse are skipped. -/
def hexToBytes (hex : String) : List UInt8 :=
  (List.range' 0 (((utf8 hex).length + 1) / 2) 2).filterMap fun index =>
    (strGet (utf8 hex) index (index + 2)).bind fromStrRadix

/-- The table holds the printed digits. -/
theorem lutAt_eq_digitChar
    {nibble : Nat}
    (isNibble : nibble < 16) :
    lutAt nibble = Nat.digitChar nibble := by
  have table :
      ∀ digit : Fin 16, lutAt digit = Nat.digitChar digit := by
    decide
  exact table ⟨nibble, isNibble⟩

/-- The high nibble is looked up as the high digit. -/
theorem lutAt_high
    (byte : UInt8) :
    lutAt ((byte.toNat >>> 4) &&& 0xF) =
      Nat.digitChar (byte.toNat / 16) := by
  have isByte := byte.toNat_lt
  have masked :
      (byte.toNat >>> 4) &&& 0xF = byte.toNat / 16 := by
    rw [Nat.shiftRight_eq_div_pow]
    have low := Nat.and_two_pow_sub_one_eq_mod (byte.toNat / 2 ^ 4) 4
    simp only [Nat.reducePow, Nat.reduceSub] at low ⊢
    omega
  rw [masked]
  exact lutAt_eq_digitChar (by omega)

/-- The low nibble is looked up as the low digit. -/
theorem lutAt_low
    (byte : UInt8) :
    lutAt (byte.toNat &&& 0xF) = Nat.digitChar (byte.toNat % 16) := by
  have masked : byte.toNat &&& 0xF = byte.toNat % 16 :=
    Nat.and_two_pow_sub_one_eq_mod byte.toNat 4
  rw [masked]
  exact lutAt_eq_digitChar (by omega)

/-- The two assignments for a byte write its digits behind what is done. -/
theorem set_set_replicate
    {index count : Nat}
    {done : List Char}
    (placed : done.length = 2 * index)
    (blank high low : Char) :
    ((done ++ List.replicate (count + 2) blank).set (2 * index) high).set
        (2 * index + 1) low =
      (done ++ [high, low]) ++ List.replicate count blank := by
  rw [← placed, List.set_append_right _ _ (Nat.le_refl _),
    List.set_append_right _ _ (Nat.le_succ _)]
  simp [List.replicate_succ]

/-- The loop appends the encoding of the bytes it has yet to visit. -/
theorem fillHex_eq
    (data : List UInt8)
    (index : Nat)
    (done : List Char)
    (blank : Char)
    (placed : done.length = 2 * index) :
    fillHex data index
        (done ++ List.replicate (data.length * 2) blank) =
      done ++ HexCodec.encode data := by
  induction data generalizing index done with
  | nil =>
      simp [fillHex, HexCodec.encode]
  | cons byte rest inductionHypothesis =>
      have size : (byte :: rest).length * 2 = rest.length * 2 + 2 := by
        rw [List.length_cons]
        omega
      have nextPlaced :
          (done ++ [Nat.digitChar (byte.toNat / 16),
            Nat.digitChar (byte.toNat % 16)]).length =
              2 * (index + 1) := by
        simp only [List.length_append, List.length_cons, List.length_nil]
        omega
      rw [size, fillHex, lutAt_high, lutAt_low, set_set_replicate placed,
        inductionHypothesis _ _ nextPlaced, HexCodec.encode_cons]
      simp

/-- The table-driven encoder and the printing loop agree. -/
theorem bytesToHex_eq_bytesToHexLower
    (data : List UInt8) :
    bytesToHex data = bytesToHexLower data := by
  have filled := fillHex_eq data 0 [] '\x00' rfl
  rw [List.nil_append, List.nil_append] at filled
  rw [bytesToHex, filled, bytesToHexLower_eq]

/-- The stream-based loop and the printing loop agree. -/
theorem publicKeyToDerHex_eq_ok
    {Key : Type}
    {fizz : FizzLibrary Key}
    {key : Key}
    {der : List UInt8}
    (encodes : fizz.i2dPubkey key = some der) :
    publicKeyToDerHex fizz key = .ok (bytesToHexLower der) := by
  cases prints : publicKeyToDerHex fizz key with
  | error what =>
      simp [publicKeyToDerHex, encodes] at prints
  | ok printed =>
      rw [publicKeyToDerHex_eq encodes prints]

/-- Two characters for each byte. -/
theorem length_bytesToHexLower
    (data : List UInt8) :
    (bytesToHexLower data).length = 2 * data.length := by
  have encoded : (HexCodec.encode data).length = 2 * data.length := by
    induction data with
    | nil =>
        rfl
    | cons byte rest inductionHypothesis =>
        rw [HexCodec.encode_cons, List.length_cons, List.length_cons,
          inductionHypothesis, List.length_cons]
        omega
  rw [bytesToHexLower_eq, String.length_ofList, encoded]

/-- Every character is one of the sixteen lowercase digits. -/
theorem mem_bytesToHexLower
    (data : List UInt8) :
    ∀ letter ∈ (bytesToHexLower data).toList, letter ∈ lut := by
  have digits :
      ∀ digit : Fin 16, Nat.digitChar digit ∈ lut := by
    decide
  rw [bytesToHexLower_eq, String.toList_ofList]
  induction data with
  | nil =>
      intro letter member
      cases member
  | cons byte rest inductionHypothesis =>
      have isByte := byte.toNat_lt
      intro letter member
      rw [HexCodec.encode_cons, List.mem_cons, List.mem_cons] at member
      rcases member with isHigh | isLow | inRest
      · rw [isHigh]
        exact digits ⟨byte.toNat / 16, by omega⟩
      · rw [isLow]
        exact digits ⟨byte.toNat % 16, by omega⟩
      · exact inductionHypothesis letter inRest

/-- The bytes of the printed text: two ASCII digits, then those of the rest. -/
theorem utf8_bytesToHexLower_cons
    (byte : UInt8)
    (rest : List UInt8) :
    ∃ high low,
      utf8 (bytesToHexLower (byte :: rest)) =
          high :: low :: utf8 (bytesToHexLower rest) ∧
        StrToInt.digit? high = some (byte.toNat / 16) ∧
        StrToInt.digit? low = some (byte.toNat % 16) := by
  have isByte := byte.toNat_lt
  obtain ⟨high, highBytes, highDigit⟩ :=
    utf8EncodeChar_of_digit
      (HexCodec.digitValue_digitChar
        (show byte.toNat / 16 < 16 by omega))
  obtain ⟨low, lowBytes, lowDigit⟩ :=
    utf8EncodeChar_of_digit
      (HexCodec.digitValue_digitChar
        (show byte.toNat % 16 < 16 by omega))
  refine ⟨high, low, ?_, highDigit, lowDigit⟩
  simp only [utf8, bytesToHexLower_eq, String.toList_ofList,
    HexCodec.encode_cons, List.flatMap_cons, highBytes, lowBytes,
    List.cons_append, List.nil_append]

/-- A digit is an ASCII byte and no plus sign. -/
theorem ascii_of_digit?
    {byte : UInt8}
    {value : Nat}
    (isDigit : StrToInt.digit? byte = some value) :
    value < 16 ∧ byte.toNat < 128 ∧ byte.toNat ≠ 43 := by
  obtain ⟨bound, codes⟩ := HexCodec.of_codeValue_eq_some isDigit
  omega

/-- Every position of an ASCII text is a boundary. -/
theorem isCharBoundary_of_ascii
    {text : List UInt8}
    (ascii : ∀ byte ∈ text, byte.toNat < 128)
    {index : Nat}
    (within : index ≤ text.length) :
    isCharBoundary text index = true := by
  unfold isCharBoundary
  split
  · rfl
  · split
    · next byte found =>
        have small := ascii byte (List.mem_of_getElem? found)
        simp [small]
    · next missing =>
        have beyond := List.getElem?_eq_none_iff.mp missing
        simp only [decide_eq_true_eq]
        omega

/-- Two digits are read as the byte they spell. -/
theorem fromStrRadix_pair
    {high low : UInt8}
    {byte : UInt8}
    (highDigit : StrToInt.digit? high = some (byte.toNat / 16))
    (lowDigit : StrToInt.digit? low = some (byte.toNat % 16)) :
    fromStrRadix [high, low] = some byte := by
  have isByte := byte.toNat_lt
  have notPlus := (ascii_of_digit? highDigit).2.2
  have highFits : 16 * 0 + byte.toNat / 16 < 256 := by
    omega
  have whole :
      16 * (16 * 0 + byte.toNat / 16) + byte.toNat % 16 = byte.toNat := by
    omega
  simp only [fromStrRadix, notPlus, if_false, radixDigits, highDigit,
    highFits, if_true, lowDigit, whole, isByte, Option.map_some,
    UInt8.ofNat_toNat]

/-- The printed text is ASCII. -/
theorem ascii_bytesToHexLower
    (data : List UInt8) :
    ∀ byte ∈ utf8 (bytesToHexLower data), byte.toNat < 128 := by
  induction data with
  | nil =>
      intro byte member
      cases member
  | cons first rest inductionHypothesis =>
      obtain ⟨high, low, shape, highDigit, lowDigit⟩ :=
        utf8_bytesToHexLower_cons first rest
      intro byte member
      rw [shape, List.mem_cons, List.mem_cons] at member
      rcases member with isHigh | isLow | inRest
      · rw [isHigh]
        exact (ascii_of_digit? highDigit).2.1
      · rw [isLow]
        exact (ascii_of_digit? lowDigit).2.1
      · exact inductionHypothesis byte inRest

/-- The bytes of the printed text are two for each byte. -/
theorem length_utf8_bytesToHexLower
    (data : List UInt8) :
    (utf8 (bytesToHexLower data)).length = data.length * 2 := by
  induction data with
  | nil =>
      rfl
  | cons byte rest inductionHypothesis =>
      obtain ⟨high, low, shape, _, _⟩ :=
        utf8_bytesToHexLower_cons byte rest
      rw [shape, List.length_cons, List.length_cons, inductionHypothesis,
        List.length_cons]
      omega

/-- Reading on behind an ASCII text that was read already. -/
theorem filterMap_strGet
    (data : List UInt8)
    (done : List UInt8)
    (ascii : ∀ byte ∈ done, byte.toNat < 128) :
    (List.range' done.length data.length 2).filterMap
        (fun index =>
          (strGet (done ++ utf8 (bytesToHexLower data))
            index (index + 2)).bind fromStrRadix) =
      data := by
  induction data generalizing done with
  | nil =>
      rfl
  | cons byte rest inductionHypothesis =>
      obtain ⟨high, low, shape, highDigit, lowDigit⟩ :=
        utf8_bytesToHexLower_cons byte rest
      have allAscii :
          ∀ other ∈ done ++ utf8 (bytesToHexLower (byte :: rest)),
            other.toNat < 128 := by
        intro other member
        rcases List.mem_append.mp member with inDone | inText
        · exact ascii other inDone
        · exact ascii_bytesToHexLower _ other inText
      have reads :
          (strGet (done ++ utf8 (bytesToHexLower (byte :: rest)))
              done.length (done.length + 2)).bind fromStrRadix =
            some byte := by
        have startBoundary :
            isCharBoundary
                (done ++ utf8 (bytesToHexLower (byte :: rest)))
                done.length = true :=
          isCharBoundary_of_ascii allAscii (by simp)
        have stopBoundary :
            isCharBoundary
                (done ++ utf8 (bytesToHexLower (byte :: rest)))
                (done.length + 2) = true :=
          isCharBoundary_of_ascii allAscii (by simp [shape])
        rw [strGet, if_pos ⟨Nat.le_add_right _ _, startBoundary,
          stopBoundary⟩, shape]
        simp [fromStrRadix_pair highDigit lowDigit]
      have nextAscii :
          ∀ other ∈ done ++ [high, low], other.toNat < 128 := by
        intro other member
        apply allAscii
        rw [shape]
        simp only [List.mem_append, List.mem_cons, List.not_mem_nil,
          or_false] at member ⊢
        rcases member with inDone | isHigh | isLow
        · exact .inl inDone
        · exact .inr (.inl isHigh)
        · exact .inr (.inr (.inl isLow))
      have continues := inductionHypothesis (done ++ [high, low]) nextAscii
      have sameText :
          (done ++ [high, low]) ++ utf8 (bytesToHexLower rest) =
            done ++ utf8 (bytesToHexLower (byte :: rest)) := by
        rw [shape]
        simp
      rw [sameText, List.length_append] at continues
      rw [List.length_cons, List.range'_succ, List.filterMap_cons, reads]
      exact congrArg (List.cons byte) continues

/-- The Rust decoder returns the printed bytes. -/
theorem hexToBytes_bytesToHexLower
    (data : List UInt8) :
    hexToBytes (bytesToHexLower data) = data := by
  have pieces :
      ((utf8 (bytesToHexLower data)).length + 1) / 2 = data.length := by
    rw [length_utf8_bytesToHexLower]
    omega
  rw [hexToBytes, pieces]
  exact filterMap_strGet data [] (by simp)

/-- Setters do not change what a context expects of a credential. -/
theorem expectations_of_setters
    (setters : List ContextSetter)
    (context : FizzClientContext) :
    (setters.foldl ContextSetter.apply context).dcEnabled =
        context.dcEnabled ∧
      (setters.foldl ContextSetter.apply context).publicKeyDer =
        context.publicKeyDer ∧
      (setters.foldl ContextSetter.apply context).validTime =
        context.validTime ∧
      (setters.foldl ContextSetter.apply context).expectedVerifyScheme =
        context.expectedVerifyScheme ∧
      (setters.foldl ContextSetter.apply context).expiresAt =
        context.expiresAt := by
  induction setters generalizing context with
  | nil =>
      exact ⟨rfl, rfl, rfl, rfl, rfl⟩
  | cons setter rest inductionHypothesis =>
      obtain ⟨sameDc, sameKey, sameTime, sameScheme, sameExpiry⟩ :=
        inductionHypothesis (setter.apply context)
      rw [List.foldl_cons, sameDc, sameKey, sameTime, sameScheme,
        sameExpiry]
      cases setter with
      | alpnProtocols protocols =>
          exact ⟨rfl, rfl, rfl, rfl, rfl⟩
      | sni hostname =>
          exact ⟨rfl, rfl, rfl, rfl, rfl⟩

/-- A connection expects of a credential what its context does. -/
theorem expectations_of_clientConnect
    {caStore : String → CaStore}
    {fault : Option String}
    {context : FizzClientContext}
    {fd : Int}
    {hostname : String}
    {conn : FizzClientConnection}
    (enabled : context.dcEnabled = true)
    (connects :
      clientConnect caStore fault context fd hostname = .ok conn) :
    conn.expectedPublicKeyDerHex = context.publicKeyDer ∧
      conn.expectedValidTime = context.validTime ∧
      conn.expectedVerifyScheme = context.expectedVerifyScheme ∧
      conn.expectedExpiresAt = context.expiresAt := by
  unfold clientConnect at connects
  split at connects
  · cases connects
  · cases connects
  · cases connects
    simp [enabled]

/--
Three comparisons, a call that may throw and a fourth comparison, each with its
own message: the empty string means that nothing threw and all of them agree.
-/
theorem comparisons_eq_ok_iff
    {keyDiffers timeDiffers schemeDiffers expiryDiffers : Prop}
    [Decidable keyDiffers]
    [Decidable timeDiffers]
    [Decidable schemeDiffers]
    [Decidable expiryDiffers]
    {encodeKey readExpiry : Option String}
    {keyText timeText schemeText expiryText : String}
    (keyNamed : keyText ≠ "")
    (timeNamed : timeText ≠ "")
    (schemeNamed : schemeText ≠ "")
    (expiryNamed : expiryText ≠ "") :
    (match encodeKey with
      | some what => .error what
      | none =>
          if keyDiffers then .ok keyText
          else if timeDiffers then .ok timeText
          else if schemeDiffers then .ok schemeText
          else
            match readExpiry with
            | some what => .error what
            | none =>
                if expiryDiffers then .ok expiryText else .ok "" :
        Except String String) = .ok "" ↔
      encodeKey = none ∧ ¬keyDiffers ∧ ¬timeDiffers ∧ ¬schemeDiffers ∧
        readExpiry = none ∧ ¬expiryDiffers := by
  cases encodeKey with
  | some what =>
      simp
  | none =>
      by_cases key : keyDiffers
      · simp [key, keyNamed]
      · by_cases time : timeDiffers
        · simp [key, time, timeNamed]
        · by_cases scheme : schemeDiffers
          · simp [key, time, scheme, schemeNamed]
          · cases readExpiry with
            | some what =>
                simp [key, time, scheme]
            | none =>
                simp [key, time, scheme, expiryNamed]

/-- Both checks accept the same credentials when they expect the same. -/
theorem verifyPeerDc_iff_verifyVerificationInfo
    {context : FizzClientContext}
    {conn : FizzClientConnection}
    (sameKey : conn.expectedPublicKeyDerHex = context.publicKeyDer)
    (sameTime : conn.expectedValidTime = context.validTime)
    (sameScheme : conn.expectedVerifyScheme = context.expectedVerifyScheme)
    (sameExpiry : conn.expectedExpiresAt = context.expiresAt)
    (faults : CheckFaults)
    (credential : FizzDelegatedCredential)
    (expiresTime : Int) :
    verifyPeerDc faults context credential expiresTime = .ok "" ↔
      verifyVerificationInfoAgainstPeerDelegatedCredential
        faults conn credential expiresTime = .ok "" := by
  unfold verifyPeerDc verifyVerificationInfoAgainstPeerDelegatedCredential
  rw [bytesToHex_eq_bytesToHexLower, sameKey, sameTime, sameScheme,
    sameExpiry]
  refine Iff.trans (comparisons_eq_ok_iff ?_ ?_ ?_ ?_)
    (comparisons_eq_ok_iff ?_ ?_ ?_ ?_).symm <;> decide

/--
All hex codecs agree on every byte string: three encoders print the same text of
two lowercase digits for each byte, different byte strings print differently,
and both decoders read the printed text back.  So the benchmark's check accepts
a peer credential exactly when the check of a connection made from the same
context does.
-/
theorem hexCodecs_agree :
    (∀ data : List UInt8,
      bytesToHex data = bytesToHexLower data ∧
      (∀ (Key : Type) (fizz : FizzLibrary Key) (key : Key),
        fizz.i2dPubkey key = some data →
          publicKeyToDerHex fizz key = .ok (bytesToHexLower data)) ∧
      (bytesToHexLower data).length = 2 * data.length ∧
      (∀ letter ∈ (bytesToHexLower data).toList,
        letter ∈ "0123456789abcdef".toList) ∧
      hexToBytes (bytesToHexLower data) = data ∧
      parseHexBytes (bytesToHexLower data) = .ok data) ∧
    Function.Injective bytesToHexLower ∧
    (∀ info caCertPath (setters : List ContextSetter) caStore fault fd
        hostname conn,
      clientConnect caStore fault
          (setters.foldl ContextSetter.apply
            (newClientTlsContext info caCertPath)) fd hostname =
        .ok conn →
      ∀ faults credential expiresTime,
        verifyPeerDc faults
            (setters.foldl ContextSetter.apply
              (newClientTlsContext info caCertPath))
            credential expiresTime = .ok "" ↔
          verifyVerificationInfoAgainstPeerDelegatedCredential
            faults conn credential expiresTime = .ok "") := by
  refine ⟨?_, bytesToHexLower_injective, ?_⟩
  · intro data
    exact ⟨bytesToHex_eq_bytesToHexLower data,
      fun _ _ _ => publicKeyToDerHex_eq_ok,
      length_bytesToHexLower data,
      mem_bytesToHexLower data,
      hexToBytes_bytesToHexLower data,
      parseHexBytes_bytesToHexLower data⟩
  · intro info caCertPath setters caStore fault fd hostname conn connects
    have enabled :=
      (expectations_of_setters setters
        (newClientTlsContext info caCertPath)).1
    obtain ⟨sameKey, sameTime, sameScheme, sameExpiry⟩ :=
      expectations_of_clientConnect enabled connects
    exact verifyPeerDc_iff_verifyVerificationInfo
      sameKey sameTime sameScheme sameExpiry

/-- What a client pins of a credential with a small and a large byte. -/
def samplePinnedInfo : VerificationInfo where
  serviceName := "echo"
  validTime := 7200
  expectedVerifyScheme := 0x0403
  publicKeyDer := "0aff"
  expiresAt := 10800

/-- The credential that the server presents. -/
def samplePinnedCredential : FizzDelegatedCredential where
  validTime := 7200
  expectedVerifyScheme := 0x0403
  publicKey := [10, 255]
  credentialScheme := 0x0403
  signature := [1]

theorem hexCodecs_agree_sample :
    bytesToHex [10, 255] = "0aff" ∧
      ∃ conn,
        clientConnect (fun _ => .loaded) none
            (newClientTlsContext samplePinnedInfo "ca.pem") 3 "" =
          .ok conn ∧
        verifyPeerDc .none (newClientTlsContext samplePinnedInfo "ca.pem")
          samplePinnedCredential 10800000000000 = .ok "" ∧
        verifyVerificationInfoAgainstPeerDelegatedCredential
          .none conn samplePinnedCredential 10800000000000 = .ok "" := by
  have accepts :
      verifyPeerDc .none (newClientTlsContext samplePinnedInfo "ca.pem")
        samplePinnedCredential 10800000000000 = .ok "" := by
    decide
  refine ⟨by decide, _, rfl, accepts, ?_⟩
  exact (hexCodecs_agree.2.2 samplePinnedInfo "ca.pem" [] (fun _ => .loaded)
    none 3 "" _ rfl .none samplePinnedCredential 10800000000000).mp accepts

end FizzRs
