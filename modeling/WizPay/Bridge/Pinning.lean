import WizPay.Bridge.Encoding

/-!
# What an accepted attestation pins

Matching compares the decoded fields of a message with a payload. Decoding drops
the upper twelve bytes of the six address words, so the fields pin the bytes of a
message up to those, the nonce, the executed fee and the expiration block.
-/

namespace WizPay.Bridge

open Backend

/-- Where the words of the addresses begin. -/
def addressOffsets : List ℕ :=
  [44, 76, 108, HEADER_LENGTH + 4, HEADER_LENGTH + 36, HEADER_LENGTH + 100]

/-- The upper twelve bytes of every address word are zero, as `addressToBytes32` writes them. -/
def PaddingZero (digits : List Char) : Prop :=
  ∀ offset ∈ addressOffsets, readNumber digits offset 12 = 0

/-- Offset and width of every field but `nonce`, `feeExecuted` and `expirationBlock`. -/
def pinnedFields : List (ℕ × ℕ) :=
  [(0, 4), (4, 4), (8, 4), (44, 32), (76, 32), (108, 32), (140, 4), (144, 4),
    (HEADER_LENGTH, 4), (HEADER_LENGTH + 4, 32), (HEADER_LENGTH + 36, 32),
    (HEADER_LENGTH + 68, 32), (HEADER_LENGTH + 100, 32), (HEADER_LENGTH + 132, 32)]

def fieldBytes (digits : List Char) (offset length : ℕ) : List UInt8 :=
  pairBytes (sliceBytes digits offset length)

/-- The burn that a payload asks for, with the three fields it leaves open read from a
message. -/
def BridgeIntentPayload.canonicalBurn (payload : BridgeIntentPayload) (digits : List Char) :
    BurnMessage where
  version := 1
  sourceDomain := BitVec.ofNat 32 payload.sourceDomain
  destinationDomain := BitVec.ofNat 32 payload.destinationDomain
  nonce := BitVec.ofNat 256 (readNumber digits 12 32)
  sender := payload.sourceTokenMessengerV2
  recipient := payload.destinationTokenMessengerV2
  destinationCaller := payload.destinationCaller
  minFinalityThreshold := BitVec.ofNat 32 payload.minFinalityThreshold
  finalityThresholdExecuted := BitVec.ofNat 32 payload.minFinalityThreshold
  burnVersion := 1
  burnToken := payload.sourceUsdcAddress
  mintRecipient := payload.recipientAddress
  amount := BitVec.ofNat 256 (bigInt payload.amount)
  messageSender := payload.walletAddress
  maxFee := BitVec.ofNat 256 (bigInt payload.maxFee)
  feeExecuted := BitVec.ofNat 256 (readNumber digits (HEADER_LENGTH + 164) 32)
  expirationBlock := BitVec.ofNat 256 (readNumber digits (HEADER_LENGTH + 196) 32)

/-! ## Slices -/

theorem hexNat_append_list (first second : List Char) :
    hexNat (first ++ second) = hexNat first * 16 ^ second.length + hexNat second := by
  induction second using List.reverseRecOn with
  | nil => simp [hexNat]
  | append_singleton second c ih =>
      rw [← List.append_assoc, hexNat_append, ih, hexNat_append, List.length_append,
        List.length_singleton, Nat.pow_succ, Nat.add_mul, Nat.mul_assoc, Nat.add_assoc]

theorem bytesDigits_pairBytes {digits : List Char} (hdigits : ∀ c ∈ digits, isHexDigit c = true)
    (hwhole : 2 ∣ digits.length) : bytesDigits (pairBytes digits) = digits.map Char.toLower := by
  match digits with
  | [] => rfl
  | [_] =>
      rw [List.length_singleton] at hwhole
      omega
  | high :: low :: rest =>
      have hhigh := hexValue_lt (hdigits high (by simp))
      have hlow := hexValue_lt (hdigits low (by simp))
      have hbyte : (UInt8.ofNat (hexValue high * 16 + hexValue low)).toNat =
          hexValue high * 16 + hexValue low := by
        rw [UInt8.toNat_ofNat']
        omega
      have hrest : bytesDigits (pairBytes rest) = rest.map Char.toLower :=
        bytesDigits_pairBytes (fun c hc => hdigits c (by simp [hc]))
          (by simp only [List.length_cons] at hwhole; omega)
      rw [pairBytes, bytesDigits_cons, hrest, byteDigits, hbyte,
        show (hexValue high * 16 + hexValue low) / 16 = hexValue high by omega,
        show (hexValue high * 16 + hexValue low) % 16 = hexValue low by omega,
        hexDigit_hexValue (hdigits high (by simp)), hexDigit_hexValue (hdigits low (by simp))]
      rfl

/-- A text of enough hex digits. -/
structure Readable (digits : List Char) : Prop where
  digit : ∀ c ∈ digits, isHexDigit c = true
  long : 752 ≤ digits.length

section Slices

variable {digits : List Char} {offset length : ℕ}

theorem Readable.slice_digit (hread : Readable digits) :
    ∀ c ∈ sliceBytes digits offset length, isHexDigit c = true :=
  fun c hmember => hread.digit c (List.mem_of_mem_drop (List.mem_of_mem_take hmember))

theorem Readable.slice_length (hread : Readable digits) (hend : offset + length ≤ 376) :
    (sliceBytes digits offset length).length = length * 2 := by
  have hlong := hread.long
  rw [sliceBytes, List.length_take, List.length_drop]
  omega

theorem Readable.slice_lower (hread : Readable digits) (hend : offset + length ≤ 376) :
    (sliceBytes digits offset length).map Char.toLower =
      hexDigits (2 * length) (readNumber digits offset length) := by
  rw [readNumber, ← hexDigits_hexNat hread.slice_digit, hread.slice_length hend, Nat.mul_comm]

theorem Readable.number_lt (hread : Readable digits) (hend : offset + length ≤ 376) :
    readNumber digits offset length < 16 ^ (2 * length) := by
  rw [Nat.mul_comm, ← hread.slice_length hend]
  exact hexNat_lt hread.slice_digit

/-- A field's bytes are those of the number it spells. -/
theorem Readable.fieldBytes_eq (hread : Readable digits) (hend : offset + length ≤ 376) :
    fieldBytes digits offset length = bigEndian length (readNumber digits offset length) := by
  have hwhole : 2 ∣ (sliceBytes digits offset length).length :=
    ⟨length, by rw [hread.slice_length hend, Nat.mul_comm]⟩
  have hdigits := bytesDigits_pairBytes hread.slice_digit hwhole
  rw [hread.slice_lower hend, ← bytesDigits_bigEndian] at hdigits
  rw [fieldBytes, ← pairBytes_bytesDigits (pairBytes _), hdigits, pairBytes_bytesDigits]

/-- An address word is its padding and its address. -/
theorem Readable.word (hread : Readable digits) (hend : offset + 32 ≤ 376) :
    readNumber digits offset 32 =
      readNumber digits offset 12 * 2 ^ 160 + (readAddress digits offset).toNat := by
  have hpadding : (sliceBytes digits offset 32).take 24 = sliceBytes digits offset 12 := by
    rw [sliceBytes, List.take_take]
    rfl
  have hlength : ((sliceBytes digits offset 32).drop 24).length = 40 := by
    rw [List.length_drop, hread.slice_length hend]
  have hlow : hexNat ((sliceBytes digits offset 32).drop 24) < 2 ^ 160 := by
    have hlt : hexNat ((sliceBytes digits offset 32).drop 24) <
        16 ^ ((sliceBytes digits offset 32).drop 24).length :=
      hexNat_lt fun c hmember => hread.slice_digit c (List.mem_of_mem_drop hmember)
    rw [hlength] at hlt
    exact hlt
  rw [readAddress, BitVec.toNat_ofNat, Nat.mod_eq_of_lt hlow, readNumber, readNumber, ← hpadding,
    ← List.take_append_drop 24 (sliceBytes digits offset 32), hexNat_append_list, hlength,
    List.take_append_drop]
  rfl

end Slices

theorem bigEndian_inj {length first second : ℕ} (hfirst : first < 16 ^ (2 * length))
    (hsecond : second < 16 ^ (2 * length))
    (hsame : bigEndian length first = bigEndian length second) : first = second := by
  have hdigits := congrArg bytesDigits hsame
  rw [bytesDigits_bigEndian, bytesDigits_bigEndian] at hdigits
  rw [← hexNat_hexDigits hfirst, hdigits, hexNat_hexDigits hsecond]

/-- Two messages agree in a field exactly when they agree in its number. -/
theorem Readable.fieldBytes_eq_iff {digits other : List Char} {offset length : ℕ}
    (hread : Readable digits) (hother : Readable other) (hend : offset + length ≤ 376) :
    fieldBytes digits offset length = fieldBytes other offset length ↔
      readNumber digits offset length = readNumber other offset length := by
  rw [hread.fieldBytes_eq hend, hother.fieldBytes_eq hend]
  exact ⟨bigEndian_inj (hread.number_lt hend) (hother.number_lt hend),
    fun hsame => congrArg (bigEndian length) hsame⟩

/-- Two messages that decode to one address there agree in its word exactly when they agree
in its padding. -/
theorem Readable.word_eq_iff {digits other : List Char} {offset : ℕ} (hread : Readable digits)
    (hother : Readable other) (hend : offset + 32 ≤ 376)
    (haddress : readAddress digits offset = readAddress other offset) :
    fieldBytes digits offset 32 = fieldBytes other offset 32 ↔
      fieldBytes digits offset 12 = fieldBytes other offset 12 := by
  rw [hread.fieldBytes_eq_iff hother hend, hread.fieldBytes_eq_iff hother (by omega),
    hread.word hend, hother.word hend, haddress]
  omega

/-! ## Accepted messages -/

/-- What matching has established about the fields of a message. -/
structure Pinned (payload : BridgeIntentPayload) (digits : List Char) : Prop where
  readable : Readable digits
  version : readNumber digits 0 4 = 1
  sourceDomain : readNumber digits 4 4 = payload.sourceDomain
  destinationDomain : readNumber digits 8 4 = payload.destinationDomain
  sender : readAddress digits 44 = payload.sourceTokenMessengerV2
  recipient : readAddress digits 76 = payload.destinationTokenMessengerV2
  destinationCaller : readAddress digits 108 = payload.destinationCaller
  minFinalityThreshold : readNumber digits 140 4 = payload.minFinalityThreshold
  finalityThresholdExecuted : readNumber digits 144 4 = payload.minFinalityThreshold
  burnVersion : readNumber digits HEADER_LENGTH 4 = 1
  burnToken : readAddress digits (HEADER_LENGTH + 4) = payload.sourceUsdcAddress
  mintRecipient : readAddress digits (HEADER_LENGTH + 36) = payload.recipientAddress
  amount : readNumber digits (HEADER_LENGTH + 68) 32 = bigInt payload.amount
  messageSender : readAddress digits (HEADER_LENGTH + 100) = payload.walletAddress
  maxFee : readNumber digits (HEADER_LENGTH + 132) 32 = bigInt payload.maxFee

theorem pinned_of_matches {keccak256 : String → String} {payload : BridgeIntentPayload}
    {expectedNonce : Option String} {message : String} {decoded : DecodedCctpMessage}
    (hdecoded : decodeCctpV2Message keccak256 message = .ok decoded)
    (hmatch : matchesBridgeAttestation payload decoded expectedNonce = true) :
    Pinned payload (message.toList.drop 2) := by
  obtain ⟨digits, rfl, hdigits, hlong⟩ := (decodes_iff keccak256 message).mp ⟨decoded, hdecoded⟩
  rw [decode_ofList keccak256 (List.all_eq_true.mpr hdigits) hlong] at hdecoded
  cases hdecoded
  simp only [matchesBridgeAttestation, decodeFields, Bool.and_eq_true] at hmatch
  obtain ⟨⟨⟨⟨⟨⟨⟨⟨⟨⟨⟨⟨⟨⟨⟨⟨hversion, hburn⟩, hsource⟩, hdestination⟩, -⟩, hexecuted⟩, hsender⟩,
    hrecipient⟩, hcaller⟩, hmin⟩, htoken⟩, hmint⟩, hmessageSender⟩, hamount⟩, hmaxFee⟩, -⟩, -⟩ :=
    hmatch
  rw [String.toList_ofList, List.drop_succ_cons, List.drop_succ_cons, List.drop_zero]
  exact {
    readable := ⟨hdigits, hlong⟩
    version := of_decide_eq_true hversion
    sourceDomain := of_decide_eq_true hsource
    destinationDomain := of_decide_eq_true hdestination
    sender := of_decide_eq_true hsender
    recipient := of_decide_eq_true hrecipient
    destinationCaller := of_decide_eq_true hcaller
    minFinalityThreshold := of_decide_eq_true hmin
    finalityThresholdExecuted := of_decide_eq_true hexecuted
    burnVersion := of_decide_eq_true hburn
    burnToken := of_decide_eq_true htoken
    mintRecipient := of_decide_eq_true hmint
    amount := of_decide_eq_true hamount
    messageSender := of_decide_eq_true hmessageSender
    maxFee := of_decide_eq_true hmaxFee }

/-- The numbers of an accepted message are those of the payload's burn, word by word. -/
theorem Pinned.fields {payload : BridgeIntentPayload} {digits : List Char}
    (hpinned : Pinned payload digits) :
    (payload.canonicalBurn digits).fields =
      [(4, readNumber digits 0 4), (4, readNumber digits 4 4), (4, readNumber digits 8 4),
        (32, readNumber digits 12 32), (32, (readAddress digits 44).toNat),
        (32, (readAddress digits 76).toNat), (32, (readAddress digits 108).toNat),
        (4, readNumber digits 140 4), (4, readNumber digits 144 4),
        (4, readNumber digits HEADER_LENGTH 4),
        (32, (readAddress digits (HEADER_LENGTH + 4)).toNat),
        (32, (readAddress digits (HEADER_LENGTH + 36)).toNat),
        (32, readNumber digits (HEADER_LENGTH + 68) 32),
        (32, (readAddress digits (HEADER_LENGTH + 100)).toNat),
        (32, readNumber digits (HEADER_LENGTH + 132) 32),
        (32, readNumber digits (HEADER_LENGTH + 164) 32),
        (32, readNumber digits (HEADER_LENGTH + 196) 32)] := by
  have hread := hpinned.readable
  have hnarrow {offset value : ℕ} (hend : offset + 4 ≤ 376)
      (hvalue : readNumber digits offset 4 = value) : value % 2 ^ 32 = value :=
    Nat.mod_eq_of_lt (hvalue ▸ hread.number_lt hend)
  have hwide {offset value : ℕ} (hend : offset + 32 ≤ 376)
      (hvalue : readNumber digits offset 32 = value) : value % 2 ^ 256 = value :=
    Nat.mod_eq_of_lt (hvalue ▸ hread.number_lt hend)
  simp only [BurnMessage.fields, BridgeIntentPayload.canonicalBurn, BitVec.toNat_ofNat]
  rw [hnarrow (by decide) hpinned.sourceDomain, hnarrow (by decide) hpinned.destinationDomain,
    hnarrow (by decide) hpinned.minFinalityThreshold, hwide (by decide) hpinned.amount,
    hwide (by decide) hpinned.maxFee, hwide (by decide : 12 + 32 ≤ 376) rfl,
    hwide (by decide : HEADER_LENGTH + 164 + 32 ≤ 376) rfl,
    hwide (by decide : HEADER_LENGTH + 196 + 32 ≤ 376) rfl, hpinned.version,
    hpinned.sourceDomain, hpinned.destinationDomain, hpinned.sender, hpinned.recipient,
    hpinned.destinationCaller, hpinned.minFinalityThreshold, hpinned.finalityThresholdExecuted,
    hpinned.burnVersion, hpinned.burnToken, hpinned.mintRecipient, hpinned.amount,
    hpinned.messageSender, hpinned.maxFee]
  rfl

/-- A word holds the canonical digits of its address exactly when its padding is zero. -/
theorem Readable.word_canonical_iff {digits : List Char} {offset : ℕ} (hread : Readable digits)
    (hend : offset + 32 ≤ 376) :
    hexDigits (2 * 32) (readNumber digits offset 32) =
        hexDigits (2 * 32) (readAddress digits offset).toNat ↔
      readNumber digits offset 12 = 0 := by
  have hword := hread.word hend
  constructor
  · intro hsame
    have hbound : (readAddress digits offset).toNat < 16 ^ (2 * 32) :=
      (readAddress digits offset).isLt.trans (by decide)
    have hnumber := congrArg hexNat hsame
    rw [hexNat_hexDigits (hread.number_lt hend), hexNat_hexDigits hbound] at hnumber
    omega
  · intro hzero
    rw [hword, hzero, Nat.zero_mul, Nat.zero_add]

/-- The bytes of an accepted message are canonical exactly when its paddings are zero. -/
theorem Pinned.canonical_iff {payload : BridgeIntentPayload} {digits : List Char}
    (hpinned : Pinned payload digits) :
    fieldBytes digits 0 376 = (payload.canonicalBurn digits).encode ↔ PaddingZero digits := by
  have hread := hpinned.readable
  have hwhole : 2 ∣ (sliceBytes digits 0 376).length :=
    ⟨376, by rw [hread.slice_length (by decide)]⟩
  have hdigits := bytesDigits_pairBytes hread.slice_digit hwhole
  have hsum : ((payload.canonicalBurn digits).fields.map Prod.fst).sum * 2 = 752 := by
    rw [BurnMessage.fields_layout, layout_sum]
    rfl
  have hbytes : fieldBytes digits 0 376 = (payload.canonicalBurn digits).encode ↔
      (digits.take 752).map Char.toLower =
        bytesDigits (encodeFields (payload.canonicalBurn digits).fields) := by
    constructor
    · intro hsame
      rw [← BurnMessage.encode, ← hsame, fieldBytes, hdigits]
      rfl
    · intro hsame
      rw [← pairBytes_bytesDigits (fieldBytes digits 0 376), fieldBytes, hdigits, sliceBytes,
        Nat.zero_mul, List.drop_zero, hsame, pairBytes_bytesDigits]
      rfl
  have hiff := lower_eq_encodeFields_iff (payload.canonicalBurn digits).fields digits
  rw [hsum, BurnMessage.fields_layout, cut_layout, hpinned.fields] at hiff
  rw [hbytes, hpinned.fields, hiff]
  -- of the seventeen pieces, eleven are numbers that agree already
  simp only [List.map_cons, List.map_nil, List.cons.injEq, and_true, true_and,
    hread.slice_lower (by decide : 0 + 4 ≤ 376), hread.slice_lower (by decide : 4 + 4 ≤ 376),
    hread.slice_lower (by decide : 8 + 4 ≤ 376), hread.slice_lower (by decide : 12 + 32 ≤ 376),
    hread.slice_lower (by decide : 44 + 32 ≤ 376), hread.slice_lower (by decide : 76 + 32 ≤ 376),
    hread.slice_lower (by decide : 108 + 32 ≤ 376),
    hread.slice_lower (by decide : 140 + 4 ≤ 376), hread.slice_lower (by decide : 144 + 4 ≤ 376),
    hread.slice_lower (by decide : HEADER_LENGTH + 4 ≤ 376),
    hread.slice_lower (by decide : HEADER_LENGTH + 4 + 32 ≤ 376),
    hread.slice_lower (by decide : HEADER_LENGTH + 36 + 32 ≤ 376),
    hread.slice_lower (by decide : HEADER_LENGTH + 68 + 32 ≤ 376),
    hread.slice_lower (by decide : HEADER_LENGTH + 100 + 32 ≤ 376),
    hread.slice_lower (by decide : HEADER_LENGTH + 132 + 32 ≤ 376),
    hread.slice_lower (by decide : HEADER_LENGTH + 164 + 32 ≤ 376),
    hread.slice_lower (by decide : HEADER_LENGTH + 196 + 32 ≤ 376),
    hread.word_canonical_iff (by decide : 44 + 32 ≤ 376),
    hread.word_canonical_iff (by decide : 76 + 32 ≤ 376),
    hread.word_canonical_iff (by decide : 108 + 32 ≤ 376),
    hread.word_canonical_iff (by decide : HEADER_LENGTH + 4 + 32 ≤ 376),
    hread.word_canonical_iff (by decide : HEADER_LENGTH + 36 + 32 ≤ 376),
    hread.word_canonical_iff (by decide : HEADER_LENGTH + 100 + 32 ≤ 376)]
  simp [PaddingZero, addressOffsets]

/-- Two accepted messages agree in the pinned fields exactly when their paddings do. -/
theorem Pinned.agree_iff {payload : BridgeIntentPayload} {digits other : List Char}
    (hpinned : Pinned payload digits) (hother : Pinned payload other) :
    (∀ field ∈ pinnedFields,
        fieldBytes digits field.1 field.2 = fieldBytes other field.1 field.2) ↔
      ∀ offset ∈ addressOffsets, fieldBytes digits offset 12 = fieldBytes other offset 12 := by
  have hread := hpinned.readable
  have hread' := hother.readable
  have hnumber {offset length value : ℕ} (hend : offset + length ≤ 376)
      (hfirst : readNumber digits offset length = value)
      (hsecond : readNumber other offset length = value) :
      fieldBytes digits offset length = fieldBytes other offset length :=
    (hread.fieldBytes_eq_iff hread' hend).mpr (hfirst.trans hsecond.symm)
  have hword {offset : ℕ} {address : Evm.Address} (hend : offset + 32 ≤ 376)
      (hfirst : readAddress digits offset = address)
      (hsecond : readAddress other offset = address) :
      fieldBytes digits offset 32 = fieldBytes other offset 32 ↔
        fieldBytes digits offset 12 = fieldBytes other offset 12 :=
    hread.word_eq_iff hread' hend (hfirst.trans hsecond.symm)
  simp only [pinnedFields, addressOffsets, List.forall_mem_cons,
    hnumber (by decide) hpinned.version hother.version,
    hnumber (by decide) hpinned.sourceDomain hother.sourceDomain,
    hnumber (by decide) hpinned.destinationDomain hother.destinationDomain,
    hnumber (by decide) hpinned.minFinalityThreshold hother.minFinalityThreshold,
    hnumber (by decide) hpinned.finalityThresholdExecuted hother.finalityThresholdExecuted,
    hnumber (by decide) hpinned.burnVersion hother.burnVersion,
    hnumber (by decide) hpinned.amount hother.amount,
    hnumber (by decide) hpinned.maxFee hother.maxFee,
    hword (by decide) hpinned.sender hother.sender,
    hword (by decide) hpinned.recipient hother.recipient,
    hword (by decide) hpinned.destinationCaller hother.destinationCaller,
    hword (by decide) hpinned.burnToken hother.burnToken,
    hword (by decide) hpinned.mintRecipient hother.mintRecipient,
    hword (by decide) hpinned.messageSender hother.messageSender, true_and]
  simp

/-- What matching pins of a message: its bytes are those of the payload's burn, and two
accepted messages agree in all that the payload fixes, exactly as far as the upper bytes of
the address words do. -/
theorem attestation_pins_iff (keccak256 : String → String) (payload : BridgeIntentPayload)
    (expectedNonce : Option String) (message : String) (decoded : DecodedCctpMessage)
    (hdecoded : decodeCctpV2Message keccak256 message = .ok decoded)
    (hmatch : matchesBridgeAttestation payload decoded expectedNonce = true) :
    (fieldBytes (message.toList.drop 2) 0 376 =
        (payload.canonicalBurn (message.toList.drop 2)).encode ↔
      PaddingZero (message.toList.drop 2)) ∧
    ∀ other otherDecoded otherNonce,
      decodeCctpV2Message keccak256 other = .ok otherDecoded →
      matchesBridgeAttestation payload otherDecoded otherNonce = true →
      ((∀ field ∈ pinnedFields, fieldBytes (message.toList.drop 2) field.1 field.2 =
          fieldBytes (other.toList.drop 2) field.1 field.2) ↔
        ∀ offset ∈ addressOffsets, fieldBytes (message.toList.drop 2) offset 12 =
          fieldBytes (other.toList.drop 2) offset 12) := by
  have hpinned := pinned_of_matches hdecoded hmatch
  refine ⟨hpinned.canonical_iff, ?_⟩
  intro other otherDecoded otherNonce hotherDecoded hotherMatch
  exact hpinned.agree_iff (pinned_of_matches hotherDecoded hotherMatch)

/-- The intent that the example burn belongs to. -/
def examplePayload : BridgeIntentPayload where
  sourceChainId := 5042
  destinationChainId := 8453
  sourceDomain := 26
  destinationDomain := 6
  sourceUsdcAddress := 0x3600000000000000000000000000000000000000
  sourceTokenMessengerV2 := 0x28b5a0e9C621a5BadaA536219b3a228C8168cf5d
  destinationTokenMessengerV2 := 0x28b5a0e9C621a5BadaA536219b3a228C8168cf5d
  destinationMessageTransmitterV2 := 0x81D40F21F12A8F0E3252Bccb954D722d4c464B64
  walletAddress := 0x1111111111111111111111111111111111111111
  recipientAddress := 0x2222222222222222222222222222222222222222
  destinationCaller := 0
  amount := "1000000"
  maxFee := "1000"
  minFinalityThreshold := 2000

def exampleText : String := bytesToHex (exampleBurn.encode ++ [])

theorem attestation_pins_iff_burn :
    fieldBytes (exampleText.toList.drop 2) 0 376 =
        (examplePayload.canonicalBurn (exampleText.toList.drop 2)).encode ↔
      PaddingZero (exampleText.toList.drop 2) :=
  (attestation_pins_iff (fun _ => exampleBurnHash) examplePayload none exampleText
    (exampleBurn.decoded exampleBurnHash) (decodes_encode _ exampleBurn []) (by decide)).1

/-- The example burn with a one in the padding of its sender. -/
def paddedBytes : List UInt8 :=
  encodeFields (exampleBurn.fields.set 4 (32, 2 ^ 160 + exampleBurn.sender.toNat))

def paddedHash : String := "0xca924920770a7659a885d491f2a264c554c3f6e773a778795dc7fcfd291a1749"

/-- The message with the padded sender is accepted as well, so neither its bytes are
canonical nor do the two differ only in what is left open. -/
theorem padded_sender_accepted :
    (∃ decoded, decodeCctpV2Message (fun _ => paddedHash) (bytesToHex paddedBytes) = .ok decoded ∧
      matchesBridgeAttestation examplePayload decoded none = true) ∧
    fieldBytes ((bytesToHex paddedBytes).toList.drop 2) 0 376 ≠
      (examplePayload.canonicalBurn ((bytesToHex paddedBytes).toList.drop 2)).encode ∧
    fieldBytes ((bytesToHex paddedBytes).toList.drop 2) 44 32 ≠
      fieldBytes (exampleText.toList.drop 2) 44 32 := by
  have hlength : HEADER_LENGTH + BURN_BODY_LENGTH ≤ paddedBytes.length := by decide +kernel
  have hmatch : matchesBridgeAttestation examplePayload (decodeFields (fun _ => paddedHash)
      (bytesToHex paddedBytes) (bytesDigits paddedBytes)) none = true := by
    decide +kernel
  refine ⟨⟨_, decode_bytesToHex _ hlength, hmatch⟩, ?_⟩
  rw [exampleText, drop_bytesToHex, drop_bytesToHex]
  constructor
  · decide +kernel
  · decide +kernel

end WizPay.Bridge
