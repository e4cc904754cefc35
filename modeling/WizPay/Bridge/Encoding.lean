import WizPay.Bridge.Message

/-!
# The bytes of a burn message

A burn message is seventeen big-endian fields of fixed width, a header and a body,
and hook data behind them. Decoding reads each field back from its offset; how
much of a message the decoded fields pin down is settled field by field.
-/

namespace WizPay.Bridge

open Backend

/-! ## Bytes and their digits -/

/-- The last `width` bytes of a number, the most significant first. -/
def bigEndian : ℕ → ℕ → List UInt8
  | 0, _ => []
  | width + 1, value => bigEndian width (value / 256) ++ [UInt8.ofNat (value % 256)]

def byteDigits (byte : UInt8) : List Char :=
  [hexDigit (byte.toNat / 16), hexDigit (byte.toNat % 16)]

/-- Two lower-case digits a byte. -/
def bytesDigits (bytes : List UInt8) : List Char := bytes.flatMap byteDigits

def bytesToHex (bytes : List UInt8) : String := String.ofList ('0' :: 'x' :: bytesDigits bytes)

def pairBytes : List Char → List UInt8
  | high :: low :: rest => UInt8.ofNat (hexValue high * 16 + hexValue low) :: pairBytes rest
  | _ => []

/-- The library's `hexToBytes`, which puts a zero in front of an odd number of digits. -/
def hexToBytes (message : String) : List UInt8 :=
  let digits := message.toList.drop 2
  pairBytes (if digits.length % 2 = 1 then '0' :: digits else digits)

@[simp] theorem bytesDigits_nil : bytesDigits [] = [] := rfl

@[simp] theorem bytesDigits_cons (byte : UInt8) (rest : List UInt8) :
    bytesDigits (byte :: rest) = byteDigits byte ++ bytesDigits rest := rfl

@[simp] theorem bytesDigits_append (first second : List UInt8) :
    bytesDigits (first ++ second) = bytesDigits first ++ bytesDigits second := by
  simp [bytesDigits]

@[simp] theorem length_bytesDigits (bytes : List UInt8) :
    (bytesDigits bytes).length = 2 * bytes.length := by
  induction bytes with
  | nil => rfl
  | cons byte rest ih =>
      rw [bytesDigits_cons, List.length_append, ih, List.length_cons]
      simp only [byteDigits, List.length_cons, List.length_nil]
      omega

@[simp] theorem length_bigEndian (width value : ℕ) : (bigEndian width value).length = width := by
  induction width generalizing value with
  | zero => rfl
  | succ width ih => rw [bigEndian, List.length_append, ih, List.length_singleton]

theorem bytesDigits_isHexDigit (bytes : List UInt8) :
    ∀ c ∈ bytesDigits bytes, isHexDigit c = true := by
  intro c hmember
  obtain ⟨byte, -, hdigit⟩ := List.mem_flatMap.mp hmember
  have hbyte := byte.toNat_lt
  rcases List.mem_cons.mp hdigit with rfl | hlow
  · exact (hexDigit_spec (by omega)).1
  · rw [List.mem_singleton.mp hlow]
    exact (hexDigit_spec (Nat.mod_lt _ (by decide))).1

/-- Two digits a byte are the digits of the number. -/
theorem bytesDigits_bigEndian (width value : ℕ) :
    bytesDigits (bigEndian width value) = hexDigits (2 * width) value := by
  induction width generalizing value with
  | zero => rfl
  | succ width ih =>
      have hbyte : (UInt8.ofNat (value % 256)).toNat = value % 256 := by
        rw [UInt8.toNat_ofNat']
        omega
      have hdouble : 2 * (width + 1) = 2 * width + 1 + 1 := by omega
      rw [bigEndian, bytesDigits_append, ih, hdouble, hexDigits, hexDigits, List.append_assoc]
      simp only [bytesDigits_cons, bytesDigits_nil, List.append_nil, byteDigits, hbyte,
        List.singleton_append]
      rw [Nat.div_div_eq_div_mul]
      congr 3
      · omega
      · congr 1
        omega

theorem hexDigits_add (high low value : ℕ) :
    hexDigits (high + low) value = hexDigits high (value / 16 ^ low) ++ hexDigits low value := by
  induction low generalizing value with
  | zero => simp [hexDigits]
  | succ low ih =>
      rw [← Nat.add_assoc, hexDigits, ih, hexDigits, List.append_assoc, Nat.div_div_eq_div_mul,
        Nat.pow_succ, Nat.mul_comm 16]

/-- The digits behind the `0x`. -/
theorem drop_bytesToHex (bytes : List UInt8) :
    (bytesToHex bytes).toList.drop 2 = bytesDigits bytes := by
  rw [bytesToHex, String.toList_ofList, List.drop_succ_cons, List.drop_succ_cons, List.drop_zero]

theorem pairBytes_bytesDigits (bytes : List UInt8) : pairBytes (bytesDigits bytes) = bytes := by
  induction bytes with
  | nil => rfl
  | cons byte rest ih =>
      have hbyte := byte.toNat_lt
      have hvalue : hexValue (hexDigit (byte.toNat / 16)) * 16 +
          hexValue (hexDigit (byte.toNat % 16)) = byte.toNat := by
        rw [(hexDigit_spec (by omega)).2, (hexDigit_spec (Nat.mod_lt _ (by decide))).2]
        omega
      rw [bytesDigits_cons, byteDigits, List.cons_append, List.singleton_append, pairBytes, ih,
        hvalue, UInt8.ofNat_toNat]

/-- Bytes survive being written in digits and read back. -/
theorem hexToBytes_bytesToHex (bytes : List UInt8) : hexToBytes (bytesToHex bytes) = bytes := by
  have heven : (bytesDigits bytes).length % 2 ≠ 1 := by
    rw [length_bytesDigits]
    omega
  rw [hexToBytes, drop_bytesToHex, if_neg heven, pairBytes_bytesDigits]

/-- Bytes are dropped by two digits each. -/
theorem drop_bytesDigits (bytes : List UInt8) (offset : ℕ) :
    (bytesDigits bytes).drop (offset * 2) = bytesDigits (bytes.drop offset) := by
  induction offset generalizing bytes with
  | zero => rfl
  | succ offset ih =>
      cases bytes with
      | nil => rfl
      | cons byte rest =>
          rw [Nat.succ_mul, bytesDigits_cons, List.drop_succ_cons, ← ih rest]
          rfl

/-! ## Cutting a text into fields -/

/-- Consecutive pieces of the given widths in bytes, two digits a byte. -/
def cut : List ℕ → List Char → List (List Char)
  | [], _ => []
  | width :: widths, digits => digits.take (width * 2) :: cut widths (digits.drop (width * 2))

/-- Fields of given widths, one behind the other. -/
def encodeFields (fields : List (ℕ × ℕ)) : List UInt8 :=
  fields.flatMap fun field => bigEndian field.1 field.2

@[simp] theorem encodeFields_cons (field : ℕ × ℕ) (fields : List (ℕ × ℕ)) :
    encodeFields (field :: fields) = bigEndian field.1 field.2 ++ encodeFields fields := rfl

theorem length_encodeFields (fields : List (ℕ × ℕ)) :
    (encodeFields fields).length = (fields.map Prod.fst).sum := by
  induction fields with
  | nil => rfl
  | cons field fields ih =>
      rw [encodeFields_cons, List.length_append, length_bigEndian, ih, List.map_cons, List.sum_cons]

/-- Cutting an encoding gives the digits of every field, whatever follows it. -/
theorem cut_encodeFields (fields : List (ℕ × ℕ)) (rest : List Char) :
    cut (fields.map Prod.fst) (bytesDigits (encodeFields fields) ++ rest) =
      fields.map fun field => hexDigits (2 * field.1) field.2 := by
  induction fields with
  | nil => rfl
  | cons field fields ih =>
      have hlength : (hexDigits (2 * field.1) field.2).length = field.1 * 2 := by
        rw [hexDigits_length, Nat.mul_comm]
      rw [List.map_cons, cut, encodeFields_cons, bytesDigits_append, bytesDigits_bigEndian,
        List.append_assoc, List.take_left' hlength, List.drop_left' hlength, ih, List.map_cons]

theorem flatten_cut (widths : List ℕ) (digits : List Char) :
    (cut widths digits).flatten = digits.take (widths.sum * 2) := by
  induction widths generalizing digits with
  | nil => simp [cut]
  | cons width widths ih =>
      rw [cut, List.flatten_cons, ih, List.sum_cons, Nat.add_mul, List.take_add]

theorem cut_map (f : Char → Char) (widths : List ℕ) (digits : List Char) :
    cut widths (digits.map f) = (cut widths digits).map (List.map f) := by
  induction widths generalizing digits with
  | nil => rfl
  | cons width widths ih =>
      rw [cut, cut, ← List.map_take, ← List.map_drop, ih, List.map_cons]

/-- A text starts with an encoding, letter case aside, exactly when its pieces are the digits
of the fields. -/
theorem lower_eq_encodeFields_iff (fields : List (ℕ × ℕ)) (digits : List Char) :
    (digits.take ((fields.map Prod.fst).sum * 2)).map Char.toLower =
        bytesDigits (encodeFields fields) ↔
      (cut (fields.map Prod.fst) digits).map (List.map Char.toLower) =
        fields.map fun field => hexDigits (2 * field.1) field.2 := by
  constructor
  · intro hstart
    have hsplit : digits.map Char.toLower = bytesDigits (encodeFields fields) ++
        (digits.drop ((fields.map Prod.fst).sum * 2)).map Char.toLower := by
      rw [← hstart, ← List.map_append, List.take_append_drop]
    rw [← cut_map, hsplit, cut_encodeFields]
  · intro hpieces
    rw [← flatten_cut, List.map_flatten, hpieces]
    -- the pieces of an encoding make it up again
    have hcut := cut_encodeFields fields []
    rw [List.append_nil] at hcut
    rw [← hcut, flatten_cut, List.take_of_length_le]
    rw [length_bytesDigits, length_encodeFields, Nat.mul_comm]

/-! ## Burn messages -/

/-- The fields of a burn message, each a number of its own width. -/
structure BurnMessage where
  version : BitVec 32
  sourceDomain : BitVec 32
  destinationDomain : BitVec 32
  nonce : BitVec 256
  sender : Evm.Address
  recipient : Evm.Address
  destinationCaller : Evm.Address
  minFinalityThreshold : BitVec 32
  finalityThresholdExecuted : BitVec 32
  burnVersion : BitVec 32
  burnToken : Evm.Address
  mintRecipient : Evm.Address
  amount : BitVec 256
  messageSender : Evm.Address
  maxFee : BitVec 256
  feeExecuted : BitVec 256
  expirationBlock : BitVec 256

/-- The layout: an address fills thirty-two bytes, zeros first. -/
def BurnMessage.fields (burn : BurnMessage) : List (ℕ × ℕ) :=
  [(4, burn.version.toNat), (4, burn.sourceDomain.toNat), (4, burn.destinationDomain.toNat),
    (32, burn.nonce.toNat), (32, burn.sender.toNat), (32, burn.recipient.toNat),
    (32, burn.destinationCaller.toNat), (4, burn.minFinalityThreshold.toNat),
    (4, burn.finalityThresholdExecuted.toNat), (4, burn.burnVersion.toNat),
    (32, burn.burnToken.toNat), (32, burn.mintRecipient.toNat), (32, burn.amount.toNat),
    (32, burn.messageSender.toNat), (32, burn.maxFee.toNat), (32, burn.feeExecuted.toNat),
    (32, burn.expirationBlock.toNat)]

/-- The canonical bytes of the header and the body. -/
def BurnMessage.encode (burn : BurnMessage) : List UInt8 := encodeFields burn.fields

/-- What the fields decode to. -/
def BurnMessage.decoded (burn : BurnMessage) (messageHash : String) : DecodedCctpMessage where
  version := burn.version.toNat
  sourceDomain := burn.sourceDomain.toNat
  destinationDomain := burn.destinationDomain.toNat
  nonce := String.ofList ('0' :: 'x' :: hexDigits 64 burn.nonce.toNat)
  sender := burn.sender
  recipient := burn.recipient
  destinationCaller := burn.destinationCaller
  minFinalityThreshold := burn.minFinalityThreshold.toNat
  finalityThresholdExecuted := burn.finalityThresholdExecuted.toNat
  burnVersion := burn.burnVersion.toNat
  burnToken := burn.burnToken
  mintRecipient := burn.mintRecipient
  amount := burn.amount.toNat
  messageSender := burn.messageSender
  maxFee := burn.maxFee.toNat
  feeExecuted := burn.feeExecuted.toNat
  expirationBlock := burn.expirationBlock.toNat
  messageHash := messageHash

def layout : List ℕ := [4, 4, 4, 32, 32, 32, 32, 4, 4, 4, 32, 32, 32, 32, 32, 32, 32]

theorem layout_sum : layout.sum = HEADER_LENGTH + BURN_BODY_LENGTH := by decide

theorem BurnMessage.fields_layout (burn : BurnMessage) : burn.fields.map Prod.fst = layout := rfl

theorem BurnMessage.length_encode (burn : BurnMessage) :
    burn.encode.length = HEADER_LENGTH + BURN_BODY_LENGTH := by
  rw [BurnMessage.encode, length_encodeFields, burn.fields_layout, layout_sum]

/-- Cut by the layout, a text falls into the slices that the decoder reads. -/
theorem cut_layout (digits : List Char) : cut layout digits =
    [sliceBytes digits 0 4, sliceBytes digits 4 4, sliceBytes digits 8 4,
      sliceBytes digits 12 32, sliceBytes digits 44 32, sliceBytes digits 76 32,
      sliceBytes digits 108 32, sliceBytes digits 140 4, sliceBytes digits 144 4,
      sliceBytes digits HEADER_LENGTH 4, sliceBytes digits (HEADER_LENGTH + 4) 32,
      sliceBytes digits (HEADER_LENGTH + 36) 32, sliceBytes digits (HEADER_LENGTH + 68) 32,
      sliceBytes digits (HEADER_LENGTH + 100) 32, sliceBytes digits (HEADER_LENGTH + 132) 32,
      sliceBytes digits (HEADER_LENGTH + 164) 32, sliceBytes digits (HEADER_LENGTH + 196) 32] := by
  simp [cut, layout, sliceBytes, HEADER_LENGTH]

theorem readNumber_eq {digits : List Char} {offset length value : ℕ}
    (hslice : sliceBytes digits offset length = hexDigits (2 * length) value)
    (hvalue : value < 16 ^ (2 * length)) : readNumber digits offset length = value := by
  rw [readNumber, hslice, hexNat_hexDigits hvalue]

/-- An address is read from the last twenty bytes of its word. -/
theorem readAddress_eq {digits : List Char} {offset : ℕ} {address : Evm.Address}
    (hslice : sliceBytes digits offset 32 = hexDigits (2 * 32) address.toNat) :
    readAddress digits offset = address := by
  have hlow : (hexDigits (24 + 40) address.toNat).drop 24 = hexDigits 40 address.toNat := by
    rw [hexDigits_add, List.drop_left' (hexDigits_length _ _)]
  have hbound : address.toNat < 16 ^ 40 := address.isLt
  rw [readAddress, hslice, hlow, hexNat_hexDigits hbound, BitVec.ofNat_toNat, BitVec.setWidth_eq]

/-- The canonical bytes decode to their fields, whatever hook data follows. -/
theorem decodeFields_encode (keccak256 : String → String) (message : String) (burn : BurnMessage)
    (hook : List UInt8) :
    decodeFields keccak256 message (bytesDigits (burn.encode ++ hook)) =
      burn.decoded (keccak256 message) := by
  have hcut := cut_encodeFields burn.fields (bytesDigits hook)
  rw [burn.fields_layout, ← BurnMessage.encode, ← bytesDigits_append, cut_layout] at hcut
  simp only [BurnMessage.fields, List.map_cons, List.map_nil, List.cons.injEq, and_true] at hcut
  obtain ⟨hversion, hsource, hdestination, hnonce, hsender, hrecipient, hcaller, hmin, hexecuted,
    hburn, htoken, hmint, hamount, hmessageSender, hmaxFee, hfee, hexpiration⟩ := hcut
  have hnarrow (value : BitVec 32) : value.toNat < 16 ^ (2 * 4) := value.isLt
  have hwide (value : BitVec 256) : value.toNat < 16 ^ (2 * 32) := value.isLt
  rw [decodeFields, BurnMessage.decoded, readNumber_eq hversion (hnarrow _),
    readNumber_eq hsource (hnarrow _), readNumber_eq hdestination (hnarrow _), hnonce,
    readAddress_eq hsender, readAddress_eq hrecipient, readAddress_eq hcaller,
    readNumber_eq hmin (hnarrow _), readNumber_eq hexecuted (hnarrow _),
    readNumber_eq hburn (hnarrow _), readAddress_eq htoken, readAddress_eq hmint,
    readNumber_eq hamount (hwide _), readAddress_eq hmessageSender,
    readNumber_eq hmaxFee (hwide _), readNumber_eq hfee (hwide _),
    readNumber_eq hexpiration (hwide _)]

/-! ## What is decoded -/

/-- Hex digits for a whole number of bytes, at least the header and the body. -/
def WellFormed (message : String) : Prop :=
  ∃ digits, message = String.ofList ('0' :: 'x' :: digits) ∧ (∀ c ∈ digits, isHexDigit c = true) ∧
    2 ∣ digits.length ∧ 752 ≤ digits.length

/-- Enough hex digits, and half a byte too many. -/
def HalfByte (message : String) : Prop :=
  ∃ digits, message = String.ofList ('0' :: 'x' :: digits) ∧ (∀ c ∈ digits, isHexDigit c = true) ∧
    ¬ 2 ∣ digits.length ∧ 752 ≤ digits.length

theorem isHex_iff {message : String} : isHex message = true ↔
    ∃ digits, message = String.ofList ('0' :: 'x' :: digits) ∧
      ∀ c ∈ digits, isHexDigit c = true := by
  unfold isHex
  constructor
  · intro hhex
    split at hhex
    · next digits hchars =>
        exact ⟨digits, by rw [← hchars, String.ofList_toList], List.all_eq_true.mp hhex⟩
    · cases hhex
  · rintro ⟨digits, rfl, hdigits⟩
    simpa using hdigits

/-- A message decodes when it has enough digits; nothing asks for whole bytes. -/
theorem decodes_iff (keccak256 : String → String) (message : String) :
    (∃ decoded, decodeCctpV2Message keccak256 message = .ok decoded) ↔
      ∃ digits, message = String.ofList ('0' :: 'x' :: digits) ∧
        (∀ c ∈ digits, isHexDigit c = true) ∧ 752 ≤ digits.length := by
  constructor
  · rintro ⟨decoded, hdecoded⟩
    unfold decodeCctpV2Message at hdecoded
    dsimp only at hdecoded
    split at hdecoded
    · cases hdecoded
    · next hcheck =>
        obtain ⟨hhex, hlength⟩ := not_or.mp hcheck
        obtain ⟨digits, rfl, hdigits⟩ := isHex_iff.mp (Bool.not_eq_false _ ▸ hhex)
        rw [String.toList_ofList] at hlength
        exact ⟨digits, rfl, hdigits, Nat.le_of_not_lt hlength⟩
  · rintro ⟨digits, rfl, hdigits, hlength⟩
    exact ⟨_, decode_ofList keccak256 (List.all_eq_true.mpr hdigits) hlength⟩

theorem decode_bytesToHex (keccak256 : String → String) {bytes : List UInt8}
    (hlength : HEADER_LENGTH + BURN_BODY_LENGTH ≤ bytes.length) :
    decodeCctpV2Message keccak256 (bytesToHex bytes) =
      .ok (decodeFields keccak256 (bytesToHex bytes) (bytesDigits bytes)) := by
  have hdigits := List.all_eq_true.mpr (bytesDigits_isHexDigit bytes)
  have hlong : (HEADER_LENGTH + BURN_BODY_LENGTH) * 2 ≤ (bytesDigits bytes).length := by
    rw [length_bytesDigits]
    omega
  rw [bytesToHex, decode_ofList keccak256 hdigits hlong]

theorem decodes_encode (keccak256 : String → String) (burn : BurnMessage) (hook : List UInt8) :
    decodeCctpV2Message keccak256 (bytesToHex (burn.encode ++ hook)) =
      .ok (burn.decoded (keccak256 (bytesToHex (burn.encode ++ hook)))) := by
  have hlength : HEADER_LENGTH + BURN_BODY_LENGTH ≤ (burn.encode ++ hook).length := by
    rw [List.length_append, burn.length_encode]
    omega
  rw [decode_bytesToHex keccak256 hlength, decodeFields_encode]

theorem bodyText_bytesToHex (bytes : List UInt8) :
    bodyText (bytesToHex bytes) = bytesToHex (bytes.drop HEADER_LENGTH) := by
  have hdrop : ('0' :: 'x' :: bytesDigits bytes).drop (2 + HEADER_LENGTH * 2) =
      (bytesDigits bytes).drop (HEADER_LENGTH * 2) := by
    rw [Nat.add_comm, List.drop_succ_cons, List.drop_succ_cons]
  rw [bodyText, bytesToHex, bytesToHex, String.toList_ofList, hdrop, drop_bytesDigits]

theorem drop_pairBytes (digits : List Char) (offset : ℕ) :
    pairBytes (digits.drop (offset * 2)) = (pairBytes digits).drop offset := by
  induction offset generalizing digits with
  | zero => rw [Nat.zero_mul, List.drop_zero, List.drop_zero]
  | succ offset ih =>
      match digits with
      | [] => simp [pairBytes]
      | [_] => simp [pairBytes, Nat.succ_mul]
      | high :: low :: rest =>
          rw [Nat.succ_mul, List.drop_succ_cons, List.drop_succ_cons, ih, pairBytes,
            List.drop_succ_cons]

/-- Of whole bytes, the body is what stands behind the header. -/
theorem hexToBytes_bodyText {digits : List Char} (hwhole : 2 ∣ digits.length)
    (hlength : 752 ≤ digits.length) :
    hexToBytes (bodyText (String.ofList ('0' :: 'x' :: digits))) =
      (hexToBytes (String.ofList ('0' :: 'x' :: digits))).drop HEADER_LENGTH := by
  have hdrop : ('0' :: 'x' :: digits).drop (2 + HEADER_LENGTH * 2) =
      digits.drop (HEADER_LENGTH * 2) := by
    rw [Nat.add_comm, List.drop_succ_cons, List.drop_succ_cons]
  have hbody : ¬ (digits.drop (HEADER_LENGTH * 2)).length % 2 = 1 := by
    rw [List.length_drop, HEADER_LENGTH]
    omega
  have hmessage : ¬ digits.length % 2 = 1 := by omega
  simp only [bodyText, hexToBytes, String.toList_ofList, hdrop, List.drop_succ_cons,
    List.drop_zero]
  rw [if_neg hbody, if_neg hmessage, drop_pairBytes]

/-- What the decoder accepts, and what it makes of whole bytes: the fields of the canonical
bytes whatever hook data follows, the body behind the header, and the hash of the bytes. -/
theorem decode_whole_bytes_iff (keccak256 : String → String) (hash : List UInt8 → String)
    (hkeccak : ∀ message, isHex message = true → keccak256 message = hash (hexToBytes message)) :
    (∀ message, ((∃ decoded, decodeCctpV2Message keccak256 message = .ok decoded) ↔
        WellFormed message) ↔ ¬ HalfByte message) ∧
    (∀ (burn : BurnMessage) (hook : List UInt8),
      decodeCctpV2Message keccak256 (bytesToHex (burn.encode ++ hook)) =
          .ok (burn.decoded (hash (burn.encode ++ hook))) ∧
        cctpMessageBody keccak256 (bytesToHex (burn.encode ++ hook)) =
          .ok (bytesToHex ((burn.encode ++ hook).drop HEADER_LENGTH))) ∧
    ∀ message, WellFormed message → ∃ decoded body,
      decodeCctpV2Message keccak256 message = .ok decoded ∧
        decoded.messageHash = hash (hexToBytes message) ∧
        cctpMessageBody keccak256 message = .ok body ∧
        hexToBytes body = (hexToBytes message).drop HEADER_LENGTH := by
  refine ⟨fun message => ?_, fun burn hook => ?_, fun message hwell => ?_⟩
  · rw [decodes_iff]
    constructor
    · rintro hiff ⟨digits, rfl, hdigits, hodd, hlength⟩
      obtain ⟨other, hother, -, heven, -⟩ := hiff.mp ⟨digits, rfl, hdigits, hlength⟩
      have hsame := congrArg String.toList hother
      simp only [String.toList_ofList, List.cons.injEq, true_and] at hsame
      exact hodd (hsame ▸ heven)
    · intro hwhole
      constructor
      · rintro ⟨digits, rfl, hdigits, hlength⟩
        exact ⟨digits, rfl, hdigits,
          by_contra fun hodd => hwhole ⟨digits, rfl, hdigits, hodd, hlength⟩, hlength⟩
      · rintro ⟨digits, rfl, hdigits, -, hlength⟩
        exact ⟨digits, rfl, hdigits, hlength⟩
  · have hhex : isHex (bytesToHex (burn.encode ++ hook)) = true :=
      isHex_iff.mpr ⟨_, rfl, bytesDigits_isHexDigit _⟩
    have hdecodes := decodes_encode keccak256 burn hook
    rw [hkeccak _ hhex, hexToBytes_bytesToHex] at hdecodes
    refine ⟨hdecodes, ?_⟩
    rw [cctpMessageBody, hdecodes, ← bodyText_bytesToHex]
    rfl
  · obtain ⟨digits, rfl, hdigits, hwhole, hlength⟩ := hwell
    have hhex := isHex_iff.mpr ⟨digits, rfl, hdigits⟩
    have hdecodes := decode_ofList keccak256 (List.all_eq_true.mpr hdigits) hlength
    refine ⟨_, _, hdecodes, hkeccak _ hhex, ?_, hexToBytes_bodyText hwhole hlength⟩
    rw [cctpMessageBody, hdecodes]
    rfl

/-- A burn of one dollar from Arc to Base. -/
def exampleBurn : BurnMessage where
  version := 1
  sourceDomain := 26
  destinationDomain := 6
  nonce := 0x1234
  sender := 0x28b5a0e9C621a5BadaA536219b3a228C8168cf5d
  recipient := 0x28b5a0e9C621a5BadaA536219b3a228C8168cf5d
  destinationCaller := 0
  minFinalityThreshold := 2000
  finalityThresholdExecuted := 2000
  burnVersion := 1
  burnToken := 0x3600000000000000000000000000000000000000
  mintRecipient := 0x2222222222222222222222222222222222222222
  amount := 1000000
  messageSender := 0x1111111111111111111111111111111111111111
  maxFee := 1000
  feeExecuted := 500
  expirationBlock := 0

/-- The hash of those bytes. -/
def exampleBurnHash : String :=
  "0x5047bdf0929d46b7390e80f15252b84b50f0ea95b2edffa94be3ca183d80eb4d"

theorem decode_whole_bytes_iff_burn :
    decodeCctpV2Message (fun _ => exampleBurnHash) (bytesToHex (exampleBurn.encode ++ [])) =
      .ok (exampleBurn.decoded exampleBurnHash) :=
  ((decode_whole_bytes_iff (fun _ => exampleBurnHash) (fun _ => exampleBurnHash)
    (fun _ _ => rfl)).2.1 exampleBurn []).1

/-- A zero digit behind the zero bytes of a message is accepted. -/
theorem decodes_half_byte :
    (∃ decoded, decodeCctpV2Message
        (fun _ => "0x51bbee1026d16b1000f97b0ad2e155acc3b2212da0bf43b93d98e9dc981b55d4")
        (String.ofList ('0' :: 'x' :: List.replicate 753 '0')) = .ok decoded) ∧
      ¬ WellFormed (String.ofList ('0' :: 'x' :: List.replicate 753 '0')) := by
  have hdigits : ∀ c ∈ List.replicate 753 '0', isHexDigit c = true := by
    intro c hmember
    rw [List.eq_of_mem_replicate hmember]
    rfl
  constructor
  · exact (decodes_iff _ _).mpr ⟨_, rfl, hdigits, by rw [List.length_replicate]; decide⟩
  · rintro ⟨digits, hsame, -, heven, -⟩
    have hsame := congrArg String.toList hsame
    simp only [String.toList_ofList, List.cons.injEq, true_and] at hsame
    rw [← hsame, List.length_replicate] at heven
    revert heven
    decide

end WizPay.Bridge
