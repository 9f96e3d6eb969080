import Mathlib.Data.Nat.Digits
import VumiSmpp.Submit.Basic

/-!
# The USSD session number on the wire

`update_ussd_pdu` reads `session_info` with `int(·, 16)` and sets `its_session_info` to
`"%04x" % (number + int(not continue_session))`. The text it sets reads back with the same
`int(·, 16)` as the number it computed, for every number, negative ones included
(`updateUssdPdu_session_round_trip`): passed back as the next `session_info`, it gives the
session number and nothing else. `"%04x"` is Python's: a minus sign for a negative number,
then the lowercase digits of its magnitude, zero-padded after the sign to four characters. So
the text is four lowercase hexadecimal digits, the two octets of the field, exactly for the
numbers in `[0, 0xffff]` (`updateUssdPdu_four_hex_digits`): ending a session `ffff` writes
five.
-/

namespace VumiSmpp.Client

/-! ## The digits -/

/-- The byte of the digit `Nat.digitChar` writes. -/
def digitByte (digit : Nat) : UInt8 :=
  (Nat.digitChar digit).toNat.toUInt8

/-- A byte `int(·, 16)` reads as part of a number and never as a blank, a sign or the `x` of
`0x`. -/
def Plain (byte : UInt8) : Prop :=
  isSpace byte = false ∧ byte ≠ 45 ∧ byte ≠ 43 ∧ byte ≠ 120 ∧ byte ≠ 88

/-- A digit's byte reads back as the digit, and is plain. -/
theorem digitByte_read : ∀ digit, digit < 16 →
    hexDigit? (digitByte digit) = some digit ∧ Plain (digitByte digit) := by
  unfold Plain
  decide

/-- `'0'` is plain. -/
theorem plain_zero : Plain 48 := by
  unfold Plain
  decide

/-- `Nat.toDigits` with enough fuel writes the digits of the number, most significant first,
before what it was given: at least one digit, each below sixteen, the number their value. -/
theorem toDigitsCore_eq : ∀ (fuel value : Nat) (rest : List Char), value < fuel →
    ∃ digits : List Nat, (∀ digit ∈ digits, digit < 16) ∧ digits ≠ [] ∧
      Nat.toDigitsCore 16 fuel value rest = digits.map Nat.digitChar ++ rest ∧
      digits.foldl (fun number digit => number * 16 + digit) 0 = value
  | 0, _, _, impossible => absurd impossible (Nat.not_lt_zero _)
  | fuel + 1, value, rest, enough => by
    unfold Nat.toDigitsCore
    dsimp only
    split
    case isTrue last =>
      refine ⟨[value % 16], by simp [Nat.mod_lt], by simp, rfl, ?_⟩
      simp only [List.foldl_cons, List.foldl_nil]
      omega
    case isFalse more =>
      obtain ⟨digits, small, nonempty, written, valued⟩ :=
        toDigitsCore_eq fuel (value / 16) (Nat.digitChar (value % 16) :: rest) (by omega)
      refine ⟨digits ++ [value % 16], ?_, by simp, by simp [written], ?_⟩
      · intro digit mem
        rcases List.mem_append.1 mem with old | last
        · exact small digit old
        · rw [List.mem_singleton.1 last]
          exact Nat.mod_lt _ (by decide)
      · rw [List.foldl_append, valued, List.foldl_cons, List.foldl_nil]
        omega

/-- Reading digits' bytes from a value `acc` gives the value of the digits after it. -/
theorem hexValue_digitBytes (acc : Nat) : ∀ digits : List Nat, (∀ digit ∈ digits, digit < 16) →
    (digits.map digitByte).foldlM (fun value digit => (hexDigit? digit).map (value * 16 + ·)) acc =
      some (digits.foldl (fun number digit => number * 16 + digit) acc)
  | [], _ => rfl
  | digit :: digits, small => by
    rw [List.map_cons, List.foldlM_cons, (digitByte_read digit (small digit (by simp))).1]
    exact hexValue_digitBytes _ digits fun other mem => small other (by simp [mem])

/-- `'%x' % value` writes the bytes of the number's digits: at least one, each below sixteen,
their value the number. -/
theorem hexDigits_eq (value : Nat) :
    ∃ digits : List Nat, (∀ digit ∈ digits, digit < 16) ∧ digits ≠ [] ∧
      hexDigits value = digits.map digitByte ∧
      digits.foldl (fun number digit => number * 16 + digit) 0 = value := by
  obtain ⟨digits, small, nonempty, written, valued⟩ :=
    toDigitsCore_eq (value + 1) value [] (Nat.lt_succ_self _)
  exact ⟨digits, small, nonempty, by simp [hexDigits, Nat.toDigits, written, digitByte], valued⟩

/-- The digits of a number: at least one, each a plain byte, reading back as the number. -/
theorem hexDigits_read (value : Nat) :
    hexDigits value ≠ [] ∧ (∀ byte ∈ hexDigits value, Plain byte) ∧
      hexValue? (hexDigits value) = some value := by
  obtain ⟨digits, small, nonempty, bytes, valued⟩ := hexDigits_eq value
  refine ⟨by simpa [bytes] using nonempty, ?_, ?_⟩
  · rw [bytes]
    simp only [List.mem_map]
    rintro _ ⟨digit, mem, rfl⟩
    exact (digitByte_read digit (small digit mem)).2
  · rw [bytes, hexValue?, hexValue_digitBytes 0 digits small, valued]

/-- Leading zeros add nothing to the value. -/
theorem hexValue_zeros (count : Nat) (digits : Bytes) :
    hexValue? (List.replicate count 48 ++ digits) = hexValue? digits := by
  unfold hexValue?
  rw [List.foldlM_append]
  induction count with
  | zero => rfl
  | succ count ih => simpa [List.replicate_succ, hexDigit?] using ih

/-! ## The width -/

/-- A lowercase hexadecimal digit, as `"%04x"` writes them. -/
def isLowerHex (byte : UInt8) : Bool :=
  (48 ≤ byte && byte ≤ 57) || (97 ≤ byte && byte ≤ 102)

/-- A digit's byte is a lowercase hexadecimal digit. -/
theorem digitByte_lowerHex : ∀ digit, digit < 16 → isLowerHex (digitByte digit) = true := by
  decide

/-- Digits below sixteen after a value `acc` read as less than `(acc + 1) * 16 ^ count`. -/
theorem foldl_digits_lt (acc : Nat) : ∀ digits : List Nat, (∀ digit ∈ digits, digit < 16) →
    digits.foldl (fun number digit => number * 16 + digit) acc < (acc + 1) * 16 ^ digits.length
  | [], _ => by simp
  | digit :: digits, small => by
    have head := small digit (List.mem_cons_self _ _)
    calc (digit :: digits).foldl (fun number digit => number * 16 + digit) acc
        = digits.foldl (fun number digit => number * 16 + digit) (acc * 16 + digit) := rfl
      _ < (acc * 16 + digit + 1) * 16 ^ digits.length :=
        foldl_digits_lt _ digits fun other mem => small other (List.mem_cons_of_mem _ mem)
      _ ≤ (acc + 1) * 16 * 16 ^ digits.length := Nat.mul_le_mul_right _ (by omega)
      _ = (acc + 1) * 16 ^ (digit :: digits).length := by
        rw [List.length_cons, Nat.pow_succ, Nat.mul_comm (16 ^ _) 16, Nat.mul_assoc]

/-- A number has at most four hexadecimal digits exactly when it is below `0x10000`. -/
theorem hexDigits_length_le_four (value : Nat) :
    (hexDigits value).length ≤ 4 ↔ value < 0x10000 := by
  obtain ⟨digits, small, -, bytes, valued⟩ := hexDigits_eq value
  constructor
  · intro four
    rw [bytes, List.length_map] at four
    calc value < (0 + 1) * 16 ^ digits.length := valued ▸ foldl_digits_lt 0 digits small
      _ ≤ 16 ^ 4 := by rw [Nat.zero_add, Nat.one_mul]; exact Nat.pow_le_pow_right (by decide) four
      _ = 0x10000 := by norm_num
  · intro below
    rw [hexDigits, List.length_map]
    exact Nat.toDigitsCore_length 16 (by decide) (value + 1) value 4 (by norm_num [below])
      (by decide)

/-- `"%04x" % value` is four lowercase hexadecimal digits exactly when `0 ≤ value < 0x10000`:
from `0x10000` on it is longer, and a negative value has a minus sign. -/
theorem formatHex04_four_digits (value : Int) :
    ((formatHex04 value).length = 4 ∧ ∀ byte ∈ formatHex04 value, isLowerHex byte = true) ↔
      0 ≤ value ∧ value < 0x10000 := by
  unfold formatHex04
  dsimp only
  split
  case isTrue negative =>
    refine ⟨fun ⟨_, lower⟩ => absurd (lower 45 (List.mem_cons_self _ _)) (by decide), ?_⟩
    rintro ⟨nonnegative, -⟩
    omega
  case isFalse nonnegative =>
    obtain ⟨digits, small, -, bytes, -⟩ := hexDigits_eq value.natAbs
    have lower : ∀ byte ∈ List.replicate (4 - (hexDigits value.natAbs).length) 48 ++
        hexDigits value.natAbs, isLowerHex byte = true := by
      intro byte mem
      rcases List.mem_append.1 mem with zero | written
      · rw [List.eq_of_mem_replicate zero]
        rfl
      · rw [bytes] at written
        obtain ⟨digit, listed, rfl⟩ := List.mem_map.1 written
        exact digitByte_lowerHex digit (small digit listed)
    have width := hexDigits_length_le_four value.natAbs
    rw [List.length_append, List.length_replicate]
    constructor
    · rintro ⟨four, -⟩
      have below := width.1 (by omega)
      omega
    · rintro ⟨-, below⟩
      have four := width.2 (by omega)
      exact ⟨by omega, lower⟩

/-- The sign `int(·, 16)` reads off the trimmed text, and what follows it. -/
def readSign : Bytes → Bool × Bytes
  | 45 :: rest => (true, rest.dropWhile isSpace)
  | 43 :: rest => (false, rest.dropWhile isSpace)
  | rest => (false, rest)

/-- The digits after an optional `0x`. -/
def strip0x (unsigned : Bytes) : Bytes :=
  match unsigned with
  | 48 :: 120 :: rest | 48 :: 88 :: rest => if rest.isEmpty then unsigned else rest
  | _ => unsigned

/-- `parseInt16` in the steps it takes: trim, read the sign, strip `0x`, read the digits. -/
theorem parseInt16_eq (text : Bytes) : parseInt16 text =
    let core := ((text.dropWhile isSpace).reverse.dropWhile isSpace).reverse
    let digits := strip0x (readSign core).2
    if digits.isEmpty then none
    else (hexValue? digits).map fun value => if (readSign core).1 then -(value : Int) else value :=
  rfl

/-- No blank to drop from text without blanks. -/
theorem dropWhile_free {bytes : Bytes} (free : ∀ byte ∈ bytes, isSpace byte = false) :
    bytes.dropWhile isSpace = bytes := by
  cases bytes with
  | nil => rfl
  | cons byte rest => simp [List.dropWhile_cons, free byte (by simp)]

/-- Text without blanks is its own trim. -/
theorem trim_free {bytes : Bytes} (free : ∀ byte ∈ bytes, isSpace byte = false) :
    ((bytes.dropWhile isSpace).reverse.dropWhile isSpace).reverse = bytes := by
  rw [dropWhile_free free, dropWhile_free (by simpa using free), List.reverse_reverse]

/-- A plain first byte is no sign. -/
theorem readSign_plain {first : UInt8} {rest : Bytes} (plain : Plain first) :
    readSign (first :: rest) = (false, first :: rest) := by
  unfold readSign
  split
  · next same => exact absurd (List.cons.inj same).1 plain.2.1
  · next same => exact absurd (List.cons.inj same).1 plain.2.2.1
  · rfl

/-- Plain bytes have no `0x` to strip. -/
theorem strip0x_plain {bytes : Bytes} (plain : ∀ byte ∈ bytes, Plain byte) :
    strip0x bytes = bytes := by
  unfold strip0x
  split <;> simp_all [Plain]

/-- `int(digits, 16)` for plain bytes, at least one: their value. -/
theorem parseInt16_plain {digits : Bytes} (plain : ∀ byte ∈ digits, Plain byte)
    (nonempty : digits ≠ []) :
    parseInt16 digits = (hexValue? digits).map fun value => (value : Int) := by
  obtain ⟨first, rest, rfl⟩ := List.exists_cons_of_ne_nil nonempty
  simp only [parseInt16_eq, trim_free fun byte mem => (plain byte mem).1,
    readSign_plain (plain first (List.mem_cons_self _ _)), strip0x_plain plain,
    List.isEmpty_cons, Bool.false_eq_true, if_false]

/-- `int('-' + digits, 16)` for plain bytes, at least one: their value, negated. -/
theorem parseInt16_minus_plain {digits : Bytes} (plain : ∀ byte ∈ digits, Plain byte)
    (nonempty : digits ≠ []) :
    parseInt16 (45 :: digits) = (hexValue? digits).map fun value => -(value : Int) := by
  obtain ⟨first, rest, rfl⟩ := List.exists_cons_of_ne_nil nonempty
  have free : ∀ byte ∈ (45 :: first :: rest : Bytes), isSpace byte = false := by
    intro byte mem
    rcases List.mem_cons.1 mem with rfl | mem
    exacts [rfl, (plain byte mem).1]
  have signed : readSign (45 :: first :: rest) = (true, first :: rest) := by
    rw [readSign, dropWhile_free fun byte mem => (plain byte mem).1]
  simp only [parseInt16_eq, trim_free free, signed, strip0x_plain plain, List.isEmpty_cons,
    Bool.false_eq_true, if_false, if_true]

/-- `int("%04x" % value, 16) == value`, for every integer. -/
theorem parseInt16_formatHex04 (value : Int) : parseInt16 (formatHex04 value) = some value := by
  obtain ⟨nonempty, plain, read⟩ := hexDigits_read value.natAbs
  have padded : ∀ count, ∀ byte ∈ List.replicate count 48 ++ hexDigits value.natAbs,
      Plain byte := by
    intro count byte mem
    rcases List.mem_append.1 mem with zero | digit
    · rw [List.eq_of_mem_replicate zero]
      exact plain_zero
    · exact plain byte digit
  unfold formatHex04
  dsimp only
  split
  case isTrue negative =>
    rw [parseInt16_minus_plain (padded _) (by simp [nonempty]), hexValue_zeros, read]
    exact congrArg some (show -(value.natAbs : Int) = value by omega)
  case isFalse nonnegative =>
    rw [parseInt16_plain (padded _) (by simp [nonempty]), hexValue_zeros, read]
    exact congrArg some (show (value.natAbs : Int) = value by omega)

/-- The `its_session_info` text `update_ussd_pdu` sets reads back with the code's own
`int(·, 16)`, passed as the next `session_info`, as the number it computed: the number read
from `session_info` (`0000` for `None`), plus one when `continue_session` is false. -/
theorem updateUssdPdu_session_round_trip {continueSession sessionInfo : Value}
    {pdu after : SubmitSm} (updated : updateUssdPdu continueSession sessionInfo pdu = some after) :
    ∃ number text, sessionNumber? sessionInfo = some number ∧
      after.itsSessionInfoText = some text ∧
      sessionNumber? (.str text) = some (number + if continueSession.truthy then 0 else 1) := by
  obtain ⟨number, read, rfl⟩ := Option.map_eq_some'.1 updated
  exact ⟨number, _, read, rfl, parseInt16_formatHex04 _⟩

/-- A reply ending the session `00ff` carries `0100`, which reads back as 256. -/
theorem updateUssdPdu_session_round_trip_end :
    updateUssdPdu (.bool false) (.str (ascii "00ff")) ⟨1, [], none, none, none⟩ =
        some ⟨1, [], some 256, none, none⟩ ∧
      ∃ number text, sessionNumber? (.str (ascii "00ff")) = some number ∧
        SubmitSm.itsSessionInfoText ⟨1, [], some 256, none, none⟩ = some text ∧
        sessionNumber? (.str text) =
          some (number + if (Value.bool false).truthy then 0 else 1) :=
  ⟨by decide, @updateUssdPdu_session_round_trip (.bool false) (.str (ascii "00ff"))
    ⟨1, [], none, none, none⟩ ⟨1, [], some 256, none, none⟩ (by decide)⟩

/-- The `its_session_info` text `update_ussd_pdu` sets is four lowercase hexadecimal digits,
the two octets of the field, exactly when the number it computed is in `[0, 0xffff]`: a
`session_info` of `ffff` ending the session gives `10000`, and a negative number a minus
sign. -/
theorem updateUssdPdu_four_hex_digits {continueSession sessionInfo : Value}
    {pdu after : SubmitSm} (updated : updateUssdPdu continueSession sessionInfo pdu = some after) :
    ∃ number text, sessionNumber? sessionInfo = some number ∧
      after.itsSessionInfoText = some text ∧
      (text.length = 4 ∧ (∀ byte ∈ text, isLowerHex byte = true) ↔
        0 ≤ number + (if continueSession.truthy then 0 else 1) ∧
          number + (if continueSession.truthy then 0 else 1) < 0x10000) := by
  obtain ⟨number, read, rfl⟩ := Option.map_eq_some'.1 updated
  exact ⟨number, _, read, rfl, formatHex04_four_digits _⟩

/-- Ending a session `ffff` carries `0x10000`, written `10000`. -/
theorem updateUssdPdu_four_hex_digits_ffff_end :
    updateUssdPdu (.bool false) (.str (ascii "ffff")) ⟨1, [], none, none, none⟩ =
        some ⟨1, [], some 0x10000, none, none⟩ ∧
      ∃ number text, sessionNumber? (.str (ascii "ffff")) = some number ∧
        SubmitSm.itsSessionInfoText ⟨1, [], some 0x10000, none, none⟩ = some text ∧
        (text.length = 4 ∧ (∀ byte ∈ text, isLowerHex byte = true) ↔
          0 ≤ number + (if (Value.bool false).truthy then 0 else 1) ∧
            number + (if (Value.bool false).truthy then 0 else 1) < 0x10000) :=
  ⟨by decide, @updateUssdPdu_four_hex_digits (.bool false) (.str (ascii "ffff"))
    ⟨1, [], none, none, none⟩ ⟨1, [], some 0x10000, none, none⟩ (by decide)⟩

end VumiSmpp.Client
