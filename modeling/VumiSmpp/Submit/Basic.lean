import VumiSmpp.Submit.Program

/-!
# The submit path as the code computes it

`submit_sm(**kwargs)` merges the keyword arguments over the session's `bind_params` and, for a
`short_message` over `GSM_MAX_SMS_BYTES`, cuts it into 130-byte segments and submits each with
`_submit_sm`: with SAR optional parameters (`send_multipart_sar`), or behind a six-byte user
data header with `esm_class` `0x40` (`send_multipart_udh`). `_submit_sm` takes a sequence
number from `get_next_seq`, builds the `SubmitSM` PDU, writes it and pushes the number onto
`unacked`. Keyword arguments are a dict of Python values; `_submit_sm` pops its own
(`sar_params`, `message_type`, `continue_session`, `session_info`) and builds the PDU from the
rest. The `smpp` library's builder is taken not to raise; its `get_bin`, which `send_pdu`
calls, raises where `binascii.a2b_hex` rejects the `its_session_info` text `update_ussd_pdu`
sets. Every exception the code of this file can raise is modelled.
-/

namespace VumiSmpp.Client

/-- A string literal of the source as the bytes of a Python 2 `str`. -/
def ascii (text : String) : Bytes :=
  text.toList.map fun c => c.toNat.toUInt8

/-- The `sar_params` dict of a segment. -/
structure SarParams where
  /-- `msg_ref_num`. -/
  msgRefNum : Nat
  /-- `total_segments`. -/
  totalSegments : Nat
  /-- `segment_seqnum`. -/
  segmentSeqnum : Nat
  deriving DecidableEq, Repr

/-- A keyword argument's value, of the Python types the submit path reads. -/
inductive Value where
  /-- A `str`. -/
  | str (bytes : Bytes)
  /-- An `int`. -/
  | int (value : Int)
  /-- A `bool`. -/
  | bool (value : Bool)
  /-- `None`. -/
  | None
  /-- The `sar_params` dict `_submit_multipart_sar` builds. -/
  | sar (params : SarParams)
  deriving DecidableEq, Repr

namespace Value

/-- Python's truth value. -/
def truthy : Value → Bool
  | str bytes => !bytes.isEmpty
  | int value => value != 0
  | bool value => value
  | None => false
  | sar _ => true

/-- `len(value)`: of a `str` its bytes, of the dict its three keys; `none` where it raises. -/
def len? : Value → Option Nat
  | str bytes => some bytes.length
  | sar _ => some 3
  | _ => none

/-- What the multipart loop `while message: ... message[:payload_length]` cuts: a `str`'s
bytes, nothing for a false value; slicing any other value raises. -/
def sliceable : Value → Option Bytes
  | str bytes => some bytes
  | other => if other.truthy then none else some []

end Value

/-- Python's `isspace`: blank, tab, newline, vertical tab, form feed, carriage return. -/
def isSpace (byte : UInt8) : Bool :=
  byte == 32 || (9 ≤ byte && byte ≤ 13)

/-- The value of a hexadecimal digit. -/
def hexDigit? (byte : UInt8) : Option Nat :=
  if 48 ≤ byte ∧ byte ≤ 57 then some (byte.toNat - 48)
  else if 97 ≤ byte ∧ byte ≤ 102 then some (byte.toNat - 87)
  else if 65 ≤ byte ∧ byte ≤ 70 then some (byte.toNat - 55)
  else none

/-- The value of hexadecimal digits, the first the most significant; `none` on any other
byte. -/
def hexValue? (digits : Bytes) : Option Nat :=
  digits.foldlM (fun value digit => (hexDigit? digit).map (value * 16 + ·)) 0

/-- `int(text, 16)` for a `str`: blanks around, an optional sign and blanks after it, an
optional `0x`, and at least one hexadecimal digit; `none` where it raises `ValueError`. -/
def parseInt16 (text : Bytes) : Option Int :=
  let core := ((text.dropWhile isSpace).reverse.dropWhile isSpace).reverse
  let (negative, unsigned) : Bool × Bytes := match core with
    | 45 :: rest => (true, rest.dropWhile isSpace)
    | 43 :: rest => (false, rest.dropWhile isSpace)
    | rest => (false, rest)
  let digits := match unsigned with
    | 48 :: 120 :: rest | 48 :: 88 :: rest => if rest.isEmpty then unsigned else rest
    | _ => unsigned
  if digits.isEmpty then none
  else (hexValue? digits).map fun value => if negative then -(value : Int) else value

/-- `int(value, 16)`: a `str` is parsed, any other value raises `TypeError`. -/
def Value.toInt16? : Value → Option Int
  | .str text => parseInt16 text
  | _ => none

/-- `'%02x' % ord(c)` for a byte: two lowercase hexadecimal digits. -/
def hexByte (byte : UInt8) : Bytes :=
  let digit (nibble : UInt8) : UInt8 := if nibble < 10 then 48 + nibble else 87 + nibble
  [digit (byte / 16), digit (byte % 16)]

/-- `''.join('%02x' % ord(c) for c in message)`. -/
def hexlify (message : Bytes) : Bytes :=
  message.flatMap hexByte

/-- A dict of keyword arguments, newest binding first: a key's value is its first binding. -/
abbrev Params := List (String × Value)

namespace Params

/-- `params[key] = value`. -/
def set (params : Params) (key : String) (value : Value) : Params :=
  (key, value) :: params

/-- `params.pop(key, default)`: the key's value, or the default, and the dict without it. -/
def pop (params : Params) (key : String) (default : Value) : Value × Params :=
  ((params.lookup key).getD default, params.filter (·.1 != key))

/-- `params.update(other)`: the other's bindings win. -/
def update (params other : Params) : Params :=
  other ++ params

end Params

/-- A `submit_sm` PDU as `_submit_sm` builds it with the `smpp` library. -/
structure SubmitSm where
  /-- The header's `sequence_number`. -/
  sequenceNumber : Nat
  /-- The keyword arguments given to `SubmitSM`. -/
  params : Params
  /-- `its_session_info`, the number `update_ussd_pdu` formats with `%04x` once it has set
  `ussd_service_op` to `02`. -/
  itsSessionInfo : Option Int
  /-- `message_payload`, from `add_message_payload`. -/
  messagePayload : Option Bytes
  /-- `sar_msg_ref_num`, `sar_total_segments` and `sar_segment_seqnum`. -/
  sar : Option SarParams
  deriving DecidableEq, Repr

/-- The PDU's `short_message`. -/
def SubmitSm.shortMessage (pdu : SubmitSm) : Option Value :=
  pdu.params.lookup "short_message"

/-- The options of `self.config` the submit path reads. -/
structure Config where
  /-- `send_multipart_sar`. -/
  sendMultipartSar : Bool
  /-- `send_multipart_udh`. -/
  sendMultipartUdh : Bool
  /-- `send_long_messages`. -/
  sendLongMessages : Bool
  deriving DecidableEq, Repr

/-! ## `_submit_sm` -/

/-- `int(session_info, 16)` in `update_ussd_pdu`, with `'0000'` for `None`. -/
def sessionNumber? (sessionInfo : Value) : Option Int :=
  (if sessionInfo = .None then Value.str (ascii "0000") else sessionInfo).toInt16?

/-- `update_ussd_pdu(pdu, continue_session, session_info)`: `its_session_info` is
`"%04x" % (int(session_info, 16) + int(not continue_session))`. -/
def updateUssdPdu (continueSession sessionInfo : Value) (pdu : SubmitSm) : Option SubmitSm :=
  (sessionNumber? sessionInfo).map fun number =>
    { pdu with itsSessionInfo := some (number + if continueSession.truthy then 0 else 1) }

/-- `'%x' % value`: the hexadecimal digits, lowercase, the most significant first. -/
def hexDigits (value : Nat) : Bytes :=
  (Nat.toDigits 16 value).map fun c => c.toNat.toUInt8

/-- `"%04x" % value`: a minus sign for a negative value, then the digits of the magnitude,
zero-padded to four characters in all. -/
def formatHex04 (value : Int) : Bytes :=
  let digits := hexDigits value.natAbs
  if value < 0 then 45 :: (List.replicate (3 - digits.length) 48 ++ digits)
  else List.replicate (4 - digits.length) 48 ++ digits

/-- The `its_session_info` the PDU carries: `update_ussd_pdu`'s number, formatted. -/
def SubmitSm.itsSessionInfoText (pdu : SubmitSm) : Option Bytes :=
  pdu.itsSessionInfo.map formatHex04

/-- `if self.config.send_long_messages and len(message) > 254:` add the message as
`message_payload`. -/
def addLongMessage (sendLongMessages : Bool) (message : Value) (pdu : SubmitSm) :
    Option SubmitSm :=
  if sendLongMessages then
    match message with
    | .str bytes =>
      some (if 254 < bytes.length then { pdu with messagePayload := some (hexlify bytes) } else pdu)
    | .sar _ => some pdu
    | _ => none
  else some pdu

/-- `if sar_params:` set the three SAR parameters from it; a true value other than the dict
raises at its subscript. -/
def setSarParams (sarParams : Value) (pdu : SubmitSm) : Option SubmitSm :=
  match sarParams with
  | .sar params => some { pdu with sar := some params }
  | other => if other.truthy then none else some pdu

/-- What `_submit_sm` does between `get_next_seq` and `send_pdu`: pop its own arguments, build
`SubmitSM(sequence_number, **pdu_params)` and set the optional parameters; `none` where it
raises. -/
def buildSubmitSm (config : Config) (sequenceNumber : Nat) (pduParams : Params) :
    Option SubmitSm := do
  let message ← pduParams.lookup "short_message"
  let (sarParams, pduParams) := pduParams.pop "sar_params" .None
  let (messageType, pduParams) := pduParams.pop "message_type" (.str (ascii "sms"))
  let (continueSession, pduParams) := pduParams.pop "continue_session" (.bool true)
  let (sessionInfo, pduParams) := pduParams.pop "session_info" .None
  let pdu : SubmitSm := ⟨sequenceNumber, pduParams, none, none, none⟩
  let pdu ← if messageType = .str (ascii "ussd") then
      updateUssdPdu continueSession sessionInfo pdu
    else some pdu
  let pdu ← addLongMessage config.sendLongMessages message pdu
  setSarParams sarParams pdu

/-- `push_unacked(sequence_number)`: `LPUSH` onto `unacked`, then log the length `LLEN`
reads. -/
def pushUnacked {ω : Type} (sequenceNumber : Nat) : Program ω Unit := do
  let _ ← Program.request (.lpush sequenceNumber)
  let _ ← Program.request .llen
  return ()

/-- `pdu.get_bin()` packs the PDU. The `smpp` library writes an optional parameter of type hex,
as `its_session_info`, as the text it was given, and packs the PDU's text with
`binascii.a2b_hex`, which raises on a character that is no hexadecimal digit and on an odd
number of them; the other fields of a `submit_sm` are written as hexadecimal digits, two a
byte. -/
def SubmitSm.packable (pdu : SubmitSm) : Bool :=
  pdu.itsSessionInfoText.all fun text =>
    text.all (fun byte => (hexDigit? byte).isSome) && text.length % 2 == 0

/-- `send_pdu(pdu)` on the submit path: `pdu.get_bin()`, which raises on a PDU it cannot pack,
then the write. -/
def SubmitSm.sendPdu (pdu : SubmitSm) : Program SubmitSm Unit :=
  if pdu.packable then Program.send pdu else Program.raise

/-- `_submit_sm(**pdu_params)`: one PDU, with the sequence number it returns. -/
def submitSmPdu (config : Config) (pduParams : Params) : Program SubmitSm Nat := do
  let sequenceNumber ← Program.request .getNextSeq
  let pdu ← Program.ofOption (buildSubmitSm config sequenceNumber pduParams)
  pdu.sendPdu
  pushUnacked sequenceNumber
  return sequenceNumber

/-! ## The multipart paths -/

/-- `GSM_MAX_SMS_BYTES`. -/
def gsmMaxSmsBytes : Nat := 140

/-- `payload_length = GSM_MAX_SMS_BYTES - 10`. -/
def payloadLength : Nat := gsmMaxSmsBytes - 10

/-- `while message: split_msg.append(message[:payload_length]);
message = message[payload_length:]`, for at most `fuel` turns. -/
def splitLoop : Nat → Bytes → List Bytes
  | 0, _ => []
  | fuel + 1, message =>
    if message.isEmpty then []
    else message.take payloadLength :: splitLoop fuel (message.drop payloadLength)

/-- `split_msg`: every turn takes a byte at least, so one turn a byte ends the loop. -/
def splitMessage (message : Bytes) : List Bytes :=
  splitLoop message.length message

/-- `for i, msg in enumerate(split_msg)`, from `i = index`: submit each segment and collect the
sequence numbers in order. -/
def submitSegments (segment : Nat → Bytes → Program SubmitSm Nat) :
    Nat → List Bytes → Program SubmitSm (List Nat)
  | _, [] => pure []
  | index, msg :: rest => do
    let sequenceNumber ← segment index msg
    let sequenceNumbers ← submitSegments segment (index + 1) rest
    return sequenceNumber :: sequenceNumbers

/-- Both multipart paths: cut the message, draw `ref_num = randint(1, 255)`, and submit the
`i`-th segment with the arguments `segmentParams pdu_params ref_num len(split_msg) i msg`
(`none` where building them raises). -/
def submitMultipart (segmentParams : Params → Nat → Nat → Nat → Bytes → Option Params)
    (config : Config) (pduParams : Params) : Program SubmitSm (List Nat) := do
  let message ← Program.ofOption ((pduParams.lookup "short_message").bind Value.sliceable)
  let splitMsg := splitMessage message
  let refNum ← Program.draw 1 255
  submitSegments (fun i msg => do
    let params ← Program.ofOption (segmentParams pduParams refNum splitMsg.length i msg)
    submitSmPdu config params) 0 splitMsg

/-- The arguments of a SAR segment: the segment as `short_message`, and `sar_params`. -/
def sarSegmentParams (pduParams : Params) (refNum total i : Nat) (msg : Bytes) :
    Option Params :=
  some ((pduParams.set "short_message" (.str msg)).set "sar_params" (.sar ⟨refNum, total, i + 1⟩))

/-- `_submit_multipart_sar(**pdu_params)`. -/
def submitMultipartSar (config : Config) (pduParams : Params) : Program SubmitSm (List Nat) :=
  submitMultipart sarSegmentParams config pduParams

/-- `chr(n)`, which raises `ValueError` from 256 on. -/
def chr? (n : Nat) : Option UInt8 :=
  if n < 256 then some n.toUInt8 else none

/-- `'\05\00\03%s%s%s' % (chr(ref_num), chr(len(split_msg)), chr(i + 1))`. -/
def userDataHeader (refNum total seqnum : Nat) : Option Bytes := do
  let ref ← chr? refNum
  let count ← chr? total
  let seq ← chr? seqnum
  some [5, 0, 3, ref, count, seq]

/-- The arguments of a UDH segment: `esm_class` `0x40`, and the header before the segment as
`short_message`. -/
def udhSegmentParams (pduParams : Params) (refNum total i : Nat) (msg : Bytes) :
    Option Params := do
  let udh ← userDataHeader refNum total (i + 1)
  some ((pduParams.set "esm_class" (.int 0x40)).set "short_message" (.str (udh ++ msg)))

/-- `_submit_multipart_udh(**pdu_params)`. -/
def submitMultipartUdh (config : Config) (pduParams : Params) : Program SubmitSm (List Nat) :=
  submitMultipart udhSegmentParams config pduParams

/-! ## `submit_sm` -/

/-- What `submit_sm` returns. -/
inductive SubmitResult where
  /-- `0`: the state may not submit and the message is dropped. -/
  | zero
  /-- The sequence numbers of the PDUs written. -/
  | sequenceNumbers (values : List Nat)
  deriving DecidableEq, Repr

/-- `submit_sm(**kwargs)` in state `state`, with the session's `bind_params`. -/
def submitSm (config : Config) (state : SmppState) (bindParams kwargs : Params) :
    Program SubmitSm SubmitResult :=
  if state.canTransmit then do
    let pduParams := bindParams.update kwargs
    let message ← Program.ofOption (pduParams.lookup "short_message")
    let length ← Program.ofOption message.len?
    if gsmMaxSmsBytes < length ∧ config.sendMultipartSar then
      .sequenceNumbers <$> submitMultipartSar config pduParams
    else if gsmMaxSmsBytes < length ∧ config.sendMultipartUdh then
      .sequenceNumbers <$> submitMultipartUdh config pduParams
    else
      (fun sequenceNumber => .sequenceNumbers [sequenceNumber]) <$> submitSmPdu config pduParams
  else pure .zero

end VumiSmpp.Client
