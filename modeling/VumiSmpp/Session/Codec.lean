import VumiSmpp.Session.Basic

/-!
# The header codec of concrete runs

`unpack_pdu` and the PDU builders belong to the external `smpp` library. Concrete runs need
some codec, so this module gives the part of it the session reads: the sixteen header bytes,
four big-endian words holding `command_length`, `command_id`, `command_status` and
`sequence_number`, with the SMPP 3.4 codes of the commands. A code that names no command is
read, as the library reads it, as `command_id` `None`. A PDU with an empty body is written as
its header, read back as itself, and framed as one frame by `pop_data`.
-/

namespace VumiSmpp.Client

open Framing

/-- The SMPP 3.4 `command_id` of each command; `None` is written as `0`, which names none. -/
def CommandId.code : CommandId → Nat
  | .bind_receiver => 0x00000001
  | .bind_transmitter => 0x00000002
  | .query_sm => 0x00000003
  | .submit_sm => 0x00000004
  | .deliver_sm => 0x00000005
  | .unbind => 0x00000006
  | .bind_transceiver => 0x00000009
  | .enquire_link => 0x00000015
  | .generic_nack => 0x80000000
  | .bind_receiver_resp => 0x80000001
  | .bind_transmitter_resp => 0x80000002
  | .query_sm_resp => 0x80000003
  | .submit_sm_resp => 0x80000004
  | .deliver_sm_resp => 0x80000005
  | .unbind_resp => 0x80000006
  | .bind_transceiver_resp => 0x80000009
  | .enquire_link_resp => 0x80000015
  | .None => 0

/-- Every command with a name. -/
def CommandId.all : List CommandId :=
  [.bind_receiver, .bind_transmitter, .query_sm, .submit_sm, .deliver_sm, .unbind,
    .bind_transceiver, .enquire_link, .generic_nack, .bind_receiver_resp,
    .bind_transmitter_resp, .query_sm_resp, .submit_sm_resp, .deliver_sm_resp, .unbind_resp,
    .bind_transceiver_resp, .enquire_link_resp]

/-- The command with a `command_id`, `None` where no command has it. -/
def CommandId.ofCode (code : Nat) : CommandId :=
  (CommandId.all.find? (·.code = code)).getD .None

/-- A number below `2^32` as four big-endian bytes. -/
def word (value : Nat) : Bytes :=
  [(value / 0x1000000 % 256).toUInt8, (value / 0x10000 % 256).toUInt8,
    (value / 0x100 % 256).toUInt8, (value % 256).toUInt8]

/-- A PDU with an empty body: its sixteen header bytes. -/
def Pdu.encode (pdu : Pdu) : Bytes :=
  word 16 ++ word pdu.commandId.code ++ word pdu.commandStatus ++ word pdu.sequenceNumber

/-- `unpack_pdu` on the header: it raises on fewer than sixteen bytes, and reads an unknown
command as `None`. -/
def unpackHeader (data : Bytes) : Option Pdu :=
  if data.length < 16 then none
  else some ⟨CommandId.ofCode (bigEndian ((data.drop 4).take 4)),
    bigEndian ((data.drop 8).take 4), bigEndian ((data.drop 12).take 4)⟩

/-- The collaborators of concrete runs: the header codec, and a decoder whose parts are all
`unicode`. -/
def headerCollaborators : Collaborators :=
  ⟨unpackHeader, fun _ => true⟩

/-- Concrete runs unpack with the header codec. -/
@[simp] theorem headerCollaborators_unpackPdu : headerCollaborators.unpackPdu = unpackHeader :=
  rfl

/-- A byte written from a number reads back as the number modulo 256. -/
theorem toNat_toUInt8 (value : Nat) : (value % 256).toUInt8.toNat = value % 256 :=
  UInt8.toNat_ofNat_of_lt (Nat.mod_lt _ (by decide))

/-- Four bytes read big-endian give back the number written. -/
theorem bigEndian_word {value : Nat} (fits : value < 0x100000000) :
    bigEndian (word value) = value := by
  simp only [bigEndian, word, List.foldl, toNat_toUInt8]
  omega

/-- The header's fields are its words after the length. -/
theorem Pdu.encode_fields (pdu : Pdu) :
    pdu.encode.length = 16 ∧ (pdu.encode.drop 4).take 4 = word pdu.commandId.code ∧
      (pdu.encode.drop 8).take 4 = word pdu.commandStatus ∧
      (pdu.encode.drop 12).take 4 = word pdu.sequenceNumber ∧ pdu.encode.take 4 = word 16 := by
  simp [Pdu.encode, word]

/-- A command's code names it. -/
theorem CommandId.ofCode_code (commandId : CommandId) :
    CommandId.ofCode commandId.code = commandId := by
  cases commandId <;> rfl

/-- A header read back gives the PDU written. -/
theorem unpackHeader_encode (pdu : Pdu) (status : pdu.commandStatus < 0x100000000)
    (sequence : pdu.sequenceNumber < 0x100000000) : unpackHeader pdu.encode = some pdu := by
  have code : pdu.commandId.code < 0x100000000 := by cases pdu.commandId <;> decide
  obtain ⟨length, command, field, number, -⟩ := pdu.encode_fields
  simp only [unpackHeader, length, command, field, number, bigEndian_word code,
    bigEndian_word status, bigEndian_word sequence, CommandId.ofCode_code]
  rfl

/-- A header is one well-formed frame. -/
theorem Pdu.encode_wellFormed (pdu : Pdu) : WellFormed pdu.encode := by
  obtain ⟨length, -, -, -, first⟩ := pdu.encode_fields
  exact ⟨length.ge, by rw [commandLength, first, length, bigEndian_word (by decide)]⟩

end VumiSmpp.Client
