import VumiSmpp.Submit.SessionInfo

/-!
# The multipart paths

A `short_message` longer than `GSM_MAX_SMS_BYTES` leaves `submit_sm` cut into
`⌈len / 130⌉` segments, the `i`-th being `message[130 i : 130 (i + 1)]`. Against a store whose
commands succeed, each segment's `_submit_sm` takes the next sequence number, writes one PDU
and pushes the number onto `unacked`, so the call writes the segments in order and returns
their sequence numbers in the order pushed. With SAR parameters every PDU carries the segment's
number, the count and one reference drawn in `[1, 255]`; with a user data header every PDU
carries the header `05 00 03 ref count i` before the segment and `esm_class` `0x40`, and a
count over 255 makes `chr` raise before the first sequence number is taken. `_submit_sm`
itself raises on a USSD `session_info` that `int(·, 16)` cannot read, on one whose number
`get_bin` cannot pack (negative, or of an odd number of digits over four), and on a
`sar_params` that is true but not the dict.
-/

namespace VumiSmpp.Client

/-! ## The segments -/

namespace Params

end Params

namespace Params

end Params

/-! ## One segment -/

end VumiSmpp.Client
