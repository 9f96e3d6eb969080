import VumiSmpp.Session.Answers
import VumiSmpp.Session.Progress

/-!
# The link check, end to end

The SMSC checks the link with `enquire_link`. However the transport cuts a stream of
`enquire_link`s with `ESME_ROK` into chunks, an open session whose consumer waits on `get()`
answers each of them once, in order, with its sequence number, by the time the last chunk's
`dataReceived` returns: its loop puts the PDUs on the queue whole and in order,
`handle_enquire_link` never waits so the consumer takes each as it arrives, and the handler
writes the answer owed. The theorem runs the header codec through the framing, dispatch and
answer layers at once.
-/

namespace VumiSmpp.Client

/-- The header codec reads back the PDUs of a stream of encoded headers. -/
theorem unpackHeader_encode_all (pdus : List Pdu)
    (fit : ∀ pdu ∈ pdus, pdu.commandStatus < 0x100000000 ∧ pdu.sequenceNumber < 0x100000000) :
    (pdus.map Pdu.encode).filterMap headerCollaborators.unpackPdu = pdus := by
  rw [headerCollaborators_unpackPdu]
  induction pdus with
  | nil => rfl
  | cons pdu pdus ih =>
    have first := fit pdu (.head _)
    rw [List.map_cons, List.filterMap_cons_some (unpackHeader_encode pdu first.1 first.2),
      ih fun other mem => fit other (.tail _ mem)]

/-- However a stream of `enquire_link`s with `ESME_ROK` is cut into chunks, a reachable open
session whose consumer waits on `get()`, with nothing buffered, answers each once, in order,
with its sequence number, within the chunks' `dataReceived` calls. -/
theorem enquireLinks_answered (role : Role) (earlier : List Event) (session : Session)
    (reached : run headerCollaborators (Session.init role) earlier = some session)
    (made : session.connection = .made) (waiting : session.consumer = .waiting)
    (empty : session.datastream = []) (pdus : List Pdu)
    (links : ∀ pdu ∈ pdus, pdu.commandId = .enquire_link ∧ pdu.commandStatus = esmeRok ∧
      pdu.sequenceNumber < 0x100000000)
    (chunks : List Bytes) (cut : chunks.flatten = (pdus.map Pdu.encode).flatten) :
    ∃ after, run headerCollaborators session (chunks.map .dataReceived) = some after ∧
      after.sent .enquire_link_resp =
        session.sent .enquire_link_resp ++ pdus.map (·.sequenceNumber) := by
  have fit : ∀ pdu ∈ pdus,
      pdu.commandStatus < 0x100000000 ∧ pdu.sequenceNumber < 0x100000000 :=
    fun pdu mem => ⟨by rw [(links pdu mem).2.1]; decide, (links pdu mem).2.2⟩
  obtain ⟨after, ran, framed⟩ := Option.map_eq_some'.1 <|
    run_dataReceived_chunks headerCollaborators (pdus.map Pdu.encode) [] chunks
      (by simpa using fun pdu _ => pdu.encode_wellFormed) (.inl (by decide))
      (by rw [cut, List.append_nil]) session made empty
  have enqueued : after.enqueued = session.enqueued ++ pdus.map Pdu.encode :=
    (Prod.mk.inj framed).2
  have atOnce : ∀ frame ∈ after.enqueued.drop session.enqueued.length,
      returnsAtOnce headerCollaborators frame := by
    rw [enqueued, List.drop_left]
    intro frame mem
    obtain ⟨pdu, listed, rfl⟩ := List.mem_map.1 mem
    have read := unpackHeader_encode pdu (fit pdu listed).1 (fit pdu listed).2
    simp [returnsAtOnce, read, (links pdu listed).1, CommandId.returnsAtOnce]
  obtain ⟨-, handledAll⟩ := run_handles_at_once headerCollaborators role earlier _ session after
    reached waiting ran atOnce
  have whole : run headerCollaborators (Session.init role)
      (earlier ++ chunks.map .dataReceived) = some after := by
    rw [run_append, reached, Option.some_bind, ran]
  have fifo := (Fifo.init role).run reached
  have handledBefore : session.handled = session.enqueued := by
    rw [← fifo.order, fifo.waiting waiting, List.append_nil]
  have allLinks : pdus.filter (fun pdu => pdu.commandId = .enquire_link ∧
      pdu.commandStatus = esmeRok) = pdus :=
    List.filter_eq_self.2 fun pdu mem => by simp [(links pdu mem).1, (links pdu mem).2.1]
  refine ⟨after, ran, ?_⟩
  rw [(Answered.run whole).enquireLink, (Answered.run reached).enquireLink,
    Session.asked, Session.asked, handledAll, enqueued, ← handledBefore, List.filterMap_append,
    unpackHeader_encode_all pdus fit, List.filter_append, List.map_append, allLinks]

/-- A transceiver that has written its bind, given two `enquire_link`s cut after their fifth
and twentieth bytes. -/
theorem enquireLinks_answered_cut_twice :
    let earlier : List Event := [.connectionMade, .resumeTask 0 (.ok 1)]
    let session := (run headerCollaborators (Session.init .transceiver) earlier).getD
      (Session.init .transceiver)
    let pdus : List Pdu := [⟨.enquire_link, esmeRok, 3⟩, ⟨.enquire_link, esmeRok, 4⟩]
    let links := (pdus.map Pdu.encode).flatten
    let chunks := [links.take 5, (links.drop 5).take 15, links.drop 20]
    run headerCollaborators (Session.init .transceiver) earlier = some session ∧
      session.connection = .made ∧ session.consumer = .waiting ∧ session.datastream = [] ∧
      (∀ pdu ∈ pdus, pdu.commandId = .enquire_link ∧ pdu.commandStatus = esmeRok ∧
        pdu.sequenceNumber < 0x100000000) ∧
      chunks.flatten = (pdus.map Pdu.encode).flatten ∧
      ∃ after, run headerCollaborators session (chunks.map .dataReceived) = some after ∧
        after.sent .enquire_link_resp =
          session.sent .enquire_link_resp ++ pdus.map (·.sequenceNumber) :=
  ⟨rfl, rfl, rfl, rfl, by decide, by decide,
    enquireLinks_answered .transceiver [.connectionMade, .resumeTask 0 (.ok 1)] _ rfl rfl rfl rfl
      _ (by decide) _ (by decide)⟩

/-- Two `enquire_link`s cut after their fifth and twentieth bytes are both answered. -/
example :
    let links :=
      Pdu.encode ⟨.enquire_link, esmeRok, 3⟩ ++ Pdu.encode ⟨.enquire_link, esmeRok, 4⟩
    (run headerCollaborators (Session.init .transceiver)
      ([.connectionMade, .resumeTask 0 (.ok 1)] ++
        [links.take 5, (links.drop 5).take 15, links.drop 20].map .dataReceived)).map
      (Session.sent .enquire_link_resp) = some [3, 4] := by
  decide

end VumiSmpp.Client
