import VumiSmpp.Framing
import VumiSmpp.SequenceNumber
import VumiSmpp.Session.Basic
import VumiSmpp.Session.Reactor
import VumiSmpp.Session.Codec
import VumiSmpp.Session.Dispatch
import VumiSmpp.Session.Lifecycle
import VumiSmpp.Session.Answers
import VumiSmpp.Session.Progress
import VumiSmpp.Session.KeepAlive
import VumiSmpp.Session.Bind
import VumiSmpp.Unacked
import VumiSmpp.Submit.Program
import VumiSmpp.Submit.Basic
import VumiSmpp.Submit.SessionInfo
import VumiSmpp.Submit.Multipart
import VumiSmpp.Submit.Pushes
import VumiSmpp.SequenceNumber.Distinct
import VumiSmpp.Session.Numbers
import VumiSmpp.Fleet
import VumiSmpp.Submit.Returns
import VumiSmpp.Esme
