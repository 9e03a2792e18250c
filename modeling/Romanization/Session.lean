import Romanization.Catalog.Registry
import Romanization.Service

namespace Romanization

structure Session where
  service : Service
  registry : Registry

namespace Session

inductive Event
  | write (name : Text) (entry : Entry)
  | remove (name : Text)
  | reload
  | request (r : Service.Request)

inductive Reply
  | done
  | reloaded (outcome : Except Error Catalog)
  | answered (outcome : Except Error Service.Answer)

def step (s : Session) : Event → Reply × Session
  | .write name entry => (.done, { s with registry := s.registry.write name entry })
  | .remove name => (.done, { s with registry := s.registry.remove name })
  | .reload =>
    let (outcome, registry) := s.registry.reload
    (.reloaded outcome, { s with registry })
  | .request r => (.answered (s.service.answer s.registry.catalog r), s)

def run (s : Session) : List Event → List Reply × Session
  | [] => ([], s)
  | event :: events =>
    let (reply, s) := s.step event
    let (replies, s) := s.run events
    (reply :: replies, s)

end Romanization.Session
