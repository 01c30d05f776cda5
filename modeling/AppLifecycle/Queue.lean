import AppLifecycle.Coordinator

/-!
# The queue of the coordinator

Events, commands and requests reach the coordinator through one queue and are applied in the
order in which they were posted. A request carries a ticket, under which it is answered. A
request to shut down ends the run; what stands behind it is not applied, and requests there are
refused.
-/

namespace AppLifecycle

/-- Under which a request is answered. -/
abbrev Ticket :=
  Nat

/-- Something posted to the coordinator. -/
inductive Envelope where
  | compositor (event : CompositorEvent)
  | shell (command : ShellCommand)
  | authorize (pid : UInt32) (appId : String) (ticket : Ticket)
  | bindTexture (surface : SurfaceHandle) (buffer : BufferInfo) (ticket : Ticket)
  | snapshot (ticket : Ticket)
  | shutdown
  deriving DecidableEq, Inhabited, Repr

/-- The answer to a request. -/
inductive Reply where
  | allowed (answer : Bool)
  | bound (result : Except Failure TextureBinding)
  | picture (result : Except Failure ShellSnapshot)

/-- A reply with the ticket of its request. -/
abbrev TicketReply :=
  Ticket × Reply

namespace Envelope

/-- The answer to a request that nobody will serve any more. -/
def refusal? : Envelope → Option TicketReply
  | authorize _ _ ticket => some (ticket, .allowed false)
  | bindTexture _ _ ticket => some (ticket, .bound (.error .channelClosed))
  | snapshot ticket => some (ticket, .picture (.error .channelClosed))
  | _ => none

/-- The refusals of all requests in a queue. -/
def refusals (queue : List Envelope) : List TicketReply :=
  queue.filterMap refusal?

end Envelope

namespace Coordinator

variable {π : Type} (setup : Setup π)

/-- Applies what is not a request to shut down, and answers the request if it is one. -/
def serve (envelope : Envelope) (state : Coordinator π) :
    Step (Coordinator π) (List TicketReply) :=
  match envelope with
  | .compositor event => (handleEvent setup event state).answering []
  | .shell command => (handleCommand setup command state).answering []
  | .authorize pid appId ticket =>
      .quiet state [(ticket, .allowed (authorize setup pid appId))]
  | .bindTexture surface buffer ticket =>
      .quiet state [(ticket, .bound (state.bindTexture surface buffer))]
  | .snapshot ticket => .quiet state [(ticket, .picture (.ok state.snapshot))]
  | .shutdown => .quiet state []

/-- What came of serving a queue for a while. -/
structure Served where
  /-- How many envelopes were taken from the queue. -/
  handled : Nat
  replies : List TicketReply
  /-- What is still queued. -/
  left : List Envelope

/-- Serves what is queued, up to a request to shut down, which is taken from the queue too. -/
def dispatchPending : List Envelope → Coordinator π → Step (Coordinator π) Served
  | [], state => .quiet state ⟨0, [], []⟩
  | .shutdown :: rest, state => .quiet state ⟨1, [], rest⟩
  | envelope :: rest, state =>
      (serve setup envelope state).andThen fun replies next =>
        let step := dispatchPending rest next
        step.answering
          ⟨step.answer.handled + 1, replies ++ step.answer.replies, step.answer.left⟩

/-- Serves a queue to which nobody posts any more, until it is empty or a request to shut down
is met; then ends all sessions and refuses the requests that are left. -/
def run : List Envelope → Coordinator π → Step (Coordinator π) (List TicketReply)
  | [], state => (shutdown setup state).answering []
  | .shutdown :: rest, state => (shutdown setup state).answering (Envelope.refusals rest)
  | envelope :: rest, state =>
      (serve setup envelope state).andThen fun replies next =>
        let step := run rest next
        step.answering (replies ++ step.answer)

end Coordinator

end AppLifecycle
