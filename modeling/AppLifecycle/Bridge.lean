import AppLifecycle.Queue

/-!
# The two ends of the queue

The compositor and the shell post at one end of the queue, and the coordinator takes from the
other. Posting fails once the receiving end is gone; a request that is still queued then is
refused. The answer to a request is kept under its ticket until it is collected, once.
-/

namespace AppLifecycle

/-- What has become of a request. -/
inductive TicketState where
  /-- The request is queued. -/
  | pending
  | answered (reply : Reply)
  /-- The answer has been collected, or nobody can collect it any more. -/
  | spent

/-- How the posting ends bring a run to its end. -/
inductive RunEnd where
  /-- Nobody will post or collect any more. -/
  | dropSenders
  /-- A request to shut down is posted. -/
  | shutdown
  /-- A request to shut down has been posted before. -/
  | queued
  deriving DecidableEq, Inhabited, Repr

/-- A coordinator with the queue in front of it. -/
structure Bridge (π : Type) where
  /-- The coordinator, unless it has ended. -/
  coordinator : Option (Coordinator π)
  /-- Whether the receiving end of the queue exists. -/
  receiving : Bool
  queue : List Envelope
  /-- The requests made so far, the first one at the front. -/
  tickets : List TicketState

namespace Bridge

variable {π : Type}

/-- A queue without content in front of a coordinator. -/
def before (coordinator : Coordinator π) : Bridge π where
  coordinator := some coordinator
  receiving := true
  queue := []
  tickets := []

/-- Posts something. Answers whether it is queued. -/
def post (envelope : Envelope) (bridge : Bridge π) : Bridge π × Bool :=
  if bridge.receiving then ({ bridge with queue := bridge.queue ++ [envelope] }, true)
  else (bridge, false)

/-- Makes a request. Answers with its ticket, and with a reply if the request is refused at
once. -/
def request (envelope : Ticket → Envelope) (bridge : Bridge π) :
    Bridge π × Ticket × Option Reply :=
  let ticket := bridge.tickets.length
  if bridge.receiving then
    ({ bridge with
        queue := bridge.queue ++ [envelope ticket]
        tickets := bridge.tickets ++ [.pending] },
      ticket, none)
  else
    ({ bridge with tickets := bridge.tickets ++ [.spent] }, ticket,
      (envelope ticket).refusal?.map (·.2))

/-- Collects the answer to a request. -/
def collect (ticket : Ticket) (bridge : Bridge π) : Bridge π × TicketState :=
  match bridge.tickets[ticket]? with
  | some (.answered reply) =>
      ({ bridge with tickets := bridge.tickets.set ticket .spent }, .answered reply)
  | some state => (bridge, state)
  | none => (bridge, .spent)

/-- Keeps a reply until it is collected, if the request still waits for one. -/
def deliver (bridge : Bridge π) (reply : TicketReply) : Bridge π :=
  match bridge.tickets[reply.1]? with
  | some .pending =>
      { bridge with tickets := bridge.tickets.set reply.1 (.answered reply.2) }
  | _ => bridge

/-- Destroys the receiving end. -/
def dropReceiver (bridge : Bridge π) : Bridge π :=
  let closed := { bridge with receiving := false, queue := [] }
  (Envelope.refusals bridge.queue).foldl deliver closed

/-- Whether a client was told that it may connect. -/
def wasAllowed (ticket : Ticket) (replies : List TicketReply) : Bool :=
  replies.any fun reply =>
    match reply.2 with
    | .allowed answer => reply.1 = ticket && answer
    | _ => false

/-- The ticket of a request whose answer is waited for and not kept. -/
def freshTicket (bridge : Bridge π) : Ticket :=
  bridge.tickets.length

variable (setup : Setup π)

/-- Serves what is queued. Answers how many envelopes were taken and what was replied, if there
is a queue. -/
def dispatchPending (bridge : Bridge π) : Step (Bridge π) (Option (Nat × List TicketReply)) :=
  match bridge.receiving, bridge.coordinator with
  | true, some coordinator =>
      let step := coordinator.dispatchPending setup bridge.queue
      let served :=
        { bridge with
          coordinator := some step.state
          queue := step.answer.left }
      ⟨step.answer.replies.foldl deliver served, some (step.answer.handled, step.answer.replies),
        step.effects⟩
  | _, _ => .quiet bridge none

/-- Serves the queue until it is empty, at most `rounds` times. Answers how many envelopes were
taken and what was replied. -/
def dispatchAll : Nat → Bridge π → Step (Bridge π) (Nat × List TicketReply)
  | 0, bridge => .quiet bridge (0, [])
  | rounds + 1, bridge =>
      if bridge.queue.isEmpty then .quiet bridge (0, [])
      else
        (dispatchPending setup bridge).andThen fun served next =>
          let step := dispatchAll rounds next
          let first := served.getD (0, [])
          step.answering (first.1 + step.answer.1, first.2 ++ step.answer.2)

/-- Asks whether a client may connect, and serves the queue until the answer is there. Answers
also how many envelopes were taken meanwhile. Without a receiving end the client is refused. -/
def authorize (pid : UInt32) (appId : String) (bridge : Bridge π) : Step (Bridge π) (Bool × Nat) :=
  let ticket := bridge.freshTicket
  let (asked, queued) := bridge.post (.authorize pid appId ticket)
  if queued then
    let step := dispatchAll setup asked.queue.length asked
    step.answering (wasAllowed ticket step.answer.2, step.answer.1)
  else
    .quiet asked (false, 0)

/-- Asks whether a client may connect while the receiving end is destroyed; the client is
refused. -/
def authorizeUnanswered (pid : UInt32) (appId : String) (bridge : Bridge π) : Bridge π × Bool :=
  let ticket := bridge.freshTicket
  let (asked, _) := bridge.post (.authorize pid appId ticket)
  (asked.dropReceiver, wasAllowed ticket (Envelope.refusals asked.queue))

/-- Gives up collecting answers. -/
def dropTickets (bridge : Bridge π) : Bridge π :=
  { bridge with tickets := bridge.tickets.map fun _ => .spent }

/-- Prepares the posting ends for a run. -/
def prepare (ending : RunEnd) (bridge : Bridge π) : Bridge π :=
  match ending with
  | .dropSenders => bridge.dropTickets
  | .shutdown => (bridge.post .shutdown).1
  | .queued => bridge

/-- Runs the coordinator to its end and destroys it with the receiving end. Where there is no
queue to run on, the coordinator is destroyed as it is and the posting ends stay as they are.
Answers whether there was a run. -/
def run (ending : RunEnd) (bridge : Bridge π) : Step (Bridge π) Bool :=
  match bridge.coordinator with
  | none => .quiet bridge false
  | some coordinator =>
      let destroy (state : Coordinator π) := state.withWakeLock (·.releaseAll setup.power)
      if bridge.receiving then
        let ready := bridge.prepare ending
        let ended := { ready with coordinator := none, receiving := false, queue := [] }
        let last := coordinator.run setup ready.queue
        ⟨last.answer.foldl deliver ended, true, last.effects ++ (destroy last.state).effects⟩
      else
        ⟨{ bridge with coordinator := none }, false, (destroy coordinator).effects⟩

end Bridge

end AppLifecycle
