import AppLifecycle.Bridge
import AppLifecycle.Proofs.Coordinator.Decompose
import AppLifecycle.Proofs.WakeLock

/-!
# Two ways to serve a queue

A coordinator serves its queue to the end and then ends everybody, or it serves what is queued and
is told to end afterwards. Both come to the same. What is posted before the first request to shut
down is applied in order, each request is answered once, and the answer is that of the state which
the envelopes before it have led to; behind the request to shut down all is refused
(`run_like_dispatch`).
-/

namespace AppLifecycle

namespace Envelope

/-- What is posted to be applied. -/
def input? : Envelope → Option Input
  | compositor event => some (.event event)
  | shell command => some (.command command)
  | _ => none

/-- Under which ticket an answer is waited for. -/
def ticket? : Envelope → Option Ticket
  | authorize _ _ ticket | bindTexture _ _ ticket | snapshot ticket => some ticket
  | _ => none

/-- The answer to a request behind a request to shut down: no client may connect, and whoever asks
for a texture or a snapshot is told that the channel is closed. -/
def closedAnswer? : Envelope → Option TicketReply
  | authorize _ _ ticket => some (ticket, .allowed false)
  | bindTexture _ _ ticket => some (ticket, .bound (.error .channelClosed))
  | snapshot ticket => some (ticket, .picture (.error .channelClosed))
  | compositor _ | shell _ | shutdown => none

theorem ticket_closedAnswer? (envelope : Envelope) :
    envelope.closedAnswer?.map (·.1) = envelope.ticket? := by
  cases envelope <;> rfl

theorem refusals_eq (queue : List Envelope) : refusals queue = queue.filterMap closedAnswer? := by
  have same : refusal? = closedAnswer? := by
    funext envelope
    cases envelope <;> rfl
  rw [refusals, same]

end Envelope

/-- What a request comes to under whose ticket there is an answer, or none. An answer reaches only
who still waits for it. -/
def TicketState.told (answer : Option Reply) : TicketState → TicketState
  | pending => answer.elim pending answered
  | spent => spent
  | answered former => answered former

/-- The first answer that there is counts. -/
theorem TicketState.told_told (first second : Option Reply) (waiting : TicketState) :
    (waiting.told first).told second = waiting.told (first.or second) := by
  cases waiting with
  | pending => cases first <;> rfl
  | answered | spent => rfl

namespace Coordinator

variable {π : Type} (setup : Setup π)

/-- Applies what is posted to be applied, in order. -/
def applyAll (queue : List Envelope) (state : Coordinator π) : Step (Coordinator π) Unit :=
  Step.forEach (queue.filterMap Envelope.input?) (handleInput setup) state

/-- The answer to a request that finds the coordinator in a state. -/
def reply? (state : Coordinator π) : Envelope → Option TicketReply
  | .authorize pid appId ticket => some (ticket, .allowed (authorize setup pid appId))
  | .bindTexture surface buffer ticket => some (ticket, .bound (state.bindTexture surface buffer))
  | .snapshot ticket => some (ticket, .picture (.ok state.snapshot))
  | _ => none

/-- The answer to a request behind other envelopes of a queue that is served from a state on. -/
def answerBehind? (state : Coordinator π) (earlier : List Envelope) (envelope : Envelope) :
    Option TicketReply :=
  if .shutdown ∈ earlier then envelope.closedAnswer?
  else reply? setup (applyAll setup earlier state).state envelope

/-- The answers to the requests of a queue, each from its place in the queue. -/
def answers (queue : List Envelope) (state : Coordinator π) : List TicketReply :=
  queue.zipIdx.filterMap fun posted =>
    answerBehind? setup state (queue.take posted.2) posted.1

variable {setup} {state : Coordinator π} {envelope : Envelope} {queue rest : List Envelope}

/-! ## One envelope -/

theorem applyAll_cons (envelope : Envelope) (rest : List Envelope) :
    applyAll setup (envelope :: rest) state =
      (applyAll setup [envelope] state).andThen fun _ next => applyAll setup rest next := by
  rw [applyAll, ← List.singleton_append, List.filterMap_append, Step.forEach_append]
  rfl

theorem serve_eq :
    serve setup envelope state =
      (applyAll setup [envelope] state).answering (reply? setup state envelope).toList := by
  cases envelope with
  | compositor event =>
      have applied : applyAll setup [.compositor event] state = handleEvent setup event state :=
        Step.andThen_quiet _
      rw [applied]
      rfl
  | shell command =>
      have applied : applyAll setup [.shell command] state = handleCommand setup command state :=
        Step.andThen_quiet _
      rw [applied]
      rfl
  | authorize | bindTexture | snapshot | shutdown => rfl

theorem dispatchPending_cons (proceeds : envelope ≠ .shutdown) :
    dispatchPending setup (envelope :: rest) state =
      (serve setup envelope state).andThen fun replies next =>
        let step := dispatchPending setup rest next
        step.answering
          ⟨step.answer.handled + 1, replies ++ step.answer.replies, step.answer.left⟩ := by
  cases envelope <;> first | contradiction | rfl

theorem run_cons (proceeds : envelope ≠ .shutdown) :
    run setup (envelope :: rest) state =
      (serve setup envelope state).andThen fun replies next =>
        let step := run setup rest next
        step.answering (replies ++ step.answer) := by
  cases envelope <;> first | contradiction | rfl

/-! ## Answers by place -/

/-- The first envelope is answered from the state there is, and the others as behind it. -/
theorem answers_cons :
    answers setup (envelope :: rest) state =
      (reply? setup state envelope).toList ++
        if envelope = .shutdown then rest.filterMap Envelope.closedAnswer?
        else answers setup rest (applyAll setup [envelope] state).state := by
  have first : answers setup (envelope :: rest) state =
      (reply? setup state envelope).toList ++ rest.zipIdx.filterMap fun posted =>
        answerBehind? setup state (envelope :: rest.take posted.2) posted.1 := by
    rw [answers, List.zipIdx_cons, List.zipIdx_succ, List.filterMap_cons, List.filterMap_map]
    have now : answerBehind? setup state [] envelope = reply? setup state envelope := rfl
    simp only [List.take_zero, now]
    cases reply? setup state envelope <;> rfl
  rw [first]
  congr 1
  by_cases ends : envelope = .shutdown
  · -- Behind a request to shut down nothing depends on the state any more.
    have refused (place : Nat) :
        answerBehind? setup state (envelope :: rest.take place) = Envelope.closedAnswer? := by
      funext other
      exact if_pos (by simp [ends])
    simp only [refused, if_pos ends]
    have places : rest.zipIdx.filterMap (Envelope.closedAnswer? ∘ Prod.fst) =
        (rest.zipIdx.map Prod.fst).filterMap Envelope.closedAnswer? := List.filterMap_map.symm
    rw [List.zipIdx_map_fst] at places
    exact places
  · have passed (place : Nat) :
        answerBehind? setup state (envelope :: rest.take place) =
          answerBehind? setup (applyAll setup [envelope] state).state (rest.take place) := by
      funext other
      simp only [answerBehind?, List.mem_cons, Ne.symm ends, false_or,
        applyAll_cons envelope (rest.take place)]
      rfl
    simp only [passed, if_neg ends]
    rfl

theorem tickets_answers :
    (answers setup queue state).map (·.1) = queue.filterMap Envelope.ticket? := by
  induction queue generalizing state with
  | nil => rfl
  | cons envelope rest ih =>
      have refused : (rest.filterMap Envelope.closedAnswer?).map (·.1) =
          rest.filterMap Envelope.ticket? := by
        rw [List.map_filterMap]
        simp only [Envelope.ticket_closedAnswer?]
      have later : (if envelope = .shutdown then rest.filterMap Envelope.closedAnswer?
          else answers setup rest (applyAll setup [envelope] state).state).map (·.1) =
          rest.filterMap Envelope.ticket? := by
        split
        · exact refused
        · exact ih
      rw [answers_cons, List.map_append, later]
      cases envelope <;> rfl

/-! ## Whole queues -/

/-- What is served are the envelopes before the first request to shut down, and they are answered
as if nothing stood behind them. -/
theorem dispatchPending_eq :
    let before := queue.takeWhile (· ≠ .shutdown)
    let handled := before.length + if .shutdown ∈ queue then 1 else 0
    dispatchPending setup queue state =
      (applyAll setup before state).answering
        ⟨handled, answers setup before state, queue.drop handled⟩ := by
  induction queue generalizing state with
  | nil => rfl
  | cons envelope rest ih =>
      by_cases ends : envelope = .shutdown
      · subst ends
        rfl
      · have proceeds : decide (envelope ≠ .shutdown) = true := decide_eq_true ends
        rw [dispatchPending_cons ends, serve_eq]
        simp only [ih, List.takeWhile_cons, proceeds, if_true, answers_cons, if_neg ends,
          applyAll_cons envelope (rest.takeWhile _), List.length_cons, List.mem_cons, Ne.symm ends,
          false_or]
        have shift (count : Nat) : (rest.takeWhile (· ≠ .shutdown)).length + 1 + count =
            (rest.takeWhile (· ≠ .shutdown)).length + count + 1 := by omega
        simp only [shift, List.drop_succ_cons]
        rfl

theorem run_eq :
    run setup queue state =
      (dispatchPending setup queue state).andThen fun served next =>
        (shutdown setup next).answering
          (served.replies ++ served.left.filterMap Envelope.closedAnswer?) := by
  induction queue generalizing state with
  | nil => rfl
  | cons envelope rest ih =>
      by_cases ends : envelope = .shutdown
      · subst ends
        rw [run, Envelope.refusals_eq]
        rfl
      · rw [run_cons ends, dispatchPending_cons ends]
        simp only [ih, Step.andThen, Step.answering, List.append_assoc]

theorem answer_run : (run setup queue state).answer = answers setup queue state := by
  induction queue generalizing state with
  | nil => rfl
  | cons envelope rest ih =>
      rw [answers_cons]
      by_cases ends : envelope = .shutdown
      · subst ends
        rw [run, Envelope.refusals_eq]
        rfl
      · rw [run_cons ends, if_neg ends, ← ih, serve_eq]
        rfl

end Coordinator

/-! ## The receiving end -/

namespace Bridge

variable {π : Type}

theorem queue_deliver (bridge : Bridge π) (replies : List TicketReply) :
    (replies.foldl deliver bridge).queue = bridge.queue := by
  induction replies generalizing bridge with
  | nil => rfl
  | cons reply rest ih =>
      apply (ih (bridge.deliver reply)).trans
      unfold deliver
      split <;> rfl

/-- Who is answered depends on nothing but who waits. -/
theorem tickets_deliver {first second : Bridge π} (same : first.tickets = second.tickets)
    (replies : List TicketReply) :
    (replies.foldl deliver first).tickets = (replies.foldl deliver second).tickets := by
  induction replies generalizing first second with
  | nil => exact same
  | cons reply rest ih =>
      apply ih
      unfold deliver
      rw [same]
      split
      · rfl
      · exact same

theorem getElem?_deliver (bridge : Bridge π) (reply : TicketReply) (ticket : Ticket) :
    (bridge.deliver reply).tickets[ticket]? =
      bridge.tickets[ticket]?.map (·.told (if ticket = reply.1 then some reply.2 else none)) := by
  by_cases addressed : ticket = reply.1
  · subst addressed
    unfold deliver
    cases waiting : bridge.tickets[reply.1]? with
    | none => simp [waiting]
    | some state =>
        have known : reply.1 < bridge.tickets.length := (List.getElem?_eq_some_iff.1 waiting).1
        cases state with
        | pending => simp [known, TicketState.told]
        | answered | spent => simp [waiting, TicketState.told]
  · have same : (bridge.deliver reply).tickets[ticket]? = bridge.tickets[ticket]? := by
      unfold deliver
      split
      · exact List.getElem?_set_ne (Ne.symm addressed)
      · rfl
    have untold : TicketState.told none = id := by
      funext waiting
      cases waiting <;> rfl
    rw [same, if_neg addressed, untold, Option.map_id_fun, id]

/-- A request that waits is told the first answer under its ticket, and nobody else is told
anything. -/
theorem getElem?_deliver_all (bridge : Bridge π) (replies : List TicketReply) (ticket : Ticket) :
    (replies.foldl deliver bridge).tickets[ticket]? =
      bridge.tickets[ticket]?.map (·.told (replies.lookup ticket)) := by
  induction replies generalizing bridge with
  | nil =>
      cases waiting : bridge.tickets[ticket]? with
      | none => rw [List.foldl_nil, waiting]; rfl
      | some state => rw [List.foldl_nil, waiting]; cases state <;> rfl
  | cons reply rest ih =>
      have answer : List.lookup ticket (reply :: rest) =
          (if ticket = reply.1 then some reply.2 else none).or (rest.lookup ticket) := by
        rw [List.lookup_cons]
        by_cases addressed : ticket = reply.1
        · rw [if_pos addressed, beq_iff_eq.2 addressed, Option.some_or]
        · rw [if_neg addressed, beq_false_of_ne addressed, Option.none_or]
      rw [List.foldl_cons, ih, getElem?_deliver, Option.map_map, answer]
      simp only [Function.comp_def, TicketState.told_told]

/-- Nobody holds the wake lock any more as the coordinator is destroyed. -/
theorem destroy_silent (setup : Setup π) (state : Coordinator π) :
    ((Coordinator.shutdown setup state).state.withWakeLock
      (·.releaseAll setup.power)).effects = [] := by
  have ended : (Coordinator.shutdown setup state).state.wakeLock.releaseAll setup.power =
      .quiet (Coordinator.shutdown setup state).state.wakeLock () := by
    rw [Coordinator.shutdown_eq]
    exact WakeLock.releaseAll_of_free WakeLock.owners_synchronize WakeLock.synchronize_settled
  rw [Coordinator.withWakeLock, ended]
  rfl

/-- Where nothing is left to prepare, the coordinator serves what is queued, ends everybody, and
the receiving end is destroyed. -/
theorem run_queued (setup : Setup π) (state : Coordinator π) (queue : List Envelope)
    (tickets : List TicketState) :
    let bridge : Bridge π := ⟨some state, true, queue, tickets⟩
    let served := Coordinator.dispatchPending setup queue state
    let ran := bridge.run setup .queued
    ran.effects = (bridge.dispatchPending setup).effects ++
        (Coordinator.shutdown setup served.state).effects ∧
      ran.state.tickets = (bridge.dispatchPending setup).state.dropReceiver.tickets ∧
      ∀ ticket : Ticket, ran.state.tickets[ticket]? =
        tickets[ticket]?.map (·.told ((Coordinator.answers setup queue state).lookup ticket)) := by
  intro bridge served ran
  have whole : ran =
      let last := Coordinator.run setup queue state
      ⟨last.answer.foldl deliver ⟨none, false, [], tickets⟩, true,
        last.effects ++ (last.state.withWakeLock (·.releaseAll setup.power)).effects⟩ := rfl
  have handled : bridge.dispatchPending setup =
      ⟨served.answer.replies.foldl deliver ⟨some served.state, true, served.answer.left, tickets⟩,
        some (served.answer.handled, served.answer.replies), served.effects⟩ := rfl
  refine ⟨?_, ?_, ?_⟩
  · rw [whole, handled, Coordinator.run_eq]
    simp only [Step.andThen, Step.answering, destroy_silent, List.append_nil]
    rfl
  · rw [whole, handled, Coordinator.run_eq]
    simp only [Step.andThen, Step.answering, List.foldl_append, dropReceiver, queue_deliver,
      Envelope.refusals_eq]
    apply tickets_deliver
    apply tickets_deliver
    rfl
  · intro ticket
    rw [whole, ← Coordinator.answer_run]
    exact getElem?_deliver_all _ _ ticket

/-- How a run is brought to its end only decides what is queued, and who waits, as it begins. -/
theorem run_prepare (setup : Setup π) (ending : RunEnd) (state : Coordinator π)
    (queue : List Envelope) (tickets : List TicketState) :
    let bridge : Bridge π := ⟨some state, true, queue, tickets⟩
    let ready := bridge.prepare ending
    ready = ⟨some state, true, ready.queue, ready.tickets⟩ ∧
      bridge.run setup ending = ready.run setup .queued := by
  cases ending <;> exact ⟨rfl, rfl⟩

end Bridge

/-! ## Runs -/

/-- To run on a queue is to serve what is queued, to end everybody, and to refuse what is left.
The envelopes before the first request to shut down are applied, in the order in which they were
posted, and no others; as many are taken, and the request to shut down if there is one. Each request
is answered once: those before the request to shut down from the state that the envelopes before
them have led to, and those behind it by a refusal: no client may connect, and the channel is closed
for whoever asks for a texture or a snapshot. For who waits at the other end of the queue it makes
no difference either whether the coordinator runs to its end or is told to dispatch and then to end,
and the receiving end is destroyed; whoever waits is told the answer under their ticket. -/
theorem Coordinator.run_like_dispatch {π : Type} (setup : Setup π) (queue : List Envelope)
    (state : Coordinator π) :
    let ran := run setup queue state
    let served := dispatchPending setup queue state
    let ended := shutdown setup served.state
    let before := queue.takeWhile (· ≠ .shutdown)
    (ran.state = ended.state ∧ ran.effects = served.effects ++ ended.effects ∧
      ran.answer =
        served.answer.replies ++ served.answer.left.filterMap Envelope.closedAnswer?) ∧
    (served.state = (applyAll setup before state).state ∧
      served.effects = (applyAll setup before state).effects ∧
      served.answer.handled = before.length + (if .shutdown ∈ queue then 1 else 0) ∧
      served.answer.replies = answers setup before state ∧
      served.answer.left = queue.drop served.answer.handled) ∧
    (ran.answer = answers setup queue state ∧
      ran.answer.map (·.1) = queue.filterMap Envelope.ticket?) ∧
    ∀ (tickets : List TicketState) (ending : RunEnd),
      let bridge : Bridge π := ⟨some state, true, queue, tickets⟩
      let ready := bridge.prepare ending
      let last := bridge.run setup ending
      last.effects = (ready.dispatchPending setup).effects ++
          (shutdown setup (dispatchPending setup ready.queue state).state).effects ∧
        last.state.tickets = (ready.dispatchPending setup).state.dropReceiver.tickets ∧
        ∀ ticket : Ticket, last.state.tickets[ticket]? =
          ready.tickets[ticket]?.map (·.told ((answers setup ready.queue state).lookup ticket)) := by
  intro ran served ended before
  have whole : ran = served.andThen fun answer next =>
      (shutdown setup next).answering
        (answer.replies ++ answer.left.filterMap Envelope.closedAnswer?) := run_eq
  have part : served = (applyAll setup before state).answering
      ⟨before.length + (if .shutdown ∈ queue then 1 else 0), answers setup before state,
        queue.drop (before.length + if .shutdown ∈ queue then 1 else 0)⟩ := dispatchPending_eq
  have answered : ran.answer = answers setup queue state := answer_run
  refine ⟨?_, ?_, ?_, ?_⟩
  · rw [whole]
    exact ⟨rfl, rfl, rfl⟩
  · rw [part]
    exact ⟨rfl, rfl, rfl, rfl, rfl⟩
  · rw [answered]
    exact ⟨rfl, tickets_answers⟩
  · intro tickets ending bridge ready last
    obtain ⟨prepared, same⟩ := Bridge.run_prepare setup ending state queue tickets
    have served := Bridge.run_queued setup state ready.queue ready.tickets
    rw [← prepared] at served
    have queued : last = ready.run setup .queued := same
    rw [queued]
    exact served

end AppLifecycle
