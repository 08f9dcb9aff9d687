import CarrotRpc.Client.WriteOnce
import CarrotRpc.Protocol.OwnResponses

/-! Requests in a row. The calls of a connection do not wait for each other: their requests
queue up at the server, and its responses at the client. No request is served twice, and
both queues keep their order. -/

set_option autoImplicit false

namespace CarrotRpc.Protocol.Conversing

open Library Library.Faulting Common Protob
open Server Serving Pairings
open Client (ConnRef TaskRef Part Stage Progress Passage Budget)
open Streams (Link)
open Verdicts (responseParts)

variable {Msg : Type}

/-- What happened on a connection: the calls whose requests were written, the responses of
the server, and how many payloads the client has read. -/
structure Trace where
  written : List TaskRef := []
  replies : List Reply := []
  read : Nat := 0

/-- The call whose request a step of the client writes. -/
def writer (conn : ConnRef) : Client.Label Msg → Option TaskRef
  | .writeSome ⟨other, .write task _ _, _⟩ _ => if other = conn then some task else none
  | _ => none

section Notes

variable [Protobuf]

def served (services : Services Msg) (perform : Method Msg → Msg → Outcome Msg)
    (heaps : Realloc × Realloc) (delivery : Delivery) (link : Link) : List Reply :=
  match Serving.async services (heaps.1, ⟨heaps.2, perform, delivery⟩) link with
  | (_, .ok reply) => [reply]
  | (_, .error _) => []

def note (services : Services Msg) (perform : Method Msg → Msg → Outcome Msg) (conn : ConnRef)
    (talk : Conversation Msg) (event : Event Msg) (trace : Trace) : Trace :=
  match event with
  | .client label =>
      { trace with
        written := trace.written ++ (writer conn label).toList
        read := match readOf conn talk.client label with
          | some (.payload, _, _) => trace.read + 1
          | _ => trace.read }
  | .serve heaps delivery =>
      { trace with
        replies := trace.replies ++
          talk.server.elim [] (served services perform heaps delivery) }

/-- The requests of the calls as they are written. -/
def requests (client : Client.State Msg) (tasks : List TaskRef) : List UInt8 :=
  (tasks.map fun task => (asked client task).packet).flatten

def Reply.parts (ended : Reply) : Parts := responseParts ended.rpcResp ended.resp

def responses (exchanges : List (TaskRef × Reply)) : List UInt8 :=
  (exchanges.map fun exchange => (Reply.parts exchange.2).packet).flatten

/-- The server answered a request of the connection. -/
structure AnswersRequest (services : Services Msg) (perform : Method Msg → Msg → Outcome Msg)
    (conn : ConnRef) (client : Client.State Msg) (exchange : TaskRef × Reply) : Prop where
  mine : Mine conn client exchange.1
  small : (Reply.parts exchange.2).Small
  responds : Responds services perform (client.tasks exchange.1).call
    (client.tasks exchange.1).id exchange.2

end Notes

/-- The requests that were written: those whose responses were read, those whose responses
are on their way, and those the server has still to read. -/
structure Pipeline where
  handled : List (TaskRef × Reply) := []
  flying : List (TaskRef × Reply) := []
  waiting : List TaskRef := []

namespace Pipeline

def calls (pipeline : Pipeline) : List TaskRef :=
  pipeline.handled.map Prod.fst ++ pipeline.flying.map Prod.fst ++ pipeline.waiting

/-- The pipeline accounts for everything that happened. -/
structure Accounts (pipeline : Pipeline) (trace : Trace) : Prop where
  written : trace.written = pipeline.calls
  replies : trace.replies = pipeline.handled.map Prod.snd ++ pipeline.flying.map Prod.snd
  read : trace.read = pipeline.handled.length

end Pipeline

section Order

variable [Protobuf]

/-- What arrives at a connection in the given stage. -/
def Pipeline.Arrives (conn : ConnRef) (talk : Conversation Msg) (pipeline : Pipeline) :
    Stage → Prop
  | .fresh | .resolving _ => pipeline = {} ∧ talk.server = none
  | .connecting _ | .linked | .reading .header => talk.arriving = responses pipeline.flying
  | .reading .payload => ∃ task current rest, pipeline.flying = (task, current) :: rest ∧
      (talk.client.connections conn).header = (Reply.parts current).header ∧
      (talk.client.connections conn).n = lengthSum (Reply.parts current).header ∧
      talk.arriving = (Reply.parts current).payload ++ responses rest

/-- What holds of the pipeline between the events of a conversation, before the connection
ends. -/
structure Pipeline.Ordered (services : Services Msg)
    (perform : Method Msg → Msg → Outcome Msg) (conn : ConnRef) (talk : Conversation Msg)
    (pipeline : Pipeline) : Prop where
  budget : Budget (fun task => pipeline.calls.count task) talk.client
  answered : ∀ exchange ∈ pipeline.handled ++ pipeline.flying,
    AnswersRequest services perform conn talk.client exchange
  asking : ∀ task ∈ pipeline.waiting,
    Mine conn talk.client task ∧ (asked talk.client task).Small
  incoming : ∀ link, talk.server = some link →
    link.incoming.flatten = requests talk.client pipeline.waiting
  settled : ∀ task, Mine conn talk.client task → (talk.client.tasks task).Succeeded →
    task ∈ pipeline.handled.map Prod.fst
  standing : (Client.Unopened conn talk.client ∧ pipeline = {} ∧ talk.server = none) ∨
    ∃ stage, stage ≠ .fresh ∧ Client.At conn stage talk.client ∧
      pipeline.Arrives conn talk stage

/-- The pipeline accounts for the event too. -/
def Follows (services : Services Msg) (perform : Method Msg → Msg → Outcome Msg) (conn : ConnRef)
    (talk : Conversation Msg) (event : Event Msg) (pipeline later : Pipeline) : Prop :=
  ∀ trace, pipeline.Accounts trace → later.Accounts (note services perform conn talk event trace)

section Moves

variable {services : Services Msg} {perform : Method Msg → Msg → Outcome Msg} {conn : ConnRef}
  {exempt : Option TaskRef} {before after : Client.State Msg} {pipeline : Pipeline}
  {task : TaskRef}

theorem AnswersRequest.progress {exchange : TaskRef × Reply}
    (answers : AnswersRequest services perform conn before exchange)
    (progress : Progress conn exempt before after) :
    AnswersRequest services perform conn after exchange := by
  have keeps := progress.keeps exchange.1 answers.mine.1
  refine ⟨answers.mine.progress progress, answers.small, ?_⟩
  rw [keeps.id, keeps.call]
  exact answers.responds

theorem requests_progress {tasks : List TaskRef} (mine : ∀ task ∈ tasks, Mine conn before task)
    (progress : Progress conn exempt before after) :
    requests after tasks = requests before tasks := by
  apply congrArg List.flatten
  apply List.map_congr_left
  intro task member
  rw [asked_progress (mine task member) progress]

theorem requests_append (client : Client.State Msg) (first second : List TaskRef) :
    requests client (first ++ second) = requests client first ++ requests client second := by
  rw [requests, List.map_append, List.flatten_append]
  rfl

theorem responses_append (first second : List (TaskRef × Reply)) :
    responses (first ++ second) = responses first ++ responses second := by
  rw [responses, List.map_append, List.flatten_append]
  rfl

/-- The call whose request was written last. -/
def Pipeline.push (task : TaskRef) (pipeline : Pipeline) : Pipeline :=
  { pipeline with waiting := pipeline.waiting ++ [task] }

omit [Protobuf] in
theorem Pipeline.calls_push (pipeline : Pipeline) (task : TaskRef) :
    (pipeline.push task).calls = pipeline.calls ++ [task] := by
  rw [calls, calls, List.append_assoc _ pipeline.waiting]
  rfl

/-- The request that waited first was answered. -/
def Pipeline.respond (task : TaskRef) (ended : Reply) (rest : List TaskRef)
    (pipeline : Pipeline) : Pipeline :=
  { pipeline with flying := pipeline.flying ++ [(task, ended)], waiting := rest }

omit [Protobuf] in
theorem Pipeline.calls_respond {ended : Reply} {rest : List TaskRef}
    (queue : pipeline.waiting = task :: rest) :
    (pipeline.respond task ended rest).calls = pipeline.calls := by
  simp only [calls, respond, queue, List.map_append, List.map_cons, List.map_nil,
    List.append_assoc, List.cons_append, List.nil_append]

omit [Protobuf] in
theorem Budget.push (budget : Budget (fun other => pipeline.calls.count other +
      if other = task then 1 else 0) after) :
    Budget (fun other => (pipeline.push task).calls.count other) after := by
  have same : (fun other => pipeline.calls.count other + if other = task then 1 else 0) =
      fun other => (pipeline.push task).calls.count other := by
    funext other
    rw [Pipeline.calls_push, List.count_append, List.count_singleton]
    by_cases equal : other = task
    · subst equal
      simp only [if_true, beq_self_eq_true]
    · simp only [if_neg equal, beq_eq_false_iff_ne.mpr (Ne.symm equal), Bool.false_eq_true, if_false]
  rw [← same]
  exact budget

/-- What is on its way stays what it is. -/
theorem Pipeline.Arrives.progress {talk : Conversation Msg} {client : Client.State Msg}
    {server : Option Link} {stage : Stage} (arrives : pipeline.Arrives conn talk stage)
    (progress : Progress conn exempt talk.client client) (known : conn < talk.client.nextConn)
    (closed : stage.closed = true → server = none) :
    pipeline.Arrives conn { talk with client, server } stage := by
  cases stage with
  | fresh => exact ⟨arrives.1, closed rfl⟩
  | resolving task => exact ⟨arrives.1, closed rfl⟩
  | connecting | linked => exact arrives
  | reading part =>
      cases part with
      | header => exact arrives
      | payload =>
          obtain ⟨header, n⟩ := progress.header known
          obtain ⟨task, current, rest, flying, sameHeader, sameN, split⟩ := arrives
          exact ⟨task, current, rest, flying, header.trans sameHeader, n.trans sameN, split⟩

/-- A response is on its way behind the others. -/
theorem Pipeline.Arrives.respond {talk : Conversation Msg} {server : Option Link} {stage : Stage}
    (arrives : pipeline.Arrives conn talk stage) (listening : talk.server.isSome = true)
    (task : TaskRef) (ended : Reply) (rest : List TaskRef) :
    (pipeline.respond task ended rest).Arrives conn
      { talk with server, arriving := talk.arriving ++ (Reply.parts ended).packet } stage := by
  have behind : ∀ flying : List (TaskRef × Reply), responses (flying ++ [(task, ended)]) =
      responses flying ++ (Reply.parts ended).packet := by
    intro flying
    rw [responses_append]
    simp only [responses, List.map_cons, List.map_nil, List.flatten_cons, List.flatten_nil,
      List.append_nil]
  cases stage with
  | fresh | resolving =>
      rw [arrives.2] at listening
      cases listening
  | connecting | linked =>
      have arrives : talk.arriving = responses pipeline.flying := arrives
      simp only [Pipeline.Arrives, Pipeline.respond, behind, arrives]
  | reading part =>
      cases part with
      | header =>
          have arrives : talk.arriving = responses pipeline.flying := arrives
          simp only [Pipeline.Arrives, Pipeline.respond, behind, arrives]
      | payload =>
          obtain ⟨first, current, others, flying, header, n, split⟩ := arrives
          refine ⟨first, current, others ++ [(task, ended)], ?_, header, n, ?_⟩
          · rw [Pipeline.respond, flying]
            rfl
          · rw [split, behind, List.append_assoc]

theorem settled_progress {handled : List TaskRef}
    (settled : ∀ task, Mine conn before task → (before.tasks task).Succeeded → task ∈ handled)
    (progress : Progress conn exempt before after)
    (exempted : ∀ task, exempt = some task → task ∈ handled) :
    ∀ task, Mine conn after task → (after.tasks task).Succeeded → task ∈ handled := by
  intro task mine succeeded
  by_cases ordinary : exempt = some task
  · exact exempted task ordinary
  · by_cases older : task < before.nextTask
    · have keeps := progress.keeps task older
      obtain ⟨earlier, -⟩ := keeps.settled ordinary mine.2 succeeded
      exact settled task ⟨older, keeps.own.symm.trans mine.2⟩ earlier
    · exact absurd succeeded
        (progress.fresh task (Nat.not_lt.mp older) mine.1 ordinary mine.2)

end Moves

section Serving

variable [LawfulProtobuf] {services : Services Msg} {perform : Method Msg → Msg → Outcome Msg}
  {conn : ConnRef} {client : Client.State Msg} {link after : Link} {heaps : Realloc × Realloc}
  {delivery : Delivery} {ended : Reply} {task : TaskRef} {tasks : List TaskRef}

/-- The server answers the first of the requests that wait for it. -/
theorem answers_first (serves : Serves conn client link)
    (succeeds : heaps.1.Succeeds ∧ heaps.2.Succeeds) (mine : Mine conn client task)
    (small : (asked client task).Small)
    (arrives : link.incoming.flatten = requests client (task :: tasks))
    (ran : async services (heaps.1, ⟨heaps.2, perform, delivery⟩) link = (after, .ok ended)) :
    AnswersRequest services perform conn client (task, ended) ∧
      ended.packet = (Reply.parts ended).packet ∧
      after.incoming.flatten = requests client tasks := by
  have arrives : link.incoming.flatten =
      (asked client task).packet ++ requests client tasks := arrives
  obtain ⟨-, -, left⟩ := async_left small serves.sound serves.alive succeeds arrives ran
  obtain ⟨answered, room⟩ := async_replies small serves.sound serves.alive succeeds arrives
    (congrArg Prod.snd ran)
  have responds : Responds services perform (client.tasks task).call (client.tasks task).id
      ended := responds_of_answer small answered
  have limit : max link.conn.largest.toNat (asked client task).packet.length ≤ maxSize := by
    apply Nat.max_le.mpr
    refine ⟨serves.sound.bound, ?_⟩
    rw [Parts.length_packet]
    exact small
  have reached : (Reply.parts ended).Small := by
    rw [Parts.Small, ← Parts.length_packet, Reply.parts, ← responds.packet]
    exact room.trans (roundUp_le limit)
  exact ⟨⟨mine, reached, responds⟩, responds.packet, left⟩

theorem ordered_stepServer {talk next : Conversation Msg} {pipeline : Pipeline}
    (sound : Consistent services perform conn talk)
    (ordered : pipeline.Ordered services perform conn talk)
    (succeeds : heaps.1.Succeeds ∧ heaps.2.Succeeds)
    (stepped : talk.stepServer services perform heaps delivery = some next) :
    ∃ later : Pipeline, later.Ordered services perform conn next ∧
      Follows services perform conn talk (.serve heaps delivery) pipeline later := by
  unfold Conversation.stepServer at stepped
  cases listening : talk.server with
  | none =>
      rw [listening] at stepped
      cases stepped
  | some link =>
      have serves := sound.serves link listening
      have arrives := ordered.incoming link listening
      simp only [listening] at stepped
      rcases ran : async services (heaps.1, ⟨heaps.2, perform, delivery⟩) link with
        ⟨after, fault | ended⟩
      · -- the server waits, or it gives up the connection
        have silent : served services perform heaps delivery link = [] := by
          rw [served, ran]
        have opened : ∀ stage, stage ≠ .fresh → Client.At conn stage talk.client →
            pipeline.Arrives conn talk stage →
            pipeline.Arrives conn { talk with server := none } stage := by
          intro stage started _ arriving
          cases stage with
          | fresh => exact absurd rfl started
          | resolving => exact ⟨arriving.1, rfl⟩
          | connecting | linked => exact arriving
          | reading part =>
              cases part with
              | header => exact arriving
              | payload => exact arriving
        have given : pipeline.Ordered services perform conn { talk with server := none } := by
          refine ⟨ordered.budget, ordered.answered, ordered.asking, ?_, ordered.settled, ?_⟩
          · intro link same
            cases same
          · rcases ordered.standing with ⟨unknown, empty, -⟩ | ⟨stage, started, stands, arriving⟩
            · exact .inl ⟨unknown, empty, rfl⟩
            · exact .inr ⟨stage, started, stands, opened stage started stands arriving⟩
        rw [ran] at stepped
        cases fault with
        | unread => cases stepped
        | hangs | crashes | overruns | noMemory | metadataUnparsed | parameterUnparsed | escapes
        | metadataUnserialized | responseUnserialized | unsent =>
            cases stepped
            refine ⟨pipeline, given, ?_⟩
            intro trace accounts
            simp only [note, listening, Option.elim_some, silent, List.append_nil]
            exact accounts
      · rw [ran] at stepped
        cases stepped
        have replied : served services perform heaps delivery link = [ended] := by
          rw [served, ran]
        cases queue : pipeline.waiting with
        | nil =>
            have short : link.incoming.flatten.length < sizeofPacket := by
              rw [arrives, queue, requests, List.map_nil, List.flatten_nil]
              decide
            have waits : (async services (heaps.1, ⟨heaps.2, perform, delivery⟩) link).2 =
                .error .unread := async_waits serves.sound succeeds.1 short
            rw [ran] at waits
            cases waits
        | cons task rest =>
            rw [queue] at arrives
            have member : task ∈ pipeline.waiting := by
              rw [queue]
              exact List.mem_cons_self
            obtain ⟨mine, small⟩ := ordered.asking task member
            obtain ⟨answers, packet, left⟩ := answers_first serves succeeds mine small arrives ran
            refine ⟨pipeline.respond task ended rest, ⟨?_, ?_, ?_, ?_, ordered.settled, ?_⟩, ?_⟩
            · rw [Pipeline.calls_respond queue]
              exact ordered.budget
            · intro exchange found
              rcases List.mem_append.mp found with old | new
              · exact ordered.answered exchange (List.mem_append_left _ old)
              · rcases List.mem_append.mp new with old | last
                · exact ordered.answered exchange (List.mem_append_right _ old)
                · rw [List.mem_singleton.mp last]
                  exact answers
            · intro other found
              apply ordered.asking other
              rw [queue]
              exact List.mem_cons_of_mem _ found
            · intro other same
              cases same
              exact left
            · rcases ordered.standing with ⟨-, -, gone⟩ | ⟨stage, started, stands, arriving⟩
              · cases gone.symm.trans listening
              · refine .inr ⟨stage, started, stands, ?_⟩
                rw [packet]
                exact arriving.respond (by rw [listening]; rfl) task ended rest
            · intro trace accounts
              refine ⟨?_, ?_, accounts.read⟩
              · rw [Pipeline.calls_respond queue]
                exact accounts.written
              · simp only [note, listening, Option.elim_some, replied, accounts.replies,
                  Pipeline.respond, List.map_append, List.map_cons, List.map_nil,
                  List.append_assoc]

end Serving

section Stepping

variable {services : Services Msg} {perform : Method Msg → Msg → Outcome Msg} {conn : ConnRef}
  {talk next : Conversation Msg} {label : Client.Label Msg} {client : Client.State Msg}
  {task : TaskRef} {pipeline : Pipeline}

omit [Protobuf] in
theorem written_of_writer (quiet : writer conn label = none) : written conn label = none := by
  cases label with
  | writeSome op count =>
      obtain ⟨other, kind, status⟩ := op
      cases kind with
      | write task packet sent =>
          by_cases same : other = conn
          · simp only [writer, if_pos same, reduceCtorEq] at quiet
          · simp only [written, if_neg same]
      | resolve | connect | readHeader | readPayload | timer => rfl
  | callMethod | complete | handle => rfl

/-- What a step of the client writes is the whole request of a call. -/
theorem request_of_writer (packed : Client.Packed conn talk.client) (whole : Whole conn label)
    (writes : writer conn label = some task) (stepped : talk.client.step label = some client) :
    ∃ packet status, label = .writeSome ⟨conn, .write task packet 0, status⟩ packet.length ∧
      Mine conn talk.client task ∧ packet = (asked talk.client task).packet ∧
      (asked talk.client task).Small ∧ written conn label = some packet ∧
      (talk.client.connections conn).socket.connected = true := by
  unfold writer at writes
  split at writes
  · next other bound packet sent status count =>
      split at writes
      · next same =>
          subst same
          cases writes
          obtain ⟨rfl, rfl, fits⟩ := whole rfl
          have moved : talk.client.writeSome ⟨other, .write task packet 0, status⟩ packet.length =
              some client := stepped
          obtain ⟨_, _, _, -, member, -, connected, -⟩ := Client.writeSome_eq_some moved
          obtain ⟨known, own, content⟩ := packed _ member rfl task packet 0 rfl
          have content : packet = (asked talk.client task).packet := content
          refine ⟨packet, status, rfl, ⟨known, own⟩, content, ?_, ?_, connected⟩
          · rw [content, Parts.length_packet] at fits
            exact fits
          · simp only [written, if_true, List.drop_zero, List.take_length]
      · cases writes
  · cases writes

/-- A step that neither sets the connection up nor reads from it. -/
theorem ordered_routine (base : Client.Base False (.none, talk.client))
    (plugged : Client.Plugged talk.client) (sound : Consistent services perform conn talk)
    (ordered : pipeline.Ordered services perform conn talk) (whole : Whole conn label)
    (routine : ¬ Client.Advances conn label) (stepped : talk.stepClient conn label = some next) :
    Client.Beyond conn next.client ∨ ∃ later : Pipeline,
      later.Ordered services perform conn next ∧
        Follows services perform conn talk (.client label) pipeline later := by
  have noRead : readOf conn talk.client label = none := by
    cases reads : readOf conn talk.client label with
    | none => rfl
    | some read => exact absurd (advances_of_readOf reads) routine
  have noOpening : reopens conn label = false := by
    cases opens : reopens conn label with
    | false => rfl
    | true => exact absurd (advances_of_reopens opens) routine
  simp only [Conversation.stepClient, noRead, noOpening, Bool.false_eq_true, if_false] at stepped
  obtain ⟨client, moved, rfl⟩ := Option.map_eq_some_iff.mp stepped
  have passage := Client.passage_step base routine moved
  by_cases ended : Client.Beyond conn client
  · exact .inl ended
  right
  have progress := passage.toProgress
  have answered : ∀ exchange ∈ pipeline.handled ++ pipeline.flying,
      AnswersRequest services perform conn client exchange :=
    fun exchange member => (ordered.answered exchange member).progress progress
  have asking : ∀ task ∈ pipeline.waiting, Mine conn client task ∧ (asked client task).Small := by
    intro task member
    obtain ⟨mine, small⟩ := ordered.asking task member
    rw [asked_progress mine progress]
    exact ⟨mine.progress progress, small⟩
  have settled := settled_progress ordered.settled progress (by rintro task ⟨⟩)
  have kept : requests client pipeline.waiting = requests talk.client pipeline.waiting :=
    requests_progress (fun task member => (ordered.asking task member).1) progress
  cases writes : writer conn label with
  | none =>
      rw [written_of_writer writes]
      refine ⟨pipeline, ⟨ordered.budget.step base moved, answered, asking, ?_, settled, ?_⟩, ?_⟩
      · intro link listening
        exact (ordered.incoming link listening).trans kept.symm
      · rcases ordered.standing with ⟨unknown, empty, gone⟩ | ⟨stage, started, stands, arriving⟩
        · rcases passage.unknown unknown with later | ⟨task, ended' | stands⟩
          · exact .inl ⟨later, empty, gone⟩
          · exact absurd ended' ended
          · exact .inr ⟨.resolving task, Stage.noConfusion, stands, empty, gone⟩
        · rcases passage.standing stage started stands with ended' | after
          · exact absurd ended' ended
          · refine .inr ⟨stage, started, after, ?_⟩
            apply arriving.progress progress stands.known
            intro closed
            cases stage with
            | fresh | resolving => exact arriving.2
            | connecting | linked | reading => cases closed
      · intro trace accounts
        simp only [note, writes, noRead, Option.toList_none, List.append_nil]
        exact accounts
  | some task =>
      obtain ⟨packet, status, rfl, mine, content, small, wrote, connected⟩ :=
        request_of_writer sound.packed whole writes moved
      have isOpen := plugged conn (.inl connected)
      have spent := Client.Budget.writeWhole base ordered.budget moved
      rw [wrote]
      refine ⟨pipeline.push task, ⟨Budget.push spent, answered, ?_, ?_, settled, ?_⟩, ?_⟩
      · intro other member
        rcases List.mem_append.mp member with old | new
        · exact asking other old
        · rw [List.mem_singleton.mp new, asked_progress mine progress]
          exact ⟨mine.progress progress, small⟩
      · intro link listening
        obtain ⟨before, earlier, rfl⟩ := Option.map_eq_some_iff.mp listening
        have arrives := ordered.incoming before earlier
        rw [Pipeline.push, requests_append, kept]
        simp only [Conversation.deliver, List.flatten_append, arrives, List.flatten_cons,
          List.flatten_nil, List.append_nil, content, requests, List.map_cons, List.map_nil,
          asked_progress mine progress]
      · rcases ordered.standing with ⟨unknown, -⟩ | ⟨stage, started, stands, arriving⟩
        · have bound : (talk.client.tasks task).conn < talk.client.nextConn :=
            base.sound.conn_lt task mine.1
          rw [mine.2] at bound
          exact absurd bound (Nat.not_lt.mpr unknown.later)
        · rcases passage.standing stage started stands with ended' | after
          · exact absurd ended' ended
          · refine .inr ⟨stage, started, after, ?_⟩
            have opened : stage.closed = false := by
              rw [stands.isOpen] at isOpen
              exact Bool.not_eq_true' _ ▸ isOpen
            have later : (pipeline.push task).Arrives conn talk stage := by
              cases stage with
              | fresh | resolving => cases opened
              | connecting | linked => exact arriving
              | reading part =>
                  cases part with
                  | header => exact arriving
                  | payload => exact arriving
            apply later.progress progress stands.known
            intro closed
            cases opened.symm.trans closed
      · intro trace accounts
        refine ⟨?_, accounts.replies, ?_⟩
        · simp only [note, writes, accounts.written, Option.toList_some, Pipeline.calls_push]
        · simp only [note, noRead]
          exact accounts.read

/-- The connection gets to a further stage of its set-up. -/
theorem ordered_of_stands {before : Client.State Msg} {exempt : Option TaskRef}
    {server : Option Link} {bytes : List UInt8} {stage : Stage}
    (budget : Budget (fun task => pipeline.calls.count task) client)
    (answered : ∀ exchange ∈ pipeline.handled ++ pipeline.flying,
      AnswersRequest services perform conn before exchange)
    (asking : ∀ task ∈ pipeline.waiting, Mine conn before task ∧ (asked before task).Small)
    (incoming : ∀ link, server = some link →
      link.incoming.flatten = requests before pipeline.waiting)
    (settled : ∀ task, Mine conn before task → (before.tasks task).Succeeded →
      task ∈ pipeline.handled.map Prod.fst)
    (progress : Progress conn exempt before client)
    (exempted : ∀ task, exempt = some task → task ∈ pipeline.handled.map Prod.fst)
    (started : stage ≠ .fresh) (stands : Client.Stands conn stage client)
    (arrives : pipeline.Arrives conn { client, server, arriving := bytes } stage) :
    Client.Beyond conn client ∨
      pipeline.Ordered services perform conn { client, server, arriving := bytes } := by
  rcases stands with ended | stands
  · exact .inl ended
  · have kept : requests client pipeline.waiting = requests before pipeline.waiting :=
      requests_progress (fun task member => (asking task member).1) progress
    refine .inr ⟨budget, ?_, ?_, ?_, settled_progress settled progress exempted,
      .inr ⟨stage, started, stands, arrives⟩⟩
    · exact fun exchange member => (answered exchange member).progress progress
    · intro task member
      obtain ⟨mine, small⟩ := asking task member
      rw [asked_progress mine progress]
      exact ⟨mine.progress progress, small⟩
    · exact fun link listening => (incoming link listening).trans kept.symm

variable {op : Client.Op}

/-- The set-up operation of the connection that is handled is that of its stage. -/
theorem Pipeline.Ordered.staged (ordered : pipeline.Ordered services perform conn talk)
    (member : op ∈ talk.client.ops) (mine : op.conn = conn) (setsUp : op.kind.setsUp = true) :
    ∃ stage, stage ≠ .fresh ∧ Client.At conn stage talk.client ∧ stage.kinds = [op.kind] ∧
      (talk.client.dequeue op).setUps conn = [] ∧ pipeline.Arrives conn talk stage := by
  rcases ordered.standing with ⟨unknown, -⟩ | ⟨stage, started, stands, arrives⟩
  · have perm := Client.setUps_dequeue member mine setsUp
    rw [unknown.quiet] at perm
    cases perm.eq_nil
  · obtain ⟨kinds, idle⟩ := stands.dequeue member mine setsUp
    exact ⟨stage, started, stands, kinds, idle, arrives⟩

/-- The name was resolved: nothing was written before. -/
theorem ordered_resolved (base : Client.Base False (.none, talk.client))
    (ordered : pipeline.Ordered services perform conn talk) (member : op ∈ talk.client.ops)
    (mine : op.conn = conn) (idle : (talk.client.dequeue op).setUps conn = [])
    (arrives : pipeline.Arrives conn talk (.resolving task))
    (budget : Budget (fun task => pipeline.calls.count task)
      ((talk.client.dequeue op).asyncConnect conn task)) :
    Client.Beyond conn ((talk.client.dequeue op).asyncConnect conn task) ∨
      pipeline.Ordered services perform conn
        { client := (talk.client.dequeue op).asyncConnect conn task
          server := some ⟨{ isOpen := true }, []⟩
          arriving := [] } := by
  have known : conn < (talk.client.dequeue op).nextConn :=
    mine ▸ base.sound.op_conn op.bare (List.mem_map_of_mem member)
  have dropped : Progress conn none talk.client (talk.client.dequeue op) :=
    Client.progress_dequeue op
  obtain ⟨connecting, progress⟩ : Client.At conn (.connecting task)
      ((talk.client.dequeue op).asyncConnect conn task) ∧
      Progress conn none (talk.client.dequeue op) _ := Client.stands_asyncConnect known idle
  have started : Stage.connecting task ≠ .fresh := Stage.noConfusion
  obtain ⟨rfl, -⟩ := arrives
  apply ordered_of_stands budget ordered.answered ordered.asking _ ordered.settled
    (dropped.trans progress) (by rintro task ⟨⟩) started (.inr connecting) rfl
  intro link same
  cases same
  rfl

/-- The socket was connected, and responses are read from now on. -/
theorem ordered_connected (base : Client.Base False (.none, talk.client))
    (ordered : pipeline.Ordered services perform conn talk) (member : op ∈ talk.client.ops)
    (mine : op.conn = conn) (idle : (talk.client.dequeue op).setUps conn = [])
    (isOpen : (talk.client.connections conn).socket.isOpen = true)
    (bound : task < talk.client.nextTask) (heap : Realloc)
    (arrives : talk.arriving = responses pipeline.flying)
    (budget : Budget (fun task => pipeline.calls.count task)
      ((talk.client.dequeue op).handleConnect heap conn task none).1) :
    Client.Beyond conn ((talk.client.dequeue op).handleConnect heap conn task none).1 ∨
      pipeline.Ordered services perform conn
        { talk with client := ((talk.client.dequeue op).handleConnect heap conn task none).1 } := by
  have known : conn < (talk.client.dequeue op).nextConn :=
    mine ▸ base.sound.op_conn op.bare (List.mem_map_of_mem member)
  have numbered : Client.Numbered (talk.client.dequeue op) := base.numbered
  have older : task < (talk.client.dequeue op).nextTask := bound
  have opened : ((talk.client.dequeue op).connections conn).socket.isOpen = true := isOpen
  have dropped : Progress conn none talk.client (talk.client.dequeue op) :=
    Client.progress_dequeue op
  obtain ⟨ended, stands⟩ : Progress conn none (talk.client.dequeue op)
      ((talk.client.dequeue op).handleConnect heap conn task none).1 ∧ _ :=
    Client.stands_handleConnect known idle opened older numbered heap
  have started : Stage.reading .header ≠ .fresh := Stage.noConfusion
  exact ordered_of_stands budget ordered.answered ordered.asking ordered.incoming ordered.settled
    (dropped.trans ended) (by rintro task ⟨⟩) started stands arrives

/-- The header of the response that arrives first is read, and its payload comes next. -/
theorem ordered_headerRead (base : Client.Base False (.none, talk.client))
    (ordered : pipeline.Ordered services perform conn talk) (member : op ∈ talk.client.ops)
    (mine : op.conn = conn) (idle : (talk.client.dequeue op).setUps conn = [])
    (isOpen : (talk.client.connections conn).socket.isOpen = true) (heap : Realloc)
    (header : Header) (arrives : talk.arriving = responses pipeline.flying)
    (enough : sizeofPacket ≤ talk.arriving.length)
    (finds : header = Header.ofNetwork (talk.arriving.take sizeofPacket))
    (budget : Budget (fun task => pipeline.calls.count task)
      ((talk.client.dequeue op).handleReadHeader heap conn header none).1) :
    Client.Beyond conn ((talk.client.dequeue op).handleReadHeader heap conn header none).1 ∨
      pipeline.Ordered services perform conn
        { talk with
          client := ((talk.client.dequeue op).handleReadHeader heap conn header none).1
          arriving := talk.arriving.drop sizeofPacket } := by
  let taken := talk.client.dequeue op
  let noted := taken.modifyConn conn fun connection =>
    { connection with header, n := header.rpcLen + header.reqLen + header.respLen }
  have known : conn < taken.nextConn :=
    mine ▸ base.sound.op_conn op.bare (List.mem_map_of_mem member)
  have numbered : Client.Numbered taken := base.numbered
  have linked : Client.At conn .linked taken := ⟨known, .of_eq idle, isOpen, by rintro ⟨⟩⟩
  cases flying : pipeline.flying with
  | nil =>
      rw [arrives, flying, responses, List.map_nil, List.flatten_nil] at enough
      exact absurd enough (by decide)
  | cons exchange rest =>
      obtain ⟨first, current⟩ := exchange
      have split : talk.arriving = (Reply.parts current).header.toNetwork ++
          ((Reply.parts current).payload ++ responses rest) := by
        rw [arrives, flying, responses, List.map_cons, List.flatten_cons, Parts.packet_eq,
          List.append_assoc]
        rfl
      have read : header = (Reply.parts current).header := by
        rw [finds, split, List.take_left' (Header.length_toNetwork _), Header.ofNetwork_toNetwork]
      have left : talk.arriving.drop sizeofPacket =
          (Reply.parts current).payload ++ responses rest := by
        rw [split, List.drop_left' (Header.length_toNetwork _)]
      obtain ⟨progress, stands⟩ :
          Progress conn none noted (taken.handleReadHeader heap conn header none).1 ∧ _ :=
        Client.stands_handleReadHeader linked numbered heap header
      have fields : (noted.connections conn).header = header ∧
          (noted.connections conn).n = lengthSum header := by
        simp [noted, lengthSum]
      obtain ⟨sameHeader, sameN⟩ := progress.header known
      -- the tasks are those of the state before the header was noted
      have answered : ∀ exchange ∈ pipeline.handled ++ pipeline.flying,
          AnswersRequest services perform conn noted exchange := by
        intro exchange found
        obtain ⟨own, small, responds⟩ := ordered.answered exchange found
        exact ⟨own, small, responds⟩
      have settled : ∀ task, Mine conn noted task → (noted.tasks task).Succeeded →
          task ∈ pipeline.handled.map Prod.fst := ordered.settled
      have started : Stage.reading .payload ≠ .fresh := Stage.noConfusion
      apply ordered_of_stands budget answered ordered.asking ordered.incoming settled progress
        (by rintro task ⟨⟩) started stands
      refine ⟨first, current, rest, flying, ?_, ?_, left⟩
      · rw [sameHeader, fields.1, read]
      · rw [sameN, fields.2, read]

end Stepping

section Payloads

variable [LawfulProtobuf] {services : Services Msg} {perform : Method Msg → Msg → Outcome Msg}
  {conn : ConnRef} {talk : Conversation Msg} {client : Client.State Msg} {task : TaskRef}
  {pipeline : Pipeline} {op : Client.Op} {data : List UInt8}

/-- The handler of a payload finds its response. -/
theorem AnswersRequest.found {exchange : TaskRef × Reply}
    (answers : AnswersRequest services perform conn client exchange)
    (header : (client.connections conn).header = (Reply.parts exchange.2).header)
    (arrived : (Reply.parts exchange.2).payload <+: data) : Found conn client data exchange.2 := by
  obtain ⟨rest, rfl⟩ := arrived
  obtain ⟨rpcLen, -, respLen⟩ := answers.small.lengths
  constructor
  · rw [header, rpcLen, Parts.payload, List.append_assoc, List.append_assoc, List.take_left]
    exact LawfulProtobuf.response.parse_serialize _ answers.responds.initialized
  · rw [header, rpcLen, respLen, Parts.payload, List.append_assoc, List.append_assoc,
      List.drop_left]
    exact List.take_left

/-- The response that arrives first was read. -/
def Pipeline.deliver (pipeline : Pipeline) : Pipeline :=
  { pipeline with
    handled := pipeline.handled ++ pipeline.flying.take 1
    flying := pipeline.flying.drop 1 }

omit [Protobuf] [LawfulProtobuf] in
theorem Pipeline.calls_deliver (pipeline : Pipeline) : pipeline.deliver.calls = pipeline.calls := by
  simp only [calls, deliver, List.map_append, List.append_assoc]
  rw [← List.append_assoc ((pipeline.flying.take 1).map Prod.fst), ← List.map_append,
    List.take_append_drop]

omit [Protobuf] [LawfulProtobuf] in
theorem Pipeline.exchanges_deliver (pipeline : Pipeline) :
    pipeline.deliver.handled ++ pipeline.deliver.flying = pipeline.handled ++ pipeline.flying := by
  simp only [deliver, List.append_assoc, List.take_append_drop]

/-- A response is handled, and the next one is read. -/
theorem ordered_payloadRead (base : Client.Base False (.none, talk.client))
    (ordered : pipeline.Ordered services perform conn talk) (member : op ∈ talk.client.ops)
    (mine : op.conn = conn) (idle : (talk.client.dequeue op).setUps conn = [])
    (isOpen : (talk.client.connections conn).socket.isOpen = true) (heap : Realloc)
    (arrives : pipeline.Arrives conn talk (.reading .payload))
    (finds : talk.arriving.take (talk.client.connections conn).n.toNat <+: data)
    (budget : Budget (fun task => pipeline.calls.count task)
      ((talk.client.dequeue op).receivePayload heap conn data).1) :
    Client.Beyond conn ((talk.client.dequeue op).receivePayload heap conn data).1 ∨
      pipeline.deliver.Ordered services perform conn
        { talk with
          client := ((talk.client.dequeue op).receivePayload heap conn data).1
          arriving := talk.arriving.drop (talk.client.connections conn).n.toNat } := by
  let taken := talk.client.dequeue op
  have known : conn < taken.nextConn :=
    mine ▸ base.sound.op_conn op.bare (List.mem_map_of_mem member)
  have numbered : Client.Numbered taken := base.numbered
  have linked : Client.At conn .linked taken := ⟨known, .of_eq idle, isOpen, by rintro ⟨⟩⟩
  have takenBase := base.dequeue member
  obtain ⟨first, current, rest, flying, header, n, split⟩ := arrives
  have answers : AnswersRequest services perform conn talk.client (first, current) := by
    apply ordered.answered
    rw [flying]
    exact List.mem_append_right _ List.mem_cons_self
  have size : (talk.client.connections conn).n.toNat = (Reply.parts current).payload.length := by
    rw [n, answers.small.sum]
  rw [split, size, List.take_left] at finds
  have finding := answers.found header finds
  have found : Found conn taken data current := ⟨finding.parsed, finding.parameter⟩
  have left : talk.arriving.drop (talk.client.connections conn).n.toNat = responses rest := by
    rw [split, size, List.drop_left]
  have behind : talk.arriving.drop (talk.client.connections conn).n.toNat =
      responses pipeline.deliver.flying := by
    rw [left, Pipeline.deliver, flying]
    rfl
  have own : Mine conn taken first := answers.mine
  have responds : Responds services perform (taken.tasks first).call (taken.tasks first).id
      current := answers.responds
  have parsed : Protobuf.response.parse (data.take (taken.connections conn).header.rpcLen.toNat) =
      some current.rpcResp := found.parsed
  have started : Stage.reading .header ≠ .fresh := Stage.noConfusion
  rw [← Pipeline.calls_deliver] at budget
  have answered : ∀ exchange ∈ pipeline.deliver.handled ++ pipeline.deliver.flying,
      AnswersRequest services perform conn talk.client exchange := by
    rw [Pipeline.exchanges_deliver]
    exact ordered.answered
  have settled : ∀ task, Mine conn talk.client task → (talk.client.tasks task).Succeeded →
      task ∈ pipeline.deliver.handled.map Prod.fst := by
    intro task mine succeeded
    rw [Pipeline.deliver, List.map_append]
    exact List.mem_append_left _ (ordered.settled task mine succeeded)
  have delivered : first ∈ pipeline.deliver.handled.map Prod.fst := by
    rw [Pipeline.deliver, flying, List.map_append]
    exact List.mem_append_right _ List.mem_cons_self
  cases listed : (taken.connections conn).outgoingTasks.find? current.rpcResp.getId with
  | none =>
      have dropped : Progress conn none talk.client taken := Client.progress_dequeue op
      have received : taken.receivePayload heap conn data = taken.startRead heap conn := by
        simp only [Client.State.receivePayload, parsed, listed]
      have progress := dropped.trans (Client.startRead_cases known numbered heap).1
      have stands := Client.stands_startRead (.inr linked) known numbered heap
      rw [received] at budget ⊢
      exact ordered_of_stands budget answered ordered.asking ordered.incoming settled progress
        (by rintro task ⟨⟩) started stands behind
  | some other =>
      have same := listed_eq takenBase own responds listed
      subst same
      have dropped : Progress conn (some other) talk.client taken := Client.progress_dequeue op
      obtain ⟨received, stands, -⟩ :=
        Client.receivePayload_listed linked numbered own.1 parsed listed
      apply ordered_of_stands budget answered ordered.asking ordered.incoming settled
        (dropped.trans received) _ started stands behind
      intro task exempt
      cases exempt
      exact delivered

end Payloads

section Runs

variable [LawfulProtobuf] {services : Services Msg} {perform : Method Msg → Msg → Outcome Msg}
  {conn : ConnRef} {talk next : Conversation Msg} {label : Client.Label Msg} {pipeline : Pipeline}

omit [LawfulProtobuf] in
/-- A step that reads no response writes none of the requests either. -/
theorem follows_setUp {op : Client.Op} {input : Client.Input}
    (reads : ∀ n input', readOf conn talk.client (.handle op input) ≠ some (.payload, n, input')) :
    Follows services perform conn talk (.client (.handle op input)) pipeline pipeline := by
  intro trace accounts
  refine ⟨?_, accounts.replies, ?_⟩
  · simp only [note, writer, Option.toList_none, List.append_nil]
    exact accounts.written
  · simp only [note]
    exact accounts.read

omit [LawfulProtobuf] in
theorem follows_payload {op : Client.Op} {input found : Client.Input} {n : Nat}
    {exchange : TaskRef × Reply} {rest : List (TaskRef × Reply)}
    (flying : pipeline.flying = exchange :: rest)
    (reads : readOf conn talk.client (.handle op input) = some (.payload, n, found)) :
    Follows services perform conn talk (.client (.handle op input)) pipeline pipeline.deliver := by
  intro trace accounts
  refine ⟨?_, ?_, ?_⟩
  · rw [Pipeline.calls_deliver]
    simp only [note, writer, Option.toList_none, List.append_nil]
    exact accounts.written
  · have same := congrArg (List.map Prod.snd) pipeline.exchanges_deliver
    rw [List.map_append, List.map_append] at same
    rw [same]
    exact accounts.replies
  · simp only [note, reads, accounts.read, Pipeline.deliver, flying, List.take_succ_cons,
      List.take_zero, List.length_append, List.length_singleton]

theorem ordered_advancing (base : Client.Base False (.none, talk.client))
    (ordered : pipeline.Ordered services perform conn talk)
    (advances : Client.Advances conn label) (stepped : talk.stepClient conn label = some next) :
    Client.Beyond conn next.client ∨ ∃ later : Pipeline,
      later.Ordered services perform conn next ∧
        Follows services perform conn talk (.client label) pipeline later := by
  cases label with
  | callMethod | complete | writeSome => cases advances
  | handle op input =>
      obtain ⟨mine, setsUp, ends⟩ := advances
      obtain ⟨client, reached⟩ : ∃ client, client = next.client := ⟨_, rfl⟩
      have moved' : talk.client.step (.handle op input) = some client :=
        reached ▸ Conversation.stepClient_client stepped
      have moved : talk.client.handle op input = some client := moved'
      obtain ⟨error, queued, member, same, -⟩ := Client.handle_eq_some moved
      have binds := base.sound.op_task op.bare (List.mem_map_of_mem member)
      have budget := ordered.budget.step base moved'
      obtain ⟨stage, started, stands, kinds, idle, arrives⟩ := ordered.staged member mine setsUp
      obtain ⟨other, kind, status⟩ := op
      have mine : other = conn := mine
      have queued : status = .queued error := queued
      subst mine queued
      cases stage with
      | fresh => exact absurd rfl started
      | linked => cases kinds
      | resolving task =>
          cases kinds
          rcases ends with success | payload
          · cases success
            have quiet : Follows services perform other talk (.client (.handle
                ⟨other, .resolve task, .queued none⟩ input)) pipeline pipeline := by
              apply follows_setUp
              intro n found same
              cases same
            simp only [Conversation.stepClient, readOf, reopens, decide_true, if_true, moved',
              Option.map_some, Option.some.injEq] at stepped
            subst stepped same
            rcases ordered_resolved base ordered member rfl idle arrives budget with ended | later
            · exact .inl ended
            · exact .inr ⟨pipeline, later, quiet⟩
          · cases payload
      | connecting task =>
          cases kinds
          rcases ends with success | payload
          · cases success
            have quiet : Follows services perform other talk (.client (.handle
                ⟨other, .connect task, .queued none⟩ input)) pipeline pipeline := by
              apply follows_setUp
              intro n found same
              cases same
            simp only [Conversation.stepClient, readOf, reopens, written, Bool.false_eq_true,
              if_false, moved', Option.map_some, Option.some.injEq, Option.elim_none] at stepped
            subst stepped same
            rcases ordered_connected base ordered member rfl idle stands.isOpen
              (binds task rfl).1 input.heap arrives budget with ended | later
            · exact .inl ended
            · exact .inr ⟨pipeline, later, quiet⟩
          · cases payload
      | reading part =>
          cases part with
          | header =>
              cases kinds
              rcases ends with success | payload
              · cases success
                have quiet : Follows services perform other talk (.client (.handle
                    ⟨other, .readHeader, .queued none⟩ input)) pipeline pipeline := by
                  apply follows_setUp
                  intro n found same
                  simp only [readOf, if_true, Option.some.injEq, Prod.mk.injEq, reduceCtorEq,
                    false_and] at same
                simp only [Conversation.stepClient, readOf, if_true] at stepped
                split at stepped
                · next read =>
                    simp only [moved', Option.map_some, Option.some.injEq] at stepped
                    subst stepped same
                    rcases ordered_headerRead base ordered member rfl idle stands.isOpen
                      input.heap input.header arrives read.1 read.2 budget with ended | later
                    · exact .inl ended
                    · exact .inr ⟨pipeline, later, quiet⟩
                · cases stepped
              · cases payload
          | payload =>
              cases kinds
              have numbered : Client.Numbered (talk.client.dequeue
                  ⟨other, .readPayload, .queued error⟩) := base.numbered
              rcases (handleReadPayload_cases input.heap error :
                  (_ ∧ (talk.client.dequeue ⟨other, .readPayload, .queued error⟩).handleReadPayload
                    input.heap other input.data input.transferred error = _) ∨ _) with
                ⟨goes, received⟩ | ⟨gives, reason, destroyed⟩
              · have goes : error = none ∨ error = some .eof ∧
                    (talk.client.connections other).n.toNat = input.transferred := goes
                have reads : readOf other talk.client (.handle
                    ⟨other, .readPayload, .queued error⟩ input) =
                    some (.payload, (talk.client.connections other).n.toNat, input) := by
                  simp only [readOf, goes, and_self, if_true]
                obtain ⟨first, current, rest, flying, -⟩ := id arrives
                have along : Follows services perform other talk (.client (.handle
                    ⟨other, .readPayload, .queued error⟩ input)) pipeline pipeline.deliver :=
                  follows_payload flying reads
                simp only [Conversation.stepClient, reads] at stepped
                split at stepped
                · next read =>
                    simp only [moved', Option.map_some, Option.some.injEq] at stepped
                    subst stepped
                    have ran : client = ((talk.client.dequeue
                        ⟨other, .readPayload, .queued error⟩).receivePayload input.heap other
                          input.data).1 := by
                      rw [same, ← received]
                      rfl
                    rw [ran] at budget ⊢
                    rcases ordered_payloadRead base ordered member rfl idle stands.isOpen
                      input.heap arrives read.2 budget with ended | later
                    · exact .inl ended
                    · exact .inr ⟨pipeline.deliver, later, along⟩
                · cases stepped
              · left
                have known : other < (talk.client.dequeue
                    ⟨other, .readPayload, .queued error⟩).nextConn := stands.known
                have ran : next.client = (talk.client.dequeue
                    ⟨other, .readPayload, .queued error⟩).destroy other reason := by
                  rw [← reached, same, ← destroyed]
                  rfl
                rw [ran]
                exact Client.beyond_destroy known numbered

/-- The requests that were written are of different calls. The server answered the first of
them, in their order, and has not read the others. The client has read the first of the
answers, and a call that succeeded is one whose answer it has read. -/
structure RequestsInOrder (services : Services Msg) (perform : Method Msg → Msg → Outcome Msg)
    (conn : ConnRef) (talk : Conversation Msg) (trace : Trace) : Prop where
  once : trace.written.Nodup
  mine : ∀ task ∈ trace.written, Mine conn talk.client task
  answered : List.Forall₂ (fun task ended => Responds services perform
    (talk.client.tasks task).call (talk.client.tasks task).id ended)
    (trace.written.take trace.replies.length) trace.replies
  waiting : ∀ link, talk.server = some link →
    link.incoming.flatten = requests talk.client (trace.written.drop trace.replies.length)
  read : trace.read ≤ trace.replies.length
  succeeded : ∀ task, Mine conn talk.client task → (talk.client.tasks task).Succeeded →
    task ∈ trace.written.take trace.read

omit [LawfulProtobuf] in
theorem Pipeline.Ordered.inOrder {trace : Trace} (base : Client.Base False (.none, talk.client))
    (ordered : pipeline.Ordered services perform conn talk) (accounts : pipeline.Accounts trace) :
    RequestsInOrder services perform conn talk trace := by
  obtain ⟨written, replies, read⟩ := accounts
  let exchanges := pipeline.handled ++ pipeline.flying
  have calls : trace.written = exchanges.map Prod.fst ++ pipeline.waiting := by
    rw [written, Pipeline.calls, ← List.map_append]
  have answers : trace.replies = exchanges.map Prod.snd := by
    rw [replies, ← List.map_append]
  have count : (exchanges.map Prod.fst).length = trace.replies.length := by
    rw [answers, List.length_map, List.length_map]
  have handled : (pipeline.handled.map Prod.fst).length = trace.read := by
    rw [read, List.length_map]
  refine ⟨?_, ?_, ?_, ?_, ?_, ?_⟩
  · apply List.nodup_iff_count_le_one.mpr
    intro task
    rw [written]
    by_cases bound : task < talk.client.nextTask
    · have paid := ordered.budget.made task bound
      have once : talk.client.ledger.attempts task + (talk.client.tasks task).writes ≤ 1 :=
        base.once.once task bound
      omega
    · rw [ordered.budget.later task (Nat.not_lt.mp bound)]
      exact Nat.zero_le 1
  · intro task member
    rw [calls] at member
    rcases List.mem_append.mp member with old | waits
    · obtain ⟨exchange, found, rfl⟩ := List.mem_map.mp old
      exact (ordered.answered exchange found).mine
    · exact (ordered.asking task waits).1
  · rw [calls, List.take_left' count, answers, List.forall₂_map_left_iff,
      List.forall₂_map_right_iff]
    apply List.forall₂_same.mpr
    intro exchange found
    exact (ordered.answered exchange found).responds
  · intro link listening
    rw [calls, List.drop_left' count]
    exact ordered.incoming link listening
  · rw [replies, ← handled, List.length_append, List.length_map, List.length_map]
    exact Nat.le_add_right _ _
  · intro task mine succeeded
    rw [written, Pipeline.calls, List.append_assoc, List.take_left' handled]
    exact ordered.settled task mine succeeded

variable [Inhabited Msg]

omit [LawfulProtobuf] in
theorem ordered_initial :
    ({} : Pipeline).Ordered services perform conn (conversation services perform conn).initial where
  budget := by
    constructor
    · intro task bound
      exact absurd bound (Nat.not_lt_zero task)
    · exact fun _ _ => rfl
  answered := by
    intro exchange member
    cases member
  asking := by
    intro task member
    cases member
  incoming := by
    intro link listening
    cases listening
  settled := fun _ mine => absurd mine.1 (Nat.not_lt_zero _)
  standing := .inl ⟨sound_initial.standing.resolve_right fun standing => by
    obtain ⟨stage, -, stands, -⟩ := standing
    exact Nat.not_lt_zero _ stands.known, rfl, rfl⟩

/-- As long as no call is made during the resolution, until the connection is destroyed:
requests are executed in the order in which they were written, none of them twice, and
their responses are read in this order. -/
theorem requests_in_order {config : Conversation Msg × Trace}
    (reached : ((conversation services perform conn).recording {}
      (note services perform conn)).ReachableVia (fun config => AssumedUnoverlapped conn config.1) config)
    (within : Client.Within conn config.1.client) :
    RequestsInOrder services perform conn config.1 config.2 := by
  let Holds := fun (talk : Conversation Msg) (trace : Trace) =>
    Client.Beyond conn talk.client ∨ ∃ pipeline : Pipeline,
      pipeline.Ordered services perform conn talk ∧ pipeline.Accounts trace
  have start : Holds (conversation services perform conn).initial {} :=
    .inr ⟨{}, ordered_initial, rfl, rfl, rfl⟩
  have holds : Holds config.1 config.2 := by
    apply TransitionSystem.recording_invariant start _ reached
    intro talk trace event next reachable holds permitted stepped
    obtain ⟨base, unstuck⟩ := base_reachable reachable
    obtain ⟨-, plugged, -⟩ :=
      (Client.kept_plugged fun _ _ => True).reachable (client_reachable reachable)
    obtain ⟨assumed, calm⟩ := permitted
    cases event with
    | serve heaps delivery =>
        rcases holds with ended | ⟨pipeline, ordered, accounts⟩
        · exact .inl ((Conversation.stepServer_client stepped).symm ▸ ended)
        · rcases sound_reachable reachable with ended | sound
          · exact .inl ((Conversation.stepServer_client stepped).symm ▸ ended)
          · obtain ⟨later, after, follows⟩ := ordered_stepServer sound ordered assumed stepped
            exact .inr ⟨later, after, follows trace accounts⟩
    | client label =>
        have within : Client.Within conn talk.client := ⟨assumed.1, calm⟩
        rcases holds with ended | ⟨pipeline, ordered, accounts⟩
        · exact absurd ended (within.not_beyond unstuck)
        · have outcome : Client.Beyond conn next.client ∨ ∃ later : Pipeline,
              later.Ordered services perform conn next ∧
                Follows services perform conn talk (.client label) pipeline later := by
            by_cases advances : Client.Advances conn label
            · exact ordered_advancing base ordered advances stepped
            · rcases sound_reachable reachable with ended | sound
              · exact absurd ended (within.not_beyond unstuck)
              · exact ordered_routine base plugged sound ordered assumed.2 advances stepped
          rcases outcome with ended | ⟨later, after, follows⟩
          · exact .inl ended
          · exact .inr ⟨later, after, follows trace accounts⟩
  obtain ⟨base, unstuck⟩ := base_reachable (TransitionSystem.reachable_of_recording reached)
  rcases holds with ended | ⟨pipeline, ordered, accounts⟩
  · exact absurd ended (within.not_beyond unstuck)
  · exact ordered.inOrder base accounts

end Runs

end Order

/-- Two requests are on their way before the server takes the first, and both responses
before the client reads one. -/
def pipelined : List (Event (List UInt8)) :=
  let second := Client.samplePacket 2 [8]
  [.client (.callMethod (Client.sampleCall timeoutNever [7]) .returns),
    .client (.complete ⟨0, .resolve 0, .pending⟩ none),
    .client (.handle ⟨0, .resolve 0, .queued none⟩ .silent),
    .client (.complete ⟨0, .connect 0, .pending⟩ none),
    .client (.callMethod (Client.sampleCall timeoutNever [8]) .returns),
    .client (.handle ⟨0, .connect 0, .queued none⟩ .silent),
    .client (.writeSome ⟨0, .write 0 sampleRequest 0, .pending⟩ sampleRequest.length),
    .client (.writeSome ⟨0, .write 1 second 0, .pending⟩ second.length),
    sampleServe, sampleServe] ++ sampleHeader ++
  [.client (.complete ⟨0, .readPayload, .pending⟩ none), .client samplePayload]

theorem assumed_of_pipelined {talk : Conversation (List UInt8)} {event : Event (List UInt8)}
    (member : event ∈ pipelined) (intact : (talk.client.connections 0).destroyedAt = none) :
    Assumed 0 talk event := by
  simp only [pipelined, sampleHeader, sampleServe, List.cons_append, List.nil_append,
    List.mem_cons, List.not_mem_nil, or_false] at member
  rcases member with rfl | rfl | rfl | rfl | rfl | rfl | rfl | rfl | rfl | rfl | rfl | rfl | rfl |
    rfl
  · exact ⟨intact, trivial⟩
  · exact ⟨intact, trivial⟩
  · exact ⟨intact, trivial⟩
  · exact ⟨intact, trivial⟩
  · exact ⟨intact, trivial⟩
  · exact ⟨intact, trivial⟩
  · exact ⟨intact, fun _ => ⟨rfl, rfl, by decide⟩⟩
  · exact ⟨intact, fun _ => ⟨rfl, rfl, by decide⟩⟩
  · exact ⟨Realloc.zeroed_succeeds, Realloc.zeroed_succeeds⟩
  · exact ⟨Realloc.zeroed_succeeds, Realloc.zeroed_succeeds⟩
  · exact ⟨intact, trivial⟩
  · exact ⟨intact, trivial⟩
  · exact ⟨intact, trivial⟩
  · exact ⟨intact, trivial⟩

/-- Of two requests that were answered one response was read. -/
theorem requests_in_order_two :
    ∃ config, ((conversation sampleServices echoes 0).recording {}
        (note sampleServices echoes 0)).ReachableVia (fun config => AssumedUnoverlapped 0 config.1) config ∧
      config.2.written = [0, 1] ∧ config.2.replies.length = 2 ∧ config.2.read = 1 ∧
      (config.1.client.tasks 0).called = true ∧
      RequestsInOrder sampleServices echoes 0 config.1 config.2 := by
  have observed : (((conversation sampleServices echoes 0).recording {}
        (note sampleServices echoes 0)).runVia
      (fun config _ => (config.1.client.connections 0).destroyedAt = none ∧
        (config.1.client.connections 0).overlapped = false) pipelined
      ((conversation sampleServices echoes 0).recording {}
        (note sampleServices echoes 0)).initial).map
      (fun config => ((config.1.client.connections 0).destroyedAt,
        (config.1.client.connections 0).overlapped, config.2.written, config.2.replies.length,
        config.2.read, (config.1.client.tasks 0).called)) =
        some (none, false, [0, 1], 2, 1, true) := by
    decide +kernel
  obtain ⟨config, reached, same⟩ := ((conversation sampleServices echoes 0).recording {}
      (note sampleServices echoes 0)).exists_reachableVia_of_implied
    (fun event member config checked =>
      (⟨assumed_of_pipelined member checked.1, checked.2⟩ : AssumedUnoverlapped 0 config.1 event)) observed
  simp only [Prod.mk.injEq] at same
  obtain ⟨intact, calm, written, replies, read, called⟩ := same
  exact ⟨config, reached, written, replies, read, called,
    requests_in_order reached ⟨intact, calm⟩⟩

end CarrotRpc.Protocol.Conversing
