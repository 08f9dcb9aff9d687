import CarrotRpc.Client.BlockingProperties
import CarrotRpc.Client.ChannelRuns
import CarrotRpc.Protob.WireFormat

/-! Sequences of calls on one blocking channel. The server sends one response packet for
every complete request packet. Which response a byte belongs to is kept beside the byte. -/

set_option autoImplicit false

namespace CarrotRpc.Protocol.CallSequences

open Library Library.Faulting Common Protob Client
open Client.Blocking

/-- The complete packets at the front of a stream, and what is behind them. -/
def drain : Nat → List UInt8 → List (List UInt8) × List UInt8
  | 0, bytes => ([], bytes)
  | fuel + 1, bytes =>
      let size := sizeofPacket + (Header.ofNetwork (bytes.take sizeofPacket)).payload
      if bytes.length < sizeofPacket ∨ bytes.length < size then ([], bytes)
      else
        let (packets, rest) := drain fuel (bytes.drop size)
        (bytes.take size :: packets, rest)

/-- A packet is not empty, so a stream has no more packets than bytes. -/
def packets (bytes : List UInt8) : List (List UInt8) × List UInt8 :=
  drain bytes.length bytes

/-- A call with what the environment decides about it: the response to each request packet
that is complete with its bytes, and in which portions the bytes of responses arrive while
the call reads. -/
structure Turn (Msg : Type) where
  call : Call Msg
  transfer : Transfer
  respond : List UInt8 → Parts
  arrives : Incoming

/-- History of one call: the bytes it wrote; the requests that were answered because of
them, with the responses; for every byte it read the call that the response is due to; how
`transact` ended; what its caller finds; and whether no bytes of a packet were left in
either direction. -/
structure Exchange (Msg : Type) where
  turn : Turn Msg
  written : List UInt8
  answers : List (List UInt8 × Parts)
  heard : List Nat
  ended : Except Failure (Response × List UInt8)
  result : Option (CarrotController × Option Msg)
  boundary : Bool

/-- The bytes the server holds of a request that is not complete, and the bytes of its
responses that the client has not read. -/
structure Channel (Msg : Type) where
  pending : List UInt8 := []
  unread : List (Nat × UInt8) := []
  severed : Bool := false
  exchanges : List (Exchange Msg) := []

def isTransport : Except Failure (Response × List UInt8) → Bool
  | .ok _ => false
  | .error failure => failure.isTransport

def isFailure : Except Failure (Response × List UInt8) → Bool
  | .ok _ => false
  | .error _ => true

section System

variable {Msg : Type} [Protobuf]

/-- The packet of a call. -/
def Turn.request (turn : Turn Msg) : List UInt8 := (requestParts turn.call).packet

/-- The bytes of the responses, each with the call that is being made. -/
def responses (index : Nat) (answers : List (List UInt8 × Parts)) : List (Nat × UInt8) :=
  answers.flatMap fun answer => answer.2.packet.map fun byte => (index, byte)

/-- One call. What arrives is the front of what the client has not read. -/
def step (channel : Channel Msg) (turn : Turn Msg) : Option (Channel Msg) :=
  let index := channel.exchanges.length
  let written := (callMethod turn.call turn.transfer {}).1.sent
  let (requests, pending) := packets (channel.pending ++ written)
  let answers := requests.map fun request => (request, turn.respond request)
  let unread := channel.unread ++ responses index answers
  if turn.arrives.flatten <+: unread.map Prod.snd then
    let endpoint : Endpoint := { incoming := turn.arrives }
    let ended := (transact turn.call turn.transfer endpoint).2
    let (endpoint, result) := callMethod turn.call turn.transfer endpoint
    let count := turn.arrives.flatten.length - endpoint.incoming.flatten.length
    some
      { pending
        unread := unread.drop count
        severed := channel.severed || (isTransport ended && written ≠ [])
        exchanges := channel.exchanges ++
          [{ turn
             written
             answers
             heard := (unread.take count).map Prod.fst
             ended
             result
             boundary := pending = [] && unread.drop count = [] }] }
  else none

def blockingChannel (Msg : Type) : TransitionSystem (Channel Msg) (Turn Msg) where
  initial := {}
  step := step

/-- Memory for the response is found; and once a transfer has ended inside a packet, no
later call gets its request out and bytes of a response in. -/
structure StaysSevered (channel : Channel Msg) (turn : Turn Msg) : Prop where
  finds : FindsMemory turn.transfer.heap turn.request.length turn.request
    (turn.respond turn.request).payload.length
  persistent : channel.severed = true →
    turn.transfer.accepted < turn.request.length ∨ turn.arrives.flatten = []
  narrow : (requestParts turn.call).Narrow
  small : (turn.respond turn.request).Small

instance (channel : Channel Msg) (turn : Turn Msg) : Decidable (StaysSevered channel turn) :=
  decidable_of_iff
    (FindsMemory turn.transfer.heap turn.request.length turn.request
        (turn.respond turn.request).payload.length ∧
      (channel.severed = true →
        turn.transfer.accepted < turn.request.length ∨ turn.arrives.flatten = []) ∧
      (requestParts turn.call).Narrow ∧ (turn.respond turn.request).Small)
    ⟨fun ⟨finds, persistent, narrow, small⟩ => ⟨finds, persistent, narrow, small⟩,
      fun ⟨finds, persistent, narrow, small⟩ => ⟨finds, persistent, narrow, small⟩⟩

/-- What is to hold of a call, which is the `index`-th. It reads bytes of the response to
its own request only; when no transfer ended early it was not sent at all, or it takes for
its response the packet sent for its request. -/
structure Exchange.Correlated (index : Nat) (exchange : Exchange Msg) : Prop where
  own : ∀ call ∈ exchange.heard, call = index
  completes : isTransport exchange.ended = false →
    (exchange.written = [] ∧ isFailure exchange.ended = true) ∨
      ∃ response, exchange.answers = [(exchange.turn.request, response)] ∧
        exchange.ended = interpreted response
  told : exchange.result =
    conclude exchange.turn.call exchange.turn.transfer.strerror exchange.ended

/-- What is to hold of all calls. After each the channel is between two packets in both
directions, or every later call fails. -/
structure Channel.InStep (channel : Channel Msg) : Prop where
  each : ∀ index (exchange : Exchange Msg), channel.exchanges[index]? = some exchange → exchange.Correlated index
  later : channel.exchanges.Pairwise fun earlier later =>
    earlier.boundary = true ∨ isFailure later.ended = true

end System

section Draining

variable {parts : Parts}

theorem payload_header (narrow : parts.Narrow) (rest : List UInt8) :
    (Header.ofNetwork ((parts.header.toNetwork ++ rest).take sizeofPacket)).payload =
      parts.payload.length := by
  rw [List.take_left' (Header.length_toNetwork _), Header.ofNetwork_toNetwork, narrow.payload_eq]

/-- A whole packet. -/
theorem packets_packet (narrow : parts.Narrow) : packets parts.packet = ([parts.packet], []) := by
  have length := parts.length_packet
  have size := payload_header narrow parts.payload
  rw [← Parts.packet_eq] at size
  have positive : 0 < sizeofPacket := by decide
  obtain ⟨fuel, enough⟩ : ∃ fuel, parts.packet.length = fuel + 1 :=
    Nat.exists_eq_add_one.mpr (by omega)
  rw [packets, enough, drain, size]
  dsimp only
  rw [if_neg (by omega), List.drop_of_length_le (by omega), List.take_of_length_le (by omega)]
  cases fuel <;> rfl

/-- A part of a packet. -/
theorem packets_take (narrow : parts.Narrow) {count : Nat} (short : count < parts.packet.length) :
    packets (parts.packet.take count) = ([], parts.packet.take count) := by
  have length := parts.length_packet
  have taken : (parts.packet.take count).length = count := by
    rw [List.length_take, Nat.min_eq_left (Nat.le_of_lt short)]
  rw [packets, taken]
  cases count with
  | zero => rfl
  | succ count =>
      rw [drain]
      dsimp only
      rw [taken, if_pos]
      by_cases header : count + 1 < sizeofPacket
      · exact .inl header
      · have front : (parts.packet.take (count + 1)).take sizeofPacket =
            (parts.header.toNetwork ++ parts.payload).take sizeofPacket := by
          rw [List.take_take, Nat.min_eq_left (Nat.le_of_not_lt header), Parts.packet_eq]
        rw [front, payload_header narrow]
        exact .inr (by omega)

end Draining

section Responses

variable {index count : Nat}

theorem heard_own {answers : List (List UInt8 × Parts)} :
    ∀ call ∈ ((responses index answers).take count).map Prod.fst, call = index := by
  intro call member
  obtain ⟨byte, inside, rfl⟩ := List.mem_map.mp member
  obtain ⟨answer, -, inside⟩ := List.mem_flatMap.mp (List.mem_of_mem_take inside)
  obtain ⟨value, -, rfl⟩ := List.mem_map.mp inside
  rfl

theorem map_responses (request : List UInt8) (response : Parts) :
    (responses index [(request, response)]).map Prod.snd = response.packet := by
  simp only [responses, List.flatMap_cons, List.flatMap_nil, List.append_nil, List.map_map,
    Function.comp_def, List.map_id']

theorem length_responses (request : List UInt8) (response : Parts) :
    (responses index [(request, response)]).length = response.packet.length := by
  rw [← map_responses request response, List.length_map]

end Responses

section Steps

variable {Msg : Type} [Protobuf] {channel next : Channel Msg} {turn : Turn Msg}
  {endpoint : Endpoint} {ended : Except Failure (Response × List UInt8)}

/-- What a call adds to the history. -/
def record (turn : Turn Msg) (answers : List (List UInt8 × Parts)) (heard : List Nat)
    (ended : Except Failure (Response × List UInt8)) (boundary : Bool) : Exchange Msg :=
  { turn
    written := taken turn.call turn.transfer
    answers
    heard
    ended
    result := conclude turn.call turn.transfer.strerror ended
    boundary }

/-- One call, from how its work on the socket ends. -/
theorem step_eq_some {pending : List UInt8} {requests : List (List UInt8)}
    (narrow : (requestParts turn.call).Narrow)
    (completes : packets (channel.pending ++ taken turn.call turn.transfer) = (requests, pending))
    (ran : transact turn.call turn.transfer { incoming := turn.arrives } = (endpoint, ended))
    (stepped : step channel turn = some next) :
    let answers := requests.map fun request => (request, turn.respond request)
    let unread := channel.unread ++ responses channel.exchanges.length answers
    let count := turn.arrives.flatten.length - endpoint.incoming.flatten.length
    turn.arrives.flatten <+: unread.map Prod.snd ∧
      next =
        { pending
          unread := unread.drop count
          severed := channel.severed || (isTransport ended && taken turn.call turn.transfer ≠ [])
          exchanges := channel.exchanges ++
            [record turn answers ((unread.take count).map Prod.fst) ended
              (pending = [] && unread.drop count = [])] } := by
  have writes : (transact turn.call turn.transfer {}).1.sent = taken turn.call turn.transfer :=
    transact_writes narrow rfl
  simp only [step, callMethod, writes, completes, ran] at stepped
  split at stepped
  · next front => exact ⟨front, (Option.some.inj stepped).symm⟩
  · cases stepped

theorem prepared_eq_ok {packet : List UInt8} (ready : prepared turn.call = .ok packet) :
    packet = turn.request := by
  unfold prepared at ready
  split at ready
  · cases ready
  · split at ready
    · cases ready
    · split at ready
      · cases ready
      · exact (Except.ok.inj ready).symm

theorem request_ne_nil (turn : Turn Msg) : turn.request ≠ [] := by
  intro empty
  have length : (requestParts turn.call).packet.length = sizeofPacket + _ := Parts.length_packet
  have positive : 0 < sizeofPacket := by decide
  rw [Turn.request] at empty
  rw [empty, List.length_nil] at length
  omega

/-- A call that reads nothing and fails. -/
theorem step_idle {failure : Failure} (narrow : (requestParts turn.call).Narrow)
    (ran : transact turn.call turn.transfer { incoming := turn.arrives } =
      (endpoint, .error failure))
    (idle : turn.arrives.flatten.length ≤ endpoint.incoming.flatten.length)
    (excused : failure.isTransport = false → taken turn.call turn.transfer = [])
    (stepped : step channel turn = some next) :
    ∃ exchange, next.exchanges = channel.exchanges ++ [exchange] ∧
      exchange.Correlated channel.exchanges.length ∧ isFailure exchange.ended = true ∧
      (channel.severed = true → next.severed = true) := by
  obtain ⟨-, rfl⟩ := step_eq_some narrow rfl ran stepped
  refine ⟨_, rfl, ⟨?_, ?_, rfl⟩, rfl, ?_⟩
  · simp only [record, Nat.sub_eq_zero_of_le idle, List.take_zero, List.map_nil, List.not_mem_nil,
      false_implies, implies_true]
  · intro calm
    exact .inl ⟨excused calm, rfl⟩
  · intro severed
    rw [severed, Bool.true_or]

/-- A call on a channel where a transfer ended early. -/
theorem step_severed (steady : StaysSevered channel turn) (severed : channel.severed = true)
    (stepped : step channel turn = some next) :
    ∃ exchange, next.exchanges = channel.exchanges ++ [exchange] ∧
      exchange.Correlated channel.exchanges.length ∧ isFailure exchange.ended = true ∧
      (channel.severed = true → next.severed = true) := by
  have narrow := steady.narrow
  let start : Endpoint := { incoming := turn.arrives }
  cases ready : prepared turn.call with
  | error failure =>
      obtain ⟨buf, ran⟩ : ∃ buf, transact turn.call turn.transfer start =
          ({ start with buf }, .error failure) := transact_unprepared narrow rfl ready
      apply step_idle narrow ran (Nat.le_refl _) _ stepped
      intro _
      rw [taken, ready]
  | ok packet =>
      obtain rfl := prepared_eq_ok ready
      by_cases whole : turn.request.length ≤ turn.transfer.accepted
      · have nothing : turn.arrives.flatten = [] :=
          (steady.persistent severed).resolve_left (Nat.not_lt_of_le whole)
        let empty : Parts := ⟨[], [], []⟩
        obtain ⟨endpoint, failure, ran, transport, -⟩ :
            ∃ next failure, transact turn.call turn.transfer start = (next, .error failure) ∧
              failure.isTransport = true ∧ next.sent = start.sent ++ turn.request := by
          have arrives : start.incoming.flatten ++ empty.packet = empty.packet := by
            rw [nothing, List.nil_append]
          exact transact_short narrow rfl ready whole (by decide)
            (fun needed => absurd needed (Nat.not_lt_zero _)) arrives (by decide)
        apply step_idle narrow ran _ _ stepped
        · rw [nothing]
          exact Nat.zero_le _
        · intro calm
          rw [transport] at calm
          cases calm
      · obtain ⟨buf, ran⟩ : ∃ buf, transact turn.call turn.transfer start =
            ({ start with buf, sent := start.sent ++ turn.request.take turn.transfer.accepted },
              .error .unsent) :=
          transact_unsent narrow rfl ready (Nat.lt_of_not_le whole)
        exact step_idle narrow ran (Nat.le_refl _) (by rintro ⟨⟩) stepped

/-- A packet that is taken whole, on a channel that is between two packets in both
directions. -/
theorem step_sent {exchanges : List (Exchange Msg)} (steady : StaysSevered ⟨[], [], false, exchanges⟩ turn)
    (ready : prepared turn.call = .ok turn.request)
    (whole : turn.request.length ≤ turn.transfer.accepted)
    (stepped : step ⟨[], [], false, exchanges⟩ turn = some next) :
    ∃ exchange, next.exchanges = exchanges ++ [exchange] ∧ exchange.Correlated exchanges.length ∧
      (next.severed = false →
        next.pending = [] ∧ next.unread = [] ∧ exchange.boundary = true) := by
  have narrow := steady.narrow
  let start : Endpoint := { incoming := turn.arrives }
  let response := turn.respond turn.request
  have sent : taken turn.call turn.transfer = turn.request := by
    rw [taken, ready]
    exact List.take_of_length_le whole
  have completes : packets ([] ++ taken turn.call turn.transfer) = ([turn.request], []) := by
    rw [sent]
    exact packets_packet narrow
  have finds := steady.finds
  have arrived : turn.arrives.flatten <+: response.packet := by
    obtain ⟨front, -⟩ := step_eq_some narrow completes rfl stepped
    rwa [List.nil_append, List.map_cons, List.map_nil, map_responses] at front
  obtain ⟨missing, arrives⟩ := arrived
  by_cases short : missing = []
  · have complete : start.incoming.flatten = response.packet ++ [] := by
      rw [List.append_nil, ← arrives, short, List.append_nil]
    obtain ⟨endpoint, ran, left, -⟩ : ∃ next, transact turn.call turn.transfer start =
        (next, interpreted response) ∧ next.incoming.flatten = [] ∧
        next.sent = start.sent ++ turn.request :=
      transact_ends narrow rfl ready whole steady.small finds complete
    have count : turn.arrives.flatten.length - endpoint.incoming.flatten.length =
        response.packet.length := by
      rw [left, ← arrives, short, List.append_nil]
      rfl
    obtain ⟨-, rfl⟩ := step_eq_some narrow completes ran stepped
    have none : (responses exchanges.length [(turn.request, response)]).drop
        (turn.arrives.flatten.length - endpoint.incoming.flatten.length) = [] := by
      rw [count, ← length_responses turn.request response]
      exact List.drop_length
    refine ⟨_, rfl, ⟨heard_own, ?_, rfl⟩, ?_⟩
    · intro _
      exact .inr ⟨response, rfl, rfl⟩
    · intro _
      exact ⟨rfl, none, decide_eq_true none⟩
  · obtain ⟨endpoint, failure, ran, transport, -⟩ :
        ∃ next failure, transact turn.call turn.transfer start = (next, .error failure) ∧
          failure.isTransport = true ∧ next.sent = start.sent ++ turn.request :=
      transact_short narrow rfl ready whole steady.small finds arrives short
    obtain ⟨-, rfl⟩ := step_eq_some narrow completes ran stepped
    refine ⟨_, rfl, ⟨heard_own, ?_, rfl⟩, ?_⟩
    · intro calm
      exact absurd transport (ne_true_of_eq_false calm)
    · intro calm
      have severs : isTransport (.error failure) = true := transport
      rw [severs, sent, decide_eq_true (request_ne_nil turn)] at calm
      cases calm

/-- A call on a channel that is between two packets in both directions. -/
theorem step_level {exchanges : List (Exchange Msg)} (steady : StaysSevered ⟨[], [], false, exchanges⟩ turn)
    (stepped : step ⟨[], [], false, exchanges⟩ turn = some next) :
    ∃ exchange, next.exchanges = exchanges ++ [exchange] ∧ exchange.Correlated exchanges.length ∧
      (next.severed = false →
        next.pending = [] ∧ next.unread = [] ∧ exchange.boundary = true) := by
  have narrow := steady.narrow
  let start : Endpoint := { incoming := turn.arrives }
  cases ready : prepared turn.call with
  | error failure =>
      obtain ⟨buf, ran⟩ : ∃ buf, transact turn.call turn.transfer start =
          ({ start with buf }, .error failure) := transact_unprepared narrow rfl ready
      have nothing : taken turn.call turn.transfer = [] := by rw [taken, ready]
      have completes : packets ([] ++ taken turn.call turn.transfer) = ([], []) := by
        rw [nothing]
        rfl
      obtain ⟨-, rfl⟩ := step_eq_some narrow completes ran stepped
      refine ⟨_, rfl, ⟨heard_own, ?_, rfl⟩, ?_⟩
      · intro _
        exact .inl ⟨nothing, rfl⟩
      · intro _
        exact ⟨rfl, List.drop_nil, decide_eq_true List.drop_nil⟩
  | ok packet =>
      obtain rfl := prepared_eq_ok ready
      by_cases whole : turn.request.length ≤ turn.transfer.accepted
      · exact step_sent steady ready whole stepped
      · have short := Nat.lt_of_not_le whole
        obtain ⟨buf, ran⟩ : ∃ buf, transact turn.call turn.transfer start =
            ({ start with buf, sent := start.sent ++ turn.request.take turn.transfer.accepted },
              .error .unsent) := transact_unsent narrow rfl ready short
        have sent : taken turn.call turn.transfer = turn.request.take turn.transfer.accepted := by
          rw [taken, ready]
        have completes : packets ([] ++ taken turn.call turn.transfer) =
            ([], turn.request.take turn.transfer.accepted) := by
          rw [sent]
          exact packets_take narrow short
        obtain ⟨-, rfl⟩ := step_eq_some narrow completes ran stepped
        refine ⟨_, rfl, ⟨heard_own, by rintro ⟨⟩, rfl⟩, ?_⟩
        intro calm
        have nothing : turn.request.take turn.transfer.accepted = [] := by
          rw [← sent]
          by_contra some
          rw [decide_eq_true some] at calm
          cases calm
        rw [nothing]
        exact ⟨rfl, List.drop_nil, decide_eq_true List.drop_nil⟩

theorem Channel.InStep.extend {exchange : Exchange Msg} (sound : channel.InStep)
    (added : next.exchanges = channel.exchanges ++ [exchange])
    (own : exchange.Correlated channel.exchanges.length)
    (follows : ∀ earlier ∈ channel.exchanges,
      earlier.boundary = true ∨ isFailure exchange.ended = true) : next.InStep := by
  constructor
  · intro index other found
    rw [added] at found
    by_cases before : index < channel.exchanges.length
    · rw [List.getElem?_append_left before] at found
      exact sound.each index other found
    · rw [List.getElem?_append_right (Nat.le_of_not_lt before), List.getElem?_singleton] at found
      split at found
      · next last =>
          cases found
          have same : index = channel.exchanges.length := by omega
          exact same ▸ own
      · cases found
  · rw [added, List.pairwise_append]
    refine ⟨sound.later, List.pairwise_singleton _ _, ?_⟩
    intro earlier member later last
    obtain rfl := List.mem_singleton.mp last
    exact follows earlier member

/-- As long as no transfer ended early, the channel is between two packets in both
directions, and was after every call. -/
structure Channel.Level (channel : Channel Msg) : Prop where
  sound : channel.InStep
  level : channel.severed = false → channel.pending = [] ∧ channel.unread = [] ∧
    ∀ exchange ∈ channel.exchanges, exchange.boundary = true

theorem Channel.Level.step (level : channel.Level) (steady : StaysSevered channel turn)
    (stepped : step channel turn = some next) : next.Level := by
  cases severed : channel.severed with
  | true =>
      obtain ⟨exchange, added, own, failed, stays⟩ := step_severed steady severed stepped
      refine ⟨level.sound.extend added own fun _ _ => .inr failed, ?_⟩
      intro unsevered
      rw [stays severed] at unsevered
      cases unsevered
  | false =>
      obtain ⟨pending, unread, boundaries⟩ := level.level severed
      have same : channel = ⟨[], [], false, channel.exchanges⟩ := by
        rw [← pending, ← unread, ← severed]
      rw [same] at steady stepped
      obtain ⟨exchange, added, own, after⟩ := step_level steady stepped
      constructor
      · apply level.sound.extend added own
        intro earlier member
        exact .inl (boundaries earlier member)
      · intro unsevered
        obtain ⟨nonePending, noneUnread, boundary⟩ := after unsevered
        refine ⟨nonePending, noneUnread, ?_⟩
        intro other member
        rw [added] at member
        rcases List.mem_append.mp member with before | last
        · exact boundaries other before
        · obtain rfl := List.mem_singleton.mp last
          exact boundary

theorem Channel.Level.initial : ({} : Channel Msg).Level where
  sound :=
    { each := by
        intro index exchange found
        rw [List.getElem?_nil] at found
        cases found
      later := .nil }
  level := by
    intro _
    exact ⟨rfl, rfl, fun _ member => absurd member List.not_mem_nil⟩

end Steps

/-- In every sequence of calls in which memory for each response is found, and in which
nothing gets through after a transfer that ended inside a packet: no call reads bytes of
the response to another, each call whose transfers did not end early takes for its
response the packet sent for its request, and after each call the channel is between two
packets or every later call fails. -/
theorem calls_sound {Msg : Type} [Protobuf] {channel : Channel Msg}
    (reached : (blockingChannel Msg).ReachableVia StaysSevered channel) : channel.InStep := by
  have level : channel.Level :=
    reached.invariant (blockingChannel Msg) .initial fun _ _ _ => Channel.Level.step
  exact level.sound

/-- A call of `Echo.ping` whose response has the given parameter. -/
def sampleTurn (heap : Realloc) (parameter : List UInt8) (arrives : Incoming) :
    Turn (List UInt8) where
  call := sampleCall 0 [7]
  transfer := { heap, accepted := 100, strerror := "" }
  respond _ := ⟨[8, 1, 16, 1], [], parameter⟩
  arrives

/-- The response to the second call stops inside its header; nothing of the third gets
through. -/
theorem calls_sound_severed :
    ∃ channel : Channel (List UInt8), channel.InStep ∧
      channel.exchanges.map (fun exchange => (exchange.ended, exchange.boundary)) =
        [(.ok (⟨some 1, some .success, none⟩, [5, 6]), true), (.error .reqLenUnread, false),
          (.error .rpcLenUnread, false)] := by
  have observed : ((blockingChannel (List UInt8)).runVia StaysSevered
      [sampleTurn .zeroed [5, 6] [[0, 0, 0, 4, 0], [0, 0, 0, 0, 0, 0, 2, 8, 1, 16, 1, 5, 6]],
        sampleTurn .zeroed [5] [[0, 0, 0, 4, 0]], sampleTurn .zeroed [5] []]
      (blockingChannel (List UInt8)).initial).map
      (fun channel => channel.exchanges.map fun exchange => (exchange.ended, exchange.boundary)) =
      some [(.ok (⟨some 1, some .success, none⟩, [5, 6]), true), (.error .reqLenUnread, false),
        (.error .rpcLenUnread, false)] := by
    decide
  obtain ⟨channel, reached, same⟩ :=
    (blockingChannel (List UInt8)).exists_reachableVia_of_run observed
  exact ⟨channel, calls_sound reached, same⟩

/-- No memory is found for a response that is longer than the request, and the header
taken for the response to the next call is the start of the payload left unread. -/
theorem payload_left_unread :
    ∃ channel : Channel (List UInt8), (blockingChannel (List UInt8)).Reachable channel ∧
      ¬ channel.InStep := by
  have observed : ((blockingChannel (List UInt8)).run
      [sampleTurn .exhausted (List.replicate 20 5) [Parts.packet ⟨[8, 1, 16, 1], [],
          List.replicate 20 5⟩],
        sampleTurn .exhausted (List.replicate 20 5) [[8, 1, 16, 1] ++ List.replicate 20 5]]
      (blockingChannel (List UInt8)).initial).map
      (fun channel => (channel.exchanges[1]?).map Exchange.heard) =
      some (some (List.replicate 12 0)) := by
    decide
  obtain ⟨channel, reached, same⟩ :=
    (blockingChannel (List UInt8)).exists_reachable_of_run observed
  refine ⟨channel, reached, ?_⟩
  intro sound
  obtain ⟨exchange, found, heard⟩ := Option.map_eq_some_iff.mp same
  have own := (sound.each 1 exchange found).own 0 (by rw [heard]; exact List.mem_cons_self)
  cases own

end CarrotRpc.Protocol.CallSequences
