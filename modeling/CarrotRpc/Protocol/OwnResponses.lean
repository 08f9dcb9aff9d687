import CarrotRpc.Protocol.Agreement

/-! A client and a server that agree: whatever else the client does, a call that succeeds
has the response to its own request. -/

set_option autoImplicit false

namespace CarrotRpc.Protocol.Conversing

open Library Library.Faulting Common Protob
open Server Serving Pairings
open Client (ConnRef TaskRef Part Stage)

section Runs

variable {Msg : Type} [Protobuf] [Inhabited Msg] {services : Services Msg}
  {perform : Method Msg → Msg → Outcome Msg} {conn : ConnRef} {talk : Conversation Msg}

/-- The client takes part in no run that it could not have alone. -/
theorem client_reachable {allowed : Conversation Msg → Event Msg → Prop}
    (reached : (conversation services perform conn).ReachableVia allowed talk) :
    (Client.channel Msg).Reachable talk.client := by
  induction reached with
  | initial => exact .initial
  | @step before after event _ _ stepped ih =>
      cases event with
      | serve heaps delivery => exact (Conversation.stepServer_client stepped).symm ▸ ih
      | client label => exact .step ih trivial (Conversation.stepClient_client stepped)

theorem base_reachable {allowed : Conversation Msg → Event Msg → Prop}
    (reached : (conversation services perform conn).ReachableVia allowed talk) :
    Client.Base False (.none, talk.client) ∧ talk.client.stuck = false := by
  obtain ⟨base, _, unstuck⟩ :=
    (Client.kept_nothing fun _ _ => True).reachable (client_reachable reached)
  exact ⟨base, unstuck⟩

theorem sound_initial :
    Consistent services perform conn (conversation services perform conn).initial where
  packed := nofun
  serves := nofun
  truthful := fun _ mine => absurd mine.1 (Nat.not_lt_zero _)
  standing := .inl ⟨Nat.zero_le _, nofun, rfl⟩

variable [LawfulProtobuf]

/-- As long as no call is made during the resolution, the two sides agree. -/
theorem sound_reachable
    (reached : (conversation services perform conn).ReachableVia (AssumedUnoverlapped conn) talk) :
    Client.Beyond conn talk.client ∨ Consistent services perform conn talk := by
  apply reached.invariant_with (conversation services perform conn)
    (fun _ reached => base_reachable reached) (.inr sound_initial)
  intro before event after known holds permitted stepped
  obtain ⟨base, unstuck⟩ := known
  obtain ⟨assumed, calm⟩ := permitted
  cases event with
  | serve heaps delivery =>
      rcases holds with ended | sound
      · exact .inl ((Conversation.stepServer_client stepped).symm ▸ ended)
      · exact .inr (sound_stepServer sound assumed stepped)
  | client label =>
      have within : Client.Within conn before.client := ⟨assumed.1, calm⟩
      rcases holds with ended | sound
      · exact absurd ended (within.not_beyond unstuck)
      · by_cases advances : Client.Advances conn label
        · exact sound_advancing base sound advances stepped
        · exact sound_routine base sound assumed.2 advances stepped

omit [Inhabited Msg] in
/-- A response that has arrived whole is handled. -/
theorem payload_delivers {label : Client.Label Msg} {n : Nat} {input : Client.Input}
    {next : Conversation Msg} (base : Client.Base False (.none, talk.client))
    (sound : Consistent services perform conn talk) (within : Client.Within conn talk.client)
    (reads : readOf conn talk.client label = some (.payload, n, input))
    (succeeds : input.heap.Succeeds) (stepped : talk.stepClient conn label = some next) :
    ∃ rpcResp,
      Protobuf.response.parse
        (input.data.take (talk.client.connections conn).header.rpcLen.toNat) = some rpcResp ∧
      (∀ task, (talk.client.connections conn).outgoingTasks.find? rpcResp.getId = some task →
        (talk.client.tasks task).id = rpcResp.getId ∧
          Client.CompletesOnly conn task talk.client next.client) ∧
      ((talk.client.connections conn).outgoingTasks.find? rpcResp.getId = none →
        Client.Ignores talk.client next.client) ∧
      next.client.setUps conn = [.readHeader] ∧ Client.Within conn next.client := by
  have moved := Conversation.stepClient_client stepped
  obtain ⟨error, rfl, rfl, goes⟩ := payload_of_readOf reads
  let op : Client.Op := ⟨conn, .readPayload, .queued error⟩
  let taken := talk.client.dequeue op
  have ran : talk.client.handle op input = some next.client := moved
  obtain ⟨completion, queued, member, same, unstuck⟩ := Client.handle_eq_some ran
  cases queued
  have finds : talk.arriving.take (talk.client.connections conn).n.toNat <+: input.data := by
    simp only [Conversation.stepClient, reads] at stepped
    split at stepped
    · next read => exact read.2
    · cases stepped
  have received : next.client = (taken.receivePayload input.heap conn input.data).1 := by
    rcases (handleReadPayload_cases input.heap error :
        (_ ∧ taken.handleReadPayload input.heap conn input.data input.transferred error = _) ∨ _)
      with ⟨-, received⟩ | ⟨gives, -⟩
    · rw [same, ← received]
      rfl
    · exact absurd goes gives
  obtain ⟨stage, -, stands, kinds, idle, arriving⟩ := staged sound member rfl rfl
  have arriving : Arriving services perform conn talk.client talk.arriving (.reading .payload) := by
    cases stage with
    | fresh | linked | resolving | connecting => cases kinds
    | reading part =>
        cases part with
        | header => cases kinds
        | payload => exact arriving
  have isOpen : (talk.client.connections conn).socket.isOpen = true := by
    cases stage with
    | fresh | linked | resolving | connecting => cases kinds
    | reading part => exact stands.isOpen
  have linked : Client.At conn .linked taken := ⟨stands.known, .of_eq idle, isOpen, by rintro ⟨⟩⟩
  have before : Client.Within conn taken := ⟨within.intact, within.calm⟩
  have takenBase := base.dequeue member
  obtain ⟨task, ended, mine, found, responds, -⟩ := arrived arriving finds
  have parsed : Protobuf.response.parse
      (input.data.take (taken.connections conn).header.rpcLen.toNat) = some ended.rpcResp :=
    found.parsed
  rw [received] at unstuck
  refine ⟨ended.rpcResp, found.parsed, ?_⟩
  cases listed : (talk.client.connections conn).outgoingTasks.find? ended.rpcResp.getId with
  | none =>
      obtain ⟨⟨count, tasks, tables⟩, reading, later⟩ :=
        Client.receivePayload_ignores before linked succeeds parsed listed unstuck
      rw [received]
      exact ⟨by rintro task ⟨⟩, fun _ => ⟨count, tasks, tables⟩, reading, later⟩
  | some other =>
      obtain ⟨⟨count, called, erased, others, entries⟩, reading, later⟩ :=
        Client.receivePayload_completes takenBase before linked succeeds parsed listed unstuck
      have own := listed_eq base mine responds listed
      rw [received]
      refine ⟨?_, by rintro ⟨⟩, reading, later⟩
      intro task same
      cases same
      refine ⟨?_, count, called, erased, others, entries⟩
      rw [own]
      exact responds.id.symm

/-- In every conversation in which no call is made during the resolution, until the
connection is destroyed: a call that succeeds has the response of its own method to its
own request; a response completes the call of its id and changes nothing else, or nothing
at all; and then one read is outstanding. -/
theorem responses_reach_their_calls
    (reached : (conversation services perform conn).ReachableVia (AssumedUnoverlapped conn) talk)
    (within : Client.Within conn talk.client) :
    (∀ task, Mine conn talk.client task → (talk.client.tasks task).Succeeded →
      Produced services perform (talk.client.tasks task).call (talk.client.tasks task).response ∧
      ∀ service method isSetRequest isSetResponse,
        Matches services service method (talk.client.tasks task).call →
        method.request.Lawful isSetRequest → method.response.Lawful isSetResponse →
        ∃ result, perform method (talk.client.tasks task).call.request = .returns result ∧
          (talk.client.tasks task).response = some result) ∧
    ∀ label n input next, readOf conn talk.client label = some (.payload, n, input) →
      input.heap.Succeeds →
      (conversation services perform conn).step talk (.client label) = some next →
      ∃ rpcResp,
        Protobuf.response.parse
          (input.data.take (talk.client.connections conn).header.rpcLen.toNat) = some rpcResp ∧
        (∀ task, (talk.client.connections conn).outgoingTasks.find? rpcResp.getId = some task →
          (talk.client.tasks task).id = rpcResp.getId ∧
            Client.CompletesOnly conn task talk.client next.client) ∧
        ((talk.client.connections conn).outgoingTasks.find? rpcResp.getId = none →
          Client.Ignores talk.client next.client) ∧
        next.client.setUps conn = [.readHeader] ∧ Client.Within conn next.client := by
  obtain ⟨base, unstuck⟩ := base_reachable reached
  have sound : Consistent services perform conn talk := by
    rcases sound_reachable reached with ended | sound
    · exact absurd ended (within.not_beyond unstuck)
    · exact sound
  constructor
  · intro task mine succeeded
    have produced := sound.truthful task mine succeeded
    exact ⟨produced, fun _ _ _ _ matched request answer => produced.eq matched request answer⟩
  · intro label n input next reads succeeds stepped
    exact payload_delivers base sound within reads succeeds stepped

end Runs

/-- The service returns the request. -/
def echoes : Method (List UInt8) → List UInt8 → Outcome (List UInt8) :=
  (sampleTurn 100).perform

/-- The response to the first call. -/
def sampleReply : Reply := .of ⟨some 1, some .success, none⟩ [7]

def sampleRequest : List UInt8 := Client.samplePacket 1 [7]

def sampleServe : Event (List UInt8) := .serve (.zeroed, .zeroed) (sampleTurn 100).delivery

/-- The client reads the header of the response, and starts to read its payload. -/
def sampleHeader : List (Event (List UInt8)) :=
  [.client (.complete ⟨0, .readHeader, .pending⟩ none),
    .client (.handle ⟨0, .readHeader, .queued none⟩
      { Client.Input.silent with header := Header.ofNetwork sampleReply.packet })]

def samplePayload : Client.Label (List UInt8) :=
  .handle ⟨0, .readPayload, .queued none⟩
    { Client.Input.silent with data := sampleReply.packet.drop sizeofPacket }

/-- A call of a connection, up to the handler of its response. -/
def echoing : List (Event (List UInt8)) :=
  [.client (.callMethod (Client.sampleCall timeoutNever [7]) .returns),
    .client (.complete ⟨0, .resolve 0, .pending⟩ none),
    .client (.handle ⟨0, .resolve 0, .queued none⟩ .silent),
    .client (.complete ⟨0, .connect 0, .pending⟩ none),
    .client (.handle ⟨0, .connect 0, .queued none⟩ .silent),
    .client (.writeSome ⟨0, .write 0 sampleRequest 0, .pending⟩ sampleRequest.length),
    sampleServe] ++ sampleHeader ++
  [.client (.complete ⟨0, .readPayload, .pending⟩ none)]

/-- A second call is made while the name is resolved for the first; the first is sent on
the socket of the second, and both connects start to read. -/
def disturbed : List (Event (List UInt8)) :=
  [.client (.callMethod (Client.sampleCall timeoutNever [7]) .returns),
    .client (.callMethod (Client.sampleCall timeoutNever [8]) .returns),
    .client (.complete ⟨0, .resolve 0, .pending⟩ none),
    .client (.handle ⟨0, .resolve 0, .queued none⟩ .silent),
    .client (.complete ⟨0, .connect 0, .pending⟩ none),
    .client (.complete ⟨0, .resolve 1, .pending⟩ none),
    .client (.handle ⟨0, .resolve 1, .queued none⟩ .silent),
    .client (.handle ⟨0, .connect 0, .queued none⟩ .silent),
    .client (.complete ⟨0, .connect 1, .pending⟩ none),
    .client (.writeSome ⟨0, .write 0 sampleRequest 0, .pending⟩ sampleRequest.length),
    sampleServe] ++ sampleHeader ++
  [.client (.complete ⟨0, .readPayload, .pending⟩ none),
    .client (.handle ⟨0, .connect 1, .queued none⟩ .silent)]

/-- Packets travel whole in the sample conversations, and memory is found. -/
theorem assumed_of_sample {talk : Conversation (List UInt8)} {event : Event (List UInt8)}
    (member : event ∈ echoing ∨ event ∈ disturbed)
    (intact : (talk.client.connections 0).destroyedAt = none) : Assumed 0 talk event := by
  simp only [echoing, disturbed, sampleHeader, sampleServe, List.cons_append, List.nil_append,
    List.mem_cons, List.not_mem_nil, or_false] at member
  rcases member with member | member
  · rcases member with rfl | rfl | rfl | rfl | rfl | rfl | rfl | rfl | rfl | rfl
    · exact ⟨intact, trivial⟩
    · exact ⟨intact, trivial⟩
    · exact ⟨intact, trivial⟩
    · exact ⟨intact, trivial⟩
    · exact ⟨intact, trivial⟩
    · exact ⟨intact, fun _ => ⟨rfl, rfl, by decide⟩⟩
    · exact ⟨Realloc.zeroed_succeeds, Realloc.zeroed_succeeds⟩
    · exact ⟨intact, trivial⟩
    · exact ⟨intact, trivial⟩
    · exact ⟨intact, trivial⟩
  · rcases member with rfl | rfl | rfl | rfl | rfl | rfl | rfl | rfl | rfl | rfl | rfl | rfl | rfl |
      rfl | rfl
    · exact ⟨intact, trivial⟩
    · exact ⟨intact, trivial⟩
    · exact ⟨intact, trivial⟩
    · exact ⟨intact, trivial⟩
    · exact ⟨intact, trivial⟩
    · exact ⟨intact, trivial⟩
    · exact ⟨intact, trivial⟩
    · exact ⟨intact, trivial⟩
    · exact ⟨intact, trivial⟩
    · exact ⟨intact, fun _ => ⟨rfl, rfl, by decide⟩⟩
    · exact ⟨Realloc.zeroed_succeeds, Realloc.zeroed_succeeds⟩
    · exact ⟨intact, trivial⟩
    · exact ⟨intact, trivial⟩
    · exact ⟨intact, trivial⟩
    · exact ⟨intact, trivial⟩

theorem readOf_samplePayload (state : Client.State (List UInt8)) :
    ∃ input : Client.Input, input.heap = .zeroed ∧
      input.data = sampleReply.packet.drop sizeofPacket ∧
      readOf 0 state samplePayload = some (.payload, (state.connections 0).n.toNat, input) :=
  ⟨{ Client.Input.silent with data := sampleReply.packet.drop sizeofPacket }, rfl, rfl, by
    simp [readOf, samplePayload]⟩

/-- The response of the sample conversation completes its call. -/
theorem responses_reach_their_calls_echo :
    ∃ talk next, (conversation sampleServices echoes 0).ReachableVia (AssumedUnoverlapped 0) talk ∧
      (conversation sampleServices echoes 0).step talk (.client samplePayload) = some next ∧
      Client.CompletesOnly 0 0 talk.client next.client ∧ next.client.setUps 0 = [.readHeader] := by
  have observed : ((conversation sampleServices echoes 0).runVia
      (fun talk _ => (talk.client.connections 0).destroyedAt = none ∧
        (talk.client.connections 0).overlapped = false) echoing
      (conversation sampleServices echoes 0).initial).map
      (fun talk => ((talk.client.connections 0).destroyedAt,
        (talk.client.connections 0).overlapped,
        ((conversation sampleServices echoes 0).step talk (.client samplePayload)).isSome,
        (Protobuf.response.parse ((sampleReply.packet.drop sizeofPacket).take
          (talk.client.connections 0).header.rpcLen.toNat)).map
            fun rpcResp => (talk.client.connections 0).outgoingTasks.find? rpcResp.getId)) =
        some (none, false, true, some (some 0)) := by
    decide +kernel
  obtain ⟨talk, reached, same⟩ :=
    (conversation sampleServices echoes 0).exists_reachableVia_of_implied
      (fun event member talk checked =>
        (⟨assumed_of_sample (.inl member) checked.1, checked.2⟩ : AssumedUnoverlapped 0 talk event))
      observed
  simp only [Prod.mk.injEq] at same
  obtain ⟨intact, calm, enabled, found⟩ := same
  obtain ⟨next, stepped⟩ := Option.isSome_iff_exists.mp enabled
  obtain ⟨input, heap, data, reads⟩ := readOf_samplePayload talk.client
  obtain ⟨rpcResp, parsed, completes, -, reading, -⟩ :=
    (responses_reach_their_calls reached ⟨intact, calm⟩).2 samplePayload _ input next reads
      (heap ▸ Realloc.zeroed_succeeds) stepped
  rw [data] at parsed
  rw [parsed, Option.map_some, Option.some.injEq] at found
  exact ⟨talk, next, reached, stepped, (completes 0 found).2, reading⟩

/-- When a call was made during the resolution, two reads are outstanding after a response
was handled. -/
theorem responses_read_twice :
    ∃ talk next, (conversation sampleServices echoes 0).ReachableVia (Assumed 0) talk ∧
      (talk.client.connections 0).destroyedAt = none ∧
      (conversation sampleServices echoes 0).step talk (.client samplePayload) = some next ∧
      (∃ n input, readOf 0 talk.client samplePayload = some (.payload, n, input) ∧
        input.heap.Succeeds) ∧
      (next.client.connections 0).destroyedAt = none ∧
      next.client.setUps 0 = [.readHeader, .readHeader] := by
  have observed : ((conversation sampleServices echoes 0).runVia
      (fun talk _ => (talk.client.connections 0).destroyedAt = none) disturbed
      (conversation sampleServices echoes 0).initial).map
      (fun talk => ((talk.client.connections 0).destroyedAt,
        ((conversation sampleServices echoes 0).step talk (.client samplePayload)).map fun next =>
          ((next.client.connections 0).destroyedAt, next.client.setUps 0))) =
        some (none, some (none, [.readHeader, .readHeader])) := by
    decide +kernel
  obtain ⟨talk, reached, same⟩ :=
    (conversation sampleServices echoes 0).exists_reachableVia_of_implied
      (fun event member talk checked => assumed_of_sample (.inr member) checked) observed
  simp only [Prod.mk.injEq] at same
  obtain ⟨intact, stepped⟩ := same
  obtain ⟨next, stepped, same⟩ := Option.map_eq_some_iff.mp stepped
  obtain ⟨input, heap, -, reads⟩ := readOf_samplePayload talk.client
  exact ⟨talk, next, reached, intact, stepped, ⟨_, input, reads, heap ▸ Realloc.zeroed_succeeds⟩,
    congrArg Prod.fst same, congrArg Prod.snd same⟩

end CarrotRpc.Protocol.Conversing
