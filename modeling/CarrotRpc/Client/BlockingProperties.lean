import CarrotRpc.Client.BlockingChannel
import CarrotRpc.Common.Parts

/-! The blocking channel's work on its socket, step by step: what it sends, and what it
makes of a response that arrives whole. -/

set_option autoImplicit false

namespace CarrotRpc.Client.Blocking

open Library Library.Faulting Common Protob

theorem access_of_ok {Value : Type} {handling : Handling Value} (endpoint : Endpoint)
    {buf : PacketBuf} {value : Value} (ended : handling endpoint.buf = (buf, .ok value)) :
    access handling endpoint = ({ endpoint with buf }, .ok value) :=
  relabel_of_ok _ (onBuffer_eq ended)

/-- The four writes into a block of the right size leave the packet there. -/
theorem packet_of_writes {parts : Parts} {block first second third fourth : Block}
    (noResp : parts.resp = []) (length : block.length = sizeofPacket + parts.payload.length)
    (laysHeader : block.write 0 parts.header.toHost = some first)
    (laysRpc : first.write sizeofPacket parts.rpc = some second)
    (laysReq : second.write (sizeofPacket + parts.rpc.length) parts.req = some third)
    (converts : third.write 0 parts.header.toNetwork = some fourth) : fourth = parts.packet := by
  have header := Block.take_write laysHeader
  have rpc := Block.take_write laysRpc
  have req := Block.take_write laysReq
  have converted := Block.take_write converts
  have behind := Block.drop_write converts
  have size : third.length = sizeofPacket + parts.rpc.length + parts.req.length := by
    rw [Block.length_of_write laysReq, Block.length_of_write laysRpc,
      Block.length_of_write laysHeader, length, Parts.length_payload, noResp]
    simp only [List.length_nil, Nat.add_zero, Nat.add_assoc]
  rw [Header.length_toHost, Nat.zero_add, List.take_zero, List.nil_append] at header
  rw [header] at rpc
  rw [rpc, List.take_of_length_le (Nat.le_of_eq size)] at req
  rw [Header.length_toNetwork, Nat.zero_add, List.take_zero, List.nil_append] at converted
  rw [Header.length_toNetwork, req, List.append_assoc,
    List.drop_left' (Header.length_toHost _)] at behind
  rw [← List.take_append_drop sizeofPacket fourth, converted, behind, Parts.packet_eq,
    Parts.payload, noResp, List.append_nil]

section Preparing

variable {Msg : Type} [Protobuf]

/-- The two parts of a request packet. -/
def requestParts (call : Call Msg) : Parts :=
  ⟨Protobuf.request.serialize (metadata call), call.requestFormat.serialize call.request, []⟩

/-- How the preparation of a request packet ends. -/
def prepared (call : Call Msg) : Except Failure (List UInt8) :=
  match call.heap.apply none (requestSize call) with
  | none => .error .outgoingMemory
  | some _ =>
      if !call.serializesMetadata then .error .metadataUnserialized
      else if !call.serializesRequest then .error .parameterUnserialized
      else .ok (requestParts call).packet

theorem requestSize_eq {call : Call Msg} (narrow : (requestParts call).Narrow) :
    requestSize call = sizeofPacket + (requestParts call).payload.length := by
  obtain ⟨rpc, req, -⟩ := narrow.lengths
  have same : requestSize call = sizeofPacket + (requestParts call).header.rpcLen.toNat +
      (requestParts call).header.reqLen.toNat := rfl
  rw [same, rpc, req, Parts.length_payload, Nat.add_assoc]
  rfl

/-- The writer of the blocking client lays a packet out like the others. -/
theorem preparePacket_ends {call : Call Msg} {endpoint : Endpoint}
    (narrow : (requestParts call).Narrow) (fresh : endpoint.buf.p = none) :
    ∃ buf, preparePacket call endpoint = ({ endpoint with buf }, prepared call) ∧
      ∀ packet, prepared call = .ok packet →
        buf.p = some packet ∧ packet.length = requestSize call := by
  obtain ⟨rpcLen, -, -⟩ := narrow.lengths
  have size := requestSize_eq narrow
  have total : requestSize call = sizeofPacket +
      ((Protobuf.request.serialize (metadata call)).length +
        (call.requestFormat.serialize call.request).length + 0) :=
    size.trans (congrArg _ Parts.length_payload)
  have rpc : (requestParts call).rpc.length =
      (Protobuf.request.serialize (metadata call)).length := rfl
  have header : requestHeader call = (requestParts call).header := rfl
  unfold preparePacket prepared
  cases given : call.heap.apply none (requestSize call) with
  | none =>
      have failed : onBuffer (allocate call.heap (requestSize call)) endpoint =
          ({ endpoint with buf := {} }, .error .noMemory) := by
        apply onBuffer_eq
        simp only [allocate, fresh, given]
      exact ⟨_, bind_of_error _ (relabel_of_error _ failed), nofun⟩
  | some block =>
      have length := call.heap.length_eq given
      have allocated : onBuffer (allocate call.heap (requestSize call)) endpoint =
          ({ endpoint with buf := { p := some block } }, .ok ()) := by
        apply onBuffer_eq
        simp only [allocate, fresh, given]
      obtain ⟨first, firstGiven, firstLength, laysHeader⟩ := store_eq { p := some block } 0
        (requestHeader call).toHost rfl (by rw [Header.length_toHost]; omega)
      obtain ⟨second, secondGiven, secondLength, laysRpc⟩ := store_eq { p := some first }
        sizeofPacket (Protobuf.request.serialize (metadata call)) rfl (by omega)
      obtain ⟨third, thirdGiven, thirdLength, laysReq⟩ := store_eq { p := some second }
        (sizeofPacket + (requestHeader call).rpcLen.toNat)
        (call.requestFormat.serialize call.request) rfl (by rw [header, rpcLen]; omega)
      obtain ⟨fourth, fourthGiven, fourthLength, converts⟩ := store_eq { p := some third } 0
        (requestHeader call).toNetwork rfl (by rw [Header.length_toNetwork]; omega)
      have loads := load_eq { p := some fourth } 0 (requestSize call) rfl (by omega)
      rw [header, rpcLen] at thirdGiven
      have content : fourth = (requestParts call).packet :=
        packet_of_writes rfl (length.trans size) firstGiven secondGiven thirdGiven fourthGiven
      rw [bind_of_ok _ (relabel_of_ok _ allocated),
        bind_of_ok _ (access_of_ok { endpoint with buf := { p := some block } } laysHeader)]
      cases call.serializesMetadata with
      | false => exact ⟨_, bind_of_error _ (ensure_false _ _), nofun⟩
      | true =>
          rw [bind_of_ok _ (ensure_true _ _),
            bind_of_ok _ (access_of_ok { endpoint with buf := { p := some first } } laysRpc)]
          cases call.serializesRequest with
          | false => exact ⟨_, bind_of_error _ (ensure_false _ _), nofun⟩
          | true =>
              rw [bind_of_ok _ (ensure_true _ _),
                bind_of_ok _ (access_of_ok { endpoint with buf := { p := some second } } laysReq),
                bind_of_ok _ (access_of_ok { endpoint with buf := { p := some third } } converts)]
              refine ⟨{ p := some fourth }, ?_, ?_⟩
              · rw [access_of_ok { endpoint with buf := { p := some fourth } } loads,
                  List.drop_zero, List.take_of_length_le (by omega), content]
                rfl
              · intro packet same
                obtain rfl : (requestParts call).packet = packet := Except.ok.inj same
                exact ⟨congrArg some content, by rw [← content]; omega⟩

end Preparing

section Receiving

variable {heap : Realloc} {n : Nat} {block : Block} {parts : Parts}
  {rest : List UInt8}

theorem recvLengths_of_flatten (endpoint : Endpoint) (header : Header)
    (arrives : endpoint.incoming.flatten = header.toNetwork ++ rest) :
    ∃ incoming, incoming.flatten = rest ∧
      recvLengths endpoint = ({ endpoint with incoming }, .ok header) := by
  rw [Header.toNetwork, List.append_assoc, List.append_assoc] at arrives
  obtain ⟨first, afterRpc, rpcLen⟩ := recvField_of_flatten endpoint header.rpcLen arrives
  obtain ⟨second, afterReq, reqLen⟩ :=
    recvField_of_flatten { endpoint with incoming := first } header.reqLen afterRpc
  obtain ⟨third, afterResp, respLen⟩ :=
    recvField_of_flatten { endpoint with incoming := second } header.respLen afterReq
  refine ⟨third, afterResp, ?_⟩
  rw [recvLengths, bind_of_ok _ (relabel_of_ok _ rpcLen), bind_of_ok _ (relabel_of_ok _ reqLen),
    bind_of_ok _ (relabel_of_ok _ respLen)]
  rfl

/-- The memory for a response that is larger than the request is found. -/
def FindsMemory (heap : Realloc) (n : Nat) (block : Block) (size : Nat) : Prop :=
  n - sizeofPacket < size → (heap.apply (some block) (size + sizeofPacket)).isSome

instance (heap : Realloc) (n : Nat) (block : Block) (size : Nat) :
    Decidable (FindsMemory heap n block size) :=
  inferInstanceAs (Decidable (_ → _))

theorem openPayload_ends {buf : PacketBuf} (small : parts.Small) (present : buf.p = some block)
    (length : block.length = n) (whole : sizeofPacket ≤ n)
    (finds : FindsMemory heap n block parts.payload.length) :
    ∃ opened written, opened.p = some written ∧ written.take sizeofPacket = parts.header.toHost ∧
      sizeofPacket + parts.payload.length ≤ written.length ∧
      openPayload heap n parts.header buf = (opened, .ok parts.payload.length) := by
  have stored : ∀ start : Block, sizeofPacket + parts.payload.length ≤ start.length →
      ∀ ready : PacketBuf, ready.p = some start →
      ∃ opened written, opened.p = some written ∧
        written.take sizeofPacket = parts.header.toHost ∧
        sizeofPacket + parts.payload.length ≤ written.length ∧
        (do store 0 parts.header.toHost; pure parts.payload.length : Handling Nat) ready =
          (opened, .ok parts.payload.length) := by
    intro start room ready holds
    obtain ⟨written, given, same, ran⟩ := store_eq ready 0 parts.header.toHost holds
      (by rw [Header.length_toHost]; omega)
    have content := Block.take_write given
    rw [Nat.zero_add, Header.length_toHost, List.take_zero, List.nil_append] at content
    refine ⟨{ ready with p := some written }, written, rfl, content, same ▸ room, ?_⟩
    rw [bind_of_ok _ ran]
    rfl
  unfold openPayload
  simp only [small.sum]
  by_cases needed : n - sizeofPacket < parts.payload.length
  · obtain ⟨grown, given⟩ := Option.isSome_iff_exists.mp (finds needed)
    have ran : allocate heap (parts.payload.length + sizeofPacket) buf =
        ({ p := some grown }, .ok ()) := by
      simp only [allocate, present, given]
    have size := heap.length_eq given
    simp only [if_pos needed]
    rw [bind_of_ok _ ran]
    exact stored grown (by omega) _ rfl
  · simp only [if_neg needed]
    exact stored block (by omega) buf present

/-- A response that arrives whole is in the packet afterwards, and nothing behind it was
read. -/
theorem receive_ends (endpoint : Endpoint) (small : parts.Small) (present : endpoint.buf.p = some block)
    (length : block.length = n) (whole : sizeofPacket ≤ n)
    (finds : FindsMemory heap n block parts.payload.length)
    (arrives : endpoint.incoming.flatten = parts.packet ++ rest) :
    ∃ next, receive heap n endpoint = (next, .ok parts.header) ∧
      Carries parts.header parts.payload next.buf ∧ next.incoming.flatten = rest ∧
      next.sent = endpoint.sent := by
  rw [Parts.packet_eq, List.append_assoc] at arrives
  obtain ⟨first, left, lengths⟩ := recvLengths_of_flatten endpoint parts.header arrives
  obtain ⟨opened, written, holds, started, room, opening⟩ :=
    openPayload_ends small present length whole finds
  obtain ⟨second, last, read⟩ :=
    recv_of_flatten { endpoint with buf := opened, incoming := first } left
  obtain ⟨stored, -, carries, storing⟩ :=
    storePayload_ends parts.payload.length parts.payload holds started room
  rw [if_pos rfl] at storing
  refine ⟨⟨stored, second, endpoint.sent⟩, ?_, carries, last, rfl⟩
  have opens : onBuffer (openPayload heap n parts.header) { endpoint with incoming := first } =
      ({ endpoint with buf := opened, incoming := first }, .ok parts.payload.length) :=
    onBuffer_eq opening
  have stores : onBuffer (storePayload parts.payload.length parts.payload)
      { endpoint with buf := opened, incoming := second } =
      (⟨stored, second, endpoint.sent⟩, .ok ()) := onBuffer_eq storing
  rw [receive, bind_of_ok _ lengths, bind_of_ok _ (relabel_of_ok _ opens),
    bind_of_ok _ (relabel_of_ok _ read), bind_of_ok _ (relabel_of_ok _ stores)]
  rfl

/-- The exits that report `EC_TRANSPORT_ERROR`. -/
def Failure.isTransport (failure : Failure) : Bool :=
  (failure.report "").map Prod.snd = some .transportError

theorem recvLengths_short (endpoint : Endpoint)
    (short : endpoint.incoming.flatten.length < sizeofPacket) :
    ∃ incoming failure, recvLengths endpoint = ({ endpoint with incoming }, .error failure) ∧
      failure.isTransport = true := by
  have twelve : sizeofPacket = 12 := rfl
  rw [recvLengths]
  by_cases first : endpoint.incoming.flatten.length < 4
  · obtain ⟨incoming, failed⟩ := recvField_of_lt endpoint first
    exact ⟨_, _, bind_of_error _ (relabel_of_error _ failed), rfl⟩
  · obtain ⟨rpcLen, afterRpc, left, read⟩ := recvField_of_le endpoint (Nat.le_of_not_lt first)
    rw [bind_of_ok _ (relabel_of_ok _ read)]
    have leftLength := congrArg List.length left
    rw [List.length_drop] at leftLength
    by_cases second : endpoint.incoming.flatten.length < 8
    · obtain ⟨incoming, failed⟩ :=
        recvField_of_lt { endpoint with incoming := afterRpc } (by dsimp only; omega)
      exact ⟨_, _, bind_of_error _ (relabel_of_error _ failed), rfl⟩
    · obtain ⟨reqLen, afterReq, last, readReq⟩ :=
        recvField_of_le { endpoint with incoming := afterRpc } (by dsimp only; omega)
      have lastLength := congrArg List.length last
      rw [List.length_drop] at lastLength
      obtain ⟨incoming, failed⟩ :=
        recvField_of_lt { endpoint with incoming := afterReq } (by dsimp only at *; omega)
      rw [bind_of_ok _ (relabel_of_ok _ readReq)]
      exact ⟨_, _, bind_of_error _ (relabel_of_error _ failed), rfl⟩

/-- A response that does not arrive whole. -/
theorem receive_short (endpoint : Endpoint) {missing : List UInt8} (small : parts.Small)
    (present : endpoint.buf.p = some block) (length : block.length = n)
    (whole : sizeofPacket ≤ n) (finds : FindsMemory heap n block parts.payload.length)
    (arrives : endpoint.incoming.flatten ++ missing = parts.packet) (short : missing ≠ []) :
    ∃ next failure, receive heap n endpoint = (next, .error failure) ∧
      failure.isTransport = true ∧ next.sent = endpoint.sent := by
  have lengths := congrArg List.length arrives
  have lost := List.length_pos_iff.mpr short
  rw [List.length_append, Parts.length_packet] at lengths
  rw [receive]
  by_cases started : endpoint.incoming.flatten.length < sizeofPacket
  · obtain ⟨incoming, failure, failed, transport⟩ := recvLengths_short endpoint started
    exact ⟨_, failure, bind_of_error _ failed, transport, rfl⟩
  · have front : endpoint.incoming.flatten =
        parts.header.toNetwork ++ endpoint.incoming.flatten.drop sizeofPacket := by
      have same := congrArg (List.take sizeofPacket) arrives
      rw [List.take_append_of_le_length (Nat.le_of_not_lt started), Parts.packet_eq,
        List.take_left' (Header.length_toNetwork _)] at same
      rw [← same, List.take_append_drop]
    obtain ⟨first, left, read⟩ := recvLengths_of_flatten endpoint parts.header front
    obtain ⟨opened, written, holds, laid, room, opening⟩ :=
      openPayload_ends small present length whole finds
    have leftLength := congrArg List.length left
    rw [List.length_drop] at leftLength
    obtain ⟨taken, -⟩ := readN_flatten parts.payload.length first
    have few : ¬ (readN parts.payload.length first).1.length = parts.payload.length := by
      rw [taken, List.length_take]
      omega
    have received : recv parts.payload.length { endpoint with buf := opened, incoming := first } =
        ({ endpoint with buf := opened, incoming := (readN parts.payload.length first).2 },
          .ok (readN parts.payload.length first).1) := rfl
    have within := length_readN_le parts.payload.length first
    obtain ⟨stored, -, -, storing⟩ := storePayload_ends parts.payload.length
      (readN parts.payload.length first).1 holds laid (by omega)
    rw [if_neg few] at storing
    have opens : onBuffer (openPayload heap n parts.header) { endpoint with incoming := first } =
        ({ endpoint with buf := opened, incoming := first }, .ok parts.payload.length) :=
      onBuffer_eq opening
    have fails : onBuffer (storePayload parts.payload.length (readN parts.payload.length first).1)
        { endpoint with buf := opened, incoming := (readN parts.payload.length first).2 } =
        ({ endpoint with buf := stored, incoming := (readN parts.payload.length first).2 },
          .error .unread) := onBuffer_eq storing
    rw [bind_of_ok _ read, bind_of_ok _ (relabel_of_ok _ opens),
      bind_of_ok _ (relabel_of_ok _ received)]
    exact ⟨_, _, bind_of_error _ (relabel_of_error _ fails), rfl, rfl⟩

end Receiving

section Calling

variable {Msg : Type} [Protobuf] {call : Call Msg} {transfer : Transfer} {endpoint : Endpoint}
  {packet : List UInt8} {parts : Parts}

/-- What the client takes from a response packet. -/
def interpreted (parts : Parts) : Except Failure (Response × List UInt8) :=
  match Protobuf.response.parse parts.rpc with
  | none => .error .metadataUnparsed
  | some rpcResp => .ok (rpcResp, (parts.req ++ parts.resp).take parts.resp.length)

theorem interpret_ends (small : parts.Small)
    (carries : Carries parts.header parts.payload endpoint.buf) :
    interpret parts.header endpoint = (endpoint, interpreted parts) := by
  have covered := respLen_covered parts.header
  rw [small.payload_eq] at covered
  have metadata := carries.parseRange 0 parts.header.rpcLen (by omega)
  have parameter := carries.parseRange _ parts.header.respLen covered
  rw [small.slice_rpc] at metadata
  rw [small.slice_resp] at parameter
  rw [interpret, interpreted, bind_of_ok _ (access_of_ok endpoint metadata)]
  cases Protobuf.response.parse parts.rpc with
  | none => rfl
  | some rpcResp =>
      dsimp only
      rw [bind_of_ok _ (access_of_ok endpoint parameter)]
      rfl

/-- What the socket takes of a call's packet. -/
def taken (call : Call Msg) (transfer : Transfer) : List UInt8 :=
  match prepared call with
  | .error _ => []
  | .ok packet => packet.take transfer.accepted

/-- Without a packet nothing is written, and nothing is read. -/
theorem transact_unprepared {failure : Failure} (narrow : (requestParts call).Narrow)
    (fresh : endpoint.buf.p = none) (failed : prepared call = .error failure) :
    ∃ buf, transact call transfer endpoint = ({ endpoint with buf }, .error failure) := by
  obtain ⟨buf, ran, -⟩ := preparePacket_ends narrow fresh
  rw [failed] at ran
  exact ⟨buf, bind_of_error _ ran⟩

/-- From a packet that is not taken whole nothing is read. -/
theorem transact_unsent (narrow : (requestParts call).Narrow) (fresh : endpoint.buf.p = none)
    (ready : prepared call = .ok packet) (short : transfer.accepted < packet.length) :
    ∃ buf, transact call transfer endpoint =
      ({ endpoint with buf, sent := endpoint.sent ++ packet.take transfer.accepted },
        .error .unsent) := by
  obtain ⟨buf, ran, -⟩ := preparePacket_ends narrow fresh
  rw [ready] at ran
  have sends : send transfer.accepted packet { endpoint with buf } =
      ({ endpoint with buf, sent := endpoint.sent ++ packet.take transfer.accepted },
        .error .unsent) := by
    rw [send, if_neg (Nat.not_le_of_lt short)]
  refine ⟨buf, ?_⟩
  rw [transact, bind_of_ok _ ran]
  exact bind_of_error _ (relabel_of_error _ sends)

/-- After a packet that is taken whole it is the receiver's turn. -/
theorem transact_sent (narrow : (requestParts call).Narrow) (fresh : endpoint.buf.p = none)
    (ready : prepared call = .ok packet) (whole : packet.length ≤ transfer.accepted) :
    ∃ start : Endpoint, start.buf.p = some packet ∧ start.incoming = endpoint.incoming ∧
      start.sent = endpoint.sent ++ packet ∧ packet.length = requestSize call ∧
      transact call transfer endpoint =
        (receive transfer.heap packet.length >>= interpret) start := by
  obtain ⟨buf, ran, holds⟩ := preparePacket_ends narrow fresh
  obtain ⟨present, length⟩ := holds packet ready
  rw [ready] at ran
  have sends : send transfer.accepted packet { endpoint with buf } =
      ({ endpoint with buf, sent := endpoint.sent ++ packet }, .ok ()) := by
    rw [send, if_pos whole, List.take_of_length_le whole]
  refine ⟨{ endpoint with buf, sent := endpoint.sent ++ packet }, present, rfl, rfl, length, ?_⟩
  rw [transact, bind_of_ok _ ran, bind_of_ok _ (relabel_of_ok _ sends), length]

/-- A packet is at least its header. -/
theorem requestSize_le : sizeofPacket ≤ requestSize call := by
  rw [requestSize, Nat.add_assoc]
  exact Nat.le_add_right _ _

/-- The response to a packet that is taken whole. -/
theorem transact_ends {rest : List UInt8} (narrow : (requestParts call).Narrow)
    (fresh : endpoint.buf.p = none) (ready : prepared call = .ok packet)
    (whole : packet.length ≤ transfer.accepted) (small : parts.Small)
    (finds : FindsMemory transfer.heap packet.length packet parts.payload.length)
    (arrives : endpoint.incoming.flatten = parts.packet ++ rest) :
    ∃ next, transact call transfer endpoint = (next, interpreted parts) ∧
      next.incoming.flatten = rest ∧ next.sent = endpoint.sent ++ packet := by
  obtain ⟨start, present, incoming, sent, length, same⟩ := transact_sent narrow fresh ready whole
  obtain ⟨next, received, carries, left, kept⟩ := receive_ends start small present rfl
    (length ▸ requestSize_le) finds (incoming ▸ arrives)
  refine ⟨next, ?_, left, kept.trans sent⟩
  rw [same, bind_of_ok _ received, interpret_ends small carries]

/-- The response to a packet that is taken whole does not arrive whole. -/
theorem transact_short {missing : List UInt8} (narrow : (requestParts call).Narrow)
    (fresh : endpoint.buf.p = none) (ready : prepared call = .ok packet)
    (whole : packet.length ≤ transfer.accepted) (small : parts.Small)
    (finds : FindsMemory transfer.heap packet.length packet parts.payload.length)
    (arrives : endpoint.incoming.flatten ++ missing = parts.packet) (short : missing ≠ []) :
    ∃ next failure, transact call transfer endpoint = (next, .error failure) ∧
      failure.isTransport = true ∧ next.sent = endpoint.sent ++ packet := by
  obtain ⟨start, present, incoming, sent, length, same⟩ := transact_sent narrow fresh ready whole
  obtain ⟨next, failure, failed, transport, kept⟩ := receive_short start small present rfl
    (length ▸ requestSize_le) finds (incoming ▸ arrives) short
  exact ⟨next, failure, same.trans (bind_of_error _ failed), transport, kept.trans sent⟩

/-- Receiving writes nothing. -/
theorem keepsSent_receive {heap : Realloc} {n : Nat} {sent : List UInt8} :
    Keeps (fun endpoint => endpoint.sent = sent) (receive heap n >>= interpret) := by
  have onBuffer_keeps : ∀ {Value : Type} {handling : Handling Value},
      Keeps (fun endpoint => endpoint.sent = sent) (onBuffer handling) :=
    .of_state fun _ holds => holds
  have recv_keeps : ∀ {n : Nat}, Keeps (fun endpoint => endpoint.sent = sent) (recv n) :=
    .of_state fun _ holds => holds
  have field : Keeps (fun endpoint => endpoint.sent = sent) recvField :=
    recv_keeps.bind fun _ => Keeps.ensure.bind fun _ => .pure
  have lengths : Keeps (fun endpoint => endpoint.sent = sent) recvLengths :=
    field.relabel.bind fun _ => field.relabel.bind fun _ => field.relabel.bind fun _ => .pure
  have received : Keeps (fun endpoint => endpoint.sent = sent) (receive heap n) :=
    lengths.bind fun _ => onBuffer_keeps.relabel.bind fun _ => recv_keeps.relabel.bind fun _ =>
      onBuffer_keeps.relabel.bind fun _ => .pure
  refine received.bind fun header => onBuffer_keeps.relabel.bind fun metadata => ?_
  split
  · exact .fail
  · exact onBuffer_keeps.relabel.bind fun _ => .pure

/-- What a call writes does not depend on what it reads. -/
theorem transact_writes (narrow : (requestParts call).Narrow) (fresh : endpoint.buf.p = none) :
    (transact call transfer endpoint).1.sent = endpoint.sent ++ taken call transfer := by
  rw [taken]
  cases ready : prepared call with
  | error failure =>
      obtain ⟨buf, ran⟩ := transact_unprepared narrow fresh ready
      rw [ran, List.append_nil]
  | ok packet =>
      dsimp only
      by_cases whole : packet.length ≤ transfer.accepted
      · obtain ⟨start, -, -, sent, -, same⟩ := transact_sent narrow fresh ready whole
        rw [same, List.take_of_length_le whole]
        exact keepsSent_receive.state sent
      · obtain ⟨buf, ran⟩ := transact_unsent narrow fresh ready (Nat.lt_of_not_le whole)
        rw [ran]

end Calling

end CarrotRpc.Client.Blocking
