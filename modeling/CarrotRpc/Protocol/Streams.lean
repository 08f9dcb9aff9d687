import CarrotRpc.Client.BlockingProperties
import CarrotRpc.Protocol.ResponseReceiver
import CarrotRpc.Server.Replies
import CarrotRpc.Server.SimpleServerProperties
import CarrotRpc.Server.ThreadedServerProperties

/-! The receive loops of the two clients and the three servers, driven over a stream of
packets that arrives in any portions. -/

set_option autoImplicit false

namespace CarrotRpc.Protocol.Streams

open Library Library.Faulting Common Protob
open Server.Async (RpcServerConnection)

/-- What a loop hands to the two calls of `ParseFromArray`. -/
abbrev Parsed := List UInt8 × List UInt8

/-- The ranges behind a header that was received into the buffer of an endpoint. -/
def ranges (parameter : Header → UInt32) (header : Header) : Serving Parsed := do
  let metadata ← onBuffer (parseRange 0 header.rpcLen)
  let rest ← onBuffer (parseRange header.rpcLen.toNat (parameter header))
  pure (metadata, rest)

def simpleServer (heap : Realloc) : Serving Parsed := do
  let header ← Server.Simple.receive heap
  ranges Header.reqLen header

def threadedServer (heap : Realloc) : Serving Parsed := do
  let header ← Server.Threaded.receive heap
  ranges Header.reqLen header

/-- The packet a response is received into is the one of the request. -/
def blockingClient (turn : Realloc × Block) : Client.Blocking.Calling Parsed := fun endpoint =>
  (do
    let header ← Client.Blocking.receive turn.1 turn.2.length
    relabel (fun _ => .overruns) (ranges Header.respLen header))
  { endpoint with buf := { p := some turn.2 } }

/-- `async_read`: its handler goes on when all of the bytes are there. -/
def asyncRead (n : Nat) : Serving (List UInt8) := do
  let bytes ← recv n
  ensure (bytes.length = n) .unread
  pure bytes

def asyncClient (heaps : Realloc × Realloc) : Serving Parsed := do
  onBuffer (AsyncClient.startRead heaps.1)
  let bytes ← asyncRead sizeofPacket
  let size ← onBuffer (AsyncClient.openPayload heaps.2 bytes)
  let payload ← asyncRead size
  onBuffer (store sizeofPacket payload)
  let header ← onBuffer RpcServerConnection.readFields
  ranges Header.respLen header

/-- A connection of the async server and what its client still sends. -/
structure Link where
  conn : RpcServerConnection
  incoming : Incoming

def onConn {Value : Type} (handler : Server.Async.Handler Value) : Faulting Link Fault Value :=
  zoom Link.conn (fun link conn => { link with conn }) handler

/-- A read into the buffer of a connection of the async server. -/
def linkRead (n : Nat) : Faulting Link Fault (List UInt8) := fun link =>
  ({ link with incoming := (readN n link.incoming).2 },
    if (readN n link.incoming).1.length = n then .ok (readN n link.incoming).1
    else .error .unread)

/-- The handlers up to the one that parses: the size of a payload, and the payload. -/
def asyncReceive (heaps : Realloc × Realloc) : Faulting Link Fault (Nat × List UInt8) := do
  let _ ← onConn (RpcServerConnection.serve heaps.1)
  let bytes ← linkRead sizeofPacket
  let size ← onConn (RpcServerConnection.openPayload heaps.2 bytes)
  let payload ← linkRead size
  pure (size, payload)

def asyncServer (heaps : Realloc × Realloc) : Faulting Link Fault Parsed := do
  let _ ← onConn (RpcServerConnection.serve heaps.1)
  let bytes ← linkRead sizeofPacket
  let size ← onConn (RpcServerConnection.openPayload heaps.2 bytes)
  let payload ← linkRead size
  onConn (RpcServerConnection.onBuffer (storePayload size payload))
  let header ← onConn (RpcServerConnection.onBuffer RpcServerConnection.readFields)
  let metadata ← onConn (RpcServerConnection.onBuffer (parseRange 0 header.rpcLen))
  let parameter ←
    onConn (RpcServerConnection.onBuffer (parseRange header.rpcLen.toNat header.reqLen))
  pure (metadata, parameter)

section Rule

variable {State Turn Fault Value : Type}

/-- A loop yields the values and leaves the rest of the stream. -/
def Yields (incoming : State → Incoming) (loop : Turn → Faulting State Fault Value)
    (turns : List Turn) (state : State) (values : List Value) (rest : List UInt8) : Prop :=
  ∃ next, each loop turns state = (next, .ok values) ∧ (incoming next).flatten = rest

/-- The stream in front of a loop. -/
def Facing (incoming : State → Incoming) (Inv : State → Prop) (rest : List UInt8)
    (packets : List Parts) (state : State) : Prop :=
  (∀ parts ∈ packets, parts.Small) ∧ Inv state ∧
    (incoming state).flatten = (packets.map Parts.packet).flatten ++ rest

/-- A loop that takes one packet off the stream takes all of them. -/
theorem yields_of_step {incoming : State → Incoming} {loop : Turn → Faulting State Fault Value}
    (Inv : State → Prop) {usable : Turn → Prop} {value : Parts → Value}
    (step : ∀ parts turn state rest, parts.Small → usable turn → Inv state →
      (incoming state).flatten = parts.packet ++ rest →
      ∃ next, loop turn state = (next, .ok (value parts)) ∧ Inv next ∧
        (incoming next).flatten = rest)
    {packets : List Parts} {turns : List Turn} {state : State} {rest : List UInt8}
    (small : ∀ parts ∈ packets, parts.Small) (enough : turns.length = packets.length)
    (each_usable : ∀ turn ∈ turns, usable turn) (start : Inv state)
    (arrives : (incoming state).flatten = (packets.map Parts.packet).flatten ++ rest) :
    Yields incoming loop turns state (packets.map value) rest := by
  have faced : ∀ parts others turn state, usable turn →
      Facing incoming Inv rest (parts :: others) state →
      ∃ next, loop turn state = (next, .ok (value parts)) ∧
        Facing incoming Inv rest others next := by
    intro parts others turn state turned facing
    obtain ⟨allSmall, holds, ahead⟩ := facing
    simp only [List.map_cons, List.flatten_cons, List.append_assoc] at ahead
    obtain ⟨next, ran, kept, left⟩ :=
      step parts turn state _ (allSmall parts List.mem_cons_self) turned holds ahead
    exact ⟨next, ran, fun item member => allSmall item (List.mem_cons_of_mem _ member), kept, left⟩
  obtain ⟨next, ran, -, -, left⟩ :=
    each_of_step (Facing incoming Inv rest) faced enough each_usable
    ⟨small, start, arrives⟩
  exact ⟨next, ran, left⟩

/-- What was yielded is what was asked for. -/
theorem Yields.values_iff {incoming : State → Incoming}
    {loop : Turn → Faulting State Fault Value} {turns : List Turn} {state : State}
    {values others : List Value} {rest : List UInt8}
    (yields : Yields incoming loop turns state values rest) :
    Yields incoming loop turns state others rest ↔ values = others := by
  obtain ⟨next, ran, left⟩ := yields
  constructor
  · intro same
    obtain ⟨other, again, -⟩ := same
    have equal := ran.symm.trans again
    exact Except.ok.inj (Prod.mk.inj equal).2
  · intro same
    exact ⟨next, same ▸ ran, left⟩

end Rule

section Ranges

variable {parts : Parts}

theorem ranges_eq {parameter : Header → UInt32} {bytes : List UInt8} (endpoint : Endpoint)
    (small : parts.Small)
    (carries : Carries parts.header parts.payload endpoint.buf)
    (covered : parts.header.rpcLen.toNat + (parameter parts.header).toNat ≤ parts.header.payload)
    (sliced : slice parts.header.rpcLen.toNat (parameter parts.header) parts.payload = .ok bytes) :
    ranges parameter parts.header endpoint = (endpoint, .ok (parts.rpc, bytes)) := by
  rw [small.payload_eq] at covered
  have first := carries.parseRange 0 parts.header.rpcLen (by omega)
  have second := carries.parseRange _ (parameter parts.header) covered
  rw [small.slice_rpc] at first
  rw [sliced] at second
  rw [ranges, bind_of_ok _ (onBuffer_eq first), bind_of_ok _ (onBuffer_eq second)]
  rfl

end Ranges

/-- A buffer whose growth finds memory. -/
def FindsRoom (Inv : PacketBuf → Prop)
    (expand : UInt32 → PacketBuf → Option (PacketBuf × Bool)) : Prop :=
  ∀ n buf, Inv buf → n.toNat ≤ maxSize → ∃ grown block, expand n buf = some (grown, true) ∧
    Inv grown ∧ grown.p = some block ∧ n.toNat ≤ block.length

/-- The loops that read the lengths field by field in a server. -/
theorem fields_step {Inv : PacketBuf → Prop}
    {expand : UInt32 → PacketBuf → Option (PacketBuf × Bool)} (shaped : Server.Shaped Inv)
    (expands : FindsRoom Inv expand) {parts : Parts} {endpoint : Endpoint} {rest : List UInt8}
    (small : parts.Small) (holds : Inv endpoint.buf)
    (arrives : endpoint.incoming.flatten = parts.packet ++ rest) :
    ∃ next, (do let header ← receivePacket expand; ranges Header.reqLen header) endpoint =
        (next, .ok (parts.rpc, parts.req)) ∧ Inv next.buf ∧ next.incoming.flatten = rest := by
  rw [Parts.packet_eq, List.append_assoc] at arrives
  obtain ⟨behind, left, received⟩ := recvHeader_of_flatten endpoint parts.header arrives
  have size := small.size
  have bound : sizeofPacket + parts.header.payload < 2 ^ 32 := size.trans_lt (by decide)
  obtain ⟨grown, block, expanded, kept, present, room⟩ :=
    expands (packetSize parts.header) endpoint.buf holds (packetSize_le size)
  obtain ⟨buf, shape, carries, ran⟩ :=
    Server.receivePacket_ends expand received bound expanded present room
  obtain ⟨taken, last⟩ := readN_of_flatten left
  rw [small.payload_eq, taken] at carries ran
  rw [if_pos rfl] at ran
  have parsed := ranges_eq ⟨buf, (readN parts.payload.length behind).2, endpoint.sent⟩ small carries (reqLen_covered parts.header) small.slice_req
  refine ⟨⟨buf, (readN parts.payload.length behind).2, endpoint.sent⟩, ?_, ?_, last⟩
  · rw [bind_of_ok _ ran]
    exact parsed
  · exact shaped grown buf shape kept

section Steps

variable {parts : Parts} {rest : List UInt8}

/-- What a client takes for the response parameter. -/
def heard (parts : Parts) : Parsed := (parts.rpc, (parts.req ++ parts.resp).take parts.resp.length)

theorem blockingClient_step {endpoint : Endpoint} {turn : Realloc × Block} (small : parts.Small)
    (succeeds : turn.1.Succeeds) (whole : sizeofPacket ≤ turn.2.length)
    (arrives : endpoint.incoming.flatten = parts.packet ++ rest) :
    ∃ next, blockingClient turn endpoint = (next, .ok (heard parts)) ∧
      next.incoming.flatten = rest := by
  obtain ⟨next, ran, carries, left, -⟩ := Client.Blocking.receive_ends
    { endpoint with buf := { p := some turn.2 } } small rfl rfl whole (fun _ => succeeds _ _) arrives
  have parsed := ranges_eq next small carries (respLen_covered parts.header) small.slice_resp
  refine ⟨next, ?_, left⟩
  rw [blockingClient, bind_of_ok _ ran]
  exact relabel_of_ok _ parsed

theorem asyncRead_of_flatten {bytes : List UInt8} (endpoint : Endpoint)
    (arrives : endpoint.incoming.flatten = bytes ++ rest) :
    ∃ incoming, incoming.flatten = rest ∧
      asyncRead bytes.length endpoint = ({ endpoint with incoming }, .ok bytes) := by
  obtain ⟨incoming, left, ran⟩ := recv_of_flatten endpoint arrives
  refine ⟨incoming, left, ?_⟩
  rw [asyncRead, bind_of_ok _ ran]
  simp only [decide_true]
  rw [bind_of_ok _ (ensure_true _ _)]
  rfl

/-- `start_read` makes room for a header, whatever the buffer was before. -/
theorem startRead_ends {heap : Realloc} {buf : PacketBuf} {largest : Nat}
    (sound : buf.Grown largest) (succeeds : heap.Succeeds) :
    ∃ grown block, expandPacket heap buf (.ofNat sizeofPacket) = some (grown, true) ∧
      grown.Grown (max largest sizeofPacket) ∧ grown.p = some block ∧
      sizeofPacket ≤ block.length := by
  obtain ⟨grown, block, expanded, kept, present, length⟩ :=
    expandPacket_total (.ofNat sizeofPacket) sound (by decide) succeeds
  refine ⟨grown, block, expanded, kept, present, ?_⟩
  rw [length]
  exact (Nat.le_max_right largest sizeofPacket).trans (le_roundUp _)

/-- The header is converted in place, and is still there when the buffer has grown. -/
theorem convert_ends {heap : Realloc} {buf : PacketBuf} {block : Block} {largest : Nat}
    (small : parts.Small) (sound : buf.Grown largest) (present : buf.p = some block)
    (fits : sizeofPacket ≤ block.length) (succeeds : heap.Succeeds) :
    ∃ converted opened written,
      (do store 0 parts.header.toNetwork; RpcServerConnection.convertHeader) buf =
        (converted, .ok parts.header) ∧
      expandPacket heap converted (packetSize parts.header) = some (opened, true) ∧
      opened.Grown (max largest (packetSize parts.header).toNat) ∧
      opened.p = some written ∧ sizeofPacket + parts.payload.length ≤ written.length ∧
      written.take sizeofPacket = parts.header.toHost := by
  obtain ⟨converted, start, shape, holds, started, ran⟩ := RpcServerConnection.convertHeader_ends
    present fits (Header.length_toNetwork parts.header)
  rw [Header.ofNetwork_toNetwork] at started ran
  have resized : converted.Grown largest := sound.of_shape shape
  obtain ⟨opened, written, expanded, grown, behind, length⟩ :=
    expandPacket_total (packetSize parts.header) resized (packetSize_le small.size) succeeds
  have kept := expandPacket_kept resized expanded holds behind
  have lengths := congrArg List.length started
  rw [List.length_take, Header.length_toHost] at lengths
  refine ⟨converted, opened, written, ran, expanded, grown, behind, ?_, ?_⟩
  · rw [length, ← small.payload_eq, ← packetSize_of_lt (small.size.trans_lt (by decide))]
    exact (Nat.le_max_right _ _).trans (le_roundUp _)
  · have leading : written.take sizeofPacket = (written.take start.length).take sizeofPacket := by
      rw [List.take_take, Nat.min_eq_left (by omega)]
    rw [leading, kept, started]

/-- A payload behind its header is stored and parsed in place. -/
theorem payload_ends {buf : PacketBuf} {block : Block} (present : buf.p = some block) (started : block.take sizeofPacket = parts.header.toHost)
    (room : sizeofPacket + parts.payload.length ≤ block.length) :
    ∃ stored, stored.shape = buf.shape ∧ Carries parts.header parts.payload stored ∧
      store sizeofPacket parts.payload buf = (stored, .ok ()) ∧
      RpcServerConnection.readFields stored = (stored, .ok parts.header) := by
  obtain ⟨stored, shape, carries, ran⟩ :=
    storePayload_ends parts.payload.length parts.payload present started room
  rw [if_pos rfl] at ran
  refine ⟨stored, shape, carries, (storePayload_eq_ok ran).2, ?_⟩
  rw [RpcServerConnection.readFields, bind_of_ok _ carries.readHeader, Header.ofHost_toHost]
  rfl

theorem asyncClient_step {endpoint : Endpoint} {heaps : Realloc × Realloc} (small : parts.Small)
    (succeeds : heaps.1.Succeeds ∧ heaps.2.Succeeds)
    (sound : ∃ largest, endpoint.buf.Grown largest)
    (arrives : endpoint.incoming.flatten = parts.packet ++ rest) :
    ∃ next, asyncClient heaps endpoint = (next, .ok (heard parts)) ∧
      (∃ largest, next.buf.Grown largest) ∧ next.incoming.flatten = rest := by
  rw [Parts.packet_eq, List.append_assoc] at arrives
  obtain ⟨largest, sound⟩ := sound
  obtain ⟨ready, block, expanded, grown, present, fits⟩ := startRead_ends sound succeeds.1
  have starting : AsyncClient.startRead heaps.1 endpoint.buf = (ready, .ok ()) := by
    simp only [AsyncClient.startRead, grow, expanded, if_true]
  obtain ⟨first, left, readHeader⟩ := asyncRead_of_flatten { endpoint with buf := ready } arrives
  obtain ⟨converted, opened, written, converting, growing, kept, behind, room, started⟩ :=
    convert_ends small grown present fits succeeds.2
  have opening : AsyncClient.openPayload heaps.2 parts.header.toNetwork ready =
      (opened, .ok parts.payload.length) := by
    have grew : (grow fun buf => expandPacket heaps.2 buf (clientSize parts.header)) converted =
        (opened, .ok ()) := by
      rw [clientSize_eq]
      simp only [grow, growing, if_true]
    have whole : AsyncClient.openPayload heaps.2 parts.header.toNetwork =
        (do store 0 parts.header.toNetwork; RpcServerConnection.convertHeader) >>= fun header =>
          (do
            grow fun buf => expandPacket heaps.2 buf (clientSize header)
            pure (lengthSum header).toNat) := (bind_assoc _ _ _).symm
    rw [whole, bind_of_ok _ converting, bind_of_ok _ grew, small.sum]
    rfl
  obtain ⟨stored, shape, carries, storing, fields⟩ := payload_ends behind started room
  obtain ⟨second, last, readPayload⟩ :=
    asyncRead_of_flatten { endpoint with buf := opened, incoming := first } left
  have parsed := ranges_eq ⟨stored, second, endpoint.sent⟩ small carries
    (respLen_covered parts.header) small.slice_resp
  have parsing : onBuffer RpcServerConnection.readFields ⟨stored, second, endpoint.sent⟩ =
      (⟨stored, second, endpoint.sent⟩, .ok parts.header) := onBuffer_eq fields
  have header : onBuffer (AsyncClient.openPayload heaps.2 parts.header.toNetwork)
      { endpoint with buf := ready, incoming := first } =
      ({ endpoint with buf := opened, incoming := first }, .ok parts.payload.length) :=
    onBuffer_eq opening
  have payload : onBuffer (store sizeofPacket parts.payload)
      { endpoint with buf := opened, incoming := second } =
      (⟨stored, second, endpoint.sent⟩, .ok ()) := onBuffer_eq storing
  rw [Header.length_toNetwork] at readHeader
  refine ⟨⟨stored, second, endpoint.sent⟩, ?_, ⟨_, kept.of_shape shape⟩, last⟩
  rw [asyncClient, bind_of_ok _ (onBuffer_eq starting), bind_of_ok _ readHeader,
    bind_of_ok _ header, bind_of_ok _ readPayload, bind_of_ok _ payload, bind_of_ok _ parsing]
  exact parsed

theorem expand_of_expanded {heap : Realloc} {n : UInt32} {conn : RpcServerConnection}
    {grown : PacketBuf} (expanded : expandPacket heap conn.buf n = some (grown, true)) :
    RpcServerConnection.expand heap n conn =
      ({ conn with buf := grown, largest := max conn.largest n }, .ok ()) := by
  simp only [RpcServerConnection.expand, RpcServerConnection.onBuffer, zoom, grow, expanded,
    if_true]

theorem onConn_eq {Value : Type} {handler : Server.Async.Handler Value} {link : Link}
    {conn : RpcServerConnection} {result : Except Fault Value}
    (ended : handler link.conn = (conn, result)) :
    onConn handler link = ({ link with conn }, result) := by
  simp only [onConn, zoom, ended]

theorem linkRead_of_flatten {bytes : List UInt8} (link : Link)
    (arrives : link.incoming.flatten = bytes ++ rest) :
    ∃ incoming, incoming.flatten = rest ∧
      linkRead bytes.length link = ({ link with incoming }, .ok bytes) := by
  obtain ⟨taken, left⟩ := readN_of_flatten arrives
  refine ⟨(readN bytes.length link.incoming).2, left, ?_⟩
  simp only [linkRead, taken, if_true]

/-- The buffer of a connection was grown for packets up to its largest. -/
def Link.Grown (link : Link) : Prop := link.conn.buf.Grown link.conn.largest.toNat

/-- The length fields of a packet were read, and there is room for its payload. -/
structure Opened (parts : Parts) (before after : RpcServerConnection) : Prop where
  sound : after.Sized
  ready : after.Ready
  n : after.n = packetSize parts.header
  largest : after.largest =
    max (max before.largest (.ofNat sizeofPacket)) (packetSize parts.header)
  server : after.server = before.server
  content : ∃ block, after.buf.p = some block ∧ block.take sizeofPacket = parts.header.toHost ∧
    sizeofPacket + parts.payload.length ≤ block.length

theorem asyncReceive_ends {link : Link} {heaps : Realloc × Realloc} (small : parts.Small)
    (succeeds : heaps.1.Succeeds ∧ heaps.2.Succeeds) (sound : link.Grown)
    (arrives : link.incoming.flatten = parts.packet ++ rest) :
    ∃ next, asyncReceive heaps link = (next, .ok (parts.payload.length, parts.payload)) ∧
      Opened parts link.conn next.conn ∧ next.incoming.flatten = rest := by
  rw [Parts.packet_eq, List.append_assoc] at arrives
  obtain ⟨ready, block, expanded, grown, present, fits⟩ := startRead_ends sound succeeds.1
  obtain ⟨converted, opened, written, converting, growing, kept, behind, room, started⟩ :=
    convert_ends small grown present fits succeeds.2
  let conn : RpcServerConnection :=
    { link.conn with buf := ready, largest := max link.conn.largest (.ofNat sizeofPacket) }
  have serving : RpcServerConnection.serve heaps.1 link.conn = (conn, .ok .readHeader) := by
    rw [RpcServerConnection.serve, bind_of_ok _ (expand_of_expanded expanded)]
    rfl
  obtain ⟨first, left, readHeader⟩ := linkRead_of_flatten { link with conn } arrives
  rw [Header.length_toNetwork] at readHeader
  let after : RpcServerConnection :=
    { conn with
      buf := opened
      n := packetSize parts.header
      largest := max conn.largest (packetSize parts.header) }
  have opening : RpcServerConnection.openPayload heaps.2 parts.header.toNetwork conn =
      (after, .ok parts.payload.length) := by
    rw [RpcServerConnection.openPayload_eq heaps.2 converting,
      bind_of_ok _ (expand_of_expanded growing), pure_apply,
      payloadSize_of_lt (small.size.trans_lt (by decide)), small.payload_eq]
  obtain ⟨second, last, readPayload⟩ :=
    linkRead_of_flatten { link with conn := after, incoming := first } left
  have sizes : after.largest.toNat =
      max (max link.conn.largest.toNat sizeofPacket) (packetSize parts.header).toNat := by
    simp only [after, conn, RpcServerConnection.toNat_max]
    rfl
  have resized : after.buf.Grown after.largest.toNat := by
    rw [sizes]
    exact kept
  have length : written.length = roundUp after.largest.toNat := by
    rcases resized.size with ⟨-, absent, -⟩ | size
    · cases behind.symm.trans absent
    · rw [resized.exact written behind, size]
  refine ⟨⟨after, second⟩, ?_, ⟨⟨resized, RpcServerConnection.le_max_right _ _⟩,
    ⟨written, behind, ?_, length⟩, rfl, rfl, rfl, ⟨written, behind, started, room⟩⟩, last⟩
  · rw [asyncReceive, bind_of_ok _ (onConn_eq serving), bind_of_ok _ readHeader,
      bind_of_ok _ (onConn_eq opening), bind_of_ok _ readPayload]
    rfl
  · rw [sizes]
    exact (Nat.le_max_right _ _).trans (Nat.le_max_left _ _)

theorem asyncServer_step {link : Link} {heaps : Realloc × Realloc} (small : parts.Small)
    (succeeds : heaps.1.Succeeds ∧ heaps.2.Succeeds) (sound : link.Grown)
    (arrives : link.incoming.flatten = parts.packet ++ rest) :
    ∃ next, asyncServer heaps link = (next, .ok (parts.rpc, parts.req)) ∧ next.Grown ∧
      next.incoming.flatten = rest := by
  obtain ⟨⟨after, second⟩, received, opened, last⟩ :=
    asyncReceive_ends small succeeds sound arrives
  obtain ⟨block, present, started, room⟩ := opened.content
  obtain ⟨stored, shape, carries, storing, fields⟩ := payload_ends present started room
  have storingAll : storePayload parts.payload.length parts.payload after.buf = (stored, .ok ()) := by
    rw [storePayload, bind_of_ok _ storing, decide_eq_true rfl, ensure_true]
  let final : RpcServerConnection := { after with buf := stored }
  have onFinal {Value : Type} {handling : Handling Value} {value : Value}
      (ran : handling stored = (stored, .ok value)) :
      onConn (RpcServerConnection.onBuffer handling) ⟨final, second⟩ =
        (⟨final, second⟩, .ok value) := onConn_eq (RpcServerConnection.onBuffer_eq ran)
  have payload : onConn (RpcServerConnection.onBuffer
      (storePayload parts.payload.length parts.payload)) ⟨after, second⟩ =
      (⟨final, second⟩, .ok ()) := onConn_eq (RpcServerConnection.onBuffer_eq storingAll)
  have covered := reqLen_covered parts.header
  rw [small.payload_eq] at covered
  have metadata := carries.parseRange 0 parts.header.rpcLen (by omega)
  have parameter := carries.parseRange _ parts.header.reqLen covered
  rw [small.slice_rpc] at metadata
  rw [small.slice_req] at parameter
  have whole : asyncServer heaps = (do
      let received ← asyncReceive heaps
      onConn (RpcServerConnection.onBuffer (storePayload received.1 received.2))
      let header ← onConn (RpcServerConnection.onBuffer RpcServerConnection.readFields)
      let metadata ← onConn (RpcServerConnection.onBuffer (parseRange 0 header.rpcLen))
      let parameter ←
        onConn (RpcServerConnection.onBuffer (parseRange header.rpcLen.toNat header.reqLen))
      pure (metadata, parameter)) := by
    simp only [asyncServer, asyncReceive, bind_assoc, pure_bind]
  refine ⟨⟨final, second⟩, ?_, opened.sound.grown.of_shape shape, last⟩
  rw [whole, bind_of_ok _ received]
  dsimp only
  rw [bind_of_ok _ payload, bind_of_ok _ (onFinal fields), bind_of_ok _ (onFinal metadata),
    bind_of_ok _ (onFinal parameter)]
  rfl

end Steps

theorem expands_exact {heap : Realloc} (succeeds : heap.Succeeds) :
    FindsRoom PacketBuf.Exact fun size buf =>
      some (Server.Simple.expandConnectionPacket heap size buf) := by
  intro n buf exact _
  obtain ⟨grown, block, expanded, present, room⟩ :=
    Server.Simple.expandConnectionPacket_succeeds n succeeds exact
  have kept : (Server.Simple.expandConnectionPacket heap n buf).1.Exact :=
    Server.Simple.expandConnectionPacket_exact exact
  rw [expanded] at kept
  exact ⟨grown, block, congrArg some expanded, kept, present, room⟩

theorem expands_grown {heap : Realloc} (succeeds : heap.Succeeds) :
    FindsRoom Server.Threaded.Expanded fun size buf => expandPacket heap buf size := by
  intro n buf sound bound
  obtain ⟨largest, sound⟩ := sound
  obtain ⟨grown, block, expanded, kept, present, length⟩ :=
    expandPacket_total n sound bound succeeds
  refine ⟨grown, block, expanded, ⟨_, kept⟩, present, ?_⟩
  rw [length]
  exact (Nat.le_max_right _ _).trans (le_roundUp _)

/-- What a server is to find of a packet, and what a client is to find. -/
def request (parts : Parts) : Parsed := (parts.rpc, parts.req)

def response (parts : Parts) : Parsed := (parts.rpc, parts.resp)

theorem heard_eq_iff {packets : List Parts} :
    packets.map heard = packets.map response ↔
      ∀ parts ∈ packets, (parts.req ++ parts.resp).take parts.resp.length = parts.resp := by
  rw [List.map_inj_left]
  apply forall₂_congr
  intro parts member
  simp only [heard, response, Prod.mk.injEq, true_and]

/-- For every stream of packets that arrives in any portions, and every number of bytes
behind it: the loops of the servers yield the metadata and the request parameter of each
packet, and take exactly the packets. The loops of the clients take exactly the packets,
and yield the response parameters exactly when none of them is hidden by a request
parameter. -/
theorem streams_round_trip (packets : List Parts) (small : ∀ parts ∈ packets, parts.Small)
    (rest : List UInt8) :
    (∀ heaps (endpoint : Endpoint), heaps.length = packets.length →
      (∀ heap ∈ heaps, heap.Succeeds) → endpoint.buf.Exact →
      endpoint.incoming.flatten = (packets.map Parts.packet).flatten ++ rest →
      Yields Endpoint.incoming simpleServer heaps endpoint (packets.map request) rest) ∧
    (∀ heaps (endpoint : Endpoint), heaps.length = packets.length →
      (∀ heap ∈ heaps, heap.Succeeds) → Server.Threaded.Expanded endpoint.buf →
      endpoint.incoming.flatten = (packets.map Parts.packet).flatten ++ rest →
      Yields Endpoint.incoming threadedServer heaps endpoint (packets.map request) rest) ∧
    (∀ heaps (link : Link), heaps.length = packets.length →
      (∀ heap ∈ heaps, heap.1.Succeeds ∧ heap.2.Succeeds) → link.Grown →
      link.incoming.flatten = (packets.map Parts.packet).flatten ++ rest →
      Yields Link.incoming asyncServer heaps link (packets.map request) rest) ∧
    (∀ turns (endpoint : Endpoint), turns.length = packets.length →
      (∀ turn ∈ turns, turn.1.Succeeds ∧ sizeofPacket ≤ turn.2.length) →
      endpoint.incoming.flatten = (packets.map Parts.packet).flatten ++ rest →
      (∃ values, Yields Endpoint.incoming blockingClient turns endpoint values rest) ∧
      (Yields Endpoint.incoming blockingClient turns endpoint (packets.map response) rest ↔
        ∀ parts ∈ packets, (parts.req ++ parts.resp).take parts.resp.length = parts.resp)) ∧
    ∀ heaps (endpoint : Endpoint), heaps.length = packets.length →
      (∀ heap ∈ heaps, heap.1.Succeeds ∧ heap.2.Succeeds) →
      (∃ largest, endpoint.buf.Grown largest) →
      endpoint.incoming.flatten = (packets.map Parts.packet).flatten ++ rest →
      (∃ values, Yields Endpoint.incoming asyncClient heaps endpoint values rest) ∧
      (Yields Endpoint.incoming asyncClient heaps endpoint (packets.map response) rest ↔
        ∀ parts ∈ packets, (parts.req ++ parts.resp).take parts.resp.length = parts.resp) := by
  refine ⟨?_, ?_, ?_, ?_, ?_⟩
  · intro heaps endpoint enough succeed exact arrives
    apply yields_of_step (fun endpoint => endpoint.buf.Exact) _ small enough succeed exact arrives
    intro parts heap endpoint rest small succeeds exact arrives
    exact fields_step Server.shaped_exact (expands_exact succeeds) small exact arrives
  · intro heaps endpoint enough succeed sound arrives
    apply yields_of_step (fun endpoint => Server.Threaded.Expanded endpoint.buf) _ small enough
      succeed sound arrives
    intro parts heap endpoint rest small succeeds sound arrives
    exact fields_step Server.Threaded.shaped_expanded (expands_grown succeeds) small sound arrives
  · intro heaps link enough succeed sound arrives
    apply yields_of_step Link.Grown _ small enough succeed sound arrives
    intro parts heaps link rest small succeeds sound arrives
    exact asyncServer_step small succeeds sound arrives
  · intro turns endpoint enough usable arrives
    have yields : Yields Endpoint.incoming blockingClient turns endpoint (packets.map heard)
        rest := by
      apply yields_of_step (fun _ => True) _ small enough usable trivial arrives
      intro parts turn endpoint rest small turned _ arrives
      obtain ⟨next, ran, left⟩ := blockingClient_step small turned.1 turned.2 arrives
      exact ⟨next, ran, trivial, left⟩
    exact ⟨⟨_, yields⟩, yields.values_iff.trans heard_eq_iff⟩
  · intro heaps endpoint enough succeed sound arrives
    have yields : Yields Endpoint.incoming asyncClient heaps endpoint (packets.map heard)
        rest := by
      apply yields_of_step (fun endpoint => ∃ largest, endpoint.buf.Grown largest) _ small enough
        succeed sound arrives
      intro parts heaps endpoint rest small succeeds sound arrives
      exact asyncClient_step small succeeds sound arrives
    exact ⟨⟨_, yields⟩, yields.values_iff.trans heard_eq_iff⟩

/-- Two packets that arrive in three portions, the first of which ends inside a header. -/
theorem streams_round_trip_two :
    Yields Endpoint.incoming simpleServer [.zeroed, .zeroed]
        { incoming := [[0, 0, 0, 1, 0], [0, 0, 1, 0, 0, 0, 0, 5, 6], Parts.packet ⟨[7], [], [8]⟩] }
        [([5], [6]), ([7], [])] [] ∧
      Yields Endpoint.incoming asyncClient [(.zeroed, .zeroed), (.zeroed, .zeroed)]
        { incoming := [[0, 0, 0, 1, 0], [0, 0, 0, 0, 0, 0, 1, 5, 6], Parts.packet ⟨[7], [], [8]⟩] }
        [([5], [6]), ([7], [8])] [] := by
  have succeed : ∀ heaps ∈ [(Realloc.zeroed, Realloc.zeroed), (Realloc.zeroed, Realloc.zeroed)],
      heaps.1.Succeeds ∧ heaps.2.Succeeds := by
    intro heaps member
    simp only [List.mem_cons, List.not_mem_nil, or_false, or_self] at member
    rw [member]
    exact ⟨Realloc.zeroed_succeeds, Realloc.zeroed_succeeds⟩
  constructor
  · apply (streams_round_trip [⟨[5], [6], []⟩, ⟨[7], [], [8]⟩] (by decide) []).1
    · rfl
    · intro heap member
      simp only [List.mem_cons, List.not_mem_nil, or_false, or_self] at member
      rw [member]
      exact Realloc.zeroed_succeeds
    · exact nofun
    · decide
  · have ends := (streams_round_trip [⟨[5], [], [6]⟩, ⟨[7], [], [8]⟩] (by decide) []).2.2.2.2
      [(.zeroed, .zeroed), (.zeroed, .zeroed)]
      { incoming := [[0, 0, 0, 1, 0], [0, 0, 0, 0, 0, 0, 1, 5, 6], Parts.packet ⟨[7], [], [8]⟩] }
      rfl succeed ⟨0, .initial⟩ (by decide)
    exact ends.2.mpr (by decide)

/-- A packet with a request parameter: both clients take it for the response parameter. -/
theorem response_hidden :
    ¬ Yields Endpoint.incoming blockingClient [(.zeroed, List.replicate 12 0)]
        { incoming := [Parts.packet ⟨[1], [2], [3]⟩] } [([1], [3])] [] ∧
      ¬ Yields Endpoint.incoming asyncClient [(.zeroed, .zeroed)]
        { incoming := [Parts.packet ⟨[1], [2], [3]⟩] } [([1], [3])] [] := by
  constructor
  · intro yields
    obtain ⟨next, ran, -⟩ := yields
    have heard : (each blockingClient [(.zeroed, List.replicate 12 0)]
        { incoming := [Parts.packet ⟨[1], [2], [3]⟩] }).2 = .ok [([1], [2])] := by
      decide
    rw [ran] at heard
    exact absurd (Except.ok.inj heard) (by decide)
  · intro yields
    obtain ⟨next, ran, -⟩ := yields
    have heard : (each asyncClient [(.zeroed, .zeroed)]
        { incoming := [Parts.packet ⟨[1], [2], [3]⟩] }).2 = .ok [([1], [2])] := by
      decide
    rw [ran] at heard
    exact absurd (Except.ok.inj heard) (by decide)

end CarrotRpc.Protocol.Streams
