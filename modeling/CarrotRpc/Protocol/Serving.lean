import CarrotRpc.Protocol.Naming
import CarrotRpc.Protocol.Streams

/-! What each server makes of a request that arrives in any portions, when memory is found
and the network does not fail. -/

set_option autoImplicit false

namespace CarrotRpc.Protocol.Serving

open Library Library.Faulting Common Protob
open Server Naming
open Server.Async (RpcServerConnection)
open Streams (Link onConn linkRead)

/-- A response and the packet it was written as. -/
structure Reply where
  rpcResp : Response
  resp : List UInt8
  packet : List UInt8
  deriving DecidableEq

section Serving

variable {Msg : Type} [Protobuf]

/-- What the servers do with a payload that has arrived, and the response this leads to. -/
def replyOf (kind : ServerKind) (services : Services Msg) (turn : Turn Msg) (header : Header) :
    Handling Reply := do
  let (rpcResp, resp) ← dispatchOf kind services turn.perform header
  let packet ← prepareOf kind turn.delivery rpcResp resp
  pure ⟨rpcResp, resp.getD [], packet⟩

def simple (services : Services Msg) (turn : Turn Msg) : Serving Reply := do
  let header ← Simple.receive turn.heap
  let reply ← onBuffer (replyOf .simple services turn header)
  send turn.delivery.accepted reply.packet
  pure reply

def threaded (services : Services Msg) (turn : Turn Msg) : Serving Reply := do
  let header ← Threaded.receive turn.heap
  let reply ← onBuffer (replyOf .threaded services turn header)
  send turn.delivery.accepted reply.packet
  pure reply

def asyncReply (services : Services Msg) (turn : Turn Msg) (size : Nat) (bytes : List UInt8) :
    Server.Async.Handler Reply := fun conn =>
  RpcServerConnection.onBuffer (do
    storePayload size bytes
    let header ← RpcServerConnection.readFields
    replyOf (.async conn.n) services turn header) conn

/-- The handlers of the async server from `serve` to the write of a response; the heap of
`serve` comes first. -/
def async (services : Services Msg) (turn : Realloc × Turn Msg) : Faulting Link Fault Reply := do
  let _ ← onConn (RpcServerConnection.serve turn.1)
  let bytes ← linkRead sizeofPacket
  let size ← onConn (RpcServerConnection.openPayload turn.2.heap bytes)
  let payload ← linkRead size
  onConn (asyncReply services turn.2 size payload)

theorem answerOf_eq_replyOf (kind : ServerKind) (services : Services Msg) (turn : Turn Msg)
    (header : Header) :
    answerOf kind services turn header =
      replyOf kind services turn header >>= fun reply => pure reply.packet := by
  unfold answerOf replyOf
  simp only [bind_assoc, pure_bind, bind_pure]

omit [Protobuf] in
theorem onBuffer_pure {Value : Type} (value : Value) :
    onBuffer (pure value : Handling Value) = pure value := rfl

/-- The functions of the servers, which forget the response. -/
theorem handleClient_eq_simple (services : Services Msg) (turn : Turn Msg) :
    Simple.handleClient services turn = simple services turn >>= fun _ => pure () := by
  rw [handleClient_eq_answerOf, simple]
  simp only [answerOf_eq_replyOf, onBuffer_bind, onBuffer_pure, bind_assoc, pure_bind]
  simp only [bind_pure]

theorem handleRequest_eq_threaded (services : Services Msg) (turn : Turn Msg) :
    Threaded.handleRequest services turn = threaded services turn >>= fun _ => pure () := by
  rw [handleRequest_eq_answerOf, threaded]
  simp only [answerOf_eq_replyOf, onBuffer_bind, onBuffer_pure, bind_assoc, pure_bind]
  simp only [bind_pure]

theorem handleReadPayload_eq_asyncReply (services : Services Msg) (turn : Turn Msg) (size : Nat)
    (bytes : List UInt8) {conn : RpcServerConnection} (alive : conn.server = true) :
    RpcServerConnection.handleReadPayload services turn size bytes conn =
      (asyncReply services turn size bytes >>= fun reply => pure (.write reply.packet)) conn := by
  let answering : Handling Reply := do
    storePayload size bytes
    let header ← RpcServerConnection.readFields
    replyOf (.async conn.n) services turn header
  have started : (asyncReply services turn size bytes >>= fun reply =>
      pure (Server.Async.Operation.write reply.packet)) conn =
        (RpcServerConnection.onBuffer answering >>= fun reply => pure (.write reply.packet)) conn :=
    rfl
  rw [started, RpcServerConnection.handleReadPayload, alive, answerPayload_eq_answerOf]
  simp only [answering, answerOf_eq_replyOf, RpcServerConnection.onBuffer_bind, bind_assoc]
  rfl

end Serving

section Answering

variable {Msg : Type} [Protobuf] {services : Services Msg} {kind : ServerKind} {turn : Turn Msg}
  {parts : Parts} {buf : PacketBuf}

def Reply.of (rpcResp : Response) (resp : List UInt8) : Reply :=
  ⟨rpcResp, resp, layout (Protobuf.response.serialize rpcResp) [] resp⟩

/-- What a packet leads to, as a function of its bytes. -/
def answer (dialect : Dialect) (services : Services Msg)
    (perform : Method Msg → Msg → Outcome Msg) (parts : Parts) : Except Fault Reply :=
  match reply dialect (findTarget services) perform parts.header parts.payload with
  | .error fault => .error fault
  | .ok (_, none) => .error .crashes
  | .ok (rpcResp, some resp) => .ok (.of rpcResp resp)

/-- The environment is kind: memory is found, the messages are serialized, and the response
is no larger than `room` and what the socket takes. -/
structure Kind (dialect : Dialect) (services : Services Msg) (parts : Parts) (room : Nat)
    (turn : Turn Msg) : Prop where
  receives : turn.heap.Succeeds
  responds : turn.delivery.heap.Succeeds
  metadata : turn.delivery.serializesMetadata = true
  response : turn.delivery.serializesResponse = true
  fits : ∀ reply, answer dialect services turn.perform parts = .ok reply →
    reply.packet.length ≤ room
  accepted : ∀ reply, answer dialect services turn.perform parts = .ok reply →
    reply.packet.length ≤ turn.delivery.accepted

/-- How `respond_to_client` makes room for a packet of `n` bytes. -/
def expandOf (kind : ServerKind) (heap : Realloc) (n : Nat) (buf : PacketBuf) :
    Option (PacketBuf × Bool) :=
  match kind with
  | .simple => some (Simple.expandConnectionPacket heap (.ofNat n) buf)
  | .threaded => expandPacket heap buf (.ofNat n)
  | .async size => expandPacket heap buf size

/-- The room `respond_to_client` finds or makes. -/
def Roomy (kind : ServerKind) (room : Nat) (buf : PacketBuf) : Prop :=
  ∀ heap : Realloc, heap.Succeeds → ∀ n ≤ room, ∃ grown block,
    expandOf kind heap n buf = some (grown, true) ∧ grown.p = some block ∧ n ≤ block.length

theorem prepareOf_ends {room : Nat} {delivery : Delivery} {rpcResp : Response}
    {resp : List UInt8} (roomy : Roomy kind room buf) (limit : room ≤ maxSize)
    (succeeds : delivery.heap.Succeeds) (metadata : delivery.serializesMetadata = true)
    (response : delivery.serializesResponse = true) (fits : responseSize rpcResp resp ≤ room) :
    (prepareOf kind delivery rpcResp (some resp) buf).2 =
      .ok (layout (Protobuf.response.serialize rpcResp) [] resp) := by
  obtain ⟨grown, block, expanded, present, enough⟩ := roomy delivery.heap succeeds _ fits
  have size := toNat_ofNat_of_le (fits.trans limit)
  have prepared : prepareOf kind delivery rpcResp (some resp) buf =
      preparePacket delivery (expandOf kind delivery.heap (responseSize rpcResp resp))
        (responseSize rpcResp resp) (Protobuf.response.serialize rpcResp) (some resp) buf := by
    cases kind with
    | simple | async n => rfl
    | threaded =>
        have sized : prepareOf .threaded delivery rpcResp (some resp) buf =
          preparePacket delivery (expandOf .threaded delivery.heap (responseSize rpcResp resp))
            (UInt32.ofNat (responseSize rpcResp resp)).toNat
            (Protobuf.response.serialize rpcResp) (some resp) buf := rfl
        rw [sized, size]
  have grew : grow (expandOf kind delivery.heap (responseSize rpcResp resp)) buf =
      (grown, .ok ()) := by
    simp only [grow, expanded, if_true]
  have filled : (fillPacket delivery (responseSize rpcResp resp)
      (Protobuf.response.serialize rpcResp) resp grown).2 = _ := fillPacket_ends present enough
  rw [metadata, response] at filled
  have filling : preparePacket delivery
      (expandOf kind delivery.heap (responseSize rpcResp resp)) (responseSize rpcResp resp)
      (Protobuf.response.serialize rpcResp) (some resp) buf =
      fillPacket delivery (responseSize rpcResp resp) (Protobuf.response.serialize rpcResp) resp
        grown := bind_of_ok _ grew
  rw [prepared, filling, filled]
  rfl

/-- The lookups of the dispatchers are one function of the identity. -/
theorem dispatchOf_eq (carries : Carries parts.header parts.payload buf) (small : parts.Small) :
    dispatchOf kind services turn.perform parts.header buf =
      (buf, reply (dialectOf kind) (findTarget services) turn.perform parts.header
        parts.payload) := by
  have whole := small.payload_eq.symm
  cases kind with
  | simple | threaded =>
      exact dispatch_eq _ _ carries whole fun identity => lookUp_eq services identity buf
  | async n =>
      apply dispatch_eq _ _ carries whole
      intro identity
      rw [RpcServerConnection.find, if_pos (.inl rfl), pure_apply]

theorem replyOf_ends {room : Nat} (small : parts.Small)
    (carries : Carries parts.header parts.payload buf) (roomy : Roomy kind room buf)
    (limit : room ≤ maxSize) (well : Kind (dialectOf kind) services parts room turn) :
    (replyOf kind services turn parts.header buf).2 =
      answer (dialectOf kind) services turn.perform parts := by
  have dispatched : dispatchOf kind services turn.perform parts.header buf = _ :=
    dispatchOf_eq carries small
  have fits := well.fits
  unfold answer at fits ⊢
  unfold replyOf
  cases replied : reply (dialectOf kind) (findTarget services) turn.perform parts.header
      parts.payload with
  | error fault =>
      rw [replied] at dispatched
      rw [bind_of_error _ dispatched]
  | ok answered =>
      obtain ⟨rpcResp, resp⟩ := answered
      rw [replied] at dispatched fits
      rw [bind_of_ok _ dispatched]
      cases resp with
      | none => cases kind <;> rfl
      | some resp =>
          have room := fits _ rfl
          have size : (Reply.of rpcResp resp).packet.length = responseSize rpcResp resp := by
            rw [Reply.of, length_layout, responseSize, List.length_nil, Nat.add_zero]
          rw [size] at room
          have prepared := apply_eq
            (prepareOf_ends roomy limit well.responds well.metadata well.response room)
          simp only
          rw [bind_of_ok _ prepared]
          rfl

/-- What an async server replies, if it does. -/
theorem answer_of_replyOf {n : UInt32} {next : PacketBuf} {ended : Reply} (small : parts.Small)
    (carries : Carries parts.header parts.payload buf)
    (replied : replyOf (.async n) services turn parts.header buf = (next, .ok ended)) :
    answer Async.dialect services turn.perform parts = .ok ended := by
  obtain ⟨⟨rpcResp, resp⟩, middle, dispatched, replied⟩ := bind_eq_ok replied
  obtain ⟨packet, last, prepared, replied⟩ := bind_eq_ok replied
  cases replied
  rw [dispatchOf_eq carries small] at dispatched
  have answered : reply Async.dialect (findTarget services) turn.perform parts.header
      parts.payload = .ok (rpcResp, resp) := congrArg Prod.snd dispatched
  rw [answer, answered]
  cases resp with
  | none => cases prepared
  | some resp =>
      obtain ⟨_, grown, -, filled⟩ := bind_eq_ok prepared
      obtain ⟨rfl, -⟩ := fillPacket_eq_ok filled
      rfl

end Answering

section Room

theorem roomy_simple {buf : PacketBuf} (exact : buf.Exact) : Roomy .simple maxSize buf := by
  intro heap succeeds n small
  obtain ⟨grown, block, expanded, present, room⟩ :=
    Simple.expandConnectionPacket_succeeds (.ofNat n) succeeds exact
  rw [toNat_ofNat_of_le small] at room
  exact ⟨grown, block, congrArg some expanded, present, room⟩

theorem roomy_threaded {buf : PacketBuf} (holds : Threaded.Expanded buf) :
    Roomy .threaded maxSize buf := by
  intro heap succeeds n small
  have size := toNat_ofNat_of_le small
  obtain ⟨grown, block, expanded, -, present, room⟩ :=
    Streams.expands_grown succeeds (.ofNat n) buf holds (by rw [size]; exact small)
  rw [size] at room
  exact ⟨grown, block, expanded, present, room⟩

theorem ready_of_shape {conn : RpcServerConnection} {buf : PacketBuf} (ready : conn.Ready)
    (shape : buf.shape = conn.buf.shape) : ({ conn with buf } : RpcServerConnection).Ready := by
  obtain ⟨block, present, room, length⟩ := ready
  have lengths := congrArg Prod.snd shape
  rw [PacketBuf.shape, PacketBuf.shape, present, Option.map_some, Option.map_eq_some_iff]
    at lengths
  obtain ⟨other, after, same⟩ := lengths
  exact ⟨other, after, room, same.trans length⟩

theorem roomy_async {conn : RpcServerConnection} (sound : conn.Sized) (ready : conn.Ready) :
    Roomy (.async conn.n) (roundUp conn.largest.toNat) conn.buf := by
  intro heap _ n small
  obtain ⟨block, present, -, length⟩ := ready
  have enough : conn.n ≤ conn.buf.size := by
    rw [UInt32.le_iff_toNat_le, ← sound.grown.exact block present, length]
    exact (UInt32.le_iff_toNat_le.mp sound.bound).trans (le_roundUp _)
  exact ⟨conn.buf, block, expandPacket_of_le present enough, present, length ▸ small⟩

end Room

section Steps

variable {Msg : Type} [Protobuf] {services : Services Msg} {turn : Turn Msg} {parts : Parts}
  {rest : List UInt8}

theorem keeps_dispatchOf {Inv : PacketBuf → Prop} {kind : ServerKind} {header : Header}
    {perform : Method Msg → Msg → Outcome Msg} :
    Keeps Inv (dispatchOf kind services perform header) := by
  cases kind with
  | simple | threaded => exact keeps_dispatch fun _ => keeps_lookUp
  | async n => exact keeps_dispatch fun _ => RpcServerConnection.keeps_find

/-- The servers that read the lengths field by field. -/
theorem fields_serve (kind : ServerKind) {Inv : PacketBuf → Prop}
    {expand : UInt32 → PacketBuf → Option (PacketBuf × Bool)} (shaped : Shaped Inv)
    (expands : Streams.FindsRoom Inv expand) (roomy : ∀ buf, Inv buf → Roomy kind maxSize buf)
    (keeps : ∀ rpcResp resp, Keeps Inv (prepareOf kind turn.delivery rpcResp resp))
    {endpoint : Endpoint} (small : parts.Small) (holds : Inv endpoint.buf)
    (arrives : endpoint.incoming.flatten = parts.packet ++ rest)
    (well : Kind (dialectOf kind) services parts maxSize turn) :
    ∃ next, (do
        let header ← receivePacket expand
        let reply ← onBuffer (replyOf kind services turn header)
        send turn.delivery.accepted reply.packet
        pure reply) endpoint =
        (next, answer (dialectOf kind) services turn.perform parts) ∧ Inv next.buf ∧
      next.incoming.flatten = rest ∧
      ∀ reply, answer (dialectOf kind) services turn.perform parts = .ok reply →
        next.sent = endpoint.sent ++ reply.packet := by
  rw [Parts.packet_eq, List.append_assoc] at arrives
  obtain ⟨behind, left, received⟩ := recvHeader_of_flatten endpoint parts.header arrives
  have size := small.size
  obtain ⟨grown, block, expanded, kept, present, room⟩ :=
    expands (packetSize parts.header) endpoint.buf holds (packetSize_le size)
  obtain ⟨buf, shape, carries, ran⟩ :=
    receivePacket_ends expand received (size.trans_lt (by decide)) expanded present room
  obtain ⟨taken, last⟩ := readN_of_flatten left
  rw [small.payload_eq, taken] at carries ran
  rw [if_pos rfl] at ran
  have sound : Inv buf := shaped grown buf shape kept
  have keepsReply : Keeps Inv (replyOf kind services turn parts.header) :=
    keeps_dispatchOf.bind fun _ => (keeps _ _).bind fun _ => .pure
  have after := keepsReply.state sound
  have replied := apply_eq (replyOf_ends small carries (roomy buf sound) (Nat.le_refl _) well)
  let final : Endpoint :=
    ⟨(replyOf kind services turn parts.header buf).1, (readN parts.payload.length behind).2,
      endpoint.sent⟩
  have replying : onBuffer (replyOf kind services turn parts.header)
      ⟨buf, (readN parts.payload.length behind).2, endpoint.sent⟩ =
      (final, answer (dialectOf kind) services turn.perform parts) := onBuffer_eq replied
  rw [bind_of_ok _ ran]
  cases answered : answer (dialectOf kind) services turn.perform parts with
  | error fault =>
      rw [answered] at replying
      rw [bind_of_error _ replying]
      exact ⟨_, rfl, after, last, nofun⟩
  | ok reply =>
      rw [answered] at replying
      have taken := well.accepted reply answered
      have sent : send turn.delivery.accepted reply.packet final =
          ({ final with sent := endpoint.sent ++ reply.packet }, .ok ()) := by
        simp only [send, List.take_of_length_le taken, if_pos taken, final]
      rw [bind_of_ok _ replying, bind_of_ok _ sent]
      refine ⟨_, rfl, after, last, ?_⟩
      intro other same
      cases same
      rfl

theorem simple_serves {endpoint : Endpoint} (small : parts.Small) (exact : endpoint.buf.Exact)
    (arrives : endpoint.incoming.flatten = parts.packet ++ rest)
    (well : Kind Simple.dialect services parts maxSize turn) :
    ∃ next, simple services turn endpoint =
        (next, answer Simple.dialect services turn.perform parts) ∧ next.buf.Exact ∧
      next.incoming.flatten = rest ∧
      ∀ reply, answer Simple.dialect services turn.perform parts = .ok reply →
        next.sent = endpoint.sent ++ reply.packet :=
  fields_serve .simple shaped_exact (Streams.expands_exact well.receives)
    (fun _ => roomy_simple)
    (fun _ _ => keeps_preparePacket shaped_exact Simple.keeps_grow) small exact arrives well

theorem threaded_serves {endpoint : Endpoint} (small : parts.Small)
    (holds : Threaded.Expanded endpoint.buf)
    (arrives : endpoint.incoming.flatten = parts.packet ++ rest)
    (well : Kind Threaded.dialect services parts maxSize turn) :
    ∃ next, threaded services turn endpoint =
        (next, answer Threaded.dialect services turn.perform parts) ∧
      Threaded.Expanded next.buf ∧ next.incoming.flatten = rest ∧
      ∀ reply, answer Threaded.dialect services turn.perform parts = .ok reply →
        next.sent = endpoint.sent ++ reply.packet :=
  fields_serve .threaded Threaded.shaped_expanded (Streams.expands_grown well.receives)
    (fun _ => roomy_threaded) (fun _ _ => Threaded.keeps_preparePacket) small holds arrives well

theorem async_eq (services : Services Msg) (turn : Realloc × Turn Msg) :
    async services turn = (do
      let (size, payload) ← Streams.asyncReceive (turn.1, turn.2.heap)
      onConn (asyncReply services turn.2 size payload)) := by
  simp only [async, Streams.asyncReceive, bind_assoc, pure_bind]

omit [Protobuf] in
/-- The largest packet of a connection once it has received one. -/
theorem largest_opened {before after : RpcServerConnection} (small : parts.Small)
    (opened : Streams.Opened parts before after) :
    after.largest.toNat = max before.largest.toNat parts.packet.length := by
  have size : (packetSize parts.header).toNat = parts.packet.length := by
    rw [packetSize_of_lt (small.size.trans_lt (by decide)), small.payload_eq, Parts.length_packet]
  have header : sizeofPacket ≤ parts.packet.length := by
    rw [Parts.length_packet]
    exact Nat.le_add_right _ _
  have twelve : (UInt32.ofNat sizeofPacket).toNat = sizeofPacket := rfl
  rw [opened.largest, RpcServerConnection.toNat_max, RpcServerConnection.toNat_max, size, twelve,
    Nat.max_assoc, Nat.max_eq_right header]

/-- What the async server sends is the answer, and its buffer had room for it. -/
theorem async_replies {link : Link} {turn : Realloc × Turn Msg} {ended : Reply}
    (small : parts.Small) (sound : link.Grown) (alive : link.conn.server = true)
    (succeeds : turn.1.Succeeds ∧ turn.2.heap.Succeeds)
    (arrives : link.incoming.flatten = parts.packet ++ rest)
    (served : (async services turn link).2 = .ok ended) :
    answer Async.dialect services turn.2.perform parts = .ok ended ∧
      ended.packet.length ≤ roundUp (max link.conn.largest.toNat parts.packet.length) := by
  have memory : (turn.1, turn.2.heap).1.Succeeds ∧ (turn.1, turn.2.heap).2.Succeeds := succeeds
  obtain ⟨⟨after, second⟩, received, opened, -⟩ :=
    Streams.asyncReceive_ends small memory sound arrives
  rw [async_eq, bind_of_ok _ received] at served
  let final := (asyncReply services turn.2 parts.payload.length parts.payload after).1
  have replied : asyncReply services turn.2 parts.payload.length parts.payload after =
      (final, .ok ended) := apply_eq served
  have wrote : RpcServerConnection.handleReadPayload services turn.2 parts.payload.length
      parts.payload after = (final, .ok (.write ended.packet)) := by
    rw [handleReadPayload_eq_asyncReply _ _ _ _ (opened.server.trans alive),
      bind_of_ok _ replied, pure_apply]
  constructor
  · obtain ⟨block, present, started, room⟩ := opened.content
    obtain ⟨stored, -, carries, storing, fields⟩ := Streams.payload_ends present started room
    have storingAll : storePayload parts.payload.length parts.payload after.buf =
        (stored, .ok ()) := by
      rw [storePayload, bind_of_ok _ storing, decide_eq_true rfl, ensure_true]
    have ran := congrArg Prod.snd replied
    simp only [asyncReply, RpcServerConnection.onBuffer, zoom, bind_of_ok _ storingAll,
      bind_of_ok _ fields] at ran
    exact answer_of_replyOf small carries (apply_eq ran)
  · obtain ⟨-, -, -, -, -, -, room, -⟩ :=
      RpcServerConnection.answers_of_write opened.sound wrote
    have kept : Keeps RpcServerConnection.Sized (RpcServerConnection.handleReadPayload services
        turn.2 parts.payload.length parts.payload) :=
      RpcServerConnection.keepsSound_handleReadPayload
    have sized := kept.state opened.sound
    rw [wrote] at sized
    have largest : final.largest = after.largest := rfl
    rw [← largest_opened small opened, ← largest]
    rcases sized.grown.size with ⟨zero, -, -⟩ | size
    · rw [zero] at room
      exact room.trans (Nat.zero_le _)
    · exact size ▸ room

/-- A turn that ends in a reply leaves the rest of the stream, and the connection in order. -/
theorem async_left {link next : Link} {turn : Realloc × Turn Msg} {ended : Reply}
    (small : parts.Small) (sound : link.Grown) (alive : link.conn.server = true)
    (succeeds : turn.1.Succeeds ∧ turn.2.heap.Succeeds)
    (arrives : link.incoming.flatten = parts.packet ++ rest)
    (served : async services turn link = (next, .ok ended)) :
    next.Grown ∧ next.conn.server = true ∧ next.incoming.flatten = rest := by
  have memory : (turn.1, turn.2.heap).1.Succeeds ∧ (turn.1, turn.2.heap).2.Succeeds := succeeds
  obtain ⟨⟨after, second⟩, received, opened, last⟩ :=
    Streams.asyncReceive_ends small memory sound arrives
  rw [async_eq, bind_of_ok _ received] at served
  let final := (asyncReply services turn.2 parts.payload.length parts.payload after).1
  have ran : (⟨final, second⟩ : Link) = next := congrArg Prod.fst served
  have replied : asyncReply services turn.2 parts.payload.length parts.payload after =
      (final, .ok ended) := apply_eq (congrArg Prod.snd served)
  have wrote : RpcServerConnection.handleReadPayload services turn.2 parts.payload.length
      parts.payload after = (final, .ok (.write ended.packet)) := by
    rw [handleReadPayload_eq_asyncReply _ _ _ _ (opened.server.trans alive),
      bind_of_ok _ replied, pure_apply]
  have kept : Keeps RpcServerConnection.Sized (RpcServerConnection.handleReadPayload services
      turn.2 parts.payload.length parts.payload) :=
    RpcServerConnection.keepsSound_handleReadPayload
  have sized := kept.state opened.sound
  rw [wrote] at sized
  rw [← ran]
  exact ⟨sized.grown, opened.server.trans alive, last⟩

/-- Without the bytes of a header the server waits. -/
theorem async_waits {link : Link} {turn : Realloc × Turn Msg} (sound : link.Grown)
    (succeeds : turn.1.Succeeds) (short : link.incoming.flatten.length < sizeofPacket) :
    (async services turn link).2 = .error .unread := by
  obtain ⟨ready, block, expanded, -, -, -⟩ := Streams.startRead_ends sound succeeds
  let conn : RpcServerConnection :=
    { link.conn with buf := ready, largest := max link.conn.largest (.ofNat sizeofPacket) }
  have serving : RpcServerConnection.serve turn.1 link.conn = (conn, .ok .readHeader) := by
    rw [RpcServerConnection.serve, bind_of_ok _ (Streams.expand_of_expanded expanded)]
    rfl
  have few : (readN sizeofPacket link.incoming).1.length ≠ sizeofPacket := by
    rw [(readN_flatten _ _).1, List.take_of_length_le (Nat.le_of_lt short)]
    exact Nat.ne_of_lt short
  have read : linkRead sizeofPacket { link with conn } =
      ({ link with conn, incoming := (readN sizeofPacket link.incoming).2 }, .error .unread) := by
    simp only [linkRead, if_neg few]
  rw [async, bind_of_ok _ (Streams.onConn_eq serving), bind_of_error _ read]

/-- A response finds room in the packet its request came in, or in a larger one before. -/
theorem async_serves {link : Link} {turn : Realloc × Turn Msg} (small : parts.Small)
    (sound : link.Grown) (alive : link.conn.server = true) (succeeds : turn.1.Succeeds)
    (arrives : link.incoming.flatten = parts.packet ++ rest)
    (well : Kind Async.dialect services parts
      (roundUp (max link.conn.largest.toNat parts.packet.length)) turn.2) :
    ∃ next, async services turn link =
        (next, answer Async.dialect services turn.2.perform parts) ∧ next.Grown ∧
      next.conn.server = true ∧ link.conn.largest ≤ next.conn.largest ∧
      next.incoming.flatten = rest := by
  have memory : (turn.1, turn.2.heap).1.Succeeds ∧ (turn.1, turn.2.heap).2.Succeeds :=
    ⟨succeeds, well.receives⟩
  obtain ⟨⟨after, second⟩, received, opened, last⟩ :=
    Streams.asyncReceive_ends small memory sound arrives
  obtain ⟨block, present, started, room⟩ := opened.content
  obtain ⟨stored, shape, carries, storing, fields⟩ := Streams.payload_ends present started room
  have storingAll : storePayload parts.payload.length parts.payload after.buf = (stored, .ok ()) := by
    rw [storePayload, bind_of_ok _ storing, decide_eq_true rfl, ensure_true]
  let filled : RpcServerConnection := { after with buf := stored }
  have filledSound : filled.Sized :=
    ⟨opened.sound.grown.of_shape shape, opened.sound.bound⟩
  have filledReady : filled.Ready := ready_of_shape opened.ready shape
  have sizes := largest_opened small opened
  rw [← sizes] at well
  have replied := apply_eq (replyOf_ends small carries (roomy_async filledSound filledReady)
    (roundUp_le filledSound.grown.bound) well)
  let final : RpcServerConnection :=
    { filled with buf := (replyOf (.async filled.n) services turn.2 parts.header stored).1 }
  have ran : asyncReply services turn.2 parts.payload.length parts.payload after =
      (final, answer Async.dialect services turn.2.perform parts) := by
    apply RpcServerConnection.onBuffer_eq
    rw [bind_of_ok _ storingAll, bind_of_ok _ fields]
    exact replied
  have kept : Keeps RpcServerConnection.Sized (RpcServerConnection.handleReadPayload services turn.2
      parts.payload.length parts.payload) := RpcServerConnection.keepsSound_handleReadPayload
  have finalSound := kept.state opened.sound
  rw [handleReadPayload_eq_asyncReply _ _ _ _ (opened.server.trans alive), fst_bind_pure, ran]
    at finalSound
  refine ⟨⟨final, second⟩, ?_, finalSound.grown, opened.server.trans alive, ?_, last⟩
  · rw [async_eq, bind_of_ok _ received]
    exact Streams.onConn_eq ran
  · rw [UInt32.le_iff_toNat_le]
    exact (Nat.le_max_left _ _).trans sizes.ge

end Steps

end CarrotRpc.Protocol.Serving
