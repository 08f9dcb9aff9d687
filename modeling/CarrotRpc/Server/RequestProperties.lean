import CarrotRpc.Common.HandlingProperties
import CarrotRpc.Server.Requests

/-! What receiving, dispatching and answering do to the packet buffer. -/

set_option autoImplicit false

namespace CarrotRpc.Server

open Library Library.Faulting Common Protob

/-- A property of buffers that depends on their sizes only. -/
def Shaped (Inv : PacketBuf → Prop) : Prop :=
  ∀ buf other, other.shape = buf.shape → Inv buf → Inv other

theorem shaped_exact : Shaped PacketBuf.Exact :=
  fun _ _ same exact => exact.of_shape same

theorem shaped_grown (largest : Nat) : Shaped (PacketBuf.Grown largest) :=
  fun _ _ same grown => grown.of_shape same

theorem Shaped.keeps {Inv : PacketBuf → Prop} {Value : Type} {handling : Handling Value}
    (shaped : Shaped Inv)
    (keeps : ∀ shape, Keeps (fun buf => buf.shape = shape) handling) : Keeps Inv handling :=
  .of_state fun buf holds => shaped buf _ ((keeps buf.shape).state rfl) holds

theorem keeps_onBuffer {Inv : PacketBuf → Prop} {Value : Type} {handling : Handling Value}
    (keeps : Keeps Inv handling) : Keeps (fun endpoint => Inv endpoint.buf) (onBuffer handling) :=
  .zoom (fun _ holds => holds) (fun _ _ _ holds => holds) keeps

/-- Receiving leaves the buffer alone until the header is there. -/
theorem keeps_recvField {Inv : Endpoint → Prop}
    (kept : ∀ endpoint incoming, Inv endpoint → Inv { endpoint with incoming }) :
    Keeps Inv recvField := by
  refine Keeps.bind (.of_state fun endpoint holds => kept endpoint _ holds) fun bytes => ?_
  exact Keeps.ensure.bind fun _ => .pure

theorem keeps_recvHeader {Inv : Endpoint → Prop}
    (kept : ∀ endpoint incoming, Inv endpoint → Inv { endpoint with incoming }) :
    Keeps Inv recvHeader := by
  refine (keeps_recvField kept).bind fun rpcLen => ?_
  refine (keeps_recvField kept).bind fun reqLen => ?_
  exact (keeps_recvField kept).bind fun respLen => .pure

section Keeping

variable {Inv : PacketBuf → Prop}

theorem keeps_openPayload {expand : PacketBuf → Option (PacketBuf × Bool)} {header : Header}
    (shaped : Shaped Inv) (grows : Keeps Inv (grow expand)) :
    Keeps Inv (openPayload expand header) :=
  grows.bind fun _ => (shaped.keeps fun _ => keepsShape_store).bind fun _ => .pure

theorem keeps_storePayload {size : Nat} {bytes : List UInt8} (shaped : Shaped Inv) :
    Keeps Inv (storePayload size bytes) :=
  shaped.keeps fun _ => keepsShape_storePayload

theorem keeps_receivePacket {expand : UInt32 → PacketBuf → Option (PacketBuf × Bool)}
    (shaped : Shaped Inv) (grows : ∀ size, Keeps Inv (grow (expand size))) :
    Keeps (fun endpoint => Inv endpoint.buf) (receivePacket expand) := by
  refine (keeps_recvHeader fun _ _ holds => holds).bind fun header => ?_
  refine (keeps_onBuffer (keeps_openPayload shaped (grows _))).bind fun size => ?_
  refine (Keeps.of_state fun _ holds => holds).bind fun bytes => ?_
  exact (keeps_onBuffer (keeps_storePayload shaped)).bind fun _ => .pure

theorem keepsShape_fillPacket {delivery : Delivery} {sent : Nat} {rpc resp : List UInt8}
    {shape : UInt32 × Option Nat} :
    Keeps (fun buf => buf.shape = shape) (fillPacket delivery sent rpc resp) := by
  refine keepsShape_store.bind fun _ => ?_
  refine Keeps.ensure.bind fun _ => ?_
  refine keepsShape_store.bind fun _ => ?_
  refine Keeps.ensure.bind fun _ => ?_
  exact keepsShape_store.bind fun _ => keepsShape_load

theorem keeps_preparePacket {delivery : Delivery}
    {expand : PacketBuf → Option (PacketBuf × Bool)} {sent : Nat} {rpc : List UInt8}
    {resp : Option (List UInt8)} (shaped : Shaped Inv) (grows : Keeps Inv (grow expand)) :
    Keeps Inv (preparePacket delivery expand sent rpc resp) := by
  cases resp with
  | none => exact .fail
  | some resp => exact grows.bind fun _ => shaped.keeps fun _ => keepsShape_fillPacket

theorem keeps_callTarget {Msg : Type} {dialect : Dialect}
    {perform : Method Msg → Msg → Outcome Msg} {rpcReq : Request} {method : Method Msg}
    {request : Msg} : Keeps Inv (callTarget dialect perform rpcReq method request) := by
  unfold callTarget
  split
  · exact .fail
  · exact .pure

theorem keeps_parseRange {offset : Nat} {length : UInt32} : Keeps Inv (parseRange offset length) :=
  .of_state fun buf holds => by rw [parseRange_fst]; exact holds

theorem keeps_dispatch {Msg : Type} [Protobuf] {dialect : Dialect}
    {find : String → Handling (Except String (Method Msg))}
    {perform : Method Msg → Msg → Outcome Msg} {header : Header}
    (finds : ∀ identity, Keeps Inv (find identity)) :
    Keeps Inv (dispatch dialect find perform header) := by
  refine keeps_parseRange.bind fun metadata => ?_
  split
  · exact .fail
  · refine (finds _).bind fun target => ?_
    split
    · exact .pure
    · refine keeps_parseRange.bind fun parameter => ?_
      split
      · exact .fail
      · exact keeps_callTarget

theorem keeps_lookUp {Msg : Type} {services : Services Msg} {identity : String} :
    Keeps Inv (lookUp services identity) := .pure

end Keeping

/-- Memory is asked only for the packets themselves. -/
theorem raises_dispatch {Msg : Type} [Protobuf] {dialect : Dialect}
    {find : String → Handling (Except String (Method Msg))}
    {perform : Method Msg → Msg → Outcome Msg} {header : Header}
    (finds : ∀ identity, RaisesOnly (· ≠ .noMemory) (find identity)) :
    RaisesOnly (· ≠ .noMemory) (dispatch dialect find perform header) := by
  have parses : ∀ offset length,
      RaisesOnly (· ≠ .noMemory) (parseRange offset length) := by
    intro offset length
    apply raises_parseRange
    rintro ⟨⟩
  refine (parses _ _).bind fun metadata => ?_
  split
  · apply RaisesOnly.fail
    rintro ⟨⟩
  · refine (finds _).bind fun target => ?_
    split
    · exact .pure
    · refine (parses _ _).bind fun parameter => ?_
      split
      · apply RaisesOnly.fail
        rintro ⟨⟩
      · next request _ =>
          unfold callTarget
          split
          · next fault settled =>
              apply RaisesOnly.fail
              intro refused
              subst refused
              simp only [Dialect.settle] at settled
              split at settled
              · cases settled
              · cases settled
              · split at settled <;> cases settled
          · exact .pure

/-- The size of a response packet. -/
def responseSize [Protobuf] (rpcResp : Response) (resp : List UInt8) : Nat :=
  sizeofPacket + (Protobuf.response.serialize rpcResp).length + resp.length

/-- The work stayed inside the block, and the block it used has room for `total` bytes. -/
def Fits {Value : Type} (total : Nat) (result : PacketBuf × Except Fault Value) : Prop :=
  result.2 ≠ .error .overruns ∧ ∀ block, result.1.p = some block → total ≤ block.length

section Filling

variable {delivery : Delivery} {rpc resp : List UInt8} {buf : PacketBuf} {block : Block}

/-- In a block that is large enough the packet is laid out from its start. -/
theorem fillPacket_ends (present : buf.p = some block)
    (room : sizeofPacket + rpc.length + resp.length ≤ block.length) :
    (fillPacket delivery (sizeofPacket + rpc.length + resp.length) rpc resp buf).2 =
      if !delivery.serializesMetadata then .error .metadataUnserialized
      else if !delivery.serializesResponse then .error .responseUnserialized
      else .ok (layout rpc [] resp) := by
  have headerLength : (Header.toNetwork ⟨.ofNat rpc.length, 0, .ofNat resp.length⟩).length =
      sizeofPacket := rfl
  obtain ⟨first, headerGiven, firstLength, headerStored⟩ := store_eq buf 0
    (Header.toNetwork ⟨.ofNat rpc.length, 0, .ofNat resp.length⟩) present (by omega)
  obtain ⟨second, rpcGiven, secondLength, rpcStored⟩ := store_eq
    { buf with p := some first } sizeofPacket rpc rfl (by omega)
  obtain ⟨third, respGiven, thirdLength, respStored⟩ := store_eq
    { buf with p := some second } (sizeofPacket + rpc.length) resp rfl (by omega)
  rw [fillPacket, bind_of_ok _ headerStored]
  cases metadata : delivery.serializesMetadata with
  | false => rfl
  | true =>
      rw [bind_of_ok _ (ensure_true _ _), bind_of_ok _ rpcStored]
      cases response : delivery.serializesResponse with
      | false => rfl
      | true =>
          rw [bind_of_ok _ (ensure_true _ _), bind_of_ok _ respStored,
            load_eq { buf with p := some third } _ _ rfl (by omega)]
          have headerTaken := Block.take_write headerGiven
          have rpcTaken := Block.take_write rpcGiven
          have respTaken := Block.take_write respGiven
          rw [headerLength, Nat.zero_add, List.take_zero, List.nil_append] at headerTaken
          rw [headerTaken] at rpcTaken
          rw [rpcTaken] at respTaken
          simp only [List.drop_zero, respTaken, layout, List.append_nil]
          rfl

theorem openPayload_eq_ok {heap : Realloc} {n : UInt32} {header : Header} {next : PacketBuf}
    {size : Nat}
    (opened : openPayload (fun buf => expandPacket heap buf n) header buf = (next, .ok size)) :
    ¬ buf.Denied heap n := by
  obtain ⟨_, grown, grew, _⟩ := bind_eq_ok opened
  rw [← grow_noMemory_iff, grew]
  rintro ⟨⟩

theorem openPayload_fatal {heap : Realloc} {n : UInt32} {header : Header} {next : PacketBuf}
    {fault : Fault} (fed : ¬ buf.Denied heap n)
    (opened : openPayload (fun buf => expandPacket heap buf n) header buf =
      (next, .error fault)) : fault.isFatal = true := by
  unfold openPayload at opened
  rcases grew : grow (fun buf => expandPacket heap buf n) buf with ⟨grown, grows | _⟩
  · rw [bind_of_error _ grew] at opened
    cases opened
    cases grow_hangs grew fed
    rfl
  · rw [bind_of_ok _ grew] at opened
    rcases ran : store 0 header.toHost grown with ⟨stored, stores | _⟩
    · rw [bind_of_error _ ran] at opened
      cases opened
      cases store_fault ran
      rfl
    · rw [bind_of_ok _ ran] at opened
      cases opened

/-- A packet goes out only if memory is found for it and both its parts serialize. -/
theorem preparePacket_eq_ok {heap : Realloc} {n : UInt32} {sent : Nat} {next : PacketBuf}
    {resp : Option (List UInt8)} {packet : List UInt8}
    (prepared : preparePacket delivery (fun buf => expandPacket heap buf n) sent rpc resp buf =
      (next, .ok packet)) :
    (∃ parameter, resp = some parameter) ∧ ¬ buf.Denied heap n ∧
      delivery.serializesMetadata = true ∧ delivery.serializesResponse = true := by
  cases resp with
  | none => cases prepared
  | some parameter =>
      obtain ⟨_, grown, grew, filled⟩ := bind_eq_ok prepared
      obtain ⟨_, _, -, filled⟩ := bind_eq_ok filled
      obtain ⟨_, _, metadata, filled⟩ := bind_eq_ok filled
      obtain ⟨_, _, -, filled⟩ := bind_eq_ok filled
      obtain ⟨_, _, response, -⟩ := bind_eq_ok filled
      refine ⟨⟨parameter, rfl⟩, ?_, ?_, ?_⟩
      · rw [← grow_noMemory_iff, grew]
        rintro ⟨⟩
      · cases serializes : delivery.serializesMetadata with
        | true => rfl
        | false =>
            rw [serializes] at metadata
            cases metadata
      · cases serializes : delivery.serializesResponse with
        | true => rfl
        | false =>
            rw [serializes] at response
            cases response

/-- If so, what else can go wrong ends the program. -/
theorem preparePacket_fatal {heap : Realloc} {n : UInt32} {sent : Nat} {next : PacketBuf}
    {fault : Fault} (fed : ¬ buf.Denied heap n) (metadata : delivery.serializesMetadata = true)
    (response : delivery.serializesResponse = true)
    (prepared : preparePacket delivery (fun buf => expandPacket heap buf n) sent rpc (some resp)
      buf = (next, .error fault)) : fault.isFatal = true := by
  let Fatal := fun fault : Fault => fault.isFatal = true
  have stores : ∀ offset bytes, RaisesOnly Fatal (store offset bytes) :=
    fun _ _ => raises_store rfl
  have fills : RaisesOnly Fatal (fillPacket delivery sent rpc resp) := by
    unfold fillPacket
    rw [metadata, response]
    refine (stores _ _).bind fun _ => (RaisesOnly.ensure (by rintro ⟨⟩)).bind fun _ => ?_
    refine (stores _ _).bind fun _ => (RaisesOnly.ensure (by rintro ⟨⟩)).bind fun _ => ?_
    exact (stores _ _).bind fun _ => raises_load rfl
  rcases grew : grow (fun buf => expandPacket heap buf n) buf with ⟨grown, grows | _⟩
  · cases grow_hangs grew fed
    have same := (bind_of_error (fun _ => fillPacket delivery sent rpc resp) grew).symm.trans
      prepared
    cases same
    rfl
  · have same := (bind_of_ok (fun _ => fillPacket delivery sent rpc resp) grew).symm.trans prepared
    exact fills.fault same

theorem preparePacket_noMemory {heap : Realloc} {n : UInt32} {sent : Nat}
    {resp : Option (List UInt8)}
    (refused : (preparePacket delivery (fun buf => expandPacket heap buf n) sent rpc resp buf).2 =
      .error .noMemory) : buf.Denied heap n := by
  cases resp with
  | none => cases refused
  | some resp =>
      rcases grew : grow (fun buf => expandPacket heap buf n) buf with ⟨grown, fault | _⟩
      · rw [preparePacket, bind_of_error _ grew] at refused
        have same : fault = .noMemory := Except.error.inj refused
        rw [← grow_noMemory_iff, grew, same]
      · rw [preparePacket, bind_of_ok _ grew] at refused
        have stores : ∀ offset bytes, RaisesOnly (· ≠ .noMemory) (store offset bytes) := by
          intro offset bytes
          apply raises_store
          rintro ⟨⟩
        have fills : RaisesOnly (· ≠ .noMemory) (fillPacket delivery sent rpc resp) := by
          refine (stores _ _).bind fun _ => (RaisesOnly.ensure ?_).bind fun _ => ?_
          · rintro _ ⟨⟩
          refine (stores _ _).bind fun _ => (RaisesOnly.ensure ?_).bind fun _ => ?_
          · rintro _ ⟨⟩
          refine (stores _ _).bind fun _ => raises_load ?_
          rintro ⟨⟩
        exact absurd rfl (fills.fault (apply_eq refused))

end Filling

section Understanding

variable {Msg : Type} [Protobuf]

/-- A packet in the buffer whose metadata parses to `rpcReq`. -/
def Asks (header : Header) (rpcReq : Request) (buf : PacketBuf) : Prop :=
  ∃ metadata, parseRange 0 header.rpcLen buf = (buf, .ok metadata) ∧
    Protobuf.request.parse metadata = some rpcReq

/-- The request in the buffer parses, its method is found, and so its parameter parses. -/
structure Understood (services : Services Msg) (header : Header) (buf : PacketBuf)
    (rpcReq : Request) (method : Method Msg) (request : Msg) : Prop where
  asks : Asks header rpcReq buf
  target : findTarget services rpcReq.getMethodIdentity = .ok method
  parameter : ∃ bytes, parseRange header.rpcLen.toNat header.reqLen buf = (buf, .ok bytes) ∧
    method.request.parse bytes = some request

variable {services : Services Msg} {dialect : Dialect} {perform : Method Msg → Msg → Outcome Msg}
  {header : Header} {buf next : PacketBuf} {rpcReq : Request} {method : Method Msg} {request : Msg}

theorem Understood.dispatch (understood : Understood services header buf rpcReq method request) :
    dispatch dialect (lookUp services) perform header buf =
      callTarget dialect perform rpcReq method request buf := by
  obtain ⟨asks, target, parameter⟩ := understood
  obtain ⟨metadata, ranged, parsed⟩ := asks
  obtain ⟨bytes, found, read⟩ := parameter
  have looked : lookUp services rpcReq.getMethodIdentity buf = (buf, .ok (.ok method)) := by
    rw [lookUp, target, pure_apply]
  rw [Server.dispatch, bind_of_ok _ ranged]
  simp only [parsed]
  rw [bind_of_ok _ looked]
  simp only
  rw [bind_of_ok _ found]
  simp only [read]

/-- A response with a parameter is that of a method that was called. -/
theorem understood_of_dispatch {rpcResp : Response} {resp : List UInt8}
    (dispatched : dispatch dialect (lookUp services) perform header buf =
      (next, .ok (rpcResp, some resp))) :
    next = buf ∧ ∃ rpcReq method request controller response,
      Understood services header buf rpcReq method request ∧
      dialect.settle (perform method request) = .ok (controller, response) ∧
      rpcResp = dialect.stamp rpcReq (dialect.verdict controller) ∧
      resp = method.response.serialize response := by
  unfold Server.dispatch at dispatched
  obtain ⟨metadata, after, ranged, answered⟩ := bind_eq_ok dispatched
  cases parseRange_eq_ok ranged
  cases parsed : Protobuf.request.parse metadata with
  | none =>
      rw [parsed] at answered
      cases answered
  | some rpcReq =>
      rw [parsed] at answered
      obtain ⟨target, _, looked, called⟩ := bind_eq_ok answered
      cases looked
      cases selected : findTarget services rpcReq.getMethodIdentity with
      | error text =>
          rw [selected] at called
          cases called
      | ok method =>
          rw [selected] at called
          obtain ⟨bytes, later, found, ended⟩ := bind_eq_ok called
          cases parseRange_eq_ok found
          cases read : method.request.parse bytes with
          | none =>
              rw [read] at ended
              cases ended
          | some request =>
              rw [read] at ended
              simp only [callTarget] at ended
              cases settled : dialect.settle (perform method request) with
              | error fault =>
                  rw [settled] at ended
                  cases ended
              | ok pair =>
                  obtain ⟨controller, response⟩ := pair
                  rw [settled] at ended
                  cases ended
                  exact ⟨rfl, rpcReq, method, request, controller, response,
                    ⟨⟨metadata, ranged, parsed⟩, selected, bytes, found, read⟩, settled, rfl, rfl⟩

end Understanding

end CarrotRpc.Server
