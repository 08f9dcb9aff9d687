import CarrotRpc.Client.BlockingChannel
import CarrotRpc.Protocol.Termination

/-! The receive path of the async client on its packet buffer, and how the handlers of
`carrot_async_channel.cpp` use it. -/

set_option autoImplicit false

namespace CarrotRpc.Protocol.AsyncClient

open Library Library.Faulting Common Protob
open Server.Async.RpcServerConnection (convertHeader readFields)

/-- `start_read` up to its read. -/
def startRead (heap : Realloc) : Handling Unit :=
  grow fun buf => expandPacket heap buf (.ofNat sizeofPacket)

/-- `handle_read_header` up to the read of the payload: the number of bytes that is then
asked for. The bytes are those the completed read has left in the buffer. -/
def openPayload (heap : Realloc) (bytes : List UInt8) : Handling Nat := do
  store 0 bytes
  let header ← convertHeader
  grow fun buf => expandPacket heap buf (clientSize header)
  pure (lengthSum header).toNat

section Handlers

variable {Msg : Type} [Protobuf] {state : Client.State Msg} {conn : Client.ConnRef}

/-- The handler of a header goes on as the growth of the buffer ends. -/
theorem handleReadHeader_eq (heap : Realloc) (header : Header) :
    state.handleReadHeader heap conn header none =
      let state := state.modifyConn conn fun connection =>
        { connection with header, n := lengthSum header }
      match (grow fun buf => expandPacket heap buf (clientSize header))
          (state.connections conn).buf with
      | (buf, .ok ()) =>
          ((state.modifyConn conn fun connection => { connection with buf }).startOnSocket conn
            .readPayload, none)
      | (_, .error .hangs) => ({ state with stuck := true }, none)
      | (buf, .error _) =>
          ((state.modifyConn conn fun connection => { connection with buf }).destroy conn
            .notEnoughMemory, some .badAlloc) := by
  cases result : expandPacket heap (state.connections conn).buf (clientSize header) with
  | none =>
      simp only [clientSize] at result
      simp only [Client.State.handleReadHeader, Client.State.connections_modifyConn, if_true, grow,
        clientSize, lengthSum, result]
  | some found =>
      obtain ⟨buf, expanded⟩ := found
      simp only [clientSize] at result
      simp only [Client.State.handleReadHeader, Client.State.connections_modifyConn, if_true, grow,
        clientSize, lengthSum, result]
      cases expanded <;> rfl

end Handlers

end CarrotRpc.Protocol.AsyncClient
