import CarrotRpc.Library.ByteOrder
import CarrotRpc.Library.DescriptorTable
import CarrotRpc.Library.Memory

/-! The functions of `utils.cpp` that make sockets. What the system answers is part of
their arguments; results are those of the source, with -1 for a failure. -/

set_option autoImplicit false

namespace CarrotRpc.Common

open Library

/-- The descriptors a process has open, and the number of lists `getaddrinfo` gave it
that it has not freed. -/
structure Process where
  openFds : DescriptorTable
  addrInfos : Nat

/-- What becomes of one address: there is no socket for it, `connect` fails, or it
succeeds. -/
inductive Candidate where
  | noSocket
  | refused
  | connects
  deriving DecidableEq, Repr

/-- The loop of `connect_to` over the rest of the list, with the value `s` has. -/
def connectLoop : List Candidate → Int → DescriptorTable → DescriptorTable × Int
  | [], s, openFds => (openFds, s)
  | .noSocket :: rest, _, openFds => connectLoop rest (-1) openFds
  | .refused :: rest, _, openFds =>
      connectLoop rest (-1) (openFds.allocate.close openFds.lowestFree)
  | .connects :: _, _, openFds => (openFds.allocate, openFds.lowestFree)

/-- `connect_to`; `none` stands for an error of `getaddrinfo`. The list is not freed. -/
def connectTo (resolved : Option (List Candidate)) (process : Process) : Process × Int :=
  match resolved with
  | none => (process, -1)
  | some candidates =>
      let (openFds, s) := connectLoop candidates 1 process.openFds
      ({ openFds, addrInfos := process.addrInfos + 1 }, s)

/-- `resolve_hostname`, with the first address of the list. The list is freed only where
it has one. -/
def resolveHostname {Address : Type} (resolved : Option (List Address)) (process : Process) :
    Process × Option Address × Int :=
  match resolved with
  | none => (process, none, -1)
  | some [] => ({ process with addrInfos := process.addrInfos + 1 }, none, -1)
  | some (address :: _) => (process, some address, 0)

/-- The numbers of the address families. -/
def afInet : Int := 2

def afInet6 : Int := 10

/-- `sizeof(sockaddr)` -/
def sizeofSockaddr : Nat := 16

/-- The `struct sockaddr` that `create_server_tcp_socket` fills in on its stack, by the
offsets of `sockaddr_in` and `sockaddr_in6`. A write beyond its end has no result. -/
def serverAddress (port : Int16) (protofamily : Int) : Option Block :=
  let addr : Block := List.replicate sizeofSockaddr 0
  if protofamily = afInet then do
    let addr ← addr.write 0 [2, 0]
    let addr ← addr.write 4 [0, 0, 0, 0]
    addr.write 2 (ByteOrder.bigEndian16 port.toUInt16)
  else do
    let addr ← addr.write 0 [10, 0]
    let addr ← addr.write 8 (List.replicate 16 0)
    addr.write 2 (ByteOrder.bigEndian16 port.toUInt16)

/-- How `socket`, `bind` and `listen` end; `bind` looks at the address. -/
structure ServerCalls where
  socket : Bool
  bind : Block → Bool
  listen : Bool

/-- `create_server_tcp_socket`. A socket that cannot be bound is not closed. -/
def createServerTcpSocket (calls : ServerCalls) (port : Int16) (protofamily : Int)
    (process : Process) : Option (Process × Int) :=
  if !calls.socket then some (process, -1)
  else
    let opened := { process with openFds := process.openFds.allocate }
    match serverAddress port protofamily with
    | none => none
    | some addr =>
        if !calls.bind addr then some (opened, -1)
        else if !calls.listen then some (opened, -1)
        else some (opened, process.openFds.lowestFree)

/-- `set_fd_nonblocking`, by how its two calls of `fcntl` end. -/
def setFdNonblocking (gets sets : Bool) : Int :=
  if !gets then -1 else if !sets then -1 else 0

def createNonblockingTcpSocket (socket gets sets : Bool) (process : Process) : Process × Int :=
  if !socket then (process, -1)
  else
    let fd := process.openFds.lowestFree
    let opened := { process with openFds := process.openFds.allocate }
    if setFdNonblocking gets sets = -1 then ({ opened with openFds := opened.openFds.close fd }, -1)
    else (opened, fd)

/-- The loop stops at the first address it can connect to, with the lowest free number,
and leaves nothing open of those before it. -/
theorem connectLoop_eq (candidates : List Candidate) (s : Int) (openFds : DescriptorTable) :
    connectLoop candidates s openFds =
      if .connects ∈ candidates then (openFds.allocate, (openFds.lowestFree : Int))
      else (openFds, if candidates = [] then s else -1) := by
  induction candidates generalizing s with
  | nil => rfl
  | cons candidate rest ih =>
      cases candidate with
      | noSocket =>
          rw [connectLoop, ih]
          by_cases later : Candidate.connects ∈ rest <;> simp [later]
      | refused =>
          rw [connectLoop, DescriptorTable.close_allocate, ih]
          by_cases later : Candidate.connects ∈ rest <;> simp [later]
      | connects => simp [connectLoop]

/-- A name that resolves to at least one address is connected to if any of them answers. -/
theorem connectTo_resolved {candidates : List Candidate} (listed : candidates ≠ [])
    (process : Process) :
    connectTo (some candidates) process =
      if .connects ∈ candidates then
        ({ openFds := process.openFds.allocate, addrInfos := process.addrInfos + 1 },
          (process.openFds.lowestFree : Int))
      else ({ process with addrInfos := process.addrInfos + 1 }, -1) := by
  unfold connectTo
  simp only [connectLoop_eq, if_neg listed]
  split <;> rfl

/-- The address of a server for IPv4: every interface, at its port. -/
def inetAddress (port : Int16) : Block :=
  [2, 0] ++ ByteOrder.bigEndian16 port.toUInt16 ++ List.replicate 12 0

theorem serverAddress_inet (port : Int16) : serverAddress port afInet = some (inetAddress port) :=
  rfl

/-- The address of any other family is 8 bytes longer than the `sockaddr`. -/
theorem serverAddress_other {protofamily : Int} (other : protofamily ≠ afInet) (port : Int16) :
    serverAddress port protofamily = none := by
  rw [serverAddress, if_neg other]
  rfl

/-- A server socket is the caller's if it listens; any other that was made stays open, and
none is made for a family other than IPv4. -/
theorem createServerTcpSocket_eq (calls : ServerCalls) (port : Int16) (protofamily : Int)
    (process : Process) :
    createServerTcpSocket calls port protofamily process =
      if calls.socket = false then some (process, -1)
      else if protofamily = afInet then
        some ({ process with openFds := process.openFds.allocate },
          if calls.bind (inetAddress port) ∧ calls.listen then (process.openFds.lowestFree : Int)
          else -1)
      else none := by
  obtain ⟨socket, bind, listen⟩ := calls
  cases socket with
  | false => rfl
  | true =>
      by_cases inet : protofamily = afInet
      · subst inet
        simp only [createServerTcpSocket, serverAddress_inet, Bool.not_true, Bool.false_eq_true,
          if_false, if_true, Bool.true_eq_false]
        by_cases binds : bind (inetAddress port) = true
        · cases listen with
          | false => simp only [binds, Bool.not_true, Bool.not_false, Bool.false_eq_true, and_false,
              if_false, if_true]
          | true => simp only [binds, Bool.not_true, Bool.false_eq_true, and_self, if_false, if_true]
        · simp only [binds, Bool.not_false, Bool.false_eq_true, false_and, if_false, if_true]
      · simp only [createServerTcpSocket, serverAddress_other inet, Bool.not_true,
          Bool.false_eq_true, if_false, if_neg inet, Bool.true_eq_false]

theorem createNonblockingTcpSocket_eq (socket gets sets : Bool) (process : Process) :
    createNonblockingTcpSocket socket gets sets process =
      if socket ∧ gets ∧ sets then
        ({ process with openFds := process.openFds.allocate },
          (process.openFds.lowestFree : Int))
      else (process, -1) := by
  have closed : { process with
      openFds := process.openFds.allocate.close process.openFds.lowestFree } = process := by
    rw [DescriptorTable.close_allocate]
  cases socket <;> cases gets <;> cases sets <;>
    simp [createNonblockingTcpSocket, setFdNonblocking, closed]

end CarrotRpc.Common
