import CarrotRpc.Library.TransitionSystem
import CarrotRpc.Common.Connecting

/-! The objects of one process that own descriptors, from their constructors to their
destructors: blocking channels, servers, and sockets it asks `utils.cpp` for. -/

set_option autoImplicit false

namespace CarrotRpc.Protocol

open Library Common

/-- The constructor of `CarrotBlockingChannel`, with the field `sock` it leaves. -/
def newBlockingChannel (resolved : Option (List Candidate)) (process : Process) :
    Process × Except String Int :=
  let (process, sock) := connectTo resolved process
  if sock < 0 then (process, .error "failed to connect to server") else (process, .ok sock)

/-- `~CarrotBlockingChannel` -/
def deleteBlockingChannel (sock : Int) (process : Process) : Process :=
  if 0 ≤ sock then { process with openFds := process.openFds.close sock.toNat } else process

/-- `PROTOCOL_IP4` -/
def protocolIp4 : Int := 0

/-- The constructor of `CarrotServer`, with the field `listen_sock` it leaves. -/
def newServer (calls : ServerCalls) (port : Int16) (protocol : Int) (process : Process) :
    Option (Process × Except String Int) :=
  match createServerTcpSocket calls port (if protocol = protocolIp4 then afInet else afInet6)
    process with
  | none => none
  | some (process, sock) =>
      if sock = -1 then some (process, .error "failed to create a server socket")
      else some (process, .ok sock)

/-- `~CarrotServer` is empty. -/
def deleteServer (_ : Int) (process : Process) : Process := process

/-- The descriptors in the fields of the channels and servers that are alive, and those
of the sockets that were handed out. -/
structure Application where
  process : Process
  channels : List Nat
  servers : List Nat
  sockets : List Nat

/-- A name that resolves has at least one address. No step follows the constructor of a
server that wrote beyond its address. -/
inductive Action where
  | newChannel (resolved : Option { candidates : List Candidate // candidates ≠ [] })
  | deleteChannel (sock : Nat)
  | newServer (calls : ServerCalls) (port : Int16) (protocol : Int)
  | deleteServer (sock : Nat)
  | newSocket (socket gets sets : Bool)
  | closeSocket (fd : Nat)
  | resolve (resolved : Option { addresses : List String // addresses ≠ [] })

namespace Application

def step (app : Application) : Action → Option Application
  | .newChannel resolved =>
      match newBlockingChannel (resolved.map Subtype.val) app.process with
      | (process, .error _) => some { app with process }
      | (process, .ok sock) => some { app with process, channels := sock.toNat :: app.channels }
  | .deleteChannel sock =>
      if sock ∈ app.channels then
        some { app with
          process := deleteBlockingChannel sock app.process
          channels := app.channels.erase sock }
      else none
  | .newServer calls port protocol =>
      match Protocol.newServer calls port protocol app.process with
      | none => none
      | some (process, .error _) => some { app with process }
      | some (process, .ok sock) =>
          some { app with process, servers := sock.toNat :: app.servers }
  | .deleteServer sock =>
      if sock ∈ app.servers then
        some { app with
          process := Protocol.deleteServer sock app.process
          servers := app.servers.erase sock }
      else none
  | .newSocket socket gets sets =>
      let (process, sock) := createNonblockingTcpSocket socket gets sets app.process
      if sock = -1 then some { app with process }
      else some { app with process, sockets := sock.toNat :: app.sockets }
  | .closeSocket fd =>
      if fd ∈ app.sockets then
        some { app with
          process := { app.process with openFds := app.process.openFds.close fd }
          sockets := app.sockets.erase fd }
      else none
  | .resolve resolved =>
      some { app with process := (resolveHostname (resolved.map Subtype.val) app.process).1 }

end Application

/-- The three standard streams. -/
def standardStreams : Finset Nat := {0, 1, 2}

def application : TransitionSystem Application Action where
  initial := ⟨⟨standardStreams, 0⟩, [], [], []⟩
  step := Application.step

/-- What nothing refers to any more: the server sockets that could not listen or whose
server is gone, and the number of names that were resolved for a channel. -/
structure Abandoned where
  fds : List Nat := []
  lists : Nat := 0

def abandon (app : Application) (action : Action) (abandoned : Abandoned) : Abandoned :=
  match action with
  | .newChannel resolved =>
      if resolved.isSome then { abandoned with lists := abandoned.lists + 1 } else abandoned
  | .newServer calls port _ =>
      if calls.socket ∧ ¬ (calls.bind (inetAddress port) ∧ calls.listen) then
        { abandoned with fds := app.process.openFds.lowestFree :: abandoned.fds }
      else abandoned
  | .deleteServer sock => { abandoned with fds := sock :: abandoned.fds }
  | .deleteChannel _ | .newSocket _ _ _ | .closeSocket _ | .resolve _ => abandoned

/-- Every open descriptor but the standard ones belongs to one live object, or is
abandoned for good; and so is each list of addresses a channel was made from. -/
structure Balanced (app : Application) (abandoned : Abandoned) : Prop where
  owns : DescriptorTable.Owns standardStreams
    (app.channels ++ (app.servers ++ (app.sockets ++ abandoned.fds))) app.process.openFds
  lists : app.process.addrInfos = abandoned.lists

theorem newBlockingChannel_resolved {candidates : List Candidate} (listed : candidates ≠ [])
    (process : Process) :
    newBlockingChannel (some candidates) process =
      if .connects ∈ candidates then
        ({ openFds := process.openFds.allocate, addrInfos := process.addrInfos + 1 },
          .ok (process.openFds.lowestFree : Int))
      else ({ process with addrInfos := process.addrInfos + 1 },
        .error "failed to connect to server") := by
  rw [newBlockingChannel, connectTo_resolved listed]
  by_cases answers : Candidate.connects ∈ candidates
  · simp [answers]
  · simp [answers]

/-- There are only servers for IPv4. -/
theorem newServer_eq (calls : ServerCalls) (port : Int16) (protocol : Int) (process : Process) :
    newServer calls port protocol process =
      if calls.socket = false then some (process, .error "failed to create a server socket")
      else if protocol = protocolIp4 then
        some ({ process with openFds := process.openFds.allocate },
          if calls.bind (inetAddress port) ∧ calls.listen then .ok (process.openFds.lowestFree : Int)
          else .error "failed to create a server socket")
      else none := by
  have positive : (process.openFds.lowestFree : Int) ≠ -1 := by omega
  have other : afInet6 ≠ afInet := by decide
  rw [newServer, createServerTcpSocket_eq]
  by_cases refused : calls.socket = false
  · simp only [if_pos refused, if_true]
  · by_cases inet : protocol = protocolIp4
    · by_cases listens : calls.bind (inetAddress port) = true ∧ calls.listen = true
      · simp only [if_neg refused, if_pos inet, if_pos listens, if_true, if_neg positive]
      · simp only [if_neg refused, if_pos inet, if_neg listens, if_true]
    · simp only [if_neg refused, if_neg inet, if_neg other]

/-- A descriptor may change its place in the list. -/
theorem perm_moved (fd : Nat) (front back : List Nat) :
    (fd :: (front ++ back)).Perm (front ++ fd :: back) :=
  List.perm_middle.symm

namespace Balanced

variable {app next : Application} {abandoned : Abandoned}

theorem newChannel (balanced : Balanced app abandoned)
    {resolved : Option { candidates : List Candidate // candidates ≠ [] }}
    (stepped : app.step (.newChannel resolved) = some next) :
    Balanced next (abandon app (.newChannel resolved) abandoned) := by
  cases resolved with
  | none =>
      cases stepped
      exact balanced
  | some resolution =>
      obtain ⟨candidates, listed⟩ := resolution
      simp only [Application.step, Option.map_some, newBlockingChannel_resolved listed] at stepped
      by_cases answers : Candidate.connects ∈ candidates
      · simp only [if_pos answers] at stepped
        cases stepped
        exact ⟨balanced.owns.allocate, congrArg (· + 1) balanced.lists⟩
      · simp only [if_neg answers] at stepped
        cases stepped
        exact ⟨balanced.owns, congrArg (· + 1) balanced.lists⟩

theorem deleteChannel {sock : Nat} (balanced : Balanced app abandoned)
    (stepped : app.step (.deleteChannel sock) = some next) :
    Balanced next (abandon app (.deleteChannel sock) abandoned) := by
  simp only [Application.step] at stepped
  split at stepped
  · next held =>
      cases stepped
      have found : (app.channels ++ (app.servers ++ (app.sockets ++ abandoned.fds))).Perm
          (sock :: (app.channels.erase sock ++ (app.servers ++ (app.sockets ++ abandoned.fds)))) :=
        (List.perm_cons_erase held).append_right _
      exact ⟨(balanced.owns.perm found).close, balanced.lists⟩
  · cases stepped

theorem newServer {calls : ServerCalls} {port : Int16} {protocol : Int}
    (balanced : Balanced app abandoned)
    (stepped : app.step (.newServer calls port protocol) = some next) :
    Balanced next (abandon app (.newServer calls port protocol) abandoned) := by
  have owns := balanced.owns.allocate
  simp only [Application.step, newServer_eq] at stepped
  simp only [abandon]
  by_cases refused : calls.socket = false
  · simp only [if_pos refused, Option.some.injEq] at stepped
    subst stepped
    rw [if_neg fun made => absurd (refused.symm.trans made.1) Bool.false_ne_true]
    exact balanced
  · have socket : calls.socket = true := eq_true_of_ne_false refused
    by_cases inet : protocol = protocolIp4
    · by_cases listens : calls.bind (inetAddress port) = true ∧ calls.listen = true
      · simp only [if_neg refused, if_pos inet, if_pos listens, Option.some.injEq] at stepped
        subst stepped
        rw [if_neg fun left => left.2 listens]
        exact ⟨owns.perm List.perm_middle.symm, balanced.lists⟩
      · simp only [if_neg refused, if_pos inet, if_neg listens, Option.some.injEq] at stepped
        subst stepped
        rw [if_pos ⟨socket, listens⟩]
        refine ⟨owns.perm ?_, balanced.lists⟩
        simpa only [List.append_assoc] using
          perm_moved app.process.openFds.lowestFree (app.channels ++ app.servers ++ app.sockets)
            abandoned.fds
    · simp only [if_neg refused, if_neg inet] at stepped
      cases stepped

theorem deleteServer {sock : Nat} (balanced : Balanced app abandoned)
    (stepped : app.step (.deleteServer sock) = some next) :
    Balanced next (abandon app (.deleteServer sock) abandoned) := by
  simp only [Application.step] at stepped
  split at stepped
  · next held =>
      cases stepped
      refine ⟨balanced.owns.perm ?_, balanced.lists⟩
      apply List.Perm.append_left
      have found := (List.perm_cons_erase held).append_right (app.sockets ++ abandoned.fds)
      have left := perm_moved sock (app.servers.erase sock ++ app.sockets) abandoned.fds
      rw [List.append_assoc, List.append_assoc] at left
      exact found.trans left
  · cases stepped

theorem newSocket {socket gets sets : Bool} (balanced : Balanced app abandoned)
    (stepped : app.step (.newSocket socket gets sets) = some next) :
    Balanced next (abandon app (.newSocket socket gets sets) abandoned) := by
  simp only [Application.step, createNonblockingTcpSocket_eq] at stepped
  by_cases made : socket ∧ gets ∧ sets
  · have positive : (app.process.openFds.lowestFree : Int) ≠ -1 := by omega
    simp only [if_pos made, if_neg positive] at stepped
    cases stepped
    refine ⟨balanced.owns.allocate.perm ?_, balanced.lists⟩
    have given := perm_moved app.process.openFds.lowestFree (app.channels ++ app.servers)
      (app.sockets ++ abandoned.fds)
    simp only [List.append_assoc] at given
    exact given
  · simp only [if_neg made, if_true] at stepped
    cases stepped
    exact balanced

theorem closeSocket {fd : Nat} (balanced : Balanced app abandoned)
    (stepped : app.step (.closeSocket fd) = some next) :
    Balanced next (abandon app (.closeSocket fd) abandoned) := by
  simp only [Application.step] at stepped
  split at stepped
  · next held =>
      cases stepped
      have found := (List.perm_cons_erase held).append_right abandoned.fds
      have taken := (List.Perm.append_left (app.channels ++ app.servers) found).trans
        (perm_moved fd (app.channels ++ app.servers) (app.sockets.erase fd ++ abandoned.fds)).symm
      simp only [List.append_assoc] at taken
      exact ⟨(balanced.owns.perm taken).close, balanced.lists⟩
  · cases stepped

theorem resolve {resolved : Option { addresses : List String // addresses ≠ [] }}
    (balanced : Balanced app abandoned) (stepped : app.step (.resolve resolved) = some next) :
    Balanced next (abandon app (.resolve resolved) abandoned) := by
  cases resolved with
  | none =>
      cases stepped
      exact balanced
  | some resolution =>
      obtain ⟨addresses, listed⟩ := resolution
      cases addresses with
      | nil => exact absurd rfl listed
      | cons address rest =>
          cases stepped
          exact balanced

end Balanced

/-- In every run the open descriptors are those of the live objects and the abandoned
ones: nothing is closed that somebody holds, no number has two owners, and besides what
servers leave behind nothing is lost. -/
theorem descriptors_balanced {config : Application × Abandoned}
    (reached : (application.recording {} abandon).Reachable config) :
    Balanced config.1 config.2 := by
  have start : Balanced application.initial {} := ⟨.none _, rfl⟩
  let always := fun (_ : Application) (_ : Action) => True
  have recorded : (application.recording {} abandon).ReachableVia
      (fun config => always config.1) config := reached
  apply TransitionSystem.recording_invariant start _ recorded
  intro app abandoned action next _ balanced _ stepped
  cases action with
  | newChannel resolved => exact balanced.newChannel stepped
  | deleteChannel sock => exact balanced.deleteChannel stepped
  | newServer calls port protocol => exact balanced.newServer stepped
  | deleteServer sock => exact balanced.deleteServer stepped
  | newSocket socket gets sets => exact balanced.newSocket stepped
  | closeSocket fd => exact balanced.closeSocket stepped
  | resolve resolved => exact balanced.resolve stepped

/-- The second address of a name answers; then a server cannot bind its socket, and the
channel is deleted. -/
theorem descriptors_balanced_refused :
    ∃ config : Application × Abandoned, config.2.fds = [4] ∧ config.2.lists = 1 ∧
      config.1.process.openFds = {0, 1, 2, 4} ∧ Balanced config.1 config.2 := by
  have observed : ((application.recording {} abandon).run
      [.newChannel (some ⟨[.refused, .connects], by decide⟩),
        .newServer ⟨true, fun _ => false, true⟩ 8888 protocolIp4, .deleteChannel 3]
      (application.recording {} abandon).initial).map
      (fun config => (config.2.fds, config.2.lists, config.1.process.openFds)) =
      some ([4], 1, {0, 1, 2, 4}) := by
    decide
  obtain ⟨config, reached, same⟩ :=
    (application.recording {} abandon).exists_reachable_of_run observed
  simp only [Prod.mk.injEq] at same
  obtain ⟨fds, lists, open'⟩ := same
  exact ⟨config, fds, lists, open', descriptors_balanced reached⟩

end CarrotRpc.Protocol
