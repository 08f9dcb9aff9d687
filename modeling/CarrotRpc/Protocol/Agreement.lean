import CarrotRpc.Protocol.Conversation

/-! Responses reach the calls they answer. What is on its way to the server are requests of
calls of the connection, and what is on its way back are responses to such calls. -/

set_option autoImplicit false

namespace CarrotRpc.Protocol.Conversing

open Library Library.Faulting Common Protob
open Server Serving Pairings
open Client (ConnRef TaskRef Part Stage Progress Passage)
open Streams (Link)
open Verdicts (responseParts)

variable {Msg : Type}

/-- A call of the connection. -/
def Mine (conn : ConnRef) (client : Client.State Msg) (task : TaskRef) : Prop :=
  task < client.nextTask ∧ (client.tasks task).conn = conn

section Facts

variable [Protobuf]

/-- The request of a call. -/
def asked (client : Client.State Msg) (task : TaskRef) : Parts :=
  requestOf (some (client.tasks task).id) (client.tasks task).call

/-- The packet responds to a call of the connection. -/
def Genuine (services : Services Msg) (perform : Method Msg → Msg → Outcome Msg) (conn : ConnRef)
    (client : Client.State Msg) (parts : Parts) : Prop :=
  ∃ task ended, Mine conn client task ∧ parts = responseParts ended.rpcResp ended.resp ∧
    parts.Small ∧
    Responds services perform (client.tasks task).call (client.tasks task).id ended

/-- The connection of the server is in order, and requests of the connection are on their
way to it. -/
structure Serves (conn : ConnRef) (client : Client.State Msg) (link : Link) : Prop where
  sound : link.Grown
  alive : link.conn.server = true
  requests : ∃ tasks : List TaskRef,
    (∀ task ∈ tasks, Mine conn client task ∧ (asked client task).Small) ∧
    link.incoming.flatten = (tasks.map fun task => (asked client task).packet).flatten

/-- The bytes are those of responses to calls of the connection. -/
def Responses (services : Services Msg) (perform : Method Msg → Msg → Outcome Msg)
    (conn : ConnRef) (client : Client.State Msg) (bytes : List UInt8) : Prop :=
  ∃ packets : List Parts, (∀ parts ∈ packets, Genuine services perform conn client parts) ∧
    bytes = (packets.map Parts.packet).flatten

/-- What arrives at a connection in the given stage: a payload after its header. -/
def Arriving (services : Services Msg) (perform : Method Msg → Msg → Outcome Msg)
    (conn : ConnRef) (client : Client.State Msg) (bytes : List UInt8) : Stage → Prop
  | .fresh | .resolving _ => True
  | .connecting _ | .linked | .reading .header => Responses services perform conn client bytes
  | .reading .payload => ∃ current rest, Genuine services perform conn client current ∧
      (client.connections conn).header = current.header ∧
      (client.connections conn).n = lengthSum current.header ∧
      bytes = current.payload ++ rest ∧ Responses services perform conn client rest

/-- What holds between the events of a conversation, before the connection ends. -/
structure Consistent (services : Services Msg) (perform : Method Msg → Msg → Outcome Msg)
    (conn : ConnRef) (talk : Conversation Msg) : Prop where
  packed : Client.Packed conn talk.client
  serves : ∀ link, talk.server = some link → Serves conn talk.client link
  truthful : ∀ task, Mine conn talk.client task → (talk.client.tasks task).Succeeded →
    Produced services perform (talk.client.tasks task).call (talk.client.tasks task).response
  standing : Client.Unopened conn talk.client ∨ ∃ stage, stage ≠ .fresh ∧
    Client.At conn stage talk.client ∧
    Arriving services perform conn talk.client talk.arriving stage

end Facts

section Progressing

variable [Protobuf] {services : Services Msg} {perform : Method Msg → Msg → Outcome Msg}
  {conn : ConnRef} {exempt : Option TaskRef} {before after : Client.State Msg} {task : TaskRef}
  {bytes : List UInt8} {stage : Stage}

theorem Mine.progress (mine : Mine conn before task) (progress : Progress conn exempt before after) :
    Mine conn after task :=
  ⟨mine.1.trans_le progress.count, (progress.keeps task mine.1).own.trans mine.2⟩

theorem asked_progress (mine : Mine conn before task) (progress : Progress conn exempt before after) :
    asked after task = asked before task := by
  have keeps := progress.keeps task mine.1
  rw [asked, keeps.id, keeps.call]
  rfl

theorem Genuine.progress {parts : Parts} (genuine : Genuine services perform conn before parts)
    (progress : Progress conn exempt before after) : Genuine services perform conn after parts := by
  obtain ⟨task, ended, mine, same, small, responds⟩ := genuine
  have keeps := progress.keeps task mine.1
  refine ⟨task, ended, mine.progress progress, same, small, ?_⟩
  rw [keeps.id, keeps.call]
  exact responds

theorem Responses.progress (responses : Responses services perform conn before bytes)
    (progress : Progress conn exempt before after) :
    Responses services perform conn after bytes := by
  obtain ⟨packets, genuine, same⟩ := responses
  exact ⟨packets, fun parts member => (genuine parts member).progress progress, same⟩

theorem Responses.nil : Responses services perform conn before [] :=
  ⟨[], nofun, rfl⟩

theorem Responses.append {parts : Parts} (responses : Responses services perform conn before bytes)
    (genuine : Genuine services perform conn before parts) :
    Responses services perform conn before (bytes ++ parts.packet) := by
  obtain ⟨packets, each, rfl⟩ := responses
  refine ⟨packets ++ [parts], ?_, by simp⟩
  intro other member
  rcases List.mem_append.mp member with old | new
  · exact each other old
  · rw [List.mem_singleton.mp new]
    exact genuine

/-- The first bytes of a stream of responses are a header. -/
theorem Responses.cons (responses : Responses services perform conn before bytes)
    (enough : sizeofPacket ≤ bytes.length) :
    ∃ current rest, Genuine services perform conn before current ∧
      Responses services perform conn before rest ∧
      bytes = current.header.toNetwork ++ (current.payload ++ rest) := by
  obtain ⟨packets, each, rfl⟩ := responses
  cases packets with
  | nil => exact absurd enough (by decide)
  | cons current packets =>
      refine ⟨current, (packets.map Parts.packet).flatten, each current List.mem_cons_self,
        ⟨packets, fun parts member => each parts (List.mem_cons_of_mem _ member), rfl⟩, ?_⟩
      rw [List.map_cons, List.flatten_cons, Parts.packet_eq, List.append_assoc]

theorem Serves.progress {link : Link} (serves : Serves conn before link)
    (progress : Progress conn exempt before after) : Serves conn after link := by
  obtain ⟨tasks, each, arrives⟩ := serves.requests
  refine ⟨serves.sound, serves.alive, tasks, ?_, ?_⟩
  · intro task member
    obtain ⟨mine, small⟩ := each task member
    rw [asked_progress mine progress]
    exact ⟨mine.progress progress, small⟩
  · rw [arrives]
    apply congrArg List.flatten
    apply List.map_congr_left
    intro task member
    rw [asked_progress (each task member).1 progress]

/-- The request of a call arrives behind the others. -/
theorem Serves.deliver {link : Link} (serves : Serves conn before link)
    (mine : Mine conn before task) (small : (asked before task).Small) :
    Serves conn before (Conversation.deliver (asked before task).packet link) := by
  obtain ⟨tasks, each, arrives⟩ := serves.requests
  refine ⟨serves.sound, serves.alive, tasks ++ [task], ?_, ?_⟩
  · intro other member
    rcases List.mem_append.mp member with old | new
    · exact each other old
    · rw [List.mem_singleton.mp new]
      exact ⟨mine, small⟩
  · simp [Conversation.deliver, arrives]

theorem Arriving.progress (arriving : Arriving services perform conn before bytes stage)
    (progress : Progress conn exempt before after) (known : conn < before.nextConn) :
    Arriving services perform conn after bytes stage := by
  cases stage with
  | fresh | resolving => trivial
  | connecting | linked => exact Responses.progress arriving progress
  | reading part =>
      cases part with
      | header => exact Responses.progress arriving progress
      | payload =>
          obtain ⟨header, n⟩ := progress.header known
          obtain ⟨current, rest, genuine, sameHeader, sameN, split, others⟩ := arriving
          exact ⟨current, rest, genuine.progress progress, header.trans sameHeader,
            n.trans sameN, split, others.progress progress⟩

theorem Arriving.append {parts : Parts}
    (arriving : Arriving services perform conn before bytes stage)
    (genuine : Genuine services perform conn before parts) :
    Arriving services perform conn before (bytes ++ parts.packet) stage := by
  cases stage with
  | fresh | resolving => trivial
  | connecting | linked => exact Responses.append arriving genuine
  | reading part =>
      cases part with
      | header => exact Responses.append arriving genuine
      | payload =>
          obtain ⟨current, rest, began, header, n, split, others⟩ := arriving
          refine ⟨current, rest ++ parts.packet, began, header, n, ?_, others.append genuine⟩
          rw [split, List.append_assoc]

/-- Calls that succeed do so with what the service produced, as long as this holds of the
call that may. -/
theorem truthful_progress
    (truthful : ∀ task, Mine conn before task → (before.tasks task).Succeeded →
      Produced services perform (before.tasks task).call (before.tasks task).response)
    (progress : Progress conn exempt before after)
    (exempted : ∀ task, exempt = some task → (after.tasks task).Succeeded →
      Produced services perform (after.tasks task).call (after.tasks task).response) :
    ∀ task, Mine conn after task → (after.tasks task).Succeeded →
      Produced services perform (after.tasks task).call (after.tasks task).response := by
  intro task mine succeeded
  by_cases ordinary : exempt = some task
  · exact exempted task ordinary succeeded
  · by_cases older : task < before.nextTask
    · have keeps := progress.keeps task older
      obtain ⟨earlier, response⟩ := keeps.settled ordinary mine.2 succeeded
      rw [keeps.call, response]
      exact truthful task ⟨older, keeps.own.symm.trans mine.2⟩ earlier
    · exact absurd succeeded
        (progress.fresh task (Nat.not_lt.mp older) mine.1 ordinary mine.2)

end Progressing

section Serving

variable [Protobuf] [LawfulProtobuf] {services : Services Msg}
  {perform : Method Msg → Msg → Outcome Msg} {conn : ConnRef} {talk next : Conversation Msg}
  {heaps : Realloc × Realloc} {delivery : Delivery}

/-- The response to a request of a call is genuine. -/
theorem Serves.reply {client : Client.State Msg} {link after : Link} {ended : Reply}
    (serves : Serves conn client link) (succeeds : heaps.1.Succeeds ∧ heaps.2.Succeeds)
    (served : async services (heaps.1, ⟨heaps.2, perform, delivery⟩) link = (after, .ok ended)) :
    Serves conn client after ∧
      ∃ parts, Genuine services perform conn client parts ∧ ended.packet = parts.packet := by
  obtain ⟨tasks, each, arrives⟩ := serves.requests
  cases tasks with
  | nil =>
      have short : link.incoming.flatten.length < sizeofPacket := by
        rw [arrives, List.map_nil, List.flatten_nil]
        decide
      have waits : (async services (heaps.1, ⟨heaps.2, perform, delivery⟩) link).2 =
          .error .unread := async_waits serves.sound succeeds.1 short
      rw [served] at waits
      cases waits
  | cons task tasks =>
      obtain ⟨mine, small⟩ := each task List.mem_cons_self
      rw [List.map_cons, List.flatten_cons] at arrives
      obtain ⟨sound, alive, left⟩ :=
        async_left small serves.sound serves.alive succeeds arrives served
      obtain ⟨answered, room⟩ := async_replies small serves.sound serves.alive succeeds arrives
        (congrArg Prod.snd served)
      have responds : Responds services perform (client.tasks task).call (client.tasks task).id
          ended := responds_of_answer small answered
      have limit : max link.conn.largest.toNat (asked client task).packet.length ≤ maxSize := by
        apply Nat.max_le.mpr
        refine ⟨serves.sound.bound, ?_⟩
        rw [Parts.length_packet]
        exact small
      have reached : (responseParts ended.rpcResp ended.resp).Small := by
        rw [Parts.Small, ← Parts.length_packet, ← responds.packet]
        exact room.trans (roundUp_le limit)
      refine ⟨⟨sound, alive, tasks, ?_, left⟩, _, ⟨task, ended, mine, rfl, reached, responds⟩,
        responds.packet⟩
      exact fun other member => each other (List.mem_cons_of_mem _ member)

theorem sound_stepServer (sound : Consistent services perform conn talk)
    (succeeds : heaps.1.Succeeds ∧ heaps.2.Succeeds)
    (stepped : talk.stepServer services perform heaps delivery = some next) :
    Consistent services perform conn next := by
  unfold Conversation.stepServer at stepped
  cases served : talk.server with
  | none =>
      rw [served] at stepped
      cases stepped
  | some link =>
      have serves := sound.serves link served
      simp only [served] at stepped
      rcases ran : async services (heaps.1, ⟨heaps.2, perform, delivery⟩) link with
        ⟨after, fault | ended⟩
      · -- the server waits, or it gives up the connection
        rw [ran] at stepped
        cases fault with
        | unread => cases stepped
        | hangs | crashes | overruns | noMemory | metadataUnparsed | parameterUnparsed | escapes
        | metadataUnserialized | responseUnserialized | unsent =>
            cases stepped
            exact ⟨sound.packed, nofun, sound.truthful, sound.standing⟩
      · rw [ran] at stepped
        cases stepped
        obtain ⟨after, parts, genuine, packet⟩ := serves.reply succeeds ran
        refine ⟨sound.packed, ?_, sound.truthful, ?_⟩
        · intro link same
          cases same
          exact after
        · rcases sound.standing with unknown | ⟨stage, started, stands, arriving⟩
          · exact .inl unknown
          · refine .inr ⟨stage, started, stands, ?_⟩
            simp only [packet]
            exact arriving.append genuine

end Serving

section Stepping

variable [Protobuf] {services : Services Msg} {perform : Method Msg → Msg → Outcome Msg}
  {conn : ConnRef} {talk next : Conversation Msg} {label : Client.Label Msg}
  {client : Client.State Msg} {stage : Stage} {task : TaskRef}

omit [Protobuf] in
/-- Only the handler of a read on the connection gets bytes. -/
theorem advances_of_readOf {state : Client.State Msg} {read : Part × Nat × Client.Input}
    (reads : readOf conn state label = some read) : Client.Advances conn label := by
  unfold readOf at reads
  split at reads
  · split at reads
    · next same => exact ⟨same, rfl, .inl rfl⟩
    · cases reads
  · simp only at reads
    split at reads
    · next goes => exact ⟨goes.1, rfl, .inr rfl⟩
    · cases reads
  · cases reads

omit [Protobuf] in
theorem advances_of_reopens (opens : reopens conn label = true) : Client.Advances conn label := by
  unfold reopens at opens
  split at opens
  · exact ⟨of_decide_eq_true opens, rfl, .inl rfl⟩
  · cases opens

omit [Protobuf] in
theorem payload_of_readOf {state : Client.State Msg} {n : Nat} {input : Client.Input}
    (reads : readOf conn state label = some (.payload, n, input)) :
    ∃ error, label = .handle ⟨conn, .readPayload, .queued error⟩ input ∧
      n = (state.connections conn).n.toNat ∧
      (error = none ∨ error = some .eof ∧ n = input.transferred) := by
  unfold readOf at reads
  split at reads
  · split at reads
    · cases reads
    · cases reads
  · next other error found =>
      simp only at reads
      split at reads
      · next goes =>
          obtain ⟨rfl, goes⟩ := goes
          cases reads
          exact ⟨error, rfl, rfl, goes⟩
      · cases reads
  · cases reads

theorem Conversation.stepClient_client (stepped : talk.stepClient conn label = some next) :
    talk.client.step label = some next.client := by
  unfold Conversation.stepClient at stepped
  split at stepped
  · split at stepped
    · obtain ⟨client, moved, rfl⟩ := Option.map_eq_some_iff.mp stepped
      exact moved
    · cases stepped
  · obtain ⟨client, moved, same⟩ := Option.map_eq_some_iff.mp stepped
    split at same
    · rw [← same]
      exact moved
    · rw [← same]
      exact moved

theorem Conversation.stepServer_client {heaps : Realloc × Realloc} {delivery : Delivery}
    (stepped : talk.stepServer services perform heaps delivery = some next) :
    next.client = talk.client := by
  unfold Conversation.stepServer at stepped
  split at stepped
  · cases stepped
  · split at stepped
    · cases stepped
      rfl
    · cases stepped
    · cases stepped
      rfl

/-- What goes out is the request of a call. -/
theorem request_of_written {bytes : List UInt8} (packed : Client.Packed conn talk.client)
    (whole : Whole conn label) (wrote : written conn label = some bytes)
    (stepped : talk.client.step label = some client) :
    ∃ task, Mine conn talk.client task ∧ bytes = (asked talk.client task).packet ∧
      (asked talk.client task).Small := by
  unfold written at wrote
  split at wrote
  · next other task packet sent status count =>
      split at wrote
      · next same =>
          subst same
          cases wrote
          obtain ⟨rfl, rfl, fits⟩ := whole rfl
          have moved : talk.client.writeSome ⟨other, .write task packet 0, status⟩ packet.length =
              some client := stepped
          obtain ⟨_, _, _, -, member, -⟩ := Client.writeSome_eq_some moved
          obtain ⟨bound, own, content⟩ := packed _ member rfl task packet 0 rfl
          have content : packet = (asked talk.client task).packet := content
          refine ⟨task, ⟨bound, own⟩, ?_, ?_⟩
          · rw [List.drop_zero, List.take_length]
            exact content
          · rw [content, Parts.length_packet] at fits
            exact fits
      · cases wrote
  · cases wrote

theorem Consistent.passage (sound : Consistent services perform conn talk)
    (passage : Passage conn none talk.client client) {server : Option Link}
    (serves : ∀ link, server = some link → Serves conn talk.client link) :
    Client.Beyond conn client ∨
      Consistent services perform conn { client, server, arriving := talk.arriving } := by
  by_cases ended : Client.Beyond conn client
  · exact .inl ended
  · refine .inr ⟨passage.packed sound.packed, ?_, ?_, ?_⟩
    · exact fun link same => (serves link same).progress passage.toProgress
    · exact truthful_progress sound.truthful passage.toProgress nofun
    · rcases sound.standing with unknown | ⟨stage, started, stands, arriving⟩
      · rcases passage.unknown unknown with later | ⟨task, ended' | stands⟩
        · exact .inl later
        · exact absurd ended' ended
        · exact .inr ⟨.resolving task, nofun, stands, trivial⟩
      · rcases passage.standing stage started stands with ended' | after
        · exact absurd ended' ended
        · exact .inr ⟨stage, started, after,
            arriving.progress passage.toProgress stands.known⟩

/-- A step that neither sets the connection up nor reads from it. -/
theorem sound_routine (base : Client.Base False (.none, talk.client))
    (sound : Consistent services perform conn talk) (whole : Whole conn label)
    (routine : ¬ Client.Advances conn label) (stepped : talk.stepClient conn label = some next) :
    Client.Beyond conn next.client ∨ Consistent services perform conn next := by
  have noRead : readOf conn talk.client label = none := by
    cases reads : readOf conn talk.client label with
    | none => rfl
    | some read => exact absurd (advances_of_readOf reads) routine
  have noOpening : reopens conn label = false := by
    cases opens : reopens conn label with
    | false => rfl
    | true => exact absurd (advances_of_reopens opens) routine
  simp only [Conversation.stepClient, noRead, noOpening, Bool.false_eq_true, if_false] at stepped
  obtain ⟨client, moved, rfl⟩ := Option.map_eq_some_iff.mp stepped
  apply sound.passage (Client.passage_step base routine moved)
  intro link same
  cases wrote : written conn label with
  | none =>
      rw [wrote] at same
      exact sound.serves link same
  | some bytes =>
      rw [wrote] at same
      obtain ⟨task, mine, rfl, small⟩ := request_of_written sound.packed whole wrote moved
      obtain ⟨before, listening, rfl⟩ := Option.map_eq_some_iff.mp same
      exact (sound.serves before listening).deliver mine small

/-- The connection gets to a further stage of its set-up. -/
theorem sound_of_stands {before : Client.State Msg} {exempt : Option TaskRef}
    {server : Option Link} {bytes : List UInt8} (packed : Client.Packed conn before)
    (truthful : ∀ task, Mine conn before task → (before.tasks task).Succeeded →
      Produced services perform (before.tasks task).call (before.tasks task).response)
    (serves : ∀ link, server = some link → Serves conn before link)
    (progress : Progress conn exempt before client)
    (exempted : ∀ task, exempt = some task → (client.tasks task).Succeeded →
      Produced services perform (client.tasks task).call (client.tasks task).response)
    (started : stage ≠ .fresh) (stands : Client.Stands conn stage client)
    (arriving : Arriving services perform conn client bytes stage) :
    Client.Beyond conn client ∨
      Consistent services perform conn { client, server, arriving := bytes } := by
  rcases stands with ended | stands
  · exact .inl ended
  · refine .inr ⟨progress.packed packed, ?_, ?_, .inr ⟨stage, started, stands, arriving⟩⟩
    · exact fun link same => (serves link same).progress progress
    · exact truthful_progress truthful progress exempted

variable {op : Client.Op} {input : Client.Input}

omit [Protobuf] in
/-- The set-up operation of the connection that is handled is that of its stage. -/
theorem staged [Protobuf] (sound : Consistent services perform conn talk) (member : op ∈ talk.client.ops)
    (mine : op.conn = conn) (setsUp : op.kind.setsUp = true) :
    ∃ stage, stage ≠ .fresh ∧ Client.At conn stage talk.client ∧ stage.kinds = [op.kind] ∧
      (talk.client.dequeue op).setUps conn = [] ∧
      Arriving services perform conn talk.client talk.arriving stage := by
  rcases sound.standing with unknown | ⟨stage, started, stands, arriving⟩
  · have perm := Client.setUps_dequeue member mine setsUp
    rw [unknown.quiet] at perm
    cases perm.eq_nil
  · obtain ⟨kinds, idle⟩ := stands.dequeue member mine setsUp
    exact ⟨stage, started, stands, kinds, idle, arriving⟩

/-- The name was resolved: the socket is opened, and a connection of the server with it. -/
theorem sound_resolved (base : Client.Base False (.none, talk.client))
    (sound : Consistent services perform conn talk) (member : op ∈ talk.client.ops)
    (mine : op.conn = conn) (idle : (talk.client.dequeue op).setUps conn = []) :
    Client.Beyond conn ((talk.client.dequeue op).asyncConnect conn task) ∨
      Consistent services perform conn
        { client := (talk.client.dequeue op).asyncConnect conn task
          server := some ⟨{ isOpen := true }, []⟩
          arriving := [] } := by
  have known : conn < (talk.client.dequeue op).nextConn :=
    mine ▸ base.sound.op_conn op.bare (List.mem_map_of_mem member)
  have dropped : Progress conn none talk.client (talk.client.dequeue op) :=
    Client.progress_dequeue op
  obtain ⟨connecting, progress⟩ :=
    (Client.stands_asyncConnect known idle : _ ∧ Progress conn none (talk.client.dequeue op) _)
  have started : Stage.connecting task ≠ .fresh := nofun
  apply sound_of_stands sound.packed sound.truthful _ (dropped.trans progress) nofun started
    (.inr connecting) Responses.nil
  intro link same
  cases same
  exact ⟨PacketBuf.Grown.initial, rfl, [], nofun, rfl⟩

/-- The socket was connected, and responses are read from now on. -/
theorem sound_connected (base : Client.Base False (.none, talk.client))
    (sound : Consistent services perform conn talk) (member : op ∈ talk.client.ops)
    (mine : op.conn = conn) (idle : (talk.client.dequeue op).setUps conn = [])
    (isOpen : (talk.client.connections conn).socket.isOpen = true)
    (bound : task < talk.client.nextTask) (heap : Realloc)
    (responses : Responses services perform conn talk.client talk.arriving) :
    Client.Beyond conn ((talk.client.dequeue op).handleConnect heap conn task none).1 ∨
      Consistent services perform conn
        { talk with client := ((talk.client.dequeue op).handleConnect heap conn task none).1 } := by
  have known : conn < (talk.client.dequeue op).nextConn :=
    mine ▸ base.sound.op_conn op.bare (List.mem_map_of_mem member)
  have numbered : Client.Numbered (talk.client.dequeue op) := base.numbered
  have older : task < (talk.client.dequeue op).nextTask := bound
  have opened : ((talk.client.dequeue op).connections conn).socket.isOpen = true := isOpen
  have dropped : Progress conn none talk.client (talk.client.dequeue op) :=
    Client.progress_dequeue op
  obtain ⟨ended, stands⟩ : Progress conn none (talk.client.dequeue op)
      ((talk.client.dequeue op).handleConnect heap conn task none).1 ∧ _ :=
    Client.stands_handleConnect known idle opened older numbered heap
  have progress := dropped.trans ended
  have started : Stage.reading .header ≠ .fresh := nofun
  exact sound_of_stands sound.packed sound.truthful sound.serves progress nofun started stands
    (responses.progress progress)

/-- The header of the first response is read, and its payload comes next. -/
theorem sound_headerRead (base : Client.Base False (.none, talk.client))
    (sound : Consistent services perform conn talk) (member : op ∈ talk.client.ops)
    (mine : op.conn = conn) (idle : (talk.client.dequeue op).setUps conn = [])
    (isOpen : (talk.client.connections conn).socket.isOpen = true) (heap : Realloc)
    (header : Header) (responses : Responses services perform conn talk.client talk.arriving)
    (enough : sizeofPacket ≤ talk.arriving.length)
    (finds : header = Header.ofNetwork (talk.arriving.take sizeofPacket)) :
    Client.Beyond conn ((talk.client.dequeue op).handleReadHeader heap conn header none).1 ∨
      Consistent services perform conn
        { talk with
          client := ((talk.client.dequeue op).handleReadHeader heap conn header none).1
          arriving := talk.arriving.drop sizeofPacket } := by
  let taken := talk.client.dequeue op
  let noted := taken.modifyConn conn fun connection =>
    { connection with header, n := header.rpcLen + header.reqLen + header.respLen }
  have known : conn < taken.nextConn :=
    mine ▸ base.sound.op_conn op.bare (List.mem_map_of_mem member)
  have numbered : Client.Numbered taken := base.numbered
  have linked : Client.At conn .linked taken := ⟨known, .of_eq idle, isOpen, by rintro ⟨⟩⟩
  have dropped : Progress conn none talk.client taken := Client.progress_dequeue op
  obtain ⟨current, rest, genuine, others, split⟩ := responses.cons enough
  have read : header = current.header := by
    rw [finds, split, List.take_left' (Header.length_toNetwork _), Header.ofNetwork_toNetwork]
  have left : talk.arriving.drop sizeofPacket = current.payload ++ rest := by
    rw [split, List.drop_left' (Header.length_toNetwork _)]
  obtain ⟨progress, stands⟩ :
      Progress conn none noted (taken.handleReadHeader heap conn header none).1 ∧ _ :=
    Client.stands_handleReadHeader linked numbered heap header
  have fields : (noted.connections conn).header = header ∧
      (noted.connections conn).n = lengthSum header := by
    simp [noted, lengthSum]
  obtain ⟨sameHeader, sameN⟩ := progress.header known
  -- the tasks are those of the state before the header was noted
  have packed : Client.Packed conn noted := dropped.packed sound.packed
  have truthful : ∀ task, Mine conn noted task → (noted.tasks task).Succeeded →
      Produced services perform (noted.tasks task).call (noted.tasks task).response :=
    sound.truthful
  have serves : ∀ link, talk.server = some link → Serves conn noted link := by
    intro link same
    obtain ⟨grown, alive, requests⟩ := sound.serves link same
    exact ⟨grown, alive, requests⟩
  have genuine : Genuine services perform conn noted current := genuine
  have others : Responses services perform conn noted rest := others
  have started : Stage.reading .payload ≠ .fresh := by rintro ⟨⟩
  apply sound_of_stands packed truthful serves progress (by rintro task ⟨⟩) started stands
  refine ⟨current, rest, genuine.progress progress, ?_, ?_, left, others.progress progress⟩
  · rw [sameHeader, fields.1, read]
  · rw [sameN, fields.2, read]

end Stepping

section Payloads

variable [Protobuf] [LawfulProtobuf] {services : Services Msg}
  {perform : Method Msg → Msg → Outcome Msg} {conn : ConnRef} {talk : Conversation Msg}
  {client : Client.State Msg} {task : TaskRef} {parts : Parts} {data : List UInt8}

/-- What the handler finds of a response that has arrived. -/
structure Found (conn : ConnRef) (client : Client.State Msg) (data : List UInt8)
    (ended : Reply) : Prop where
  parsed : Protobuf.response.parse (data.take (client.connections conn).header.rpcLen.toNat) =
    some ended.rpcResp
  parameter : (data.drop (client.connections conn).header.rpcLen.toNat).take
    (client.connections conn).header.respLen.toNat = ended.resp

theorem Genuine.found (genuine : Genuine services perform conn client parts)
    (header : (client.connections conn).header = parts.header) (arrived : parts.payload <+: data) :
    ∃ task ended, Mine conn client task ∧ Found conn client data ended ∧
      Responds services perform (client.tasks task).call (client.tasks task).id ended := by
  obtain ⟨task, ended, mine, rfl, small, responds⟩ := genuine
  obtain ⟨rest, rfl⟩ := arrived
  obtain ⟨rpcLen, -, respLen⟩ := small.lengths
  refine ⟨task, ended, mine, ⟨?_, ?_⟩, responds⟩
  · rw [header, rpcLen, Parts.payload, List.append_assoc, List.append_assoc, List.take_left]
    exact LawfulProtobuf.response.parse_serialize _ responds.initialized
  · rw [header, rpcLen, respLen, Parts.payload, List.append_assoc, List.append_assoc,
      List.drop_left]
    exact List.take_left

/-- A payload that is read whole is that of a response to a call. -/
theorem arrived (arriving : Arriving services perform conn client talk.arriving
      (.reading .payload))
    (finds : talk.arriving.take (client.connections conn).n.toNat <+: data) :
    ∃ task ended, Mine conn client task ∧ Found conn client data ended ∧
      Responds services perform (client.tasks task).call (client.tasks task).id ended ∧
      Responses services perform conn client
        (talk.arriving.drop (client.connections conn).n.toNat) := by
  obtain ⟨current, rest, genuine, header, n, split, others⟩ := arriving
  obtain ⟨_, _, _, _, small, _⟩ := id genuine
  have size : (client.connections conn).n.toNat = current.payload.length := by
    rw [n, small.sum]
  rw [split, size, List.take_left] at finds
  obtain ⟨task, ended, mine, found, responds⟩ := genuine.found header finds
  refine ⟨task, ended, mine, found, responds, ?_⟩
  rw [split, size, List.drop_left]
  exact others

omit [LawfulProtobuf] in
/-- The call that is completed is the one whose request was answered. -/
theorem listed_eq {duty : Client.Duty} {ended : Reply} (base : Client.Base False (duty, client))
    {other : TaskRef} (mine : Mine conn client task)
    (responds : Responds services perform (client.tasks task).call (client.tasks task).id ended)
    (listed : (client.connections conn).outgoingTasks.find? ended.rpcResp.getId = some other) :
    other = task := by
  obtain ⟨bound, own, sameId⟩ :=
    base.sound.entry conn _ (OrderedMap.find?_eq_some_iff.mp listed)
  have sameId : (client.tasks other).id = ended.rpcResp.getId := sameId
  exact base.sound.id_unique other bound task mine.1 (own.trans mine.2.symm)
    (sameId.trans responds.id)

/-- A response is handled, and the next one is read. -/
theorem sound_payloadRead {op : Client.Op} (base : Client.Base False (.none, talk.client))
    (sound : Consistent services perform conn talk) (member : op ∈ talk.client.ops)
    (mine : op.conn = conn) (idle : (talk.client.dequeue op).setUps conn = [])
    (isOpen : (talk.client.connections conn).socket.isOpen = true) (heap : Realloc)
    (arriving : Arriving services perform conn talk.client talk.arriving (.reading .payload))
    (finds : talk.arriving.take (talk.client.connections conn).n.toNat <+: data) :
    Client.Beyond conn ((talk.client.dequeue op).receivePayload heap conn data).1 ∨
      Consistent services perform conn
        { talk with
          client := ((talk.client.dequeue op).receivePayload heap conn data).1
          arriving := talk.arriving.drop (talk.client.connections conn).n.toNat } := by
  let taken := talk.client.dequeue op
  have known : conn < taken.nextConn :=
    mine ▸ base.sound.op_conn op.bare (List.mem_map_of_mem member)
  have numbered : Client.Numbered taken := base.numbered
  have linked : Client.At conn .linked taken := ⟨known, .of_eq idle, isOpen, by rintro ⟨⟩⟩
  have takenBase := base.dequeue member
  obtain ⟨task, ended, own, found, responds, others⟩ := arrived arriving finds
  have own : Mine conn taken task := own
  have parsed : Protobuf.response.parse (data.take (taken.connections conn).header.rpcLen.toNat) =
      some ended.rpcResp := found.parsed
  have started : Stage.reading .header ≠ .fresh := by rintro ⟨⟩
  cases listed : (taken.connections conn).outgoingTasks.find? ended.rpcResp.getId with
  | none =>
      have dropped : Progress conn none talk.client taken := Client.progress_dequeue op
      have received : taken.receivePayload heap conn data = taken.startRead heap conn := by
        simp only [Client.State.receivePayload, parsed, listed]
      have progress := dropped.trans (Client.startRead_cases known numbered heap).1
      have stands := Client.stands_startRead (.inr linked) known numbered heap
      rw [received]
      exact sound_of_stands sound.packed sound.truthful sound.serves progress
        (by rintro task ⟨⟩) started stands (others.progress progress)
  | some other =>
      have same := listed_eq takenBase own responds listed
      subst same
      have dropped : Progress conn (some other) talk.client taken := Client.progress_dequeue op
      obtain ⟨received, stands, outcome⟩ :=
        Client.receivePayload_listed linked numbered own.1 parsed listed
      rcases outcome with gone | ⟨buf, same⟩
      · exact .inl gone
      · have progress := dropped.trans received
        apply sound_of_stands sound.packed sound.truthful sound.serves progress _ started stands
          (others.progress progress)
        intro task exempt succeeded
        cases exempt
        have keeps := progress.keeps other own.1
        rw [same] at succeeded
        obtain ⟨status, message, parses, response⟩ :=
          Client.told_acknowledge own.1 succeeded.2
        obtain ⟨method, request, result, target, asked, returned, serialized⟩ :=
          responds.produced status
        have parameter : (data.drop (taken.connections conn).header.rpcLen.toNat).take
            (taken.connections conn).header.respLen.toNat = ended.resp := found.parameter
        rw [parameter, serialized] at parses
        refine ⟨method, request, result, message, ?_, ?_, returned, ?_, ?_⟩
        · rw [keeps.call]
          exact target
        · rw [keeps.call]
          exact asked
        · rw [keeps.call]
          exact parses
        · rw [same]
          exact response

end Payloads

section Runs

variable [Protobuf] [LawfulProtobuf] {services : Services Msg}
  {perform : Method Msg → Msg → Outcome Msg} {conn : ConnRef} {talk next : Conversation Msg}
  {label : Client.Label Msg}

omit [LawfulProtobuf] in
/-- The payload handler goes on with a payload that was read whole, and gives up otherwise. -/
theorem handleReadPayload_cases {state : Client.State Msg} {input : Client.Input}
    (heap : Realloc) (error : Option Client.SystemError) :
    ((error = none ∨ error = some .eof ∧ (state.connections conn).n.toNat = input.transferred) ∧
        state.handleReadPayload heap conn input.data input.transferred error =
          state.receivePayload heap conn input.data) ∨
      (¬ (error = none ∨
          error = some .eof ∧ (state.connections conn).n.toNat = input.transferred) ∧
        ∃ reason, (state.handleReadPayload heap conn input.data input.transferred error).1 =
          state.destroy conn reason) := by
  cases error with
  | none => exact .inl ⟨.inl rfl, rfl⟩
  | some error =>
      unfold Client.State.handleReadPayload
      simp only
      split
      · next whole =>
          obtain ⟨size, rfl⟩ := whole
          exact .inl ⟨.inr ⟨rfl, size⟩, rfl⟩
      · next partly =>
          refine .inr ⟨?_, error, rfl⟩
          intro goes
          rcases goes with none | ⟨same, size⟩
          · cases none
          · exact partly ⟨size, Option.some.inj same⟩

theorem sound_advancing (base : Client.Base False (.none, talk.client))
    (sound : Consistent services perform conn talk) (advances : Client.Advances conn label)
    (stepped : talk.stepClient conn label = some next) :
    Client.Beyond conn next.client ∨ Consistent services perform conn next := by
  cases label with
  | callMethod | complete | writeSome => cases advances
  | handle op input =>
      obtain ⟨mine, setsUp, ends⟩ := advances
      obtain ⟨client, reached⟩ : ∃ client, client = next.client := ⟨_, rfl⟩
      have moved' : talk.client.step (.handle op input) = some client :=
        reached ▸ Conversation.stepClient_client stepped
      have moved : talk.client.handle op input = some client := moved'
      obtain ⟨error, queued, member, same, -⟩ := Client.handle_eq_some moved
      have known : conn < (talk.client.dequeue op).nextConn :=
        mine ▸ base.sound.op_conn op.bare (List.mem_map_of_mem member)
      have binds := base.sound.op_task op.bare (List.mem_map_of_mem member)
      have numbered : Client.Numbered (talk.client.dequeue op) := base.numbered
      obtain ⟨stage, started, stands, kinds, idle, arriving⟩ := staged sound member mine setsUp
      obtain ⟨other, kind, status⟩ := op
      have mine : other = conn := mine
      have queued : status = .queued error := queued
      subst mine queued
      cases stage with
      | fresh => exact absurd rfl started
      | linked => cases kinds
      | resolving task =>
          cases kinds
          rcases ends with success | payload
          · cases success
            simp only [Conversation.stepClient, readOf, reopens, decide_true, if_true, moved',
              Option.map_some, Option.some.injEq] at stepped
            subst stepped same
            exact sound_resolved base sound member rfl idle
          · cases payload
      | connecting task =>
          cases kinds
          rcases ends with success | payload
          · cases success
            simp only [Conversation.stepClient, readOf, reopens, written, Bool.false_eq_true,
              if_false, moved', Option.map_some, Option.some.injEq, Option.elim_none] at stepped
            subst stepped same
            exact sound_connected base sound member rfl idle stands.isOpen (binds task rfl).1
              input.heap arriving
          · cases payload
      | reading part =>
          cases part with
          | header =>
              cases kinds
              rcases ends with success | payload
              · cases success
                simp only [Conversation.stepClient, readOf, if_true] at stepped
                split at stepped
                · next read =>
                    simp only [moved', Option.map_some, Option.some.injEq] at stepped
                    subst stepped same
                    exact sound_headerRead base sound member rfl idle stands.isOpen input.heap
                      input.header arriving read.1 read.2
                · cases stepped
              · cases payload
          | payload =>
              cases kinds
              rcases (handleReadPayload_cases input.heap error :
                  (_ ∧ (talk.client.dequeue ⟨other, .readPayload, .queued error⟩).handleReadPayload
                    input.heap other input.data input.transferred error = _) ∨ _) with
                ⟨goes, received⟩ | ⟨gives, reason, destroyed⟩
              · have goes : error = none ∨ error = some .eof ∧
                    (talk.client.connections other).n.toNat = input.transferred := goes
                simp only [Conversation.stepClient, readOf, goes, and_self, if_true] at stepped
                split at stepped
                · next read =>
                    simp only [moved', Option.map_some, Option.some.injEq] at stepped
                    subst stepped
                    have ran : client = ((talk.client.dequeue
                        ⟨other, .readPayload, .queued error⟩).receivePayload input.heap other
                          input.data).1 := by
                      rw [same, ← received]
                      rfl
                    rw [ran]
                    exact sound_payloadRead base sound member rfl idle stands.isOpen input.heap
                      arriving read.2
                · cases stepped
              · have gives : ¬ (error = none ∨ error = some .eof ∧
                    (talk.client.connections other).n.toNat = input.transferred) := gives
                simp only [Conversation.stepClient, readOf, gives, and_false, if_false, reopens,
                  written, Bool.false_eq_true, moved', Option.map_some, Option.some.injEq,
                  Option.elim_none] at stepped
                subst stepped
                have ran : client = (talk.client.dequeue
                    ⟨other, .readPayload, .queued error⟩).destroy other reason := by
                  rw [same, ← destroyed]
                  rfl
                rw [ran]
                exact .inl (Client.beyond_destroy known numbered)

end Runs

end CarrotRpc.Protocol.Conversing
