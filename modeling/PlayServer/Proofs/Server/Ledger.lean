import PlayServer.Proofs.Server.Traffic

/-!
# Conservation of traffic

`Ledger` is a server together with the payloads that were queued to each connection and the packets
that came in, and `Ledger.run` lets anything happen: events, packets sent to one connection or to
the members of a session, packets and whole streams that come in, lines that stall, take bytes again
or fail, writers that run, and connections that open. `InOrder` is the invariant.

`traffic_conserved` is what it comes to. The metrics are the sums over all connections, what has
been received are the packets that came in, and what has been sent are the payloads that the lines
have taken in full.
-/

namespace PlayServer

open ServerState (Event)

/-- What happens to a server and its lines. -/
inductive Transfer where
  /-- An event happens that is no run of the writers. -/
  | event (e : Event) (working : e ≠ .settle)
  /-- A client is admitted to a front end, or refused. -/
  | accept (front : Front) (address : SocketAddress)
  /-- A connection opens under an id of its own. -/
  | openWithId (front : Front) (id : ConnectionId) (address : SocketAddress)
  /-- A packet is sent. -/
  | send (h : Handle) (p : Packet)
  /-- A payload that is encoded already is sent. -/
  | sendBytes (h : Handle) (payload : Bytes)
  /-- A packet is sent to the members of a session but one. -/
  | broadcast (session : SessionId) (p : Packet) (excluding : Option ConnectionId)
  /-- A packet is read and handled. -/
  | receive (front : Front) (h : Handle) (p : Packet)
  /-- A connection is served to the end of its stream. -/
  | serve (front home : Front) (h : Handle) (stream : Stream)
  /-- From now on a line takes a number of bytes and then lets a write wait. -/
  | stall (h : Handle) (room : Nat)
  /-- A line takes a number of further bytes, for which a write that waits goes on. -/
  | makeRoom (h : Handle) (room : Nat)
  /-- A line takes bytes again, and a write that waits goes on. -/
  | unstall (h : Handle)
  /-- From now on a line takes a number of bytes and then fails every write. -/
  | failWrites (h : Handle) (room : Nat) (kind : IoFault)
  /-- A writer runs as far as it gets. -/
  | runWriter (h : Handle)
  /-- All writers run. -/
  | settle

/-- A server after something has happened. -/
def ServerState.transfer (s : ServerState) : Transfer → ServerState
  | .event e _ => s.step e
  | .accept front address => s.accept front address
  | .openWithId front id address => (s.openWithId front id address).2
  | .send h p => s.send h p
  | .sendBytes h payload => s.updateConnection h fun c => (c.sendBytes payload).2
  | .broadcast session p excluding => s.notify session p excluding
  | .receive front h p => (s.countReceived h p).handle front h p
  | .serve front home h stream => (s.serve front home h stream).2
  | .stall h room => s.absorb h { connection := (s.connection h).stall room }
  | .makeRoom h room => s.absorb h ((s.connection h).makeRoom (some room))
  | .unstall h => s.unstall h
  | .failWrites h room kind => s.absorb h { connection := (s.connection h).failWrites room kind }
  | .runWriter h => s.runWriter h
  | .settle => s.settle

/-- A server, the payloads that were queued to each connection, in the order of this, and the
packets that came in. -/
structure Ledger where
  state : ServerState
  accepted : Handle → List Bytes := fun _ => []
  dispatched : List Packet := []

namespace Ledger

/-- Something is handled, and what is queued by it is taken down. -/
def handle (l : Ledger) (s : ServerState) : Ledger :=
  { l with
    state := s
    accepted := fun k => l.accepted k ++ (l.state.connection k).queuedSince (s.connection k) }

/-- A connection opens, and nothing has been queued to it. -/
def opening (l : Ledger) (s : ServerState) : Ledger :=
  { l with
    state := s
    accepted := Function.update l.accepted l.state.lobby.connections.size [] }

/-- A packet is read and handled. -/
def receive (l : Ledger) (front : Front) (h : Handle) (p : Packet) : Ledger :=
  let counted := l.state.countReceived h p
  { l with state := counted, dispatched := l.dispatched ++ [p] }.handle (counted.handle front h p)

/-- Packets are read and handled until the reading ends. -/
def readLoop (front : Front) (h : Handle) : (fuel : Nat) → Stream → Ledger → Ledger
  | 0, _, l => l
  | fuel + 1, stream, l =>
    if !(l.state.connection h).isOpen then l
    else
      let taken := stream.readPacket
      match taken.result with
      | .error e => { l with state := (l.state.endReading e).2 }
      | .ok p =>
        let l := l.receive front h p
        readLoop front h fuel taken.rest { l with state := l.state.settle }

/-- A connection is served from its first packet to its end. -/
def serve (l : Ledger) (front home : Front) (h : Handle) (stream : Stream) : Ledger :=
  let l := readLoop front h (stream.size + 1) stream l
  let l := l.handle (l.state.close h)
  let l := { l with state := l.state.settle }
  l.handle (l.state.retire front home h).2

/-- Something happens. Nothing is queued by a line that changes or a writer that runs. -/
def perform (l : Ledger) (t : Transfer) : Ledger :=
  match t with
  | .receive front h p => l.receive front h p
  | .serve front home h stream => l.serve front home h stream
  | .accept .. | .openWithId .. => l.opening (l.state.transfer t)
  | .event .. | .send .. | .sendBytes .. | .broadcast .. => l.handle (l.state.transfer t)
  | .stall .. | .makeRoom .. | .unstall .. | .failWrites .. | .runWriter .. | .settle =>
    { l with state := l.state.transfer t }

/-- One thing happens after the other. -/
def run (l : Ledger) (transfers : List Transfer) : Ledger := transfers.foldl perform l

/-- The server of a ledger reads what the server alone reads. -/
theorem state_readLoop (front : Front) (h : Handle) (fuel : Nat) (stream : Stream) (l : Ledger) :
    (readLoop front h fuel stream l).state =
      (ServerState.readLoop front h fuel stream l.state).2 := by
  induction fuel generalizing stream l with
  | zero => rfl
  | succ fuel ih =>
    unfold readLoop ServerState.readLoop
    split
    · rfl
    dsimp only
    cases stream.readPacket.result with
    | error e => rfl
    | ok p => exact ih _ _

/-- The server of a ledger is the server alone. -/
theorem state_perform (l : Ledger) (t : Transfer) :
    (l.perform t).state = l.state.transfer t := by
  cases t with
  | serve front home h stream =>
    change (l.serve front home h stream).state = (l.state.serve front home h stream).2
    unfold serve ServerState.serve
    dsimp only [handle]
    rw [state_readLoop]
  | _ => rfl

/-- A ledger is in order: the metrics have counted what the connections have, the account of every
connection is in order, and what has been received are the packets that came in. -/
structure InOrder (l : Ledger) : Prop where
  balanced : l.state.Balanced
  accounts : ∀ k, (l.state.connection k).Accounted (l.accepted k)
  packets : l.state.totalTraffic.packetsReceived = l.dispatched.length
  bytes : l.state.totalTraffic.bytesReceived =
    (l.dispatched.map fun p => headerSize + p.body.length).sum

variable {l : Ledger}

/-- A ledger stays in order if nothing comes in, what is counted is counted for a connection and in
the metrics, and the accounts stay in order. -/
theorem InOrder.of_counts (h : l.InOrder) {s : ServerState} {k : Handle} {packets bytes : Nat}
    {accepted : Handle → List Bytes}
    (counts : ServerState.Counts k { packetsSent := packets, bytesSent := bytes } l.state s)
    (accounts : ∀ k, (s.connection k).Accounted (accepted k)) :
    ({ l with state := s, accepted } : Ledger).InOrder where
  balanced := counts.balanced h.balanced
  accounts
  packets := by
    rw [counts.totalTraffic]
    exact h.packets
  bytes := by
    rw [counts.totalTraffic]
    exact h.bytes

/-- A ledger stays in order when neither connections nor traffic change. -/
theorem InOrder.of_eq (h : l.InOrder) {s : ServerState} (lobby : s.lobby = l.state.lobby)
    (traffic : s.metrics.traffic = l.state.metrics.traffic) :
    ({ l with state := s } : Ledger).InOrder := by
  have hhandles : l.state.Handles s := .of_eq lobby traffic
  refine h.of_counts (hhandles.counts 0) fun k => ?_
  rw [ServerState.connection, lobby]
  exact h.accounts k

/-- A ledger stays in order when something is handled. -/
theorem InOrder.handle (h : l.InOrder) {s : ServerState} (handles : l.state.Handles s) :
    (l.handle s).InOrder :=
  h.of_counts (handles.counts 0) fun k => (h.accounts k).handled (handles.connections k)

/-- A ledger stays in order when a connection opens. -/
theorem InOrder.opening (h : l.InOrder) {s : ServerState} (opens : l.state.Opens s) :
    (l.opening s).InOrder := by
  refine h.of_counts opens.counts fun k => ?_
  by_cases hk : k = l.state.lobby.connections.size
  · subst hk
    rw [Function.update_self]
    exact opens.fresh.accounted
  · rw [Function.update_of_ne hk, opens.others k hk]
    exact h.accounts k

/-- A ledger stays in order when a writer runs, or a line changes what it will do. -/
theorem InOrder.absorb (h : l.InOrder) {k : Handle} {run : Connection.WriterRun}
    (ran : (l.state.connection k).Ran run) :
    ({ l with state := l.state.absorb k run } : Ledger).InOrder := by
  refine h.of_counts (ServerState.counts_absorb ran) fun k' => ?_
  have hget : (l.state.absorb k run).connection k' =
      if k' = k then run.connection else l.state.connection k' := by
    rw [ServerState.connection, (l.state.absorb_frame k run).1]
    exact l.state.connection_updateConnection_eq k k' _
  rw [hget]
  split
  next hk => exact hk ▸ ran.accounted (h.accounts k)
  · exact h.accounts k'

/-- A ledger stays in order when some writers run. -/
theorem InOrder.runWriters (h : l.InOrder) (handles : List Handle) :
    ({ l with state := handles.foldl ServerState.runWriter l.state } : Ledger).InOrder := by
  induction handles generalizing l with
  | nil => exact h
  | cons k rest ih => exact ih (h.absorb (Connection.ran_runWriter _))

/-- A ledger stays in order when all writers run. -/
theorem InOrder.settle (h : l.InOrder) : ({ l with state := l.state.settle } : Ledger).InOrder := by
  have hreset : ({ l with state := { l.state with
      lobby.connections := { l.state.lobby.connections with started := [] } } } : Ledger).InOrder :=
    ⟨h.balanced, h.accounts, h.packets, h.bytes⟩
  exact hreset.runWriters _

/-- A ledger stays in order when a packet is read and handled. -/
theorem InOrder.receive (h : l.InOrder) (front : Front) (k : Handle) (p : Packet) :
    (l.receive front k p).InOrder := by
  have hcounts := l.state.counts_countReceived k p
  have hcounted : ({ l with
      state := l.state.countReceived k p
      dispatched := l.dispatched ++ [p] } : Ledger).InOrder := by
    refine ⟨hcounts.balanced h.balanced, fun k' => ?_, ?_, ?_⟩
    · have hget : (l.state.countReceived k p).connection k' =
          if k' = k then (l.state.connection k).countReceived (headerSize + p.body.length)
          else l.state.connection k' :=
        l.state.connection_updateConnection_eq k k' _
      rw [hget]
      split
      next hk => exact hk ▸ (h.accounts k).countReceived _
      · exact h.accounts k'
    · rw [hcounts.totalTraffic, List.length_append, ← h.packets]
      rfl
    · rw [hcounts.totalTraffic, List.map_append, List.sum_append, ← h.bytes]
      rfl
  exact hcounted.handle (ServerState.handles_handle _ k p front)

/-- A ledger stays in order while packets are read and handled. -/
theorem InOrder.readLoop (h : l.InOrder) (front : Front) (k : Handle) (fuel : Nat)
    (stream : Stream) : (Ledger.readLoop front k fuel stream l).InOrder := by
  induction fuel generalizing l stream with
  | zero => exact h
  | succ fuel ih =>
    unfold Ledger.readLoop
    split
    · exact h
    dsimp only
    split
    next e _ =>
      obtain ⟨hlobby, htraffic⟩ := l.state.endReading_frame e
      exact h.of_eq hlobby htraffic
    · exact ih (h.receive front k _).settle _

/-- A ledger stays in order when a connection is served to the end of its stream. -/
theorem InOrder.serve (h : l.InOrder) (front home : Front) (k : Handle) (stream : Stream) :
    (l.serve front home k stream).InOrder := by
  have hread := h.readLoop front k (stream.size + 1) stream
  have hclosed := (hread.handle (.close _ k)).settle
  exact hclosed.handle (ServerState.handles_retire _ front home k)

/-- A ledger stays in order whatever happens. -/
theorem InOrder.perform (h : l.InOrder) (t : Transfer) : (l.perform t).InOrder := by
  cases t with
  | event e working => exact h.handle (l.state.handles_step working)
  | accept front address => exact h.opening (l.state.opens_accept front address)
  | openWithId front id address => exact h.opening (l.state.opens_openWithId front id address)
  | send k p => exact h.handle (.send l.state k p)
  | sendBytes k payload => exact h.handle (.updateConnection (.sendBytes _ payload))
  | broadcast session p excluding => exact h.handle (.notify l.state session p excluding)
  | receive front k p => exact h.receive front k p
  | serve front home k stream => exact h.serve front home k stream
  | stall k room => exact h.absorb (Connection.ran_stall _ room)
  | makeRoom k room => exact h.absorb (Connection.ran_makeRoom _ (some room))
  | unstall k => exact h.absorb (Connection.ran_makeRoom _ none)
  | failWrites k room kind => exact h.absorb (Connection.ran_failWrites _ room kind)
  | runWriter k => exact h.absorb (Connection.ran_runWriter _)
  | settle => exact h.settle

/-- A ledger stays in order in a run, and its server is the server alone. -/
theorem InOrder.run (h : l.InOrder) (transfers : List Transfer) :
    (l.run transfers).InOrder ∧
      (l.run transfers).state = transfers.foldl ServerState.transfer l.state := by
  induction transfers generalizing l with
  | nil => exact ⟨h, rfl⟩
  | cons t rest ih =>
    obtain ⟨horder, hstate⟩ := ih (h.perform t)
    refine ⟨horder, hstate.trans ?_⟩
    rw [List.foldl_cons, l.state_perform t]

/-- A ledger is in order before anything happens. -/
theorem inOrder_of_untouched {s : ServerState} (untouched : s.Untouched) :
    InOrder { state := s } := by
  have hconnections := untouched.connection
  have htotal : s.totalTraffic = {} := by
    have hnone (count : Traffic → Nat) (nothing : count {} = 0) : s.total count = 0 :=
      Finset.sum_eq_zero fun k _ => by rw [(hconnections k).traffic, nothing]
    simp [ServerState.totalTraffic, hnone]
  refine ⟨?_, fun k => (hconnections k).accounted, ?_, ?_⟩
  · rw [ServerState.Balanced, untouched.traffic, htotal]
    rfl
  · rw [htotal]
    rfl
  · rw [htotal]
    rfl

/-- The payloads that the line of a connection has taken in full. -/
def takenInFull (l : Ledger) (h : Handle) : List Bytes :=
  Delivery.wholeWithin (l.state.connection h).line.taken.length (l.accepted h)

/-- In order, what has been received without the headers are the bodies of the packets. -/
theorem InOrder.bodies (h : l.InOrder) :
    l.state.metrics.bytesReceived - 12 * l.state.metrics.packetsReceived =
      .ofNat (l.dispatched.map (·.body.length)).sum := by
  have hbalanced := h.balanced
  simp only [ServerState.Balanced, Metrics.traffic, Traffic.wrapped, Prod.mk.injEq] at hbalanced
  obtain ⟨-, -, hpackets, hbytes⟩ := hbalanced
  have hsplit : (l.dispatched.map fun p => headerSize + p.body.length).sum =
      (l.dispatched.map (·.body.length)).sum + 12 * l.dispatched.length := by
    simp [List.sum_map_add, headerSize, Nat.mul_comm, Nat.add_comm]
  rw [hpackets, hbytes, h.packets, h.bytes, hsplit, UInt64.ofNat_add, UInt64.ofNat_mul]
  exact UInt64.add_sub_cancel _ _

/-- Traffic is conserved. Whatever happens to a server over whose connections nothing had gone: the
metrics are the sums over all connections of what each has counted, as 64-bit counters hold them.
What has been received, without the headers, are the bodies of the packets that came in. Every line
has taken the beginning of what was queued to its connection, and what has been sent, over each and
over all, are the payloads that the lines have taken in full. -/
theorem traffic_conserved {s : ServerState} (untouched : s.Untouched) (transfers : List Transfer) :
    let l := ({ state := s } : Ledger).run transfers
    let m := l.state.metrics
    l.state = transfers.foldl ServerState.transfer s ∧
      (m.packetsSent = .ofNat (l.state.total Traffic.packetsSent) ∧
        m.bytesSent = .ofNat (l.state.total Traffic.bytesSent) ∧
        m.packetsReceived = .ofNat (l.state.total Traffic.packetsReceived) ∧
        m.bytesReceived = .ofNat (l.state.total Traffic.bytesReceived)) ∧
      m.bytesReceived - 12 * m.packetsReceived =
        .ofNat (l.dispatched.map (·.body.length)).sum ∧
      (∀ h, (l.state.connection h).line.taken <+: (l.accepted h).flatten ∧
        (l.state.connection h).traffic.bytesSent = (l.takenInFull h).flatten.length) ∧
      m.bytesSent = .ofNat (∑ h ∈ Finset.range l.state.lobby.connections.size,
        (l.takenInFull h).flatten.length) := by
  intro l m
  obtain ⟨horder, hstate⟩ := (inOrder_of_untouched untouched).run transfers
  have hbalanced := horder.balanced
  simp only [ServerState.Balanced, Metrics.traffic, Traffic.wrapped, Prod.mk.injEq] at hbalanced
  obtain ⟨hpacketsSent, hbytesSent, hpacketsReceived, hbytesReceived⟩ := hbalanced
  refine ⟨hstate, ⟨hpacketsSent, hbytesSent, hpacketsReceived, hbytesReceived⟩, horder.bodies,
    fun h => (horder.accounts h).bytesSent, ?_⟩
  have htaken : l.state.total Traffic.bytesSent =
      ∑ h ∈ Finset.range l.state.lobby.connections.size, (l.takenInFull h).flatten.length :=
    Finset.sum_congr rfl fun h _ => (horder.accounts h).bytesSent.2
  rw [← htaken]
  exact hbytesSent

/-- A server with two clients. -/
def twoClients : ServerState where
  lobby := .new 4 16
    { opened := [{ id := ⟨1⟩, address := default }, { id := ⟨2⟩, address := default }] }
  gateway := { maxPerAddress := 8 }
  game := { maxPerAddress := 8 }

/-- One client is answered a ping, and is no longer written to. The line of the other takes three
bytes of two payloads and then lets the write wait, until its stream ends after another ping. -/
def exchange : List Transfer :=
  let ping : Packet := ⟨Service.connection, Method.ping, 7, [MessageType.ping]⟩
  [.receive .gateway 0 ping, .settle, .failWrites 0 0 .brokenPipe, .stall 1 3,
    .sendBytes 1 [1, 2], .sendBytes 1 [3, 4], .serve .gateway .gateway 1 (.ofChunks [ping.encode])]

/-- The answer of thirteen bytes and the first of the two payloads have been sent, and two pings of
thirteen bytes have come in. -/
theorem traffic_conserved_exchange :
    let l := ({ state := twoClients } : Ledger).run exchange
    twoClients.Untouched ∧ l.state.metrics.traffic = (2, 15, 2, 26) ∧
      (15 : UInt64) = .ofNat (∑ h ∈ Finset.range l.state.lobby.connections.size,
        (l.takenInFull h).flatten.length) := by
  intro l
  have huntouched : twoClients.Untouched := by
    refine ⟨fun c hc => ?_, by decide⟩
    obtain rfl | rfl : c = { id := ⟨1⟩, address := default } ∨
        c = { id := ⟨2⟩, address := default } := by simpa [twoClients, Lobby.new] using hc
    · exact ⟨rfl, rfl, rfl⟩
    · exact ⟨rfl, rfl, rfl⟩
  have htraffic : l.state.metrics.traffic = (2, 15, 2, 26) := by decide +kernel
  have hsent : l.state.metrics.bytesSent = 15 := congrArg (·.2.1) htraffic
  obtain ⟨-, -, -, -, htaken⟩ := traffic_conserved huntouched exchange
  exact ⟨huntouched, htraffic, hsent.symm.trans htaken⟩

end Ledger

end PlayServer
