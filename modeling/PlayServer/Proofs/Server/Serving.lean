import PlayServer.Proofs.Server.Consistency
import PlayServer.Proofs.Wire.Ending

/-!
# Serving a connection from its first packet to its end

`readLoop_spec` says what the reading of a connection comes to: the packets of the stream are handed
on in order, up to the first one after which the connection is closed, and the reason is told by
whether there was one and, if not, by how the stream ends. `teardown` is what follows the reading,
and `serving_of_run` puts the two together for every state that a run reaches.

Handing a packet on counts it and makes progress; the registries, the counts of what came in and the
ids of the connections are not touched by anything else. That a connection which has ended is a
member of no session rests on the consistency of the lobby.
-/

namespace PlayServer

/-- The error that ends the reading of a rest that is no whole packet. -/
def StreamEnd.errorAfter (ending : StreamEnd) (rest : Bytes) : ReadError :=
  if DeclaresTooMuch rest then .bodyTooLarge (declaredLength rest) else ending.error

/-- The reason for which the reading of a rest that is no whole packet ends. -/
def StreamEnd.reasonAfter (ending : StreamEnd) (rest : Bytes) : EndReason :=
  if DeclaresTooMuch rest then .protocolFault
  else match ending with
    | .endOfStream => .peerClosed
    | .fault kind => if kind.isDisconnect then .peerClosed else .error
    | .closedHere => .closed

/-- The end of a stream brings no more bytes. -/
theorem StreamEnd.size_before (ending : StreamEnd) (chunks : List Bytes) :
    (Stream.ofChunks chunks ++ ending.arrivals).size = chunks.flatten.length := by
  induction chunks with
  | nil => cases ending <;> rfl
  | cons bs chunks ih =>
    change bs.length + (Stream.ofChunks chunks ++ ending.arrivals).size = _
    rw [ih, List.flatten_cons, List.length_append]

/-- Reading a rest that is no whole packet gives the error. -/
theorem Stream.readPacket_of_rest {chunks : List Bytes} (ending : StreamEnd)
    (h : DeclaresTooMuch chunks.flatten ∨ CutShort chunks.flatten) :
    (ofChunks chunks ++ ending.arrivals).readPacket.result =
      .error (ending.errorAfter chunks.flatten) := by
  rcases h with hlarge | hshort
  · rw [readPacket_of_declaresTooMuch_before ending hlarge, StreamEnd.errorAfter, if_pos hlarge]
  · rw [readPacket_of_cutShort_before ending hshort, StreamEnd.errorAfter,
      if_neg hshort.not_declaresTooMuch]

namespace ServerState

/-- What judging the error of a rest does: it gives the reason, and counts a fault exactly if the
limits of framing were broken. -/
theorem endReading_spec (s : ServerState) (ending : StreamEnd) (rest : Bytes) :
    (s.endReading (ending.errorAfter rest)).1 = ending.reasonAfter rest ∧
      (s.endReading (ending.errorAfter rest)).2.lobby = s.lobby ∧
      (s.endReading (ending.errorAfter rest)).2.intake = { s.intake with
        faults := s.intake.faults +
          if ending.reasonAfter rest = .protocolFault then 1 else 0 } := by
  unfold StreamEnd.errorAfter StreamEnd.reasonAfter
  split
  · exact ⟨rfl, rfl, rfl⟩
  · cases ending with
    | endOfStream => simp [StreamEnd.error, endReading, ReadError.isDisconnect]
    | closedHere => simp [StreamEnd.error, endReading]
    | fault kind => cases kind <;> simp [StreamEnd.error, endReading, ReadError.ofFault,
        ReadError.isDisconnect, IoFault.isDisconnect, logError, intake]

/-- The end of the loop counts a fault exactly if that is its reason, and does nothing else to what
is counted. -/
theorem endOfLoop_spec (s : ServerState) (h : Handle) (ending : StreamEnd) (rest : Bytes) :
    let last := if (s.connection h).isOpen then (s.endReading (ending.errorAfter rest)).2 else s
    let reason := if (s.connection h).isOpen then ending.reasonAfter rest else .closed
    last.lobby = s.lobby ∧ last.intake = { s.intake with
      faults := s.intake.faults + if reason = .protocolFault then 1 else 0 } := by
  obtain ⟨-, hlobby, hintake⟩ := s.endReading_spec ending rest
  cases (s.connection h).isOpen with
  | true => exact ⟨hlobby, hintake⟩
  | false => exact ⟨rfl, by simp⟩

/-- The packets that are handed on: those up to the first one after which the connection is
closed. -/
def handedOn (s : ServerState) (front : Front) (h : Handle) : List Packet → List Packet
  | [] => []
  | p :: ps =>
    p :: if ((s.dispatch front h p).connection h).isOpen then
      (s.dispatch front h p).handedOn front h ps else []

/-- Packets are handed on one after the other. -/
def dispatchAll (s : ServerState) (front : Front) (h : Handle) (ps : List Packet) : ServerState :=
  ps.foldl (fun s p => s.dispatch front h p) s

/-- How many session ids are drawn while packets are handed on. -/
def idsDispatched (s : ServerState) (front : Front) (h : Handle) : List Packet → Nat
  | [] => 0
  | p :: ps =>
    s.idsBetween (s.dispatch front h p) + (s.dispatch front h p).idsDispatched front h ps

/-- The bytes that packets take on the wire. -/
def bytesOf (ps : List Packet) : Nat := (ps.map fun p => headerSize + p.body.length).sum

section HandedOn

variable {front : Front} {h : Handle}

/-- Packets are handed on in order. -/
theorem handedOn_prefix (s : ServerState) (ps : List Packet) : s.handedOn front h ps <+: ps := by
  induction ps generalizing s with
  | nil => exact List.prefix_refl []
  | cons p ps ih =>
    rw [handedOn, List.prefix_cons_inj]
    split
    · exact ih _
    · exact List.nil_prefix

/-- Before each packet but the first that is handed on the connection is open. -/
theorem isOpen_before_handedOn {s : ServerState} (isOpen : (s.connection h).isOpen = true)
    {ps first rest : List Packet} (hsplit : s.handedOn front h ps = first ++ rest)
    (more : rest ≠ []) : ((s.dispatchAll front h first).connection h).isOpen = true := by
  induction first generalizing s ps with
  | nil => exact isOpen
  | cons p first ih =>
    cases ps with
    | nil => cases hsplit
    | cons p' ps =>
      rw [handedOn, List.cons_append, List.cons_eq_cons] at hsplit
      obtain ⟨rfl, hsplit⟩ := hsplit
      split at hsplit
      · next hopen => exact ih hopen hsplit
      · have hnone := (List.append_eq_nil_iff.mp hsplit.symm).2
        exact absurd hnone more

/-- If not all packets are handed on, the connection is closed after those that are. -/
theorem isOpen_after_handedOn {s : ServerState} {ps : List Packet}
    (less : s.handedOn front h ps ≠ ps) :
    ((s.dispatchAll front h (s.handedOn front h ps)).connection h).isOpen = false := by
  induction ps generalizing s with
  | nil => exact absurd rfl less
  | cons p ps ih =>
    rw [handedOn] at less ⊢
    change (((s.dispatch front h p).dispatchAll front h _).connection h).isOpen = false
    split at less
    · next hopen =>
      rw [if_pos hopen]
      exact ih fun hall => less (by rw [hall])
    · next hclosed =>
      have hclosed : ((s.dispatch front h p).connection h).isOpen = false := by simpa using hclosed
      rw [if_neg (by simp [hclosed])]
      exact hclosed

end HandedOn

/-- Reading hands on the packets of the stream up to the first one after which the connection is
closed. If there is none the error of the rest is judged. -/
theorem readLoop_spec {s : ServerState} (front : Front) {h : Handle} {chunks : List Bytes}
    {ps : List Packet} {rest : Bytes} {fuel : Nat} (ending : StreamEnd)
    (isOpen : (s.connection h).isOpen = true) (decodes : Decodes chunks.flatten ps rest)
    (hfuel : chunks.flatten.length < fuel) :
    let mid := s.dispatchAll front h (s.handedOn front h ps)
    let ended := mid.endReading (ending.errorAfter rest)
    ∃ consumed, readLoop front h fuel (Stream.ofChunks chunks ++ ending.arrivals) s =
      if (mid.connection h).isOpen then
        ({ reason := ended.1, dispatched := (s.handedOn front h ps).length, consumed }, ended.2)
      else
        ({ reason := .closed, dispatched := (s.handedOn front h ps).length, consumed }, mid) := by
  induction ps generalizing s chunks fuel with
  | nil =>
    obtain ⟨fuel, rfl⟩ : ∃ fuel₁, fuel = fuel₁ + 1 := ⟨fuel - 1, by omega⟩
    have hrest : chunks.flatten = rest := decodes.bytes
    have herror := Stream.readPacket_of_rest ending (hrest.symm ▸ decodes.rest)
    rw [hrest] at herror
    refine ⟨(Stream.ofChunks chunks ++ ending.arrivals).readPacket.consumed, ?_⟩
    change _ = if (s.connection h).isOpen then _ else _
    rw [if_pos isOpen, readLoop, isOpen]
    dsimp only
    rw [if_neg (by simp), herror]
    rfl
  | cons p ps ih =>
    obtain ⟨fuel, rfl⟩ : ∃ fuel₁, fuel = fuel₁ + 1 := ⟨fuel - 1, by omega⟩
    obtain ⟨hp, hps⟩ := List.forall_mem_cons.mp decodes.inLimit
    have hsplit : chunks.flatten = p.encode ++ (Packet.encodeAll ps ++ rest) := by
      rw [decodes.bytes, ← List.append_assoc]
      rfl
    obtain ⟨left, hread, hleft⟩ := Stream.readPacket_of_packet_before ending hp hsplit
    have hless : left.flatten.length < fuel := by
      rw [hsplit, List.length_append, Packet.length_encode, ← hleft, headerSize] at hfuel
      omega
    have hfirst : readLoop front h (fuel + 1) (Stream.ofChunks chunks ++ ending.arrivals) s =
        let later := readLoop front h fuel (Stream.ofChunks left ++ ending.arrivals)
          (s.dispatch front h p)
        ({ later.1 with
            dispatched := later.1.dispatched + 1
            consumed := p.encode.length + later.1.consumed }, later.2) := by
      rw [readLoop, isOpen]
      dsimp only
      rw [if_neg (by simp), hread]
    rw [hfirst, handedOn]
    cases hopen : ((s.dispatch front h p).connection h).isOpen with
    | true =>
      obtain ⟨consumed, hlater⟩ := ih hopen ⟨hleft, hps, decodes.rest⟩ hless
      rw [hlater]
      refine ⟨p.encode.length + consumed, ?_⟩
      change _ =
        if (((s.dispatch front h p).dispatchAll front h _).connection h).isOpen then _ else _
      rw [if_pos rfl]
      split <;> rfl
    | false =>
      -- The next round finds the connection closed, if there is a next round.
      have hstop : readLoop front h fuel (Stream.ofChunks left ++ ending.arrivals)
          (s.dispatch front h p) = ({ reason := .closed }, s.dispatch front h p) := by
        cases fuel with
        | zero => rfl
        | succ fuel =>
          rw [readLoop, hopen]
          rfl
      rw [hstop]
      refine ⟨p.encode.length, ?_⟩
      change _ = if ((s.dispatch front h p).connection h).isOpen then _ else _
      rw [hopen]
      rfl

/-- So many packets with so many bytes have been counted for a connection, the ids of connections
are the same, and so are the registries, the faults counted and the count of active connections. -/
structure Counted (h : Handle) (packets bytes : Nat) (s s' : ServerState) : Prop where
  ids : ∀ k, (s'.connection k).id = (s.connection k).id
  received : (s'.connection h).received =
    ((s.connection h).received.1 + packets, (s.connection h).received.2 + bytes)
  intake : s'.intake = { s.intake with
    packets := s.intake.packets + UInt64.ofNat packets
    bytes := s.intake.bytes + UInt64.ofNat bytes }

namespace Counted

variable {h : Handle} {packets bytes packets' bytes' : Nat} {s s' s'' : ServerState}

/-- Counts add up. -/
theorem trans (hs : Counted h packets bytes s s') (hs' : Counted h packets' bytes' s' s'') :
    Counted h (packets + packets') (bytes + bytes') s s'' where
  ids k := (hs'.ids k).trans (hs.ids k)
  received := by
    rw [hs'.received, hs.received]
    simp only [Nat.add_assoc]
  intake := by
    rw [hs'.intake, hs.intake]
    simp only [UInt64.ofNat_add, UInt64.add_assoc]

/-- Nothing is counted while a server is steady. -/
theorem of_steady (hs : s.Steady s') : Counted h 0 0 s s' where
  ids k := (hs.connections k).id
  received := (hs.connections h).received
  intake := by
    rw [hs.intake]
    simp

/-- Nothing is counted by progress. -/
theorem of_progress {l : Lobby} (hs : s.Progress l s') : Counted h 0 0 s s' where
  ids k := by
    have hmoved : (l.connection k).id = (s.connection k).id := by
      rw [Lobby.connection, hs.reseated k]
      rfl
    exact (hs.steady.connections k).id.trans hmoved
  received := by
    have hmoved : (l.connection h).received = (s.connection h).received := by
      rw [Lobby.connection, hs.reseated h]
      rfl
    exact (hs.steady.connections h).received.trans hmoved
  intake := by
    rw [hs.steady.intake]
    simp
    rfl

end Counted

/-- Handing a packet on counts it, and keeps the lobby consistent if the counter of session ids does
not run out. -/
theorem dispatch_spec {s : ServerState} {drawn : Nat} (hl : s.lobby.Consistent drawn)
    (front : Front) (h : Handle) (p : Packet)
    (room : drawn + s.idsBetween (s.dispatch front h p) < 2 ^ 32 - 1) :
    (s.dispatch front h p).lobby.Consistent (drawn + s.idsBetween (s.dispatch front h p)) ∧
      Counted h 1 (headerSize + p.body.length) s (s.dispatch front h p) := by
  have hget (k : Handle) : (s.countReceived h p).connection k =
      if k = h then (s.connection h).countReceived (headerSize + p.body.length)
      else s.connection k :=
    s.connection_updateConnection_eq h k _
  have hids (k : Handle) : ((s.countReceived h p).connection k).id = (s.connection k).id := by
    rw [hget]
    split
    · next hk => rw [hk]; rfl
    · rfl
  have hsessions (k : Handle) :
      ((s.countReceived h p).connection k).session = (s.connection k).session := by
    rw [hget]
    split
    · next hk => rw [hk]; rfl
    · rfl
  have hcounted : Counted h 1 (headerSize + p.body.length) s (s.countReceived h p) := by
    refine ⟨hids, ?_, rfl⟩
    rw [hget, if_pos rfl]
    rfl
  have hbefore : (s.countReceived h p).lobby.Consistent drawn := hl.of_connections hids hsessions
  obtain ⟨l, post, turn, -⟩ := serves_handle h p hbefore front
  have hprogress : (s.countReceived h p).Progress l (s.dispatch front h p) := by
    obtain ⟨hmoves, hreseated, hsteady⟩ := turn.progress
    exact ⟨hmoves, hreseated, hsteady.trans (steady_settle _).1⟩
  exact ⟨hprogress.consistent hbefore room, hcounted.trans (.of_progress hprogress)⟩

/-- Handing packets on counts them, and keeps the lobby consistent if the counter of session ids
does not run out. -/
theorem dispatchAll_spec {s : ServerState} {drawn : Nat} (hl : s.lobby.Consistent drawn)
    (front : Front) (h : Handle) (ps : List Packet)
    (room : drawn + s.idsDispatched front h ps < 2 ^ 32 - 1) :
    (s.dispatchAll front h ps).lobby.Consistent (drawn + s.idsDispatched front h ps) ∧
      Counted h ps.length (bytesOf ps) s (s.dispatchAll front h ps) := by
  induction ps generalizing s drawn with
  | nil => exact ⟨hl, .of_steady (.refl s)⟩
  | cons p ps ih =>
    simp only [idsDispatched, ← Nat.add_assoc] at room ⊢
    obtain ⟨hfirst, hcounted⟩ := dispatch_spec hl front h p (by omega)
    obtain ⟨hrest, hcounted'⟩ := ih hfirst room
    refine ⟨hrest, ?_⟩
    have hall := hcounted.trans hcounted'
    rwa [Nat.add_comm 1] at hall

/-- A connection at the game front end is closed, and leaves its session. -/
def depart (s : ServerState) (h : Handle) : ServerState :=
  ((s.close h).settle).leaveOnDisconnect h

/-- What follows the reading of a connection at the game front end: it is closed, and its service
ends. -/
def teardown (s : ServerState) (home : Front) (h : Handle) : ServerState :=
  ((s.close h).settle.retire .game home h).2

/-- The end of a connection draws no session id. -/
theorem nextId_leaveOnDisconnect {s : ServerState} {drawn : Nat} (hl : s.lobby.Consistent drawn)
    (h : Handle) : (s.leaveOnDisconnect h).lobby.nextId = s.lobby.nextId := by
  rcases leaveOnDisconnect_cases hl h with ⟨-, hsame⟩ | ⟨d, l, hleft, -, hposts⟩
  · rw [hsame]
  · have hmoves := s.lobby.quietMoves_leave h
    rw [hleft] at hmoves
    have hsame := congrArg Lobby.nextId hposts.lobby
    exact hsame.trans (by simpa using hmoves.limits.1)

/-- A connection that has ended names no session. -/
theorem session_leaveOnDisconnect {s : ServerState} {drawn : Nat} (hl : s.lobby.Consistent drawn)
    (h : Handle) : ((s.leaveOnDisconnect h).connection h).session = none := by
  rcases leaveOnDisconnect_cases hl h with ⟨hfree, hsame⟩ | ⟨d, l, -, hdismisses, hposts⟩
  · rwa [hsame]
  · obtain ⟨m, hm, hmh, -⟩ := hdismisses.member
    have hnamed : (s.lobby.connection h).session = some d.session :=
      hl.mem_seated_iff.mp (hmh ▸ List.mem_map_of_mem hm)
    have hfree : (l.connection h).session = none := by
      rw [Lobby.connection, hdismisses.connections, Connections.get_update, if_pos rfl]
      have hnamed : (s.lobby.connections.get h).session = some d.session := hnamed
      simp [Connection.releaseSession, hnamed]
    exact (hposts.connections h).session.trans hfree

/-- A connection that names no session is a member of none. -/
theorem not_member_of_free {l : Lobby} {drawn : Nat} (hl : l.Consistent drawn) {h : Handle}
    (free : (l.connection h).session = none) : ∀ session ∈ l.sessions, ∀ m ∈ session.members,
      m.handle ≠ h := by
  intro session hsession m hm he
  have hnamed := ((hl.sound session hsession).associated h).mpr ⟨m, hm, he⟩
  have hfree : (l.connections.get h).session = none := free
  simp [hfree] at hnamed

/-- A connection has gone: it is closed, names no session and is a member of none, and its id is not
in the registry of `home`. -/
structure Gone (s : ServerState) (home : Front) (h : Handle) : Prop where
  isClosed : (s.connection h).isOpen = false
  free : (s.connection h).session = none
  outside : ∀ session ∈ s.lobby.sessions, ∀ m ∈ session.members, m.handle ≠ h
  unregistered : (s.registry home).get? (s.connection h).id = none

/-- Closing a connection closes it, and it stays closed while the writers run. -/
theorem isOpen_settle_close (s : ServerState) (h : Handle) :
    (((s.close h).settle).connection h).isOpen = false := by
  have hnow : ((s.close h).connection h).isOpen = false := by
    rw [close, connection_updateConnection, Connection.isOpen_close]
  have hstays := ((steady_settle (s.close h)).1.connections h).opened
  rw [hnow] at hstays
  simpa using hstays

/-- A connection that departs is closed and names no session; nothing is counted. -/
theorem depart_spec {s : ServerState} {drawn : Nat} (hl : s.lobby.Consistent drawn)
    (room : drawn < 2 ^ 32 - 1) (h : Handle) :
    (s.depart h).lobby.Consistent drawn ∧ Counted h 0 0 s (s.depart h) ∧
      ((s.depart h).connection h).isOpen = false ∧ ((s.depart h).connection h).session = none := by
  have hclosed : s.Steady (s.close h).settle :=
    (Posts.close s h).steady.trans (steady_settle _).1
  have hbefore := hclosed.consistent hl
  obtain ⟨l, post, turn⟩ := turns_leaveOnDisconnect hbefore h
  have hprogress : ((s.close h).settle).Progress l (s.depart h) := turn.progress
  have hnone : ((s.close h).settle).idsBetween (s.depart h) = 0 :=
    if_pos (nextId_leaveOnDisconnect hbefore h)
  have hafter := hprogress.consistent hbefore (by rw [hnone]; exact room)
  rw [hnone] at hafter
  refine ⟨hafter, (Counted.of_steady hclosed).trans (.of_progress hprogress), ?_,
    session_leaveOnDisconnect hbefore h⟩
  have hmoved : (l.connection h).isOpen = false := by
    rw [Lobby.connection, hprogress.reseated h]
    exact isOpen_settle_close s h
  by_contra hopen
  have hwas := (hprogress.steady.connections h).opened (by simpa using hopen)
  exact absurd (hmoved.symm.trans hwas) (by simp)

/-- A connection that is taken out of a registry is not in it, and nothing else changes. -/
theorem unregister_spec (s : ServerState) (home : Front) (id : ConnectionId) :
    (s.unregister home id).2.lobby = s.lobby ∧ (s.unregister home id).2.metrics = s.metrics ∧
      ((s.unregister home id).2.registry home).get? id = none := by
  have hgone (r : Registry) : (r.remove id).get? id = none := by
    simp [Registry.get?, Registry.remove, List.find?_filter]
  cases home with
  | gateway => exact ⟨rfl, rfl, hgone _⟩
  | game => exact ⟨rfl, rfl, hgone _⟩

/-- The end of a connection leaves it gone, and counts nothing but that it is not active any more. -/
theorem teardown_spec {s : ServerState} {drawn : Nat} (hl : s.lobby.Consistent drawn)
    (room : drawn < 2 ^ 32 - 1) (home : Front) (h : Handle) :
    (s.teardown home h).Gone home h ∧
      ((s.teardown home h).connection h).received = (s.connection h).received ∧
      (s.teardown home h).metrics = (s.depart h).metrics.connectionClosed := by
  obtain ⟨hafter, hcounted, hclosed, hfree⟩ := depart_spec hl room h
  obtain ⟨hlobby, hmetrics, hgone⟩ :=
    unregister_spec (s.depart h) home ((s.depart h).connection h).id
  change (s.teardown home h).lobby = _ at hlobby
  have hconnection : (s.teardown home h).connection h = (s.depart h).connection h :=
    congrArg (fun lobby : Lobby => lobby.connection h) hlobby
  refine ⟨⟨?_, ?_, ?_, ?_⟩, ?_, congrArg Metrics.connectionClosed hmetrics⟩
  · rw [hconnection, hclosed]
  · rw [hconnection, hfree]
  · rw [hlobby]
    exact not_member_of_free hafter hfree
  · rw [hconnection]
    exact hgone
  · rw [hconnection]
    exact hcounted.received

/-- The intake of a server tells what it has counted once a connection is active no more, and who is
registered. -/
theorem of_intake {s : ServerState} {i : Intake} (h : s.intake = i) :
    s.metrics.connectionClosed.packetsReceived = i.packets ∧
      s.metrics.connectionClosed.bytesReceived = i.bytes ∧
      s.metrics.connectionClosed.protocolFaults = i.faults ∧
      s.metrics.connectionClosed.connectionsActive =
        (if i.active = 0 then 0 else i.active - 1) ∧
      s.gateway = i.gateway ∧ s.game = i.game := by
  subst h
  exact ⟨rfl, rfl, rfl, rfl, rfl, rfl⟩

/-- How a connection was served is known once it is known how its reading went. -/
theorem serve_of_readLoop {s last : ServerState} {h : Handle} {stream : Stream} {read : Served}
    {home : Front} (hread : readLoop .game h (stream.size + 1) stream s = (read, last)) :
    s.serve .game home h stream =
      ({ read with removed := ((last.close h).settle.retire .game home h).1 },
        last.teardown home h) := by
  rw [serve, hread]
  rfl

/-- What serving a connection at the game front end comes to, for a stream that decodes to packets
`ps` with a rest that is no whole packet, of which packets `handed` are handed on. -/
structure Service (s : ServerState) (home : Front) (h : Handle) (ps : List Packet) (rest : Bytes)
    (ending : StreamEnd) (handed : List Packet) (served : Served) (s' : ServerState) : Prop where
  /-- Packets are handed on in order, from the first one of the stream. -/
  inOrder : handed <+: ps
  dispatched : served.dispatched = handed.length
  /-- The connection is open before each packet that is handed on. -/
  isOpen_before : ∀ first more, handed = first ++ more → more ≠ [] →
    ((s.dispatchAll .game h first).connection h).isOpen = true
  /-- It is closed after the last one, if packets of the stream are left. -/
  isClosed_after : handed ≠ ps → ((s.dispatchAll .game h handed).connection h).isOpen = false
  reason : served.reason =
    if ((s.dispatchAll .game h handed).connection h).isOpen then ending.reasonAfter rest
    else .closed
  /-- Nothing else happens but that the error is judged and the connection ends. -/
  state : s' =
    let mid := s.dispatchAll .game h handed
    let last :=
      if (mid.connection h).isOpen then (mid.endReading (ending.errorAfter rest)).2 else mid
    last.teardown home h
  faults : s'.metrics.protocolFaults =
    s.metrics.protocolFaults + if served.reason = .protocolFault then 1 else 0
  packetsReceived : s'.metrics.packetsReceived =
    s.metrics.packetsReceived + UInt64.ofNat handed.length
  bytesReceived : s'.metrics.bytesReceived = s.metrics.bytesReceived + UInt64.ofNat (bytesOf handed)
  /-- One connection less is active. -/
  active : s'.metrics.connectionsActive =
    if s.metrics.connectionsActive = 0 then 0 else s.metrics.connectionsActive - 1
  received : (s'.connection h).received =
    ((s.connection h).received.1 + handed.length, (s.connection h).received.2 + bytesOf handed)
  gone : s'.Gone home h
  removed : served.removed = true

/-- A connection that is open and registered, in whatever state a run has led to, is served as it
should be: whatever comes in, in whatever chunks and however it ends. -/
theorem serving_of_run {s₀ : ServerState} {maxPlayers maxSessions : Nat} {cs : Connections}
    (lobby : s₀.lobby = .new maxPlayers maxSessions cs) (free : ∀ c ∈ cs.opened, c.session = none)
    (events : List Event) (home : Front) {h : Handle}
    (isOpen : ((s₀.run events).connection h).isOpen = true)
    (registered : ((s₀.run events).registry home).get? ((s₀.run events).connection h).id = some h)
    (chunks : List Bytes) (ending : StreamEnd) :
    let s := s₀.run events
    let served := s.serve .game home h (Stream.ofChunks chunks ++ ending.arrivals)
    (∃ ps rest, Decodes chunks.flatten ps rest) ∧
      ∀ ps rest, Decodes chunks.flatten ps rest →
        let handed := s.handedOn .game h ps
        s₀.idsDrawn events + s.idsDispatched .game h handed < 2 ^ 32 - 1 →
        s.Service home h ps rest ending handed served.1 served.2 := by
  intro s served
  refine ⟨exists_decodes _, fun ps rest decodes => ?_⟩
  intro handed room
  have hconsistent : s.lobby.Consistent (s₀.idsDrawn events) := by
    have hstart : s₀.lobby.Consistent 0 :=
      lobby ▸ Lobby.consistent_new maxPlayers maxSessions free
    have hrun := consistent_run hstart events (by omega)
    rwa [Nat.zero_add] at hrun
  obtain ⟨hmid, hcounted⟩ := dispatchAll_spec hconsistent .game h handed room
  set mid := s.dispatchAll .game h handed with hmiddle
  have hreason := (mid.endReading_spec ending rest).1
  obtain ⟨hlastLobby, hlastIntake⟩ := mid.endOfLoop_spec h ending rest
  -- What is left when reading has ended, and the reason for its end.
  set last := if (mid.connection h).isOpen then (mid.endReading (ending.errorAfter rest)).2 else mid
    with hlast
  set reason := if (mid.connection h).isOpen then ending.reasonAfter rest else .closed with hwhy
  obtain ⟨-, hleft, -⟩ := depart_spec (hlastLobby ▸ hmid) (by omega) h
  obtain ⟨hgone, hreceived, hmetrics⟩ := teardown_spec (hlastLobby ▸ hmid) (by omega) home h
  have hleftIntake : (last.depart h).intake = last.intake := by
    rw [hleft.intake]
    simp
  have hall : (last.depart h).intake = { s.intake with
      packets := s.intake.packets + UInt64.ofNat handed.length
      bytes := s.intake.bytes + UInt64.ofNat (bytesOf handed)
      faults := s.intake.faults + if reason = .protocolFault then 1 else 0 } := by
    rw [hleftIntake, hlastIntake, hcounted.intake]
  obtain ⟨hpackets, hbytes, hfaults, hactive, hgateway, hgame⟩ := of_intake hall
  have hregistry : (last.depart h).registry home = s.registry home := by
    cases home with
    | gateway => exact hgateway
    | game => exact hgame
  have hconnection : last.connection h = mid.connection h :=
    congrArg (fun lobby : Lobby => lobby.connection h) hlastLobby
  have hid : ((last.depart h).connection h).id = (s.connection h).id := by
    rw [hleft.ids, hconnection, hcounted.ids]
  have hremoved : ((last.close h).settle.retire .game home h).1 = true := by
    change (((last.depart h).registry home).get? ((last.depart h).connection h).id).isSome = true
    rw [hregistry, hid, show (s.registry home).get? (s.connection h).id = some h from registered]
    rfl
  have hread : ∃ consumed, served =
      ({ reason, dispatched := handed.length, consumed, removed := true },
        last.teardown home h) := by
    obtain ⟨consumed, hloop⟩ := readLoop_spec .game ending isOpen decodes (Nat.lt_succ_self _)
    have hloop : readLoop .game h ((Stream.ofChunks chunks ++ ending.arrivals).size + 1)
        (Stream.ofChunks chunks ++ ending.arrivals) s =
          ({ reason, dispatched := handed.length, consumed }, last) := by
      rw [ending.size_before chunks, Nat.add_one, hloop, hwhy, hlast]
      split
      · rw [hreason]
      · rfl
    refine ⟨consumed, ?_⟩
    rw [show served = _ from serve_of_readLoop hloop, hremoved]
  obtain ⟨consumed, hread⟩ := hread
  rw [hread]
  exact {
    inOrder := s.handedOn_prefix ps
    dispatched := rfl
    isOpen_before := fun first more hsplit hmore => isOpen_before_handedOn isOpen hsplit hmore
    isClosed_after := isOpen_after_handedOn
    reason := rfl
    state := rfl
    faults := by rw [hmetrics, hfaults]; rfl
    packetsReceived := by rw [hmetrics, hpackets]; rfl
    bytesReceived := by rw [hmetrics, hbytes]; rfl
    active := by rw [hmetrics, hactive]; rfl
    received := by rw [hreceived, hconnection, hcounted.received]
    gone := hgone
    removed := rfl }

/-- A server with a player who has logged in and is registered at the game front end. -/
def onePlayer : ServerState where
  lobby := .new 4 16
    { opened := [{ id := ⟨1⟩, address := default, auth := .authenticated, login := some "alice" }] }
  gateway := { maxPerAddress := 8 }
  game := { maxPerAddress := 8, entries := [(⟨1⟩, 0)] }

/-- A request to open a session. -/
def sessionRequest : Packet := ⟨Service.game, Method.createSession, 7, []⟩

/-- A header that declares one byte more than it may, and some bytes after it. -/
def tooMuch : Bytes := Header.encode ⟨Service.game, Method.createSession, 8, 65537⟩ ++ [1, 2, 3]

/-- The player opens a session, and then declares too much: nothing remains of the session's
member. -/
theorem serving_of_run_opensThenDeclaresTooMuch :
    let s := onePlayer.run [.tick .zero]
    let chunks := [sessionRequest.encode.take 5, sessionRequest.encode.drop 5 ++ tooMuch]
    let served := s.serve .game .game 0 (Stream.ofChunks chunks ++ StreamEnd.endOfStream.arrivals)
    (s.connection 0).isOpen = true ∧ (s.registry .game).get? (s.connection 0).id = some 0 ∧
      onePlayer.idsDrawn [.tick .zero] + s.idsDispatched .game 0 [sessionRequest] < 2 ^ 32 - 1 ∧
      ((s.dispatch .game 0 sessionRequest).connection 0).session = some ⟨1⟩ ∧
      served.1.reason = .protocolFault ∧ served.1.dispatched = 1 ∧ served.2.Gone .game 0 := by
  intro s chunks served
  have hstarts : ∀ c ∈ (onePlayer.lobby.connections).opened, c.session = none := by decide
  have hopen : (s.connection 0).isOpen = true := by decide +kernel
  have hregistered : (s.registry .game).get? (s.connection 0).id = some 0 := by decide +kernel
  have hdecodes : Decodes chunks.flatten [sessionRequest] tooMuch :=
    ⟨by decide +kernel, by simp [Packet.InLimit, sessionRequest], .inl (by decide +kernel)⟩
  have hhanded : s.handedOn .game 0 [sessionRequest] = [sessionRequest] := by decide +kernel
  have hroom : onePlayer.idsDrawn [.tick .zero] +
      s.idsDispatched .game 0 (s.handedOn .game 0 [sessionRequest]) < 2 ^ 32 - 1 := by
    decide +kernel
  have hjoined : ((s.dispatch .game 0 sessionRequest).connection 0).session = some ⟨1⟩ := by
    decide +kernel
  have hservice : s.Service .game 0 [sessionRequest] tooMuch .endOfStream
      (s.handedOn .game 0 [sessionRequest]) served.1 served.2 :=
    (serving_of_run rfl hstarts [.tick .zero] .game hopen hregistered chunks .endOfStream).2
      [sessionRequest] tooMuch hdecodes hroom
  rw [hhanded] at hservice hroom
  have hreason : served.1.reason = .protocolFault := hservice.reason.trans (by decide +kernel)
  exact ⟨hopen, hregistered, hroom, hjoined, hreason, hservice.dispatched, hservice.gone⟩

end ServerState

end PlayServer
