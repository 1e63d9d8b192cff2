import Mathlib.Algebra.BigOperators.Group.Finset.Piecewise
import PlayServer.Proofs.Server.Handled

/-!
# Traffic

A connection counts what goes over it, and the metrics count what goes over all connections. The two
are counted in different places. `Balanced` says that they agree: the metrics are the sums over all
connections, as 64-bit counters hold them.

Whatever is counted is counted for one connection and in the metrics: `Counts`. This is so when
something is handled, when a packet comes in, when a writer runs, and when a connection opens.
-/

namespace PlayServer

/-- Traffic and further traffic. -/
def Traffic.plus (t further : Traffic) : Traffic where
  packetsSent := t.packetsSent + further.packetsSent
  bytesSent := t.bytesSent + further.bytesSent
  packetsReceived := t.packetsReceived + further.packetsReceived
  bytesReceived := t.bytesReceived + further.bytesReceived

/-- Traffic as 64-bit counters hold it. -/
def Traffic.wrapped (t : Traffic) : UInt64 × UInt64 × UInt64 × UInt64 :=
  (.ofNat t.packetsSent, .ofNat t.bytesSent, .ofNat t.packetsReceived, .ofNat t.bytesReceived)

namespace Metrics

variable {m : Metrics} {total : Traffic}

/-- A packet that was read is counted with what was counted before. -/
theorem traffic_packetReceived (counted : m.traffic = total.wrapped) (bytes : Nat) :
    (m.packetReceived bytes).traffic =
      (total.plus { packetsReceived := 1, bytesReceived := bytes }).wrapped := by
  simp only [traffic, Traffic.wrapped, Prod.mk.injEq] at counted
  simp [traffic, packetReceived, Traffic.wrapped, Traffic.plus, UInt64.ofNat_add, counted]

/-- A payload that was written in full is counted with what was counted before. -/
theorem traffic_packetSent (counted : m.traffic = total.wrapped) (bytes : Nat) :
    (m.packetSent bytes).traffic =
      (total.plus { packetsSent := 1, bytesSent := bytes }).wrapped := by
  simp only [traffic, Traffic.wrapped, Prod.mk.injEq] at counted
  simp [traffic, packetSent, Traffic.wrapped, Traffic.plus, UInt64.ofNat_add, counted]

/-- Payloads that were written in full are counted with what was counted before. -/
theorem traffic_foldl_packetSent (counted : m.traffic = total.wrapped) (sizes : List Nat) :
    (sizes.foldl packetSent m).traffic =
      (total.plus { packetsSent := sizes.length, bytesSent := sizes.sum }).wrapped := by
  induction sizes generalizing m total with
  | nil => exact counted
  | cons size rest ih =>
    rw [List.foldl_cons, ih (traffic_packetSent counted size)]
    simp only [Traffic.plus, List.length_cons, List.sum_cons]
    congr 2 <;> omega

end Metrics

namespace ServerState

/-- The sum of a count over all connections. -/
def total (s : ServerState) (count : Traffic → Nat) : Nat :=
  ∑ h ∈ Finset.range s.lobby.connections.size, count (s.connection h).traffic

/-- The sums of all counts over all connections. -/
def totalTraffic (s : ServerState) : Traffic where
  packetsSent := s.total Traffic.packetsSent
  bytesSent := s.total Traffic.bytesSent
  packetsReceived := s.total Traffic.packetsReceived
  bytesReceived := s.total Traffic.bytesReceived

/-- Nothing has gone over any connection, and nothing has been counted. -/
structure Untouched (s : ServerState) : Prop where
  connections : ∀ c ∈ s.lobby.connections.opened, c.Untouched
  traffic : s.metrics.traffic = (0, 0, 0, 0)

/-- The metrics have counted what the connections have. -/
def Balanced (s : ServerState) : Prop := s.metrics.traffic = s.totalTraffic.wrapped

/-- Traffic has been counted for a connection and in the metrics, and for no other connection. -/
structure Counts (h : Handle) (t : Traffic) (s s' : ServerState) : Prop where
  own : (s'.connection h).traffic = (s.connection h).traffic.plus t
  others : ∀ k, k ≠ h → (s'.connection k).traffic = (s.connection k).traffic
  metrics : ∀ total : Traffic, s.metrics.traffic = total.wrapped →
    s'.metrics.traffic = (total.plus t).wrapped

variable {s s' : ServerState} {h : Handle} {t : Traffic} {count : Traffic → Nat}

/-- Under a handle that was given to no connection stands a vacant one. -/
theorem connection_of_size_le {k : Handle} (hk : s.lobby.connections.size ≤ k) :
    s.connection k = Connections.vacant k := by
  change s.lobby.connections.opened.getD k (Connections.vacant k) = _
  rw [List.getD_eq_getElem?_getD, List.getElem?_eq_none hk, Option.getD_none]

/-- Nothing has gone over the connection under any handle. -/
theorem Untouched.connection (untouched : s.Untouched) (k : Handle) :
    (s.connection k).Untouched := by
  by_cases hk : k < s.lobby.connections.size
  · have hget : s.connection k = s.lobby.connections.opened[k] := by
      change s.lobby.connections.opened.getD k (Connections.vacant k) = _
      rw [List.getD_eq_getElem?_getD, List.getElem?_eq_getElem hk, Option.getD_some]
    rw [hget]
    exact untouched.connections _ (List.getElem_mem hk)
  · rw [connection_of_size_le (Nat.not_lt.mp hk)]
    exact ⟨rfl, rfl, rfl⟩

/-- A sum may run over handles that were given to no connection. -/
theorem total_eq_sum (nothing : count {} = 0) {n : Nat} (hn : s.lobby.connections.size ≤ n) :
    s.total count = ∑ h ∈ Finset.range n, count (s.connection h).traffic := by
  apply Finset.sum_subset (Finset.range_mono hn)
  intro k _ hk
  rw [Finset.mem_range, Nat.not_lt] at hk
  rw [connection_of_size_le hk]
  exact nothing

/-- A sum grows by what is counted for one connection. -/
theorem Counts.total (counts : Counts h t s s') (nothing : count {} = 0)
    (additive : ∀ a b : Traffic, count (a.plus b) = count a + count b) :
    s'.total count = s.total count + count t := by
  let n := max (max s.lobby.connections.size s'.lobby.connections.size) (h + 1)
  have hmem : h ∈ Finset.range n := Finset.mem_range.mpr (by omega)
  have hgrows (k : Handle) : count (s'.connection k).traffic =
      count (s.connection k).traffic + if k = h then count t else 0 := by
    split
    next hk => rw [hk, counts.own, additive]
    next hk => rw [counts.others k hk, Nat.add_zero]
  rw [total_eq_sum nothing (n := n) (by omega), total_eq_sum nothing (n := n) (by omega)]
  simp only [hgrows, Finset.sum_add_distrib, Finset.sum_ite_eq', if_pos hmem]

/-- All sums grow by what is counted for one connection. -/
theorem Counts.totalTraffic (counts : Counts h t s s') :
    s'.totalTraffic = s.totalTraffic.plus t := by
  simp only [ServerState.totalTraffic, Traffic.plus, Traffic.mk.injEq]
  exact ⟨counts.total rfl fun _ _ => rfl, counts.total rfl fun _ _ => rfl,
    counts.total rfl fun _ _ => rfl, counts.total rfl fun _ _ => rfl⟩

/-- What is counted for a connection and in the metrics leaves the two in balance. -/
theorem Counts.balanced (counts : Counts h t s s') (balanced : s.Balanced) : s'.Balanced := by
  rw [Balanced, counts.totalTraffic]
  exact counts.metrics _ balanced

/-- Handling counts nothing. -/
theorem Handles.counts (handles : s.Handles s') (h : Handle) : Counts h {} s s' where
  own := (handles.connections h).traffic
  others k _ := (handles.connections k).traffic
  metrics _ htotal := handles.traffic.trans htotal

/-- A connection that is changed counts what it has counted more. -/
theorem counts_updateConnection {change : Connection → Connection}
    (own : (change (s.connection h)).traffic = (s.connection h).traffic.plus t)
    (lobby : s'.lobby = (s.updateConnection h change).lobby)
    (metrics : ∀ total : Traffic, s.metrics.traffic = total.wrapped →
      s'.metrics.traffic = (total.plus t).wrapped) : Counts h t s s' where
  own := by
    rw [← own, ← connection_updateConnection s h change, connection, lobby]
    rfl
  others k hk := by
    rw [← connection_updateConnection_of_ne hk s change, connection, lobby]
    rfl
  metrics

/-- A packet that was read is counted. -/
theorem counts_countReceived (s : ServerState) (h : Handle) (p : Packet) :
    Counts h { packetsReceived := 1, bytesReceived := headerSize + p.body.length } s
      (s.countReceived h p) :=
  counts_updateConnection rfl rfl fun _ counted => Metrics.traffic_packetReceived counted _

/-- What a run of a writer comes to is taken in by the connection and the metrics. -/
theorem absorb_frame (s : ServerState) (h : Handle) (run : Connection.WriterRun) :
    (s.absorb h run).lobby = (s.updateConnection h fun _ => run.connection).lobby ∧
      (s.absorb h run).metrics = run.written.foldl Metrics.packetSent s.metrics := by
  unfold absorb
  dsimp only
  split
  · exact ⟨rfl, rfl⟩
  · split <;> exact ⟨rfl, rfl⟩

/-- What a writer has written is counted. -/
theorem counts_absorb {run : Connection.WriterRun} (ran : (s.connection h).Ran run) :
    Counts h { packetsSent := run.written.length, bytesSent := run.written.sum } s
      (s.absorb h run) := by
  obtain ⟨hlobby, hmetrics⟩ := s.absorb_frame h run
  refine counts_updateConnection ran.traffic hlobby fun total counted => ?_
  rw [hmetrics]
  exact Metrics.traffic_foldl_packetSent counted run.written

/-- The end of a reading changes no connection and counts no traffic. -/
theorem endReading_frame (s : ServerState) (e : ReadError) :
    (s.endReading e).2.lobby = s.lobby ∧
      (s.endReading e).2.metrics.traffic = s.metrics.traffic := by
  unfold endReading
  split
  · exact ⟨rfl, rfl⟩
  · exact ⟨rfl, rfl⟩
  · split <;> exact ⟨rfl, rfl⟩

/-- A connection has been opened under the next handle, and nothing else has happened to any. -/
structure Opens (s s' : ServerState) : Prop where
  fresh : (s'.connection s.lobby.connections.size).Untouched
  others : ∀ k, k ≠ s.lobby.connections.size → s'.connection k = s.connection k
  traffic : s'.metrics.traffic = s.metrics.traffic

/-- Registries, records, the log and other counts may change when a connection opens. -/
theorem Opens.of_eq {s'' : ServerState} (opens : s.Opens s') (lobby : s''.lobby = s'.lobby)
    (traffic : s''.metrics.traffic = s'.metrics.traffic) : s.Opens s'' where
  fresh := by
    rw [connection, lobby]
    exact opens.fresh
  others k hk := by
    rw [connection, lobby]
    exact opens.others k hk
  traffic := traffic.trans opens.traffic

/-- The connection that has opened may close. -/
theorem Opens.close (opens : s.Opens s') : s.Opens (s'.close s.lobby.connections.size) where
  fresh := by
    rw [ServerState.close, connection_updateConnection]
    exact opens.fresh.close
  others k hk := by
    rw [← opens.others k hk]
    exact connection_updateConnection_of_ne hk s' _
  traffic := opens.traffic

/-- A connection opens under an id, and closes if it is refused. -/
theorem opens_openWithId (s : ServerState) (front : Front) (id : ConnectionId)
    (address : SocketAddress) : s.Opens (s.openWithId front id address).2 := by
  have hopened :
      s.Opens (s.updateConnection s.lobby.connections.size fun _ => { id, address }) := by
    refine ⟨?_, fun k hk => ?_, rfl⟩
    · rw [connection_updateConnection]
      exact ⟨rfl, rfl, rfl⟩
    · exact connection_updateConnection_of_ne hk s _
  unfold openWithId
  dsimp only
  split
  · cases front <;> exact hopened.of_eq rfl rfl
  · exact hopened.close

/-- A client is admitted or refused. -/
theorem opens_accept (s : ServerState) (front : Front) (address : SocketAddress) :
    s.Opens (s.accept front address) := by
  obtain ⟨hfresh, hothers, htraffic⟩ := opens_openWithId
    { s with nextConnection := s.nextConnection + 1 } front ⟨s.nextConnection⟩ address
  have hopened : s.Opens (s.openConnection front address).2 := ⟨hfresh, hothers, htraffic⟩
  unfold accept
  split
  next heq =>
    rw [heq] at hopened
    exact hopened.of_eq rfl rfl
  next heq =>
    rw [heq] at hopened
    exact hopened.of_eq rfl rfl

/-- A connection that opens has counted nothing. -/
theorem Opens.counts (opens : s.Opens s') : Counts s.lobby.connections.size {} s s' where
  own := by
    rw [opens.fresh.traffic, connection_of_size_le (Nat.le_refl _)]
    rfl
  others k hk := by rw [opens.others k hk]
  metrics _ counted := opens.traffic.trans counted

end ServerState

end PlayServer
