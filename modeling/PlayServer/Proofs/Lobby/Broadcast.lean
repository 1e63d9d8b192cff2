import PlayServer.Proofs.Connection.Delivery
import PlayServer.Proofs.Lobby.Move

/-!
# Broadcasts reach everyone they can

A broadcast goes through the members of a session one after the other. What becomes of each depends
on its own connection and on nothing else: no two members stand for the same connection, so none is
sent to twice, and the state that one is in, idle, in the middle of a write, stalled or closed, is of
no concern to the next. In particular the order in which the member table is gone through is of no
concern.

`get_sendEach` says this of the connections and `sendEach_report` of the counts, and
`broadcast_isolated` puts them together.
-/

namespace PlayServer

/-- What becomes of a connection with a writer that a payload is sent to: it is queued unless the
connection is closed. -/
theorem Connection.snd_sendBytes {c : Connection} (hasWriter : c.hasWriter = true)
    (payload : Bytes) : (c.sendBytes payload).2 =
      if c.isOpen = true then { c with outbox := c.outbox.enqueue payload } else c := by
  split
  · next hopen => rw [sendBytes_of_open hopen hasWriter]
  · next hclosed => rw [sendBytes_of_closed (by simpa using hclosed)]

namespace Session

variable {s : Session} {cs : Connections}

/-- What sending to some members makes of a connection depends on this connection alone. -/
theorem get_sendEach (cs : Connections) (payload : Bytes) {ms : List Member}
    (distinct : (ms.map (·.handle)).Nodup) (k : Handle) :
    (sendEach cs payload ms).2.get k =
      if k ∈ ms.map (·.handle) then ((cs.get k).sendBytes payload).2 else cs.get k := by
  induction ms generalizing cs with
  | nil => simp [sendEach]
  | cons m rest ih =>
    rw [List.map_cons, List.nodup_cons] at distinct
    have hrest := ih (cs.set m.handle ((cs.get m.handle).sendBytes payload).2) distinct.2
    have hsent : (sendEach cs payload (m :: rest)).2.get k =
        (sendEach (cs.set m.handle ((cs.get m.handle).sendBytes payload).2) payload rest).2.get k := by
      rw [sendEach]
      dsimp only
      split <;> rfl
    rw [hsent, hrest, Connections.get_set, List.map_cons]
    by_cases hk : k = m.handle
    · subst hk
      simp [distinct.1]
    · simp [hk]

/-- Sending to some members counts those whose connections are open, and the others apart. -/
theorem sendEach_report (cs : Connections) (payload : Bytes) {ms : List Member}
    (distinct : (ms.map (·.handle)).Nodup) (driven : ∀ m ∈ ms, (cs.get m.handle).hasWriter = true) :
    (sendEach cs payload ms).1 =
      ⟨ms.countP fun m => (cs.get m.handle).isOpen,
        ms.countP fun m => !(cs.get m.handle).isOpen⟩ := by
  induction ms generalizing cs with
  | nil => rfl
  | cons m rest ih =>
    rw [List.map_cons, List.nodup_cons] at distinct
    -- The members that are left find their connections as they were.
    have hsame (m' : Member) (hm' : m' ∈ rest) :
        (cs.set m.handle ((cs.get m.handle).sendBytes payload).2).get m'.handle =
          cs.get m'.handle := by
      have hne : m'.handle ≠ m.handle := by
        intro he
        exact distinct.1 (he ▸ List.mem_map_of_mem hm')
      rw [Connections.get_set, if_neg hne]
    have hrest := ih (cs.set m.handle ((cs.get m.handle).sendBytes payload).2) distinct.2
      fun m' hm' => by rw [hsame m' hm']; exact driven m' (List.mem_cons_of_mem _ hm')
    have hopened : (rest.countP fun m' =>
        ((cs.set m.handle ((cs.get m.handle).sendBytes payload).2).get m'.handle).isOpen) =
          rest.countP fun m' => (cs.get m'.handle).isOpen :=
      List.countP_congr fun m' hm' => by rw [hsame m' hm']
    have hclosed : (rest.countP fun m' =>
        !((cs.set m.handle ((cs.get m.handle).sendBytes payload).2).get m'.handle).isOpen) =
          rest.countP fun m' => !(cs.get m'.handle).isOpen :=
      List.countP_congr fun m' hm' => by rw [hsame m' hm']
    rw [hopened, hclosed] at hrest
    rw [sendEach, List.countP_cons, List.countP_cons]
    dsimp only
    cases hopen : (cs.get m.handle).isOpen with
    | true =>
      have hsent := Connection.sendBytes_of_open hopen (driven m List.mem_cons_self) payload
      rw [hsent] at hrest ⊢
      simp [hrest]
    | false =>
      have hsent := Connection.sendBytes_of_closed hopen payload
      rw [hsent] at hrest ⊢
      simp [hrest]

/-- The connections that a broadcast is for. -/
theorem mem_map_handle_filter {excluding : Option ConnectionId} {k : Handle} :
    k ∈ (s.members.filter fun m => some m.id != excluding).map (·.handle) ↔
      ∃ m ∈ s.members, m.handle = k ∧ some m.id ≠ excluding := by
  simp only [List.mem_map, List.mem_filter, bne_iff_ne]
  constructor
  · rintro ⟨m, ⟨hm, hid⟩, hk⟩
    exact ⟨m, hm, hk, hid⟩
  · rintro ⟨m, hm, hk, hid⟩
    exact ⟨m, ⟨hm, hid⟩, hk⟩

/-- What a broadcast makes of a connection depends on this connection alone. -/
theorem get_broadcast (distinct : (s.members.map (·.handle)).Nodup) (cs : Connections) (p : Packet)
    (excluding : Option ConnectionId) (k : Handle) :
    (s.broadcast cs p excluding).2.get k =
      if ∃ m ∈ s.members, m.handle = k ∧ some m.id ≠ excluding then
        ((cs.get k).sendBytes p.encode).2
      else cs.get k := by
  rw [broadcast, get_sendEach cs p.encode ((List.filter_sublist.map _).nodup distinct)]
  exact if_congr mem_map_handle_filter rfl rfl

/-- A broadcast counts the open members that it is for, and the closed ones. -/
theorem broadcast_report (distinct : (s.members.map (·.handle)).Nodup)
    (driven : ∀ m ∈ s.members, (cs.get m.handle).hasWriter = true) (p : Packet)
    (excluding : Option ConnectionId) :
    (s.broadcast cs p excluding).1 =
      ⟨s.members.countP fun m => some m.id != excluding && (cs.get m.handle).isOpen,
        s.members.countP fun m => some m.id != excluding && !(cs.get m.handle).isOpen⟩ := by
  have hreport := sendEach_report cs p.encode ((List.filter_sublist.map _).nodup distinct)
    fun m (hm : m ∈ s.members.filter fun m => some m.id != excluding) =>
      driven m (List.mem_of_mem_filter hm)
  rw [broadcast, hreport, List.countP_filter, List.countP_filter]
  simp only [Bool.and_comm]

/-- A broadcast is for all members but the one that is left out, if that is a member. -/
theorem countP_audience (keys : (s.members.map (·.id)).Nodup) (excluding : Option ConnectionId) :
    (s.members.countP fun m => some m.id != excluding) +
        (if excluding.any s.hasMember then 1 else 0) = s.members.length := by
  have hsplit := s.members.length_eq_countP_add_countP fun m => some m.id != excluding
  have hleftOut : (s.members.countP fun m => decide ¬(some m.id != excluding) = true) =
      if excluding.any s.hasMember then 1 else 0 := by
    cases excluding with
    | none => simp
    | some id =>
      have hcount : (s.members.countP fun m => decide ¬(some m.id != some id) = true) =
          (s.members.map (·.id)).count id := by
        rw [List.count, List.countP_map]
        congr 1
        funext m
        simp [beq_eq_decide]
      have hmember : s.hasMember id = true ↔ id ∈ s.members.map (·.id) := by
        simp [hasMember, member?]
      rw [hcount, keys.count, Option.any_some]
      simp only [hmember]
  rw [← hleftOut]
  exact hsplit.symm

/-- Open and closed members together are all that a broadcast is for. -/
theorem countP_open_add_countP_closed (ms : List Member) (cs : Connections)
    (excluding : Option ConnectionId) :
    (ms.countP fun m => some m.id != excluding && (cs.get m.handle).isOpen) +
        (ms.countP fun m => some m.id != excluding && !(cs.get m.handle).isOpen) =
      ms.countP fun m => some m.id != excluding := by
  induction ms with
  | nil => rfl
  | cons m rest ih =>
    rw [List.countP_cons, List.countP_cons, List.countP_cons, ← ih]
    cases (some m.id != excluding) <;> cases (cs.get m.handle).isOpen <;> simp <;> omega

/-- Whatever the members of a session are doing, if they stand in the table under the ids of their
connections, no two under the same, and something runs their writers. A broadcast puts one copy of a
packet behind the queue of every open member that is not left out, and does nothing to any other
connection, in whichever order the members are gone through. What it does to a connection is the same
whatever the other connections are like. The report counts the open members and the closed ones that
are not left out, and these are all members but the one that is left out, if that is a member. -/
theorem broadcast_isolated (keys : (s.members.map (·.id)).Nodup)
    (named : ∀ m ∈ s.members, m.id = (cs.get m.handle).id)
    (driven : ∀ m ∈ s.members, (cs.get m.handle).hasWriter = true) (p : Packet)
    (excluding : Option ConnectionId) {order : List Member} (perm : order.Perm s.members) :
    let sent (others : Connections) := ({ s with members := order }).broadcast others p excluding
    (∀ k, (sent cs).2.get k =
        if (∃ m ∈ s.members, m.handle = k ∧ some m.id ≠ excluding) ∧ (cs.get k).isOpen = true then
          { cs.get k with outbox := (cs.get k).outbox.enqueue p.encode }
        else cs.get k) ∧
      (∀ (others : Connections) k, others.get k = cs.get k →
        (sent others).2.get k = (sent cs).2.get k) ∧
      (sent cs).1.delivered =
        s.members.countP (fun m => some m.id != excluding && (cs.get m.handle).isOpen) ∧
      (sent cs).1.failed =
        s.members.countP (fun m => some m.id != excluding && !(cs.get m.handle).isOpen) ∧
      (sent cs).1.delivered + (sent cs).1.failed + (if excluding.any s.hasMember then 1 else 0) =
        s.members.length := by
  intro sent
  have hdistinct : (order.map (·.handle)).Nodup :=
    (perm.map (·.handle)).nodup_iff.mpr (nodup_handle_of_named keys named)
  have hget (others : Connections) (k : Handle) : (sent others).2.get k =
      if ∃ m ∈ s.members, m.handle = k ∧ some m.id ≠ excluding then
        ((others.get k).sendBytes p.encode).2
      else others.get k := by
    refine (get_broadcast hdistinct others p excluding k).trans (if_congr ?_ rfl rfl)
    simp only [perm.mem_iff]
  have hreport : (sent cs).1 =
      ⟨s.members.countP fun m => some m.id != excluding && (cs.get m.handle).isOpen,
        s.members.countP fun m => some m.id != excluding && !(cs.get m.handle).isOpen⟩ := by
    rw [← perm.countP_eq, ← perm.countP_eq]
    exact broadcast_report hdistinct (fun m hm => driven m (perm.mem_iff.mp hm)) p excluding
  refine ⟨fun k => ?_, fun others k hsame => ?_, ?_, ?_, ?_⟩
  · rw [hget]
    by_cases hfor : ∃ m ∈ s.members, m.handle = k ∧ some m.id ≠ excluding
    · have hdriven : (cs.get k).hasWriter = true := by
        obtain ⟨m, hm, rfl, -⟩ := hfor
        exact driven m hm
      rw [if_pos hfor, Connection.snd_sendBytes hdriven]
      simp only [hfor, true_and]
    · rw [if_neg hfor, if_neg fun h => hfor h.1]
  · rw [hget, hget, hsame]
  · rw [hreport]
  · rw [hreport]
  · rw [hreport]
    dsimp only
    rw [countP_open_add_countP_closed, countP_audience keys]

/-- Four members, of whom the first is idle, the second waits in the middle of a write, the third is
closed and the fourth has sent something, and somebody else. -/
def company : Session where
  id := default
  maxPlayers := 4
  members := [⟨⟨11⟩, 0, "idle", 0⟩, ⟨⟨12⟩, 1, "stalled", 1⟩, ⟨⟨13⟩, 2, "closed", 2⟩,
    ⟨⟨14⟩, 3, "sender", 3⟩]

/-- Their connections. -/
def companyConnections : Connections where
  opened := [
    { id := ⟨11⟩, address := default },
    { id := ⟨12⟩, address := default, outbox := ⟨[[7]], true, some ⟨2, [9]⟩⟩ },
    { id := ⟨13⟩, address := default, isOpen := false },
    { id := ⟨14⟩, address := default },
    { id := ⟨15⟩, address := default }]

/-- Neither the stalled member nor the closed one keeps a packet from the others, though the member
table is gone through from its end. -/
theorem broadcast_isolated_company :
    let p : Packet := ⟨Service.game, Method.chatMessage, 0, [0]⟩
    let sent := ({ company with members := company.members.reverse }).broadcast companyConnections p
      (some ⟨14⟩)
    (sent.2.get 0).outbox.queue = [p.encode] ∧ (sent.2.get 1).outbox.queue = [[7], p.encode] ∧
      sent.2.get 2 = companyConnections.get 2 ∧ sent.2.get 3 = companyConnections.get 3 ∧
      sent.2.get 4 = companyConnections.get 4 ∧ sent.1 = ⟨2, 1⟩ := by
  intro p sent
  have hdriven : ∀ m ∈ company.members, (companyConnections.get m.handle).hasWriter = true := by
    decide
  obtain ⟨hget, -, hdelivered, hfailed, -⟩ :=
    broadcast_isolated (by decide) (by decide) hdriven p (some ⟨14⟩) company.members.reverse_perm
  refine ⟨?_, ?_, ?_, ?_, ?_, ?_⟩
  · rw [hget, if_pos (by decide)]
    rfl
  · rw [hget, if_pos (by decide)]
    rfl
  · rw [hget, if_neg (by decide)]
  · rw [hget, if_neg (by decide)]
  · rw [hget, if_neg (by decide)]
  · change BroadcastReport.mk sent.1.delivered sent.1.failed = _
    rw [hdelivered, hfailed]
    decide

end Session

end PlayServer
