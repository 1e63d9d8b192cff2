import PlayServer.Proofs.Server.Announcement

/-!
# Isolation of sessions

A packet that is handled for a connection concerns the session of that connection and no other. In
every run of a server: packets are queued only to the connection itself and to the members of the
session that it names before or after, all other sessions are the same, and so is where every other
connection stands. Whatever is queued to anybody, by packets or by anything else, is a packet within
the limit, so that a client can read all that it is sent: `isolation_of_run`.
-/

namespace PlayServer.ServerState

variable {s : ServerState} {drawn : Nat}

/-- Posting changes no session, and nobody's place. -/
theorem Posts.fellow_iff {s' : ServerState} {post : Post} (h : s.Posts post s') {k k' : Handle} :
    s'.lobby.Fellow k k' ↔ s.lobby.Fellow k k' := by
  have hnamed : (s'.lobby.connection k).session = (s.lobby.connection k).session :=
    (h.connections k).session
  simp only [Lobby.Fellow, Lobby.seated, hnamed, h.roster]

/-- Handling a packet queues only to the connection that it comes from and to the members of the
session that this connection names before or after, and changes no other session and no other
connection's place or log-in. -/
theorem isolated_handle (hs : s.InOrder drawn) (front : Front) (h : Handle) (p : Packet) :
    (∀ k, s.queuedBy (.packet front h p) k ≠ [] →
        s.lobby.Concerned h (s.handle front h p).lobby k) ∧
      (∀ id, (s.connection h).session ≠ some id →
        ((s.handle front h p).connection h).session ≠ some id →
          (s.handle front h p).lobby.session? id = s.lobby.session? id) ∧
      ∀ k, k ≠ h →
        ((s.handle front h p).connection k).session = (s.connection k).session ∧
          ((s.handle front h p).connection k).loginState = (s.connection k).loginState := by
  obtain ⟨l, post, turn, changes⟩ := serves_handle h p hs.consistent front
  have hplaces (k : Handle) :
      ((s.handle front h p).connection k).session = (l.connection k).session :=
    (turn.posts.connections k).session
  refine ⟨fun k hqueued => ?_, fun id hbefore hafter => ?_, fun k hk => ⟨?_, ?_⟩⟩
  · have hpost : post k ≠ [] := by
      intro hnone
      rw [turn.queuedBy_eq hs.writers, hnone, ite_self] at hqueued
      exact hqueued rfl
    rcases turn.packets.of_ne_nil hpost with rfl | hfellow | hfellow
    · exact .inl rfl
    · exact .inr (.inl hfellow)
    · exact .inr (.inr (turn.posts.fellow_iff.mpr hfellow))
  · rw [hplaces] at hafter
    rw [turn.posts.lobby]
    exact changes.sessions id hbefore hafter
  · rw [hplaces, changes.connections k hk]
    rfl
  · exact keepsLogins_handle h p s front k hk

/-- What an event queues to anybody are packets within the limit. -/
theorem packets_of_step (hs : s.InOrder drawn) (e : Event) (k : Handle) :
    ∀ payload ∈ s.queuedBy e k, IsPacket payload := by
  by_cases hsettle : e = .settle
  · subst hsettle
    simp [queuedBy_settle]
  by_cases hticked : ∀ delta, e = .tick delta → (s.tick delta).1 = .ok ()
  · obtain ⟨l, post, turn⟩ := turns_step hs.consistent hsettle hticked
    intro payload hpayload
    rw [turn.queuedBy_eq hs.writers] at hpayload
    split at hpayload
    · exact (turn.packets k payload hpayload).2
    · cases hpayload
  · push Not at hticked
    obtain ⟨delta, rfl, hoverflow⟩ := hticked
    simp [queuedBy_tick_of_overflow hoverflow]

/-- What a run queues to anybody are packets within the limit. -/
theorem packets_of_run (hs : s.InOrder drawn) (events : List Event)
    (room : drawn + s.idsDrawn events < 2 ^ 32 - 1) (k : Handle) :
    ∀ payload ∈ s.queuedIn events k, IsPacket payload := by
  induction events generalizing s drawn with
  | nil => exact fun _ hnone => absurd hnone List.not_mem_nil
  | cons e rest ih =>
    simp only [idsDrawn, ← Nat.add_assoc] at room
    intro payload hpayload
    rcases List.mem_append.mp hpayload with hfirst | hrest
    · exact packets_of_step hs e k payload hfirst
    · exact ih (hs.step e (by omega)) room payload hrest

/-- Sessions are isolated from one another, in every state that a server without sessions can come
to while the counter of session ids does not run out. Whatever packet is handled for a connection,
at either front end: packets are queued only to the connection itself and to the members of the
session that it names before or after; every session that it names neither before nor after is the
same; and so are the session that any other connection names, and where it stands with its log-in.
All that has been queued to anybody since the start are packets whose bodies are within the limit.
Whatever part of them has come in at a client, in whatever pieces, it reads the first of these
packets and then that the connection has closed, and it reads all of them if all has come in. -/
theorem isolation_of_run {s : ServerState} {maxPlayers maxSessions : Nat} {cs : Connections}
    (lobby : s.lobby = .new maxPlayers maxSessions cs) (starts : ∀ c ∈ cs.opened, Starts c)
    (events : List Event) (room : s.idsDrawn events < 2 ^ 32 - 1) (front : Front) (h : Handle)
    (p : Packet) :
    let before := s.run events
    let after := before.handle front h p
    (∀ k, before.queuedBy (.packet front h p) k ≠ [] →
      k = h ∨
        (∃ id, (before.connection h).session = some id ∧ k ∈ before.lobby.seated id) ∨
        ∃ id, (after.connection h).session = some id ∧ k ∈ after.lobby.seated id) ∧
    (∀ id, (before.connection h).session ≠ some id → (after.connection h).session ≠ some id →
      after.lobby.session? id = before.lobby.session? id) ∧
    (∀ k, k ≠ h → (after.connection k).session = (before.connection k).session ∧
      (after.connection k).auth = (before.connection k).auth ∧
      (after.connection k).login = (before.connection k).login) ∧
    ∀ k, ∃ ps : List Packet, (∀ q ∈ ps, q.body.length ≤ 65536) ∧
      s.queuedIn (events ++ [.packet front h p]) k = ps.map Packet.encode ∧
      ∀ chunks : List Bytes, chunks.flatten <+: (ps.map Packet.encode).flatten →
        ∃ ps', ps' <+: ps ∧ (chunks.flatten = (ps.map Packet.encode).flatten → ps' = ps) ∧
          Stream.readPackets (Stream.ofChunks chunks) = Stream.received 0 ps' ++
            [(.error .connectionClosed, chunks.flatten.length)] := by
  intro before after
  have hs : s.InOrder 0 := inOrder_of_start lobby starts
  have hbefore := hs.run events (by omega)
  obtain ⟨hrecipients, hsessions, hothers⟩ := isolated_handle hbefore front h p
  refine ⟨hrecipients, hsessions, fun k hk => ?_, fun k => ?_⟩
  · obtain ⟨hplace, hlogin⟩ := hothers k hk
    exact ⟨hplace, congrArg Prod.fst hlogin, congrArg Prod.snd hlogin⟩
  · have hpackets : ∀ payload ∈ s.queuedIn (events ++ [.packet front h p]) k,
        IsPacket payload := by
      intro payload hpayload
      rw [queuedIn_concat] at hpayload
      rcases List.mem_append.mp hpayload with hearlier | hlast
      · exact packets_of_run hs events (by omega) k payload hearlier
      · exact packets_of_step hbefore _ k payload hlast
    obtain ⟨ps, hlimit, hqueued⟩ := exists_packets_of_payloads hpackets
    have hbytes : (ps.map Packet.encode).flatten = Packet.encodeAll ps := List.flatMap_def.symm
    refine ⟨ps, hlimit, hqueued, fun chunks hpart => ?_⟩
    rw [hbytes] at hpart ⊢
    exact Stream.readPackets_of_prefix hlimit hpart

/-- A server with three players who have logged in. -/
def threePlayers : ServerState where
  lobby := .new 4 16
    { opened :=
        [{ id := ⟨1⟩, address := default, auth := .authenticated, login := some "alice" },
          { id := ⟨2⟩, address := default, auth := .authenticated, login := some "bob" },
          { id := ⟨3⟩, address := default, auth := .authenticated, login := some "carol" }] }
  gateway := { maxPerAddress := 8 }
  game := { maxPerAddress := 8 }

/-- Two players are in one session, and the third is in another. -/
def twoSessions : List Event :=
  [.packet .game 0 ⟨Service.game, Method.createSession, 1, []⟩,
    .packet .game 1 ⟨Service.game, Method.joinSession, 2, [0, 0, 0, 1]⟩,
    .packet .game 2 ⟨Service.game, Method.createSession, 3, []⟩]

/-- When one of the two leaves, the other is told, and the third is not; its session is the same. -/
theorem isolation_of_run_twoSessions :
    let before := threePlayers.run twoSessions
    let leave : Packet := ⟨Service.game, Method.leaveSession, 4, []⟩
    threePlayers.idsDrawn twoSessions < 2 ^ 32 - 1 ∧
      before.queuedBy (.packet .game 1 leave) 0 = [leftNotice "bob"] ∧
      before.queuedBy (.packet .game 1 leave) 2 = [] ∧
      (before.lobby.session? ⟨2⟩).isSome = true ∧
      (before.handle .game 1 leave).lobby.session? ⟨2⟩ = before.lobby.session? ⟨2⟩ := by
  intro before leave
  have hstarts : ∀ c ∈ (threePlayers.lobby.connections).opened, Starts c := by
    intro c hc
    obtain rfl | rfl | rfl : _ ∨ _ ∨ _ := by simpa [threePlayers, Lobby.new] using hc
    · exact ⟨rfl, rfl, fun _ => ⟨"alice", rfl, by decide⟩⟩
    · exact ⟨rfl, rfl, fun _ => ⟨"bob", rfl, by decide⟩⟩
    · exact ⟨rfl, rfl, fun _ => ⟨"carol", rfl, by decide⟩⟩
  have hroom : threePlayers.idsDrawn twoSessions < 2 ^ 32 - 1 := by decide +kernel
  obtain ⟨hrecipients, hsessions, -, -⟩ :=
    isolation_of_run rfl hstarts twoSessions hroom .game 1 leave
  have hnamed : (before.connection 1).session = some ⟨1⟩ := by decide +kernel
  have hleft : ((before.handle .game 1 leave).connection 1).session = none := by decide +kernel
  have hstranger : 2 ∉ before.lobby.seated ⟨1⟩ := by decide +kernel
  refine ⟨hroom, by decide +kernel, ?_, by decide +kernel, ?_⟩
  · by_contra hqueued
    rcases hrecipients 2 hqueued with hsame | ⟨id, hid, hmember⟩ | ⟨id, hid, -⟩
    · exact absurd hsame (by decide)
    · obtain rfl : (⟨1⟩ : SessionId) = id := Option.some.inj (hnamed.symm.trans hid)
      exact hstranger hmember
    · exact absurd (hleft.symm.trans hid) (by simp)
  · apply hsessions
    · exact ne_of_eq_of_ne hnamed (by decide)
    · exact ne_of_eq_of_ne hleft (by simp)

end PlayServer.ServerState
