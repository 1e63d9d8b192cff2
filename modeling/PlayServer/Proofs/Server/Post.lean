import PlayServer.Proofs.Lobby.Admission
import PlayServer.Proofs.Lobby.Roster
import PlayServer.Proofs.Connection.Writer
import PlayServer.Proofs.Wire.Payload
import PlayServer.Server.Serve

/-!
# What is posted to whom

Serving sends by queueing payloads to connections. `Posts s post s'` says that all that lies between
two states of a server are payloads queued, `post k` to the connection under the handle `k`, and
connections that have closed or logged in: sessions, ids, registries and the counts of what came in
are the same.

A connection takes what is posted to it if it stays open and has something that runs its writer.
What is posted to nobody is queued to nobody, whatever the connections are like. `Post.IsFor` says
that all that is posted are packets within the limit, and who gets any of them.
-/

namespace PlayServer

namespace Connection

/-- What has come in over a connection: whole packets, and their bytes. -/
def received (c : Connection) : Nat × Nat := (c.traffic.packetsReceived, c.traffic.bytesReceived)

/-- Whether the peer, if it has logged in, has done so under a login that fits into a notice. -/
def Identified (c : Connection) : Prop :=
  c.isAuthenticated = true → ∃ login, c.login = some login ∧ (utf8 login).length ≤ maxShortText

/-- A connection is known by the same id, names the same session and has received the same. If it
was closed it is closed, and if the peer had logged in it is logged in as before. -/
structure Steady (c c' : Connection) : Prop where
  id : c'.id = c.id
  session : c'.session = c.session
  hasWriter : c'.hasWriter = c.hasWriter
  received : c'.received = c.received
  opened : c'.isOpen = true → c.isOpen = true
  identified : c.Identified → c'.Identified
  keeps : c.isAuthenticated = true → c'.loginState = c.loginState

/-- Payloads have been posted to a connection: they stand at the end of its queue, or the connection
is closed and nothing has been queued. Where nothing runs its writer some of them may be lost, and
so may the queue. -/
structure Posted (c : Connection) (post : List Bytes) (c' : Connection) : Prop
    extends Steady c c' where
  queued : c'.isOpen = true → c.hasWriter = true ∨ post = [] →
    c'.outbox.queue = c.outbox.queue ++ post
  dropped : c'.isOpen = false → c'.outbox.queue = if c.isOpen then [] else c.outbox.queue
  taken : ∃ taken, taken ⊆ post ∧
    (c'.outbox.queue = c.outbox.queue ++ taken ∨ c'.outbox.queue = taken)

namespace Steady

/-- A connection that has not changed. -/
theorem refl (c : Connection) : c.Steady c :=
  ⟨rfl, rfl, rfl, rfl, fun h => h, fun h => h, fun _ => rfl⟩

/-- Who has logged in stays logged in. -/
theorem isAuthenticated {c c' : Connection} (h : c.Steady c') (hauth : c.isAuthenticated = true) :
    c'.isAuthenticated = true := by
  have hsame : c'.auth = c.auth := congrArg Prod.fst (h.keeps hauth)
  rwa [Connection.isAuthenticated, hsame]

/-- A connection that was steady twice was steady. -/
theorem trans {a b c : Connection} (h : a.Steady b) (h' : b.Steady c) : a.Steady c :=
  ⟨h'.id.trans h.id, h'.session.trans h.session, h'.hasWriter.trans h.hasWriter,
    h'.received.trans h.received, h.opened ∘ h'.opened, h'.identified ∘ h.identified,
    fun hauth => (h'.keeps (h.isAuthenticated hauth)).trans (h.keeps hauth)⟩

end Steady

namespace Posted

/-- Nothing is posted to a connection that has not changed. -/
theorem refl (c : Connection) : c.Posted [] c where
  toSteady := .refl c
  queued _ _ := (List.append_nil _).symm
  dropped hclosed := by simp [hclosed]
  taken := ⟨[], List.nil_subset _, .inl (List.append_nil _).symm⟩

/-- What is posted later comes later. -/
theorem trans {a b c : Connection} {post post' : List Bytes} (h : a.Posted post b)
    (h' : b.Posted post' c) : a.Posted (post ++ post') c where
  toSteady := h.toSteady.trans h'.toSteady
  queued hopen htakes := by
    have htakes₁ : a.hasWriter = true ∨ post = [] := htakes.imp_right fun hnil => by simp_all
    have htakes₂ : b.hasWriter = true ∨ post' = [] := by
      rw [h.hasWriter]
      exact htakes.imp_right fun hnil => by simp_all
    rw [h'.queued hopen htakes₂, h.queued (h'.opened hopen) htakes₁, List.append_assoc]
  dropped hclosed := by
    rw [h'.dropped hclosed]
    cases hopen : b.isOpen with
    | false => simp [h.dropped hopen]
    | true => simp [h.opened hopen]
  taken := by
    obtain ⟨first, hfirst, hqueue⟩ := h.taken
    obtain ⟨later, hlater, hqueue'⟩ := h'.taken
    have hlater : later ⊆ post ++ post' := List.subset_append_of_subset_right _ hlater
    have hboth : first ++ later ⊆ post ++ post' :=
      List.append_subset.mpr ⟨List.subset_append_of_subset_left _ hfirst, hlater⟩
    rcases hqueue' with hkept | hlost
    · refine ⟨first ++ later, hboth, hqueue.imp (fun hqueue => ?_) fun hqueue => ?_⟩
      · rw [hkept, hqueue, List.append_assoc]
      · rw [hkept, hqueue]
    · exact ⟨later, hlater, .inr hlost⟩

/-- Nothing is posted by changing where a connection stands with its log-in, which is not done once
the peer has logged in. -/
theorem of_login {c : Connection} {auth : AuthState} {login : Option String}
    (before : c.isAuthenticated = false)
    (identified : Connection.Identified { c with auth, login }) :
    c.Posted [] { c with auth, login } where
  toSteady := ⟨rfl, rfl, rfl, rfl, fun h => h, fun _ => identified, by simp [before]⟩
  queued _ _ := (List.append_nil _).symm
  dropped hclosed := by
    have hclosed : c.isOpen = false := hclosed
    simp [hclosed]
  taken := ⟨[], List.nil_subset _, .inl (List.append_nil _).symm⟩

/-- A closed connection takes nothing. -/
theorem nothing_of_closed {c c' : Connection} {post : List Bytes} (h : c.Posted post c')
    (closed : c.isOpen = false) : c.Posted [] c' where
  toSteady := h.toSteady
  queued hopen _ := by
    have hnever := h.opened hopen
    simp [closed] at hnever
  dropped := h.dropped
  taken := by
    have hclosed : c'.isOpen = false := by
      rw [← Bool.not_eq_true]
      intro hopen
      have hnever := h.opened hopen
      simp [closed] at hnever
    exact ⟨[], List.nil_subset _, .inl (by simp [h.dropped hclosed, closed])⟩

/-- What is queued behind what stood in the queue has been posted. -/
theorem drop_subset {c c' : Connection} {post : List Bytes} (h : c.Posted post c') :
    c'.outbox.queue.drop c.outbox.queue.length ⊆ post := by
  obtain ⟨taken, hsub, hkept | hlost⟩ := h.taken
  · rw [hkept, List.drop_left]
    exact hsub
  · rw [hlost]
    exact List.Subset.trans (List.drop_subset _ _) hsub

end Posted

/-- Queueing a payload posts it. -/
theorem posted_sendBytes (c : Connection) (payload : Bytes) :
    c.Posted [payload] (c.sendBytes payload).2 := by
  have htouched (queue : List Bytes) (writing : Bool) (hopen : c.isOpen = true)
      (hqueue : queue = c.outbox.queue ++ [payload] ∨ c.hasWriter = false ∧ queue = []) :
      c.Posted [payload] { c with outbox.queue := queue, outbox.writing := writing } := by
    refine ⟨⟨rfl, rfl, rfl, rfl, fun h => h, fun h => h, fun _ => rfl⟩, fun _ htakes => ?_,
      fun hclosed => ?_, ?_⟩
    · have hwriter : c.hasWriter = true := htakes.resolve_right (by simp)
      exact hqueue.resolve_right (by simp [hwriter])
    · have hclosed : c.isOpen = false := hclosed
      simp [hopen] at hclosed
    · exact hqueue.elim (fun hkept => ⟨[payload], List.Subset.refl _, .inl hkept⟩)
        fun hlost => ⟨[], List.nil_subset _, .inr hlost.2⟩
  unfold sendBytes
  split
  · next hclosed =>
    have hclosed : c.isOpen = false := by simpa using hclosed
    exact ⟨.refl c, fun hopen => by simp [hclosed] at hopen, fun _ => by simp [hclosed],
      [], List.nil_subset _, .inl (List.append_nil _).symm⟩
  next hopen =>
  have hopen : c.isOpen = true := by simpa using hopen
  split
  · exact htouched _ _ hopen (.inl rfl)
  split
  · next hidle => exact htouched _ _ hopen (.inr ⟨by simpa using hidle, rfl⟩)
  · exact htouched _ _ hopen (.inl rfl)

/-- Sending a packet within the limit posts it. -/
theorem posted_send_of_inLimit (c : Connection) {p : Packet} (limit : p.InLimit) :
    c.Posted [p.encode] (c.send p).2 := by
  rw [send, if_neg (Nat.not_lt_of_le limit)]
  exact c.posted_sendBytes p.encode

/-- Sending a packet posts it, or nothing if its body is too large. -/
theorem posted_send (c : Connection) (p : Packet) :
    ∃ post, (post = [] ∨ p.InLimit ∧ post = [p.encode]) ∧ c.Posted post (c.send p).2 := by
  by_cases limit : p.InLimit
  · exact ⟨[p.encode], .inr ⟨limit, rfl⟩, c.posted_send_of_inLimit limit⟩
  · refine ⟨[], .inl rfl, ?_⟩
    rw [send, if_pos (Nat.lt_of_not_le limit)]
    exact .refl c

/-- Queueing a payload leaves a connection open or closed. -/
theorem isOpen_sendBytes (c : Connection) (payload : Bytes) :
    (c.sendBytes payload).2.isOpen = c.isOpen := by
  unfold sendBytes
  split
  · rfl
  split
  · rfl
  split <;> rfl

/-- Sending leaves a connection open or closed. -/
theorem isOpen_send (c : Connection) (p : Packet) : (c.send p).2.isOpen = c.isOpen := by
  unfold send
  split
  · rfl
  · exact c.isOpen_sendBytes p.encode

/-- Closing posts nothing. -/
theorem posted_close (c : Connection) : c.Posted [] c.close := by
  unfold close
  split
  · next hopen =>
    exact ⟨⟨rfl, rfl, rfl, rfl, fun _ => hopen, fun h => h, fun _ => rfl⟩, fun h => by simp at h,
      fun _ => by simp [hopen], [], List.nil_subset _, .inr rfl⟩
  · exact .refl c

/-- A writer that takes up its queue leaves the connection steady, and no more in the queue than
there was. -/
theorem steady_resumeWriter {c : Connection} (idle : c.outbox.current = none) :
    c.Steady c.resumeWriter.connection ∧
      c.resumeWriter.connection.outbox.queue.length ≤ c.outbox.queue.length := by
  have hqueue {current : InFlight} {queue : List Bytes} (todo : List InFlight) (l : Line)
      (hwaits : (l.pump todo).outcome = .waits current queue) : queue.length ≤ todo.length := by
    induction todo generalizing l with
    | nil => cases hwaits
    | cons p todo ih =>
      unfold Line.pump at hwaits
      split at hwaits
      · exact Nat.le_succ_of_le (ih _ hwaits)
      · cases hwaits
        simp
      · cases hwaits
  have hstays (line : Line) (outbox : Outbox) (packets bytes : Nat) :
      c.Steady { c with
        line, outbox, traffic.packetsSent := packets, traffic.bytesSent := bytes } :=
    ⟨rfl, rfl, rfl, rfl, fun h => h, fun h => h, fun _ => rfl⟩
  unfold resumeWriter
  dsimp only
  rw [foldl_countSent]
  split
  · exact ⟨hstays _ _ _ _, Nat.zero_le _⟩
  · next current queue hwaits =>
    have hle := hqueue _ _ hwaits
    exact ⟨hstays _ _ _ _, by simpa [pending, idle] using hle⟩
  · have hclosed := hstays (c.line.pump c.pending).line {} (c.traffic.packetsSent +
      (c.line.pump c.pending).written.length) (c.traffic.bytesSent +
      (c.line.pump c.pending).written.sum)
    refine ⟨hclosed.trans (posted_close _).toSteady, ?_⟩
    have hempty (c' : Connection) (h : c'.outbox.queue = []) : c'.close.outbox.queue = [] := by
      unfold close
      split
      · rfl
      · exact h
    rw [hempty _ rfl]
    exact Nat.zero_le _

/-- A run of the writer leaves the connection steady, and no more in the queue than there was. -/
theorem steady_runWriter (c : Connection) :
    c.Steady c.runWriter.connection ∧
      c.runWriter.connection.outbox.queue.length ≤ c.outbox.queue.length := by
  have hgivenUp (c' : Connection) : c'.Steady { c' with outbox := {}, line.isShut := true } :=
    ⟨rfl, rfl, rfl, rfl, fun h => h, fun h => h, fun _ => rfl⟩
  obtain ⟨run, hrun⟩ : ∃ run : WriterRun, run =
      if c.isOpen && c.outbox.writing && c.outbox.current.isNone then c.resumeWriter
      else { connection := c } := ⟨_, rfl⟩
  have hran : c.Steady run.connection ∧
      run.connection.outbox.queue.length ≤ c.outbox.queue.length := by
    rw [hrun]
    split
    · next hidle => exact steady_resumeWriter (by simp_all)
    · exact ⟨.refl c, Nat.le_refl _⟩
  unfold runWriter
  dsimp only
  rw [← hrun]
  split
  · exact hran
  · exact ⟨hran.1.trans (hgivenUp _), Nat.zero_le _⟩

end Connection

/-- Payloads for each connection. -/
abbrev Post := Handle → List Bytes

namespace Post

/-- Nothing for anybody. -/
def nobody : Post := fun _ => []

/-- Payloads for one connection only. -/
def onlyTo (h : Handle) (payloads : List Bytes) : Post := fun k => if k = h then payloads else []

/-- A payload for each of some members. -/
def toEach (ms : List Member) (payload : Bytes) : Post :=
  fun k => (ms.filter (·.handle == k)).map fun _ => payload

/-- What is posted first, and then what is posted later. -/
def andThen (post post' : Post) : Post := fun k => post k ++ post' k

/-- Nothing is posted to the others. -/
theorem onlyTo_of_ne {h k : Handle} (hne : k ≠ h) (payloads : List Bytes) :
    onlyTo h payloads k = [] :=
  if_neg hne

@[simp] theorem andThen_nobody (post : Post) : post.andThen nobody = post :=
  funext fun k => List.append_nil (post k)

@[simp] theorem nobody_andThen (post : Post) : nobody.andThen post = post := rfl

@[simp] theorem onlyTo_nil (h : Handle) : onlyTo h [] = nobody := by
  funext k
  simp [onlyTo, nobody]

/-- All that is posted are packets whose bodies peers accept, and they are for some connections
only. -/
def IsFor (post : Post) (who : Handle → Prop) : Prop :=
  ∀ k, ∀ payload ∈ post k, who k ∧ IsPacket payload

section IsFor

variable {post post' : Post} {who who' : Handle → Prop}

/-- Nothing is for anybody. -/
theorem isFor_nobody : nobody.IsFor who := fun _ _ hnone => absurd hnone List.not_mem_nil

/-- Packets for one connection. -/
theorem isFor_onlyTo {h : Handle} {payloads : List Bytes}
    (packets : ∀ payload ∈ payloads, IsPacket payload) (concerned : who h) :
    (onlyTo h payloads).IsFor who := by
  intro k payload hpayload
  by_cases hk : k = h
  · subst hk
    rw [onlyTo, if_pos rfl] at hpayload
    exact ⟨concerned, packets payload hpayload⟩
  · simp [onlyTo_of_ne hk] at hpayload

/-- A packet for some members. -/
theorem isFor_toEach {ms : List Member} {p : Packet} (limit : p.InLimit)
    (concerned : ∀ m ∈ ms, who m.handle) : (toEach ms p.encode).IsFor who := by
  intro k payload hpayload
  obtain ⟨m, hm, rfl⟩ := List.mem_map.mp hpayload
  obtain ⟨hmember, hmk⟩ := List.mem_filter.mp hm
  obtain rfl : m.handle = k := by simpa using hmk
  exact ⟨concerned m hmember, p, limit, rfl⟩

/-- What is posted first and what is posted later is for the same connections. -/
theorem IsFor.andThen (h : post.IsFor who) (h' : post'.IsFor who) :
    (post.andThen post').IsFor who := by
  intro k payload hpayload
  exact (List.mem_append.mp hpayload).elim (h k payload) (h' k payload)

/-- Whom it is for may be said less precisely. -/
theorem IsFor.mono (hw : ∀ k, who k → who' k) (h : post.IsFor who) : post.IsFor who' :=
  fun k payload hpayload => (h k payload hpayload).imp_left (hw k)

/-- Whoever gets anything is somebody that it is for. -/
theorem IsFor.of_ne_nil (h : post.IsFor who) {k : Handle} (hne : post k ≠ []) : who k := by
  obtain ⟨payload, hpayload⟩ := List.exists_mem_of_ne_nil _ hne
  exact (h k payload hpayload).1

end IsFor

end Post

namespace Connections

/-- `post k` has been posted to the connection under each handle `k`. -/
def Posted (cs : Connections) (post : Post) (cs' : Connections) : Prop :=
  ∀ k, (cs.get k).Posted (post k) (cs'.get k)

/-- Nothing has been posted. -/
theorem Posted.refl (cs : Connections) : cs.Posted .nobody cs := fun k => .refl (cs.get k)

/-- What is posted later comes later. -/
theorem Posted.trans {a b c : Connections} {post post' : Post} (h : a.Posted post b)
    (h' : b.Posted post' c) : a.Posted (post.andThen post') c :=
  fun k => (h k).trans (h' k)

/-- Payloads are posted to one connection. -/
theorem posted_set {cs : Connections} {h : Handle} {c : Connection} {payloads : List Bytes}
    (hc : (cs.get h).Posted payloads c) : cs.Posted (.onlyTo h payloads) (cs.set h c) := by
  intro k
  rw [get_set]
  by_cases hk : k = h
  · subst hk
    simpa [Post.onlyTo] using hc
  · simpa [Post.onlyTo, hk] using Connection.Posted.refl (cs.get k)

end Connections

/-- Sending to members posts to each of them. -/
theorem Session.posted_sendEach (cs : Connections) (payload : Bytes) (ms : List Member) :
    cs.Posted (.toEach ms payload) (sendEach cs payload ms).2 := by
  induction ms generalizing cs with
  | nil => exact .refl cs
  | cons m rest ih =>
    have hfirst := Connections.posted_set ((cs.get m.handle).posted_sendBytes payload)
    have hall := hfirst.trans (ih _)
    have hpost : (Post.onlyTo m.handle [payload]).andThen (.toEach rest payload) =
        .toEach (m :: rest) payload := by
      funext k
      by_cases hk : m.handle = k
      · simp [Post.andThen, Post.onlyTo, Post.toEach, hk]
      · simp [Post.andThen, Post.onlyTo, Post.toEach, hk, Ne.symm hk]
    rw [hpost] at hall
    unfold sendEach
    dsimp only
    split <;> exact hall

/-- Sending to members leaves every connection open or closed. -/
theorem Session.isOpen_sendEach (cs : Connections) (payload : Bytes) (ms : List Member)
    (k : Handle) : ((sendEach cs payload ms).2.get k).isOpen = (cs.get k).isOpen :=
  sendEach_keeps (R := fun c c' => c'.isOpen = c.isOpen) (fun _ => rfl) (fun h h' => h'.trans h)
    Connection.isOpen_sendBytes cs payload ms k

namespace ServerState

/-- What has been counted of what came in, how many connections are active, and the registries. -/
structure Intake where
  packets : UInt64
  bytes : UInt64
  faults : UInt64
  active : UInt64
  gateway : Registry
  game : Registry

/-- The intake of a server. -/
def intake (s : ServerState) : Intake :=
  ⟨s.metrics.packetsReceived, s.metrics.bytesReceived, s.metrics.protocolFaults,
    s.metrics.connectionsActive, s.gateway, s.game⟩

/-- The sessions are the same, and all connections are steady. -/
structure Steady (s s' : ServerState) : Prop where
  lobby : s'.lobby = { s.lobby with connections := s'.lobby.connections }
  connections : ∀ k, (s.connection k).Steady (s'.connection k)
  intake : s'.intake = s.intake

/-- The sessions are the same, and payloads have been posted. -/
structure Posts (s : ServerState) (post : Post) (s' : ServerState) : Prop where
  lobby : s'.lobby = { s.lobby with connections := s'.lobby.connections }
  connections : s.lobby.connections.Posted post s'.lobby.connections
  intake : s'.intake = s.intake

variable {s s' s'' : ServerState} {post post' : Post}

/-- A server that has not changed. -/
theorem Steady.refl (s : ServerState) : s.Steady s := ⟨rfl, fun k => .refl (s.connection k), rfl⟩

/-- A server that was steady twice was steady. -/
theorem Steady.trans (h : s.Steady s') (h' : s'.Steady s'') : s.Steady s'' where
  lobby := by rw [h'.lobby, h.lobby]
  connections k := (h.connections k).trans (h'.connections k)
  intake := h'.intake.trans h.intake

namespace Posts

/-- Posting leaves a server steady. -/
theorem steady (h : s.Posts post s') : s.Steady s' :=
  ⟨h.lobby, fun k => (h.connections k).toSteady, h.intake⟩

/-- Nothing has been posted. -/
theorem refl (s : ServerState) : s.Posts .nobody s := ⟨rfl, .refl _, rfl⟩

/-- What is posted later comes later. -/
theorem trans (h : s.Posts post s') (h' : s'.Posts post' s'') :
    s.Posts (post.andThen post') s'' where
  lobby := by rw [h'.lobby, h.lobby]
  connections := h.connections.trans h'.connections
  intake := h'.intake.trans h.intake

/-- After posts nothing more is posted. -/
theorem quietly (h : s.Posts post s') (h' : s'.Posts .nobody s'') : s.Posts post s'' := by
  simpa using h.trans h'

/-- Before posts nothing is posted. -/
theorem after (h' : s'.Posts post s'') (h : s.Posts .nobody s') : s.Posts post s'' := by
  simpa using h.trans h'

/-- Records, the log, other counts and the store may change. -/
theorem of_eq (hlobby : s'.lobby = s.lobby) (hintake : s'.intake = s.intake) :
    s.Posts .nobody s' where
  lobby := by rw [hlobby]
  connections := hlobby ▸ .refl _
  intake := hintake

/-- Payloads are posted to one connection. -/
theorem updateConnection {h : Handle} {change : Connection → Connection} {payloads : List Bytes}
    (hc : (s.connection h).Posted payloads (change (s.connection h))) :
    s.Posts (.onlyTo h payloads) (s.updateConnection h change) :=
  ⟨rfl, Connections.posted_set hc, rfl⟩

/-- Nothing is posted by changing where a connection stands with its log-in, which is not done once
the peer has logged in. -/
theorem of_login {h : Handle} {change : Connection → Connection}
    (before : (s.connection h).isAuthenticated = false)
    (hc : ∃ auth login, change (s.connection h) = { s.connection h with auth, login })
    (identified : (change (s.connection h)).Identified) :
    s.Posts .nobody (s.updateConnection h change) := by
  obtain ⟨auth, login, heq⟩ := hc
  rw [heq] at identified
  rw [← Post.onlyTo_nil h]
  exact updateConnection (heq ▸ .of_login before identified)

/-- Nothing is posted by closing. -/
theorem close (s : ServerState) (h : Handle) : s.Posts .nobody (s.close h) := by
  rw [← Post.onlyTo_nil h]
  exact updateConnection (s.connection h).posted_close

/-- A packet is posted, or nothing if its body is too large. -/
theorem send (s : ServerState) (h : Handle) (p : Packet) :
    ∃ payloads, (payloads = [] ∨ p.InLimit ∧ payloads = [p.encode]) ∧
      s.Posts (.onlyTo h payloads) (s.send h p) := by
  obtain ⟨payloads, hwhich, hposted⟩ := (s.connection h).posted_send p
  exact ⟨payloads, hwhich, updateConnection hposted⟩

/-- A notice is posted to the members of a session but one. -/
theorem notify (s : ServerState) (session : SessionId) (p : Packet)
    (excluding : Option ConnectionId) :
    s.Posts (.toEach ((s.lobby.roster session).filter fun m => some m.id != excluding) p.encode)
      (s.notify session p excluding) := by
  unfold ServerState.notify Lobby.broadcast
  split
  · next hnone =>
    rw [Lobby.roster_of_none hnone]
    exact .refl s
  · next session' hfound =>
    rw [Lobby.roster_of_session? hfound, Lobby.broadcastReferred,
      Lobby.referred?_of_session? hfound]
    exact ⟨rfl, Session.posted_sendEach _ _ _, rfl⟩

end Posts

/-- Nothing has been posted, and no connection stands otherwise with its log-in. -/
structure Waits (s s' : ServerState) : Prop where
  posts : s.Posts .nobody s'
  logins : ∀ k, (s'.connection k).loginState = (s.connection k).loginState

namespace Waits

/-- Waiting goes on. -/
theorem trans (h : s.Waits s') (h' : s'.Waits s'') : s.Waits s'' :=
  ⟨h.posts.quietly h'.posts, fun k => (h'.logins k).trans (h.logins k)⟩

/-- Records, the log, other counts and the store may change. -/
theorem of_eq (hlobby : s'.lobby = s.lobby) (hintake : s'.intake = s.intake) : s.Waits s' where
  posts := .of_eq hlobby hintake
  logins k := by rw [connection, hlobby, connection]

/-- A connection closes. -/
theorem close (s : ServerState) (h : Handle) : s.Waits (s.close h) where
  posts := .close s h
  logins := Connections.loginState_set (s.connection h).sameStanding_close.loginState

end Waits

/-- While a request waits for the store connections may close, and nothing is posted. -/
theorem waits_callStore {α : Type} (s : ServerState) (call : StoreCall)
    (override : Bool → Option α) (run : AccountStore → Except StoreError α × AccountStore) :
    s.Waits (s.callStore call override run).2 := by
  have hbegun : s.Waits { s with disturbances := (takeDisturbance call s.disturbances).2 } :=
    .of_eq rfl rfl
  unfold callStore
  dsimp only
  split
  · exact hbegun.trans (.of_eq rfl rfl)
  · next h _ => exact (hbegun.trans (.close _ h)).trans (.of_eq rfl rfl)
  · exact hbegun.trans (.of_eq rfl rfl)
  · exact hbegun.trans (.of_eq rfl rfl)
  · split
    · exact hbegun
    · exact hbegun.trans (.of_eq rfl rfl)
  · exact hbegun

/-- Running a writer changes its connection, but no other, and leaves the store alone. -/
theorem frame_runWriter (s : ServerState) (h : Handle) :
    (s.runWriter h).lobby =
        s.lobby.updateConnection h (fun _ => (s.connection h).runWriter.connection) ∧
      (s.runWriter h).store = s.store ∧ (s.runWriter h).disturbances = s.disturbances := by
  unfold runWriter absorb
  dsimp only
  split
  · exact ⟨rfl, rfl, rfl⟩
  · split <;> exact ⟨rfl, rfl, rfl⟩

/-- Running a writer leaves the server steady, and no more in any queue than there was. -/
theorem steady_runWriter (s : ServerState) (h : Handle) :
    s.Steady (s.runWriter h) ∧ ∀ k, ((s.runWriter h).connection k).outbox.queue.length ≤
      (s.connection k).outbox.queue.length := by
  obtain ⟨hsteady, hqueue⟩ := (s.connection h).steady_runWriter
  have hlobby := (s.frame_runWriter h).1
  have hsent (sizes : List Nat) (m : Metrics) :
      (sizes.foldl Metrics.packetSent m).packetsReceived = m.packetsReceived ∧
        (sizes.foldl Metrics.packetSent m).bytesReceived = m.bytesReceived ∧
        (sizes.foldl Metrics.packetSent m).protocolFaults = m.protocolFaults ∧
        (sizes.foldl Metrics.packetSent m).connectionsActive = m.connectionsActive := by
    induction sizes generalizing m with
    | nil => exact ⟨rfl, rfl, rfl, rfl⟩
    | cons size rest ih => exact ih _
  have hintake : (s.runWriter h).intake = s.intake := by
    obtain ⟨hpackets, hbytes, hfaults, hactive⟩ :=
      hsent (s.connection h).runWriter.written s.metrics
    have hcounted : ({ s with metrics :=
        (s.connection h).runWriter.written.foldl Metrics.packetSent s.metrics }).intake =
          s.intake := by
      rw [intake, intake, hpackets, hbytes, hfaults, hactive]
    unfold runWriter absorb
    dsimp only
    split
    · exact hcounted
    · split <;> exact hcounted
  have hget (k : Handle) : (s.runWriter h).connection k =
      if k = h then (s.connection h).runWriter.connection else s.connection k := by
    rw [connection, hlobby]
    exact s.connection_updateConnection_eq h k _
  refine ⟨⟨by rw [hlobby]; rfl, fun k => ?_, hintake⟩, fun k => ?_⟩
  · rw [hget]
    split
    · next hk => exact hk ▸ hsteady
    · exact .refl _
  · rw [hget]
    split
    · next hk => exact hk ▸ hqueue
    · exact Nat.le_refl _

/-- Running all writers leaves the server steady, and no more in any queue than there was. -/
theorem steady_settle (s : ServerState) :
    s.Steady s.settle ∧ ∀ k, (s.settle.connection k).outbox.queue.length ≤
      (s.connection k).outbox.queue.length := by
  have hall (hs : List Handle) (s : ServerState) :
      s.Steady (hs.foldl runWriter s) ∧
        ∀ k, ((hs.foldl runWriter s).connection k).outbox.queue.length ≤
          (s.connection k).outbox.queue.length := by
    induction hs generalizing s with
    | nil => exact ⟨.refl s, fun _ => Nat.le_refl _⟩
    | cons h rest ih =>
      obtain ⟨hfirst, hqueue⟩ := s.steady_runWriter h
      obtain ⟨hrest, hqueue'⟩ := ih (s.runWriter h)
      exact ⟨hfirst.trans hrest, fun k => Nat.le_trans (hqueue' k) (hqueue k)⟩
  obtain ⟨hsteady, hqueue⟩ := hall
    (s.lobby.connections.started ++ s.lobby.connections.handles)
    { s with lobby.connections := { s.lobby.connections with started := [] } }
  exact ⟨⟨hsteady.lobby, hsteady.connections, hsteady.intake⟩, hqueue⟩

end ServerState

end PlayServer
