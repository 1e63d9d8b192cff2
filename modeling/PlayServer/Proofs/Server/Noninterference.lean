import PlayServer.Proofs.Login.Check
import PlayServer.Proofs.Server.Agreement
import Mathlib.Data.List.Induction

/-!
# A connection that has not logged in influences nobody

What a connection that has not logged in asks for concerns nobody but itself: it is answered or
refused, or it tries to log in, by which the store has stamped an account at most. So a server that
has handled a packet of it agrees with one that has not: `SameBut.handle_left`.

In a run the packets of a connection that never logs in may therefore be left out, and nobody else
can tell: `run_withoutPackets`.
-/

namespace PlayServer.ServerState

/-- The store has been asked, and has changed stamps at most. -/
structure Asks (s s' : ServerState) : Prop where
  lobby : s'.lobby = s.lobby
  store : s'.store.unstamped = s.store.unstamped
  disturbances : s'.disturbances = s.disturbances

namespace Asks

variable {s s' s'' : ServerState}

/-- Asking goes on. -/
theorem trans (h : s.Asks s') (h' : s'.Asks s'') : s.Asks s'' :=
  ⟨h'.lobby.trans h.lobby, h'.store.trans h.store, h'.disturbances.trans h.disturbances⟩

/-- Where nothing comes in between, a call of the store changes what the store changes. -/
theorem callStore {α : Type} (quiet : s.disturbances = []) (call : StoreCall)
    (override : Bool → Option α) {run : AccountStore → Except StoreError α × AccountStore}
    (stamps : ∀ a : AccountStore, (run a).2.unstamped = a.unstamped) :
    s.Asks (s.callStore call override run).2 := by
  unfold ServerState.callStore
  rw [quiet]
  exact ⟨rfl, stamps s.store, quiet.symm⟩

/-- Where nothing comes in between, checking credentials only asks the store. -/
theorem checkCredentials (quiet : s.disturbances = []) (login password : String) :
    s.Asks (s.checkCredentials login password).2 := by
  have h₁ : s.Asks (s.hasAccount login).2 := callStore quiet .hasAccount _ fun _ => rfl
  unfold ServerState.checkCredentials
  generalize s.hasAccount login = known at h₁ ⊢
  obtain ⟨e | _ | _, s₁⟩ := known
  · exact h₁
  · exact h₁
  have h₂ : s₁.Asks (s₁.isBanned login).2 :=
    callStore (h₁.disturbances.trans quiet) .isBanned _ fun _ => rfl
  dsimp only
  generalize s₁.isBanned login = banned at h₂ ⊢
  have h₂ := h₁.trans h₂
  obtain ⟨e | _ | _, s₂⟩ := banned
  · exact h₂
  · have h₃ : s₂.Asks (s₂.verify login password).2 :=
      callStore (h₂.disturbances.trans quiet) .verify _ fun _ => rfl
    dsimp only
    generalize s₂.verify login password = right at h₃ ⊢
    have h₃ := h₂.trans h₃
    obtain ⟨e | _ | _, s₃⟩ := right
    · exact h₃
    · exact h₃
    have h₄ : s₃.Asks (s₃.touchLastLogin login).2 :=
      callStore (h₃.disturbances.trans quiet) .touch _ fun a =>
        a.unstamped_touchLastLogin login s₃.now
    dsimp only
    generalize s₃.touchLastLogin login = stamped at h₄ ⊢
    have h₄ := h₃.trans h₄
    obtain ⟨e | _ | _, s₄⟩ := stamped
    · exact h₄
    · exact h₄
    · exact h₄
  · exact h₂

/-- Where nothing comes in between, judging credentials only asks the store. -/
theorem judgeCredentials (quiet : s.disturbances = []) (login password : String) :
    s.Asks (s.judgeCredentials login password).2 := by
  have h := checkCredentials quiet login password
  unfold ServerState.judgeCredentials
  generalize s.checkCredentials login password = verdict at h ⊢
  obtain ⟨e | verdict, s'⟩ := verdict
  · exact ⟨h.lobby, h.store, h.disturbances⟩
  · exact h

end Asks

namespace SameBut

variable {u : Handle} {s t : ServerState}

/-- Only the store has been asked on one side. -/
theorem asks_left {s' : ServerState} (h : s.SameBut u t) (asks : s.Asks s') : s'.SameBut u t :=
  ⟨asks.lobby ▸ h.lobby, asks.lobby ▸ h.outside, h.outside', h.store.trans asks.store.symm,
    h.disturbances.trans asks.disturbances.symm⟩

/-- Nothing that is compared has changed on one side. -/
theorem of_eq_left {s' : ServerState} (h : s.SameBut u t) (hs : s'.compared = s.compared) :
    s'.SameBut u t :=
  h.of_eq hs rfl

/-- The connection itself is sent a packet. -/
theorem send_left (h : s.SameBut u t) (p : Packet) : (s.send u p).SameBut u t :=
  h.updateConnection_left ((s.connection u).sameStanding_send p).session

/-- A log-in request of the connection itself is handled, and nothing comes in between. -/
theorem authenticate_left (h : s.SameBut u t) (quiet : s.disturbances = []) (p : Packet) :
    (s.authenticate u p).2.SameBut u t := by
  unfold ServerState.authenticate
  split
  · exact h.of_eq_left rfl
  next request _ =>
  split
  · exact h
  have hbegun : (s.updateConnection u Connection.beginAuth).SameBut u t := by
    apply h.updateConnection_left
    unfold Connection.beginAuth
    split <;> rfl
  dsimp only
  generalize hs₁ : (s.updateConnection u Connection.beginAuth).record _ = s₁
  have h₁ : s₁.SameBut u t := by
    rw [← hs₁]
    exact hbegun.of_eq_left rfl
  have hquiet : s₁.disturbances = [] := by
    rw [← hs₁]
    exact quiet
  have hasks := Asks.judgeCredentials hquiet request.login request.password
  generalize s₁.judgeCredentials request.login request.password = judged at hasks ⊢
  obtain ⟨verdict, s₂⟩ := judged
  have h₂ : s₂.SameBut u t := h₁.asks_left hasks
  have hfailed : (s₂.updateConnection u Connection.failAuth).SameBut u t :=
    h₂.updateConnection_left rfl
  dsimp only
  split
  · cases verdict with
    | none =>
      have hdone : (s₂.updateConnection u (·.completeAuth request.login)).SameBut u t :=
        h₂.updateConnection_left rfl
      apply SameBut.send_left
      exact hdone.of_eq_left rfl
    | some failure =>
      apply SameBut.send_left
      exact hfailed.of_eq_left rfl
  · exact hfailed.of_eq_left rfl

/-- A packet of the connection itself, which has not logged in, is handled, and nothing comes in
between. -/
theorem handle_left (h : s.SameBut u t) (unauthenticated : (s.connection u).isAuthenticated = false)
    (quiet : s.disturbances = []) (front : Front) (p : Packet) :
    (s.handle front u p).SameBut u t := by
  have hroute : s.routeOf u p ≠ .forwarded := fun hforwarded => by
    rw [isAuthenticated_of_forwarded hforwarded] at unauthenticated
    cases unauthenticated
  have hshared : s.handle front u p = s.serveShared u p (s.routeOf u p) := by
    cases front with
    | gateway => rfl
    | game =>
      unfold ServerState.handle handleAtGame
      dsimp only
      split
      · next hforwarded => exact absurd hforwarded hroute
      · rfl
  rw [hshared]
  cases s.routeOf u p with
  | challenge => exact h.send_left _
  | login => exact h.authenticate_left quiet p
  | ping => exact h.send_left _
  | refused =>
    unfold ServerState.serveShared refuse
    refine SameBut.updateConnection_left ?_ (Connection.sameStanding_close _).session
    exact h.of_eq_left rfl
  | unknown => exact h
  | forwarded => exact h

end SameBut

/-- Whether an event is a packet of a connection. -/
def Event.isPacketOf (u : Handle) : Event → Bool
  | .packet _ h _ => h == u
  | _ => false

/-- The events of a run but the packets of a connection. -/
def withoutPackets (u : Handle) (events : List Event) : List Event :=
  events.filter fun e => !e.isPacketOf u

/-- A connection never logs in during a run. -/
def NeverLogsIn (s : ServerState) (u : Handle) (events : List Event) : Prop :=
  ∀ earlier, earlier <+: events → ((s.run earlier).connection u).isAuthenticated = false

/-- A connection never logs in if it has not done so when a run starts, and never does after the
first event. -/
theorem neverLogsIn_cons {s : ServerState} {u : Handle} {e : Event} {rest : List Event} :
    s.NeverLogsIn u (e :: rest) ↔
      (s.connection u).isAuthenticated = false ∧ (s.step e).NeverLogsIn u rest := by
  constructor
  · intro h
    refine ⟨h [] List.nil_prefix, fun earlier he => ?_⟩
    exact h (e :: earlier) (List.cons_prefix_cons.mpr ⟨rfl, he⟩)
  · rintro ⟨hfirst, hrest⟩ earlier hearlier
    rcases List.prefix_cons_iff.mp hearlier with rfl | ⟨later, rfl, hlater⟩
    · exact hfirst
    · exact hrest later hlater

/-- Whether a connection never logs in can be found out by running the events. -/
instance decidableNeverLogsIn (s : ServerState) (u : Handle) :
    (events : List Event) → Decidable (s.NeverLogsIn u events)
  | [] => decidable_of_iff ((s.connection u).isAuthenticated = false)
      ⟨fun h _ he => List.prefix_nil.mp he ▸ h, fun h => h [] List.nil_prefix⟩
  | e :: rest =>
    have := decidableNeverLogsIn (s.step e) u rest
    decidable_of_iff _ neverLogsIn_cons.symm

/-- Whenever a packet of a connection comes in during a run, nothing is going to come in between
while it is handled. -/
def Undisturbed (s : ServerState) (u : Handle) (events : List Event) : Prop :=
  ∀ earlier front p, earlier ++ [.packet front u p] <+: events → (s.run earlier).disturbances = []

/-- An event that is no packet of a connection stays when the packets of that are left out. -/
theorem withoutPackets_concat {u : Handle} {e : Event} (other : e.isPacketOf u = false)
    (events : List Event) : withoutPackets u (events ++ [e]) = withoutPackets u events ++ [e] := by
  simp [withoutPackets, other]

/-- A packet of the connection is left out. -/
theorem withoutPackets_concat_packet (u : Handle) (front : Front) (p : Packet)
    (events : List Event) :
    withoutPackets u (events ++ [.packet front u p]) = withoutPackets u events := by
  simp [withoutPackets, Event.isPacketOf]

/-- An event is a packet of a connection or not. -/
theorem Event.packet_or_other (u : Handle) (e : Event) :
    (∃ front p, e = .packet front u p) ∨
      e.isPacketOf u = false ∧ ∀ front p, e ≠ .packet front u p := by
  cases e with
  | packet front h p =>
    by_cases hh : h = u
    · exact .inl ⟨front, p, hh ▸ rfl⟩
    · refine .inr ⟨by simpa [isPacketOf] using hh, fun front' p' he => hh ?_⟩
      cases he
      rfl
  | _ => exact .inr ⟨rfl, fun _ _ he => by cases he⟩

section Runs

variable {s : ServerState} {u : Handle}

/-- Nothing new is going to come in between after an event that does not announce it. -/
theorem disturbances_step (genuine : s.Genuine) {e : Event}
    (unannounced : ∀ call d hd, e ≠ .announce call d hd) :
    (s.step e).disturbances ⊆ s.disturbances := by
  cases e with
  | packet front h p =>
    by_cases hroute : s.routeOf h p = .login
    · have hlogin : s.step (.packet front h p) = (s.authenticate h p).2 := by
        cases front with
        | gateway => simp only [step, handle, handleAtGateway, hroute, serveShared]
        | game => simp only [step, handle, handleAtGame, hroute, serveShared]
      rw [hlogin]
      exact (loginStep_authenticate genuine h p).frame.disturbances
    · exact (effect_handle s h p front genuine hroute).disturbances
  | disconnect front h =>
    cases front with
    | gateway => exact List.Subset.refl _
    | game =>
      have heffect : QuietEffect s (s.leaveOnDisconnect h) := effect_leaveOnDisconnect s h
      exact heffect.disturbances
  | tick delta =>
    have heffect : QuietEffect s (s.tick delta).2 := effect_tick s delta
    exact heffect.disturbances
  | settle =>
    have heffect : QuietEffect s s.settle := effect_settle s
    exact heffect.disturbances
  | announce call d hd => exact absurd rfl (unannounced call d hd)
  | _ => exact List.Subset.refl _

/-- A run in which nothing is announced is undisturbed. -/
theorem undisturbed_of_unannounced (quiet : s.disturbances = []) {events : List Event}
    (unannounced : ∀ call d hd, Event.announce call d hd ∉ events) : s.Undisturbed u events := by
  have hall : ∀ earlier, earlier <+: events → (s.run earlier).disturbances = [] := by
    intro earlier hearlier
    induction earlier using List.reverseRecOn with
    | nil => exact quiet
    | append_singleton earlier e ih =>
      have hbefore := ih ((List.prefix_append _ _).trans hearlier)
      have hgenuine : (s.run earlier).Genuine := by simp [Genuine, hbefore]
      have hstep := disturbances_step hgenuine fun call d hd he =>
        unannounced call d hd (he ▸ hearlier.subset (List.mem_append_right _ (.head _)))
      rw [run_concat]
      exact List.subset_nil.mp (hbefore ▸ hstep)
  exact fun earlier _ _ h => hall earlier ((List.prefix_append _ _).trans h)

/-- In a run the packets of a connection that never logs in may be left out: then the servers agree
but for this connection, and the same has been queued to all others. -/
theorem sameBut_run (start : s.SameBut u s) {events : List Event}
    (never : s.NeverLogsIn u events) (undisturbed : s.Undisturbed u events) :
    (s.run events).SameBut u (s.run (withoutPackets u events)) ∧
      ∀ k, k ≠ u → s.queuedIn (withoutPackets u events) k = s.queuedIn events k := by
  induction events using List.reverseRecOn with
  | nil => exact ⟨start, fun _ _ => rfl⟩
  | append_singleton events e ih =>
    have hbefore : events <+: events ++ [e] := List.prefix_append _ _
    obtain ⟨hagree, hqueued⟩ := ih (fun earlier h => never earlier (h.trans hbefore))
      fun earlier front p h => undisturbed earlier front p (h.trans hbefore)
    rcases e.packet_or_other u with ⟨front, p, rfl⟩ | ⟨hkept, hother⟩
    · have hafter : ((s.run events).step (.packet front u p)).SameBut u
          (s.run (withoutPackets u events)) :=
        hagree.handle_left (never events hbefore)
          (undisturbed events front p (List.prefix_refl _)) front p
      rw [withoutPackets_concat_packet, run_concat]
      refine ⟨hafter, fun k hk => ?_⟩
      -- No queue but that of the connection itself has changed.
      have hsame : ((s.run events).step (.packet front u p)).connection k =
          (s.run events).connection k := by
        rw [← hafter.connection hk, hagree.connection hk]
      rw [queuedIn_concat, queuedBy, hsame, List.drop_length, List.append_nil, hqueued k hk]
    · have hafter := hagree.step hother
      rw [withoutPackets_concat hkept, run_concat, run_concat]
      refine ⟨hafter, fun k hk => ?_⟩
      rw [queuedIn_concat, queuedIn_concat, queuedBy, queuedBy, hafter.connection hk,
        hagree.connection hk, hqueued k hk]

end Runs

/-- A connection that never logs in during a run influences nobody else: without its packets, the
sessions and all else in the lobby but this connection itself are the same after every event of the
run, every other connection is the same, and the same has been queued to it. -/
theorem run_withoutPackets {s : ServerState} {u : Handle}
    (opened : u ∈ s.lobby.connections.handles)
    (stranger : ∀ session ∈ s.lobby.sessions, ∀ m ∈ session.members, m.handle ≠ u)
    (free : (s.connection u).session = none) {events : List Event}
    (never : s.NeverLogsIn u events) (undisturbed : s.Undisturbed u events) :
    ∀ earlier, earlier <+: events →
      let whole := s.run earlier
      let purged := s.run (withoutPackets u earlier)
      purged.lobby = { whole.lobby with connections := purged.lobby.connections } ∧
        ∀ k, k ≠ u → purged.connection k = whole.connection k ∧
          s.queuedIn (withoutPackets u earlier) k = s.queuedIn earlier k := by
  intro earlier hearlier whole purged
  have houtside : s.lobby.Outside u := by
    refine ⟨fun m hm => ?_, free⟩
    obtain ⟨session, hsession, hmember⟩ := hm
    exact stranger session hsession m hmember
  have hopened : u < s.lobby.connections.size := List.mem_range.mp opened
  have hstart : s.SameBut u s := ⟨⟨rfl, .refl hopened⟩, houtside, houtside, rfl, rfl⟩
  obtain ⟨hagree, hqueued⟩ := sameBut_run hstart (fun before h => never before (h.trans hearlier))
    fun before front p h => undisturbed before front p (h.trans hearlier)
  exact ⟨hagree.lobby.rest, fun k hk => ⟨hagree.connection hk, hqueued k hk⟩⟩

/-- A server with a client who has logged in and one who has not. -/
def clientAndIntruder : ServerState where
  lobby := .new 4 16
    { opened :=
        [{ id := ⟨1⟩, address := default, auth := .authenticated, login := some "alice" },
          { id := ⟨2⟩, address := default }] }
  store := .empty
  gateway := { maxPerAddress := 8 }
  game := { maxPerAddress := 8 }

/-- The client opens a session. The other tries a login that nobody has, asks for a sign of life,
and is cut off when it asks to join the session. -/
def intrusion : List Event :=
  [.packet .gateway 1
      ⟨Service.authentication, Method.loginRequest, 1, LoginRequest.encode ⟨"mallory", "guess"⟩⟩,
    .packet .game 0 ⟨Service.game, Method.createSession, 2, []⟩,
    .packet .gateway 1 ⟨Service.connection, Method.ping, 2, []⟩,
    .packet .game 1 ⟨Service.game, Method.joinSession, 3, [0, 0, 0, 1]⟩, .tick .zero]

/-- The intruder is cut off only if its packets come in; the session and what is queued to the
client are the same without them. -/
theorem run_withoutPackets_intrusion :
    clientAndIntruder.NeverLogsIn 1 intrusion ∧ clientAndIntruder.Undisturbed 1 intrusion ∧
      ((clientAndIntruder.run intrusion).connection 1).isOpen = false ∧
      ((clientAndIntruder.run (withoutPackets 1 intrusion)).connection 1).isOpen = true ∧
      (clientAndIntruder.run intrusion).lobby.sessions.length = 1 ∧
      (clientAndIntruder.run (withoutPackets 1 intrusion)).lobby.sessions =
        (clientAndIntruder.run intrusion).lobby.sessions ∧
      clientAndIntruder.queuedIn (withoutPackets 1 intrusion) 0 =
        clientAndIntruder.queuedIn intrusion 0 := by
  have hnever : clientAndIntruder.NeverLogsIn 1 intrusion := by decide +kernel
  have hundisturbed : clientAndIntruder.Undisturbed 1 intrusion :=
    undisturbed_of_unannounced rfl fun call d hd => by simp [intrusion]
  have hstranger : ∀ session ∈ clientAndIntruder.lobby.sessions,
      ∀ m ∈ session.members, m.handle ≠ 1 := by
    simp [clientAndIntruder, Lobby.new]
  have hcutOff : ((clientAndIntruder.run intrusion).connection 1).isOpen = false := by
    decide +kernel
  have hspared :
      ((clientAndIntruder.run (withoutPackets 1 intrusion)).connection 1).isOpen = true := by
    decide +kernel
  have hplays : (clientAndIntruder.run intrusion).lobby.sessions.length = 1 := by
    decide +kernel
  have hsame := run_withoutPackets (by decide) hstranger rfl hnever hundisturbed intrusion
    (List.prefix_refl _)
  have hsessions := congrArg Lobby.sessions hsame.1
  have hqueued := (hsame.2 0 (by decide)).2
  exact ⟨hnever, hundisturbed, hcutOff, hspared, hplays, hsessions, hqueued⟩

end PlayServer.ServerState
