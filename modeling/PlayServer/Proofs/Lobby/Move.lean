import PlayServer.Session.Lobby
import Mathlib.Data.List.Nodup

/-!
# Moves of a lobby

Whatever an operation does to a lobby it does by moves, of which there are few: a connection is
admitted to a session, a member is dismissed from one, a session is opened, the empty sessions are
reclaimed, and so on. A property of lobbies that every move keeps is therefore kept by every
operation.

A move says which connection it admits and whether it draws a session id. `Moves who n` are moves
that admit only connections in `who` and draw `n` ids.
-/

namespace PlayServer

/-- Nothing but traffic lies between two states of a connection: it is known by the same id, belongs
to the same session and has logged in under the same name. -/
structure Connection.SameStanding (c c' : Connection) : Prop where
  id : c'.id = c.id
  session : c'.session = c.session
  auth : c'.auth = c.auth
  login : c'.login = c.login

namespace Connection.SameStanding

/-- A connection has the standing it has. -/
theorem refl (c : Connection) : SameStanding c c := ⟨rfl, rfl, rfl, rfl⟩

/-- Standing that was kept twice was kept. -/
theorem trans {a b c : Connection} (h : SameStanding a b) (h' : SameStanding b c) :
    SameStanding a c :=
  ⟨h'.id.trans h.id, h'.session.trans h.session, h'.auth.trans h.auth, h'.login.trans h.login⟩

end Connection.SameStanding

/-- Closing keeps the standing of a connection. -/
theorem Connection.sameStanding_close (c : Connection) : c.SameStanding c.close := by
  unfold close
  split <;> exact ⟨rfl, rfl, rfl, rfl⟩

/-- Queueing a payload keeps the standing of a connection, whether or not it is taken. -/
theorem Connection.sameStanding_sendBytes (c : Connection) (payload : Bytes) :
    c.SameStanding (c.sendBytes payload).2 := by
  unfold sendBytes
  split
  · exact .refl c
  · split
    · exact ⟨rfl, rfl, rfl, rfl⟩
    · split <;> exact ⟨rfl, rfl, rfl, rfl⟩

/-- Every connection in `cs'` has the standing it has in `cs`. -/
def Connections.SameStanding (cs cs' : Connections) : Prop :=
  ∀ h, (cs.get h).SameStanding (cs'.get h)

namespace Connections

/-- Under a handle that was never given there is a vacant connection. -/
theorem get_eq_vacant {cs : Connections} {h : Handle} (hgiven : h ∉ cs.handles) :
    cs.get h = vacant h := by
  have hle : cs.opened.length ≤ h := by simpa [handles, size] using hgiven
  simp [get, List.getD_eq_getElem?_getD, List.getElem?_eq_none hle]

/-- What holds of all connections that were opened, and of vacant ones, holds under every handle. -/
theorem forall_get {cs : Connections} {P : Connection → Prop} (opened : ∀ c ∈ cs.opened, P c)
    (vacant : ∀ h, P (vacant h)) (h : Handle) : P (cs.get h) := by
  by_cases hgiven : h ∈ cs.handles
  · have hlt : h < cs.opened.length := List.mem_range.mp hgiven
    have hget : cs.get h = cs.opened[h] := by
      simp [get, List.getD_eq_getElem?_getD, List.getElem?_eq_getElem hlt]
    rw [hget]
    exact opened _ (List.getElem_mem hlt)
  · rw [get_eq_vacant hgiven]
    exact vacant h

/-- Putting a connection under a handle opens all up to there. -/
theorem size_set (cs : Connections) (h : Nat) (c : Connection) :
    (cs.set h c).size = max cs.size (h + 1) := by
  unfold set size
  by_cases hlt : h < cs.opened.length
  · rw [if_pos hlt, List.length_set]
    omega
  · rw [if_neg hlt]
    simp only [List.length_append, List.length_map, List.length_range, List.length_singleton]
    omega

/-- Which writers are started once a connection stands under a handle. -/
theorem started_set (cs : Connections) (h : Handle) (c : Connection) :
    (cs.set h c).started = cs.startedWith h c := by
  unfold set
  split <;> rfl

/-- Changing one connection without its standing keeps the standing of all. -/
theorem sameStanding_set (cs : Connections) (h : Handle) (c : Connection)
    (hc : (cs.get h).SameStanding c) : cs.SameStanding (cs.set h c) := by
  intro h'
  rw [get_set]
  split
  · next he => exact he ▸ hc
  · exact .refl _

end Connections

namespace Session

/-- A session takes a connection exactly when it is not closed, does not have a member of this id,
has room, and the connection belongs to no session. -/
theorem join_eq_ok_iff {s s' : Session} {cs cs' : Connections} {h : Handle} {now : Nat} :
    s.join cs h now = .ok (s', cs') ↔
      s.isClosed = false ∧ s.hasMember (cs.get h).id = false ∧ s.isFull = false ∧
        (cs.get h).session = none ∧
        s' = { s with
          members := s.members ++ [⟨(cs.get h).id, h, loginOf (cs.get h), now⟩]
          host := s.host <|> some (cs.get h).id } ∧
        cs' = cs.set h { cs.get h with session := some s.id } := by
  unfold join
  dsimp only
  split
  · next hclosed => simp [hclosed]
  split
  · next hmember => simp [hmember]
  split
  · next hfull => simp [hfull]
  split
  · next other hother => simp [hother]
  · next hclosed hmember hfull _ hfree =>
    simp only [Except.ok.injEq, Prod.mk.injEq]
    constructor
    · rintro ⟨rfl, rfl⟩
      simp only [Bool.not_eq_true] at hclosed hmember hfull
      exact ⟨hclosed, hmember, hfull, hfree, rfl, rfl⟩
    · rintro ⟨-, -, -, -, rfl, rfl⟩
      exact ⟨rfl, rfl⟩

/-- Whoever leaves a session is a member; the other members stay, and the connection is
released. -/
theorem leave_eq_some_iff {s s' : Session} {cs cs' : Connections} {id : ConnectionId}
    {login : String} :
    s.leave cs id = some (login, s', cs') ↔
      ∃ m, s.member? id = some m ∧ login = m.login ∧
        s' = { s with
          members := s.members.filter (·.id != id)
          host := if s.host = some id then (earliest? (s.members.filter (·.id != id))).map (·.id)
            else s.host } ∧
        cs' = cs.update m.handle (·.releaseSession s.id) := by
  simp only [leave, Option.map_eq_some_iff, Prod.mk.injEq]
  apply exists_congr
  intro m
  apply and_congr_right
  intro _
  exact and_congr eq_comm (and_congr eq_comm eq_comm)

/-- A session takes new options from a member that is its host, and from nobody else. -/
theorem setOptions_eq_ok_iff {s s' : Session} {id : ConnectionId} {options : SessionOptions} :
    s.setOptions id options = .ok s' ↔
      s.hasMember id = true ∧ s.host = some id ∧ s' = { s with options } := by
  unfold setOptions
  split
  · next habsent =>
    simp only [Bool.not_eq_true'] at habsent
    simp [habsent]
  split
  · next hother => simp [hother]
  · next hmember hhost =>
    simp only [Bool.not_eq_true, Bool.not_eq_false', Decidable.not_not] at hmember hhost
    simp [hmember, hhost, eq_comm]

/-- A member found under an id is a member and has this id. -/
theorem mem_of_member? {s : Session} {id : ConnectionId} {m : Member}
    (h : s.member? id = some m) : m ∈ s.members ∧ m.id = id :=
  ⟨List.mem_of_find?_eq_some h, by simpa using List.find?_some h⟩

/-- Where no two members share an id, every member is found under its id. -/
theorem member?_eq_some {s : Session} (keys : (s.members.map (·.id)).Nodup) {m : Member}
    (hm : m ∈ s.members) : s.member? m.id = some m := by
  obtain ⟨m', hm'⟩ : ∃ m', s.member? m.id = some m' := by
    apply Option.isSome_iff_exists.mp
    simpa [member?] using ⟨m, hm, rfl⟩
  obtain ⟨hmem, hid⟩ := mem_of_member? hm'
  rw [hm', List.inj_on_of_nodup_map keys hmem hm hid]

/-- Members under the ids of their connections, no two under the same, stand for different
connections. -/
theorem nodup_handle_of_named {ms : List Member} {cs : Connections}
    (keys : (ms.map (·.id)).Nodup) (named : ∀ m ∈ ms, m.id = (cs.get m.handle).id) :
    (ms.map (·.handle)).Nodup := by
  have hids : ms.map (·.id) = (ms.map (·.handle)).map fun h => (cs.get h).id := by
    rw [List.map_map]
    exact List.map_congr_left named
  rw [hids] at keys
  exact .of_map _ keys

/-- Of two such members with the same id, or the same connection, each is the other. -/
theorem id_eq_iff_handle_eq_of_named {ms : List Member} {cs : Connections}
    (keys : (ms.map (·.id)).Nodup) (named : ∀ m ∈ ms, m.id = (cs.get m.handle).id)
    {m m' : Member} (hm : m ∈ ms) (hm' : m' ∈ ms) : m.id = m'.id ↔ m.handle = m'.handle := by
  constructor
  · intro he
    rw [List.inj_on_of_nodup_map keys hm hm' he]
  · intro he
    rw [named m hm, named m' hm', he]

/-- What queueing bytes to a connection keeps of it, queueing bytes to members keeps of all
connections. -/
theorem sendEach_keeps {R : Connection → Connection → Prop} (refl : ∀ c, R c c)
    (trans : ∀ {a b c}, R a b → R b c → R a c)
    (sends : ∀ (c : Connection) (payload : Bytes), R c (c.sendBytes payload).2)
    (cs : Connections) (payload : Bytes) (ms : List Member) (k : Handle) :
    R (cs.get k) ((sendEach cs payload ms).2.get k) := by
  induction ms generalizing cs with
  | nil => exact refl _
  | cons m rest ih =>
    have hfirst : R (cs.get k)
        ((cs.set m.handle ((cs.get m.handle).sendBytes payload).2).get k) := by
      rw [Connections.get_set]
      split
      next hk => exact hk ▸ sends _ payload
      · exact refl _
    unfold sendEach
    dsimp only
    split <;> exact trans hfirst (ih _)

/-- Queueing bytes to members keeps the standing of all connections. -/
theorem sameStanding_sendEach (cs : Connections) (payload : Bytes) (ms : List Member) :
    cs.SameStanding (sendEach cs payload ms).2 :=
  sendEach_keeps .refl .trans Connection.sameStanding_sendBytes cs payload ms

end Session

namespace Lobby

/-- A session found under an id is among the sessions and has this id. -/
theorem mem_of_session? {l : Lobby} {id : SessionId} {s : Session}
    (h : l.session? id = some s) : s ∈ l.sessions ∧ s.id = id :=
  ⟨List.mem_of_find?_eq_some h, by simpa using List.find?_some h⟩

/-- A session is found under an id exactly when some session has this id. -/
theorem session?_isSome_iff {l : Lobby} {id : SessionId} :
    (l.session? id).isSome = true ↔ id ∈ l.sessions.map (·.id) := by
  simp [session?]

/-- Distinct ids: no two sessions are found under the same id. -/
def KeysDistinct (l : Lobby) : Prop := (l.sessions.map (·.id)).Nodup

/-- Where ids are distinct, every session is found under its id. -/
theorem session?_eq_some {l : Lobby} (hk : l.KeysDistinct) {s : Session} (hs : s ∈ l.sessions) :
    l.session? s.id = some s := by
  obtain ⟨t, ht⟩ := Option.isSome_iff_exists.mp
    (session?_isSome_iff.mpr (List.mem_map_of_mem hs : s.id ∈ l.sessions.map (·.id)))
  obtain ⟨hmem, hid⟩ := mem_of_session? ht
  rw [ht, List.inj_on_of_nodup_map hk hmem hs hid]

/-- Replacing a session keeps the ids. -/
@[simp] theorem map_id_replace (s : Session) (sessions : List Session) :
    (replace s sessions).map (·.id) = sessions.map (·.id) := by
  simp only [replace, List.map_map]
  apply List.map_congr_left
  intro t _
  by_cases ht : t.id = s.id <;> simp [ht]

/-- After a replacement there is the new session, and there are the old ones with other ids. -/
theorem mem_replace {s t : Session} {sessions : List Session}
    (hs : s.id ∈ sessions.map (·.id)) :
    t ∈ replace s sessions ↔ t = s ∨ (t ∈ sessions ∧ t.id ≠ s.id) := by
  obtain ⟨old, hold, hid⟩ := List.mem_map.mp hs
  constructor
  · intro ht
    obtain ⟨u, hu, rfl⟩ := List.mem_map.mp ht
    by_cases he : u.id = s.id
    · simp [he]
    · simp [he, hu]
  · rintro (rfl | ⟨ht, hne⟩)
    · exact List.mem_map.mpr ⟨old, hold, by simp [hid]⟩
    · exact List.mem_map.mpr ⟨t, ht, by simp [hne]⟩

/-- Sessions with other ids are not replaced. -/
theorem replace_eq_self {s : Session} {sessions : List Session}
    (h : ∀ t ∈ sessions, t.id ≠ s.id) : replace s sessions = sessions := by
  refine (List.map_congr_left fun t ht => ?_).trans sessions.map_id
  simp [h t ht]

/-- A session is replaced where it stands. -/
theorem replace_append_cons {s t : Session} {before after : List Session} (hid : t.id = s.id)
    (hbefore : ∀ u ∈ before, u.id ≠ s.id) (hafter : ∀ u ∈ after, u.id ≠ s.id) :
    replace s (before ++ t :: after) = before ++ s :: after := by
  have hsplit : replace s (before ++ t :: after) =
      replace s before ++ (if t.id == s.id then s else t) :: replace s after := by
    simp [replace]
  rw [hsplit, replace_eq_self hbefore, replace_eq_self hafter]
  simp [hid]

/-- The last of two replacements under one id decides. -/
theorem replace_replace {s s' : Session} (hid : s'.id = s.id) (sessions : List Session) :
    replace s' (replace s sessions) = replace s' sessions := by
  simp only [replace, List.map_map]
  apply List.map_congr_left
  intro t _
  by_cases ht : t.id = s.id <;> simp [ht, hid]

/-- A session whose id is known is stored in its place. -/
theorem store_eq_replace {l : Lobby} {s : Session} (h : (l.session? s.id).isSome = true) :
    l.store s = { l with sessions := replace s l.sessions } := by
  simp [store, h]

/-- A stored session is found, if its id was known. -/
theorem session?_store_self {l : Lobby} {s : Session} (h : (l.session? s.id).isSome = true) :
    (l.store s).session? s.id = some s := by
  rw [store_eq_replace h]
  obtain ⟨t, ht⟩ := Option.isSome_iff_exists.mp h
  simp only [session?, replace, List.find?_map]
  have hfun : ((fun u : Session => u.id == s.id) ∘ fun u : Session =>
      if (u.id == s.id) = true then s else u) = fun u : Session => u.id == s.id := by
    funext u
    by_cases hu : u.id = s.id <;> simp [hu]
  have hfind : l.sessions.find? (fun u => u.id == s.id) = some t := ht
  rw [hfun, hfind]
  simp [(mem_of_session? ht).2]

/-- Storing a session makes known no id and forgets none. -/
theorem session?_store_isSome {l : Lobby} {s : Session} {id : SessionId} :
    ((l.store s).session? id).isSome = (l.session? id).isSome := by
  unfold store
  split
  · rw [Bool.eq_iff_iff, session?_isSome_iff, session?_isSome_iff]
    simp
  · rfl

@[simp] theorem nextId_store (l : Lobby) (s : Session) : (l.store s).nextId = l.nextId := by
  unfold store
  split <;> rfl

@[simp] theorem maxPlayers_store (l : Lobby) (s : Session) :
    (l.store s).maxPlayers = l.maxPlayers := by
  unfold store
  split <;> rfl

@[simp] theorem maxSessions_store (l : Lobby) (s : Session) :
    (l.store s).maxSessions = l.maxSessions := by
  unfold store
  split <;> rfl

/-- A session that is found is what is referred to. -/
theorem referred?_of_session? {l : Lobby} {id : SessionId} {s : Session}
    (h : l.session? id = some s) : l.referred? id = some s := by
  simp [referred?, h]

/-- What a move changes. -/
inductive Change where
  /-- A connection becomes a member of a session. -/
  | admitted (session : SessionId) (h : Handle)
  /-- A member leaves a session. -/
  | dismissed (session : SessionId) (id : ConnectionId)
  /-- A session has new options. -/
  | reformed (session : SessionId)
  /-- Time passes in a session. -/
  | advanced (session : SessionId)
  /-- Connections send, write or close. -/
  | touched
  /-- A connection that names a session which is not there is released. -/
  | released (h : Handle)
  /-- A session id is drawn for nothing. -/
  | drawn
  /-- A session id is drawn for a new session without members. -/
  | opened
  /-- The sessions without members are reclaimed. -/
  | reclaimed
  /-- The table of sessions, or that of the members of one, is enumerated in another order. -/
  | reordered

/-- The connection that a change admits to a session. -/
def Change.joiner? : Change → Option Handle
  | admitted _ h => some h
  | _ => none

/-- The number of session ids that a change draws. -/
def Change.draws : Change → Nat
  | drawn | opened => 1
  | _ => 0

/-- The next id is drawn. -/
def drawId (l : Lobby) : Lobby := { l with nextId := l.nextId + 1 }

/-- A new session under the next id. -/
def nextSession (l : Lobby) (options : SessionOptions) : Session where
  id := ⟨l.nextId⟩
  options
  maxPlayers := l.maxPlayers

/-- One move. -/
inductive Move : Lobby → Change → Lobby → Prop where
  | admitted {l : Lobby} {s s' : Session} {cs : Connections} {h : Handle}
      (held : l.session? s.id = some s) (joins : s.join l.connections h l.clock = .ok (s', cs)) :
      Move l (.admitted s.id h) ({ l with connections := cs, clock := l.clock + 1 }.store s')
  | dismissed {l : Lobby} {s s' : Session} {cs : Connections} {id : ConnectionId} {login : String}
      (held : l.session? s.id = some s) (leaves : s.leave l.connections id = some (login, s', cs)) :
      Move l (.dismissed s.id id) ({ l with connections := cs }.store s')
  | reformed {l : Lobby} {s : Session} (held : l.session? s.id = some s)
      (options : SessionOptions) : Move l (.reformed s.id) (l.store { s with options })
  | advanced {l : Lobby} {s : Session} (held : l.session? s.id = some s) (elapsed : Duration) :
      Move l (.advanced s.id) (l.store { s with elapsed, tickCount := s.tickCount + 1 })
  | touched {l : Lobby} {cs : Connections} (same : l.connections.SameStanding cs) :
      Move l .touched { l with connections := cs }
  | released {l : Lobby} {h : Handle} {id : SessionId}
      (names : (l.connection h).session = some id) (gone : l.session? id = none) :
      Move l (.released h) (l.updateConnection h (·.releaseSession id))
  | drawn {l : Lobby} (room : l.count < l.maxSessions) : Move l .drawn l.drawId
  | opened {l : Lobby} (room : l.count < l.maxSessions) (options : SessionOptions) :
      Move l .opened (l.drawId.insert (l.nextSession options))
  | reclaimed {l : Lobby} : Move l .reclaimed l.sweepEmpty.2
  | reordered {l : Lobby} {sessions : List Session} (order : sessions.Perm l.sessions) :
      Move l .reordered { l with sessions }
  | reorderedMembers {l : Lobby} {s : Session} {members : List Member}
      (held : l.session? s.id = some s) (order : members.Perm s.members) :
      Move l .reordered (l.store { s with members })

/-- A move changes no limit, and the counter tells whether it draws an id. -/
theorem Move.limits {l l' : Lobby} {c : Change} (h : Move l c l') :
    l'.nextId = l.nextId + UInt32.ofNat c.draws ∧ l'.maxPlayers = l.maxPlayers ∧
      l'.maxSessions = l.maxSessions := by
  cases h <;> simp [Change.draws, drawId, insert, sweepEmpty, updateConnection]

/-- Moves from `l` that admit only connections in `who` and draw `n` ids. -/
inductive Moves (who : Handle → Prop) (l : Lobby) : Nat → Lobby → Prop where
  | refl : Moves who l 0 l
  | tail {n : Nat} {l' l'' : Lobby} {c : Change} (before : Moves who l n l')
      (last : Move l' c l'') (admits : ∀ h ∈ c.joiner?, who h) : Moves who l (n + c.draws) l''

/-- Moves that admit nobody and draw no id. -/
abbrev QuietMoves (l : Lobby) : Lobby → Prop := Moves (fun _ => False) l 0

namespace Moves

variable {who : Handle → Prop} {n n' : Nat} {l l' l'' : Lobby}

/-- Moves one after the other. -/
theorem trans (h : Moves who l n l') (h' : Moves who l' n' l'') : Moves who l (n + n') l'' := by
  induction h' with
  | refl => exact h
  | tail _ last admits ih =>
    rw [← Nat.add_assoc]
    exact ih.tail last admits

/-- One move. -/
theorem single {c : Change} (h : Move l c l') (admits : ∀ h ∈ c.joiner?, who h) :
    Moves who l c.draws l' := by
  simpa using (Moves.refl : Moves who l 0 l).tail h admits

/-- One move that admits nobody. -/
theorem quiet {c : Change} (h : Move l c l') (nobody : c.joiner? = none) :
    Moves who l c.draws l' := by
  apply single h
  intro k hk
  rw [nobody] at hk
  cases hk

/-- Who is admitted may be said less precisely. -/
theorem mono {who' : Handle → Prop} (hw : ∀ h, who h → who' h) (h : Moves who l n l') :
    Moves who' l n l' := by
  induction h with
  | refl => exact .refl
  | tail _ last admits ih => exact ih.tail last fun h hh => hw h (admits h hh)

/-- Moves change no limits, and the counter tells how many ids they draw. -/
theorem limits (h : Moves who l n l') :
    l'.nextId = l.nextId + UInt32.ofNat n ∧ l'.maxPlayers = l.maxPlayers ∧
      l'.maxSessions = l.maxSessions := by
  induction h with
  | refl => simp
  | tail _ last _ ih =>
    obtain ⟨hcounter, hplayers, hsessions⟩ := ih
    obtain ⟨hcounter', hplayers', hsessions'⟩ := last.limits
    refine ⟨?_, hplayers'.trans hplayers, hsessions'.trans hsessions⟩
    rw [hcounter', hcounter, UInt32.ofNat_add, UInt32.add_assoc]

/-- Quiet moves are moves, whoever may be admitted. -/
theorem of_quiet (h : QuietMoves l l') : Moves who l 0 l' := h.mono fun _ => False.elim

end Moves

end Lobby

end PlayServer
