import PlayServer.Proofs.Server.Orderly

/-!
# Whom requests reach

A request is answered to whoever makes it, under its own correlation id, and what is announced
because of it goes to others, under the correlation id 0: `Sends`.

What is announced to a session never reaches whoever it is about. Members are told apart by the ids
of their connections, so this takes an orderly lobby, in which members are known by these ids.
-/

namespace PlayServer

namespace Lobby

variable {l l' : Lobby} {h : Handle}

/-- Whoever is on a roster under another id than that of a connection is another connection. -/
theorem Orderly.handle_ne (hl : l.Orderly) {id : SessionId} {m : Member} (hm : m ∈ l.roster id)
    (other : m.id ≠ (l.connection h).id) : m.handle ≠ h := by
  cases hfound : l.session? id with
  | none => simp [roster_of_none hfound] at hm
  | some s =>
    rw [roster_of_session? hfound] at hm
    rintro rfl
    exact other ((hl.occupied s (mem_of_session? hfound).1).named m hm)

/-- After a connection has left a session nobody is on its roster under the id of this
connection. -/
theorem id_ne_of_leave {d : Departure} (left : l.leave h = (.ok d, l')) {m : Member}
    (hm : m ∈ l'.roster d.session) : m.id ≠ (l.connection h).id := by
  unfold leave at left
  dsimp only at left
  split at left
  · cases left
  split at left
  · cases left
  next s hs =>
  obtain ⟨-, rfl⟩ := mem_of_session? hs
  rw [leaveReferred, referred?_of_session? hs] at left
  dsimp only at left
  cases hleave : s.leave l.connections (l.connection h).id with
  | none =>
    rw [hleave] at left
    cases left
  | some outcome =>
    obtain ⟨login, s', cs⟩ := outcome
    rw [hleave] at left
    cases left
    obtain ⟨-, -, -, hs', -⟩ := Session.leave_eq_some_iff.mp hleave
    have hid : s'.id = s.id := by rw [hs']
    have hknown : (l.session? s'.id).isSome = true := by rw [hid, hs]; rfl
    rw [roster_store (by exact hknown), if_pos hid.symm, hs'] at hm
    simpa using (List.mem_filter.mp hm).2

end Lobby

/-- A payload that answers a packet: a packet within the limit on the same service and under the
same correlation id. -/
def IsReplyTo (p : Packet) (payload : Bytes) : Prop :=
  ∃ q : Packet, q.InLimit ∧ q.service = p.service ∧ q.correlation = p.correlation ∧
    payload = q.encode

/-- A payload that answers nobody: a packet within the limit under the correlation id 0. -/
def IsUnasked (payload : Bytes) : Prop :=
  ∃ q : Packet, q.InLimit ∧ q.correlation = 0 ∧ payload = q.encode

/-- A reply within the limit is one. -/
theorem isReplyTo_reply {p : Packet} {method : UInt16} {body : Bytes}
    (limit : (p.reply method body).InLimit) : IsReplyTo p (p.reply method body).encode :=
  ⟨_, limit, rfl, rfl, rfl⟩

/-- What is posted to one connection, and that all others get only what answers nobody. -/
structure Post.Addresses (post : Post) (h : Handle) (own : List Bytes) : Prop where
  own : post h = own
  others : ∀ k, k ≠ h → ∀ payload ∈ post k, IsUnasked payload

namespace Post

variable {h : Handle}

/-- Nothing for anybody. -/
theorem addresses_nobody : nobody.Addresses h [] :=
  ⟨rfl, fun _ _ _ hnone => absurd hnone List.not_mem_nil⟩

/-- Payloads for one connection. -/
theorem addresses_onlyTo (own : List Bytes) : (onlyTo h own).Addresses h own := by
  refine ⟨if_pos rfl, fun k hk payload hpayload => ?_⟩
  rw [onlyTo_of_ne hk] at hpayload
  cases hpayload

/-- A packet that answers nobody, for some members other than a connection. -/
theorem addresses_toEach {ms : List Member} {q : Packet} (limit : q.InLimit)
    (unasked : q.correlation = 0) (others : ∀ m ∈ ms, m.handle ≠ h) :
    (toEach ms q.encode).Addresses h [] := by
  constructor
  · have hnone : ms.filter (·.handle == h) = [] := by
      simpa [List.filter_eq_nil_iff] using others
    rw [toEach, hnone, List.map_nil]
  · intro k _ payload hpayload
    obtain ⟨m, -, rfl⟩ := List.mem_map.mp hpayload
    exact ⟨q, limit, unasked, rfl⟩

/-- First payloads for one connection, and then what answers nobody. -/
theorem Addresses.andThen {post post' : Post} {own : List Bytes} (first : post.Addresses h own)
    (later : post'.Addresses h []) : (post.andThen post').Addresses h own := by
  refine ⟨?_, fun k hk payload hpayload => ?_⟩
  · rw [Post.andThen, first.own, later.own, List.append_nil]
  · exact (List.mem_append.mp hpayload).elim (first.others k hk payload) (later.others k hk payload)

end Post

/-- What is announced to the others of a session reaches no connection that it is announced for. -/
theorem Lobby.Orderly.addresses_toOthers {l : Lobby} (hl : l.Orderly) (id : SessionId) (h : Handle)
    {q : Packet} (limit : q.InLimit) (unasked : q.correlation = 0) :
    (l.toOthers id h q.encode).Addresses h [] := by
  apply Post.addresses_toEach limit unasked
  intro m hm
  obtain ⟨hmember, hother⟩ := List.mem_filter.mp hm
  exact hl.handle_ne hmember (by simpa using hother)

namespace ServerState

variable {s s' : ServerState} {h : Handle} {p : Packet}

/-- Connections at most change places, and then payloads are posted to one connection, and to the
others only what answers nobody. -/
def Sends (h : Handle) (own : List Bytes) (s s' : ServerState) : Prop :=
  ∃ l post, s.lobby.connections.Reseated l.connections ∧
    ({ s with lobby := l } : ServerState).Posts post s' ∧ post.Addresses h own

/-- Posts are sent. -/
theorem Posts.sends {post : Post} {own : List Bytes} (posts : s.Posts post s')
    (addresses : post.Addresses h own) : Sends h own s s' :=
  ⟨s.lobby, post, .refl _, posts, addresses⟩

/-- Nothing is sent. -/
theorem Posts.silent (posts : s.Posts .nobody s') : Sends h [] s s' :=
  posts.sends Post.addresses_nobody

/-- A packet within the limit is sent. -/
theorem sends_send (s : ServerState) (h : Handle) {q : Packet} (limit : q.InLimit) :
    Sends h [q.encode] s (s.send h q) :=
  (Posts.updateConnection ((s.connection h).posted_send_of_inLimit limit)).sends
    (Post.addresses_onlyTo _)

section Requests

variable (h : Handle) (p : Packet)

/-- Whoever has joined, or has been refused, hears of it alone. -/
theorem sends_concludeJoin {l : Lobby} (reseated : s.lobby.connections.Reseated l.connections)
    (hl : l.Orderly) (result : Except SessionError SessionSummary) :
    ∃ r, Sends h [sessionAnswer p r] s
      (({ s with lobby := l } : ServerState).concludeJoin h p result) := by
  cases result with
  | error e => exact ⟨_, l, _, reseated, posts_respond _ h p _, Post.addresses_onlyTo _⟩
  | ok summary =>
    refine ⟨_, l, _, reseated, posts_concludeJoin _ h p summary,
      (Post.addresses_onlyTo _).andThen ?_⟩
    exact hl.addresses_toOthers summary.id h (inLimit_playerNotice _ _) rfl

/-- Whoever has changed options, or has been refused, hears of it alone. -/
theorem sends_concludeOptions {l : Lobby} (same : l.connections = s.lobby.connections)
    (hl : l.Orderly) (result : Except SessionError SessionSummary) :
    ∃ r, Sends h [sessionAnswer p r] s
      (({ s with lobby := l } : ServerState).concludeOptions h p result) := by
  have hreseated : s.lobby.connections.Reseated l.connections := same ▸ .refl _
  cases result with
  | error e => exact ⟨_, l, _, hreseated, posts_respond _ h p _, Post.addresses_onlyTo _⟩
  | ok summary =>
    refine ⟨_, l, _, hreseated, posts_concludeOptions _ h p summary,
      (Post.addresses_onlyTo _).andThen ?_⟩
    exact hl.addresses_toOthers summary.id h (inLimit_replyNotice _ _) rfl

/-- Whoever has left, or has been refused, hears of it alone. -/
theorem sends_leaveSession (hl : s.lobby.Orderly) :
    ∃ r, Sends h [sessionAnswer p r] s (s.leaveSession h p) := by
  have hreseated := s.lobby.reseated_leave h
  have hmoved := hl.moves (s.lobby.quietMoves_leave h)
  cases hleft : s.lobby.leave h with
  | mk result l =>
    rw [hleft] at hreseated hmoved
    cases result with
    | error e =>
      rw [leaveSession, hleft]
      exact ⟨_, l, _, hreseated, posts_respond _ h p _, Post.addresses_onlyTo _⟩
    | ok d =>
      refine ⟨_, l, _, hreseated, posts_leaveSession p hleft,
        (Post.addresses_onlyTo _).andThen ?_⟩
      apply Post.addresses_toEach (inLimit_playerNotice Method.playerLeft d.login) rfl
      intro m hm
      have hsame : (l.connection h).id = (s.lobby.connection h).id := (hreseated h).id
      exact hmoved.handle_ne hm (hsame ▸ Lobby.id_ne_of_leave hleft hm)

/-- Chat is refused to whoever speaks outside of all sessions, or in one that is gone and can be
read. -/
theorem exists_refusal?_chat_iff {text : Bytes} :
    (∃ e, s.refusal? h (.chat text) = some e) ↔ (s.connection h).session = none ∨
      ∃ id t, (s.connection h).session = some id ∧ s.lobby.session? id = none ∧ text = utf8 t := by
  unfold refusal?
  cases hsession : (s.connection h).session with
  | none => simp
  | some id =>
    cases htext : ofUtf8? text with
    | none =>
      have hgarbled : ∀ t, text ≠ utf8 t := by
        rintro t rfl
        simp at htext
      simp [hgarbled, htext]
    | some t =>
      obtain rfl := utf8_of_ofUtf8? htext
      cases hfound : s.lobby.session? id with
      | none => simp [Lobby.broadcast, hfound, refusalOf]
      | some session => simp [Lobby.broadcast, hfound, refusalOf]

/-- A request about a session is answered, but chat only if it is refused. -/
theorem sends_serveRequest (hl : s.lobby.Orderly) {request : GameRequest}
    (other : request ≠ .characterList)
    (refused : ∀ text, request = .chat text → ∃ e, s.refusal? h request = some e) :
    ∃ r, Sends h [sessionAnswer p r] s (s.serveRequest h p request) := by
  cases request with
  | characterList => exact absurd rfl other
  | create options =>
    cases options with
    | error e => exact sends_concludeJoin h p (.refl _) hl (.error e)
    | ok options =>
      obtain ⟨n, -, hmoves⟩ := s.lobby.moves_createAndJoin h options
      exact sends_concludeJoin h p (s.lobby.reseated_createAndJoin h options) (hl.moves hmoves) _
  | join id =>
    exact sends_concludeJoin h p (s.lobby.reseated_join id h) (hl.moves (s.lobby.moves_join id h)) _
  | joinAny =>
    obtain ⟨n, -, hmoves⟩ := s.lobby.moves_findOrCreateAndJoin h
    exact sends_concludeJoin h p (s.lobby.reseated_findOrCreateAndJoin h) (hl.moves hmoves) _
  | leave => exact sends_leaveSession h p hl
  | chat text =>
    obtain ⟨e, hrefused⟩ := refused text rfl
    obtain ⟨l, current, hreseated, hanswer⟩ := serveRequest_of_refused p hrefused
    exact ⟨_, l, _, hreseated, hanswer ▸ posts_respond _ h p _, Post.addresses_onlyTo _⟩
  | setOptions options =>
    cases options with
    | error e => exact sends_concludeOptions h p rfl hl (.error e)
    | ok options =>
      exact sends_concludeOptions h p (s.lobby.connections_setOptions h options)
        (hl.moves (s.lobby.quietMoves_setOptions h options)) _

/-- Chat that is not refused is not answered. -/
theorem sends_relayChat (hl : s.lobby.Orderly) {text : Bytes}
    (granted : ¬ ∃ e, s.refusal? h (.chat text) = some e) :
    Sends h [] s (s.relayChat h p text) := by
  rcases s.relayChat_cases h p text with ⟨e, hrefused, -⟩ | ⟨-, hunread | ⟨session, t, -, hrelayed⟩⟩
  · exact absurd ⟨e, hrefused⟩ granted
  · exact hunread.silent
  · exact hrelayed.sends (hl.addresses_toOthers session h (inLimit_chatNotice _ _ _) rfl)

end Requests

end ServerState

end PlayServer
