import PlayServer.Proofs.Lobby.Admission
import PlayServer.Proofs.Server.Post
import PlayServer.Proofs.Wire.Cursor

/-!
# Notices of arrivals and departures

The members of a session hear of players who join it and of players who leave it through notices,
which are recognised by their header. `Lobby.noticesFor` says which of them a member should get when
the rosters change, and `Announced` that the payloads posted contain exactly these for every member,
and none for anybody else.

Each way in which rosters change has a lemma that says which notices announce it.
-/

namespace PlayServer

/-- Whether a payload is a notice of a player who has joined or left. -/
def isNotice (payload : Bytes) : Bool :=
  let header := Header.decode payload
  header.service == Service.game &&
    (header.method == Method.playerJoined || header.method == Method.playerLeft)

/-- The notice of a player who has joined. -/
def joinedNotice (login : String) : Bytes :=
  (gameNotice Method.playerJoined (playerBody login)).encode

/-- The notice of a player who has left. -/
def leftNotice (login : String) : Bytes :=
  (gameNotice Method.playerLeft (playerBody login)).encode

/-- The notices among some payloads. -/
def notices (payloads : List Bytes) : List Bytes := payloads.filter isNotice

/-- A packet is a notice by its service and its method. -/
theorem isNotice_encode (p : Packet) : isNotice p.encode =
    (p.service == Service.game &&
      (p.method == Method.playerJoined || p.method == Method.playerLeft)) := by
  rw [isNotice, Packet.encode, Header.decode_encode]
  rfl

@[simp] theorem isNotice_joinedNotice (login : String) : isNotice (joinedNotice login) = true :=
  isNotice_encode _

@[simp] theorem isNotice_leftNotice (login : String) : isNotice (leftNotice login) = true :=
  isNotice_encode _

@[simp] theorem notices_joinedNotice (login : String) :
    notices [joinedNotice login] = [joinedNotice login] := by
  simp [notices]

@[simp] theorem notices_leftNotice (login : String) :
    notices [leftNotice login] = [leftNotice login] := by
  simp [notices]

@[simp] theorem notices_append (payloads payloads' : List Bytes) :
    notices (payloads ++ payloads') = notices payloads ++ notices payloads' :=
  List.filter_append ..

/-- A short text takes at most its length byte and the most bytes that it can tell of. -/
theorem length_encodeShortText_le (s : String) : (encodeShortText s).length ≤ maxShortText + 1 :=
  Nat.succ_le_succ (Text.length_clip_le maxShortText s)

/-- What is told of a player is the login. -/
theorem playerBody_eq (login : String) : playerBody login = encodeShortText login := by
  simp [playerBody, Field.encodeAll, Field.encode]

/-- What is told of chat is the login of whoever speaks, and then as much of the text as is
relayed. -/
theorem chatBody_eq (login text : String) :
    chatBody login text = encodeShortText login ++ utf8 (Text.clipped maxChatText text) := by
  simp [chatBody, Field.encodeAll, Field.encode]

/-- A notice about a player is within the limit. -/
theorem inLimit_playerNotice (method : UInt16) (login : String) :
    (gameNotice method (playerBody login)).InLimit := by
  have hlogin := length_encodeShortText_le login
  rw [Packet.InLimit, gameNotice, playerBody_eq]
  exact Nat.le_trans hlogin (by decide)

/-- A relayed chat message is within the limit, whatever its text. -/
theorem inLimit_chatNotice (method : UInt16) (login text : String) :
    (gameNotice method (chatBody login text)).InLimit := by
  have hlogin := length_encodeShortText_le login
  have htext := (Text.isLongestPrefix_clipped maxChatText text).fits
  rw [Packet.InLimit, gameNotice, chatBody_eq, List.length_append]
  exact Nat.le_trans (Nat.add_le_add hlogin htext) (by decide)

/-- A notice of new options is within the limit. -/
theorem inLimit_replyNotice (method : UInt16) (reply : SessionReply) :
    (gameNotice method reply.encode).InLimit := by
  rw [Packet.InLimit, gameNotice, SessionReply.length_encode]
  decide

/-- The login in a notice. -/
def noticeLogin? (payload : Bytes) : Option String :=
  match ((Cursor.mk (payload.drop headerSize) 0).shortText "login").1 with
  | .ok login => some login
  | .error _ => none

/-- The login in the notice of a player reads back, if it fits. -/
theorem noticeLogin?_encode {login : String} (fits : (utf8 login).length ≤ maxShortText)
    (method : UInt16) :
    noticeLogin? (gameNotice method (playerBody login)).encode = some login := by
  have hbody : (gameNotice method (playerBody login)).encode.drop headerSize =
      encodeShortText login := by
    rw [Packet.encode, List.drop_left' (Header.length_encode _), gameNotice, playerBody_eq]
  have hread := Cursor.shortText_encodeShortText [] login [] "login"
  rw [List.append_nil, Text.clipped_of_fits fits] at hread
  rw [noticeLogin?, hbody, Cursor.mk_zero, hread]

/-- A payload for each member of a session but those under the id of one connection. -/
def Lobby.toOthers (l : Lobby) (id : SessionId) (h : Handle) (payload : Bytes) : Post :=
  .toEach ((l.roster id).filter fun m => some m.id != some (l.connection h).id) payload

/-- Each member is told as often as its connection occurs among the members. -/
theorem Post.toEach_eq_replicate (ms : List Member) (payload : Bytes) (k : Handle) :
    Post.toEach ms payload k = List.replicate ((ms.map (·.handle)).count k) payload := by
  rw [Post.toEach, List.map_const', List.count, List.countP_map, List.countP_eq_length_filter]
  rfl

namespace Lobby

namespace Consistent

variable {l : Lobby} {drawn : Nat}

/-- What is posted to all members of a session is posted to each connection that names it, once. -/
theorem toEach_roster (hl : l.Consistent drawn) (id : SessionId) (payload : Bytes) (k : Handle) :
    Post.toEach (l.roster id) payload k = if k ∈ l.seated id then [payload] else [] := by
  rw [Post.toEach_eq_replicate]
  have hnodup := hl.nodup_seated id
  have hcount : ((l.roster id).map (·.handle)).count k = if k ∈ l.seated id then 1 else 0 :=
    hnodup.count
  rw [hcount]
  split <;> rfl

/-- What is posted to all members of a session but one is posted to all others that name it. -/
theorem toOthers_eq (hl : l.Consistent drawn) {id : SessionId} {h : Handle}
    (hmember : h ∈ l.seated id) (payload : Bytes) (k : Handle) :
    l.toOthers id h payload k = if k ∈ l.seated id ∧ k ≠ h then [payload] else [] := by
  obtain ⟨m₀, hm₀, hm₀h⟩ := List.mem_map.mp hmember
  subst hm₀h
  have hothers : ((l.roster id).filter fun m => some m.id != some (l.connection m₀.handle).id) =
      (l.roster id).filter (·.handle != m₀.handle) := by
    apply List.filter_congr
    intro m hm
    rw [← hl.id_of_mem_roster hm₀, Bool.eq_iff_iff, bne_iff_ne, bne_iff_ne]
    simp only [ne_eq, Option.some.injEq]
    exact not_congr (hl.id_eq_iff_handle_eq hm hm₀)
  rw [toOthers, hothers]
  by_cases hk : k = m₀.handle
  · have hnone : ((l.roster id).filter (·.handle != m₀.handle)).filter (·.handle == k) = [] := by
      rw [List.filter_filter, List.filter_eq_nil_iff]
      intro m _
      simp [hk]
    rw [Post.toEach, hnone]
    simp [hk]
  · have hall : ((l.roster id).filter (·.handle != m₀.handle)).filter (·.handle == k) =
        (l.roster id).filter (·.handle == k) := by
      rw [List.filter_filter]
      apply List.filter_congr
      intro m _
      by_cases he : m.handle = k
      · simp [he, hk]
      · simp [he]
    have hmembers := hl.toEach_roster id payload k
    rw [Post.toEach] at hmembers ⊢
    rw [hall, hmembers]
    simp [hk]

end Consistent

/-- The members of a session who were no members of it before. -/
def arrivals (l l' : Lobby) (id : SessionId) : List Member :=
  (l'.roster id).filter (·.handle ∉ l.seated id)

/-- Those who were members of a session before and are no longer. -/
def departures (l l' : Lobby) (id : SessionId) : List Member :=
  (l.roster id).filter (·.handle ∉ l'.seated id)

/-- The notices that tell a member of a session who else has joined it and who has left it. -/
def noticesFor (l l' : Lobby) (id : SessionId) (k : Handle) : List Bytes :=
  ((l.arrivals l' id).filter (·.handle != k)).map (fun m => joinedNotice m.login) ++
    (l.departures l' id).map fun m => leftNotice m.login

/-- Who stays in a session stays the member that it was, and the payloads posted tell every member
of a session who else has joined it and who has left it, and nobody else of anything. -/
structure Announced (l l' : Lobby) (post : Post) : Prop where
  kept : ∀ id, ∀ m ∈ l'.roster id, m.handle ∈ l.seated id → m ∈ l.roster id
  members : ∀ id, ∀ k ∈ l'.seated id, notices (post k) = l.noticesFor l' id k
  others : ∀ k, (∀ id, k ∉ l'.seated id) → notices (post k) = []

section

variable {l l' : Lobby} {drawn drawn' : Nat} {post : Post}

/-- Nobody has arrived if nobody has taken a place. -/
theorem arrivals_eq_nil {id : SessionId} (h : ∀ k ∈ l'.seated id, k ∈ l.seated id) :
    l.arrivals l' id = [] := by
  rw [arrivals, List.filter_eq_nil_iff]
  intro m hm
  simpa using h m.handle (List.mem_map_of_mem hm)

/-- Nobody has departed if nobody has given up a place. -/
theorem departures_eq_nil {id : SessionId} (h : ∀ k ∈ l.seated id, k ∈ l'.seated id) :
    l.departures l' id = [] :=
  arrivals_eq_nil h

/-- Where nobody has moved there is nothing to tell. -/
theorem noticesFor_eq_nil {id : SessionId} (h : ∀ k, k ∈ l'.seated id ↔ k ∈ l.seated id)
    (k : Handle) : l.noticesFor l' id k = [] := by
  rw [noticesFor, arrivals_eq_nil fun k => (h k).mp, departures_eq_nil fun k => (h k).mpr]
  rfl

/-- A connection is on one roster at most. -/
theorem Consistent.seated_unique (hl : l.Consistent drawn) {id id' : SessionId} {k : Handle}
    (hk : k ∈ l.seated id) (hk' : k ∈ l.seated id') : id = id' :=
  Option.some.inj ((hl.mem_seated_iff.mp hk).symm.trans (hl.mem_seated_iff.mp hk'))

/-- Where every connection names the session that it named, no notice announces it. -/
theorem announced_of_seats (hl : l.Consistent drawn) (hl' : l'.Consistent drawn')
    (kept : ∀ id, ∀ m ∈ l'.roster id, m ∈ l.roster id)
    (seats : ∀ k, (l'.connection k).session = (l.connection k).session)
    (silent : ∀ k, notices (post k) = []) : Announced l l' post where
  kept id m hm _ := kept id m hm
  members id k _ := by
    rw [silent k, noticesFor_eq_nil]
    intro k
    rw [hl.mem_seated_iff, hl'.mem_seated_iff, seats]
  others k _ := silent k

/-- Moves that admit nobody bring in no member where every connection names the session that it
named. -/
theorem mem_roster_of_quiet (hl : l.Consistent drawn) (hl' : l'.Consistent drawn')
    (quiet : QuietMoves l l')
    (seats : ∀ k, (l'.connection k).session = (l.connection k).session) {id : SessionId}
    {m : Member} (hm : m ∈ l'.roster id) : m ∈ l.roster id := by
  have hnamed : (l.connection m.handle).session = some id := by
    rw [← seats]
    exact hl'.mem_seated_iff.mp (List.mem_map_of_mem hm)
  obtain ⟨s', hs', hms'⟩ : l'.HasMember m := by
    cases hfound : l'.session? id with
    | none => simp [roster_of_none hfound] at hm
    | some s' => exact ⟨s', (mem_of_session? hfound).1, roster_of_session? hfound ▸ hm⟩
  obtain ⟨s, hs, hms⟩ := (quiet.members ⟨s', hs', hms'⟩).resolve_right fun hnew => hnew.1
  have hroster : l.roster s.id = s.members := roster_of_session? (session?_eq_some hl.keys hs)
  have hin : m ∈ l.roster s.id := hroster ▸ hms
  have hid : s.id = id :=
    Option.some.inj ((hl.mem_seated_iff.mp (List.mem_map_of_mem hin)).symm.trans hnamed)
  exact hid ▸ hin

/-- A player who joins is announced to all other members by one notice. -/
theorem Admits.announced {id : SessionId} {h : Handle} (admits : Admits l id h l')
    (hl : l.Consistent drawn) (hl' : l'.Consistent drawn')
    (told : ∀ k, notices (post k) = if k ∈ l'.seated id ∧ k ≠ h then
      [joinedNotice (Session.loginOf (l.connection h))] else []) : Announced l l' post := by
  obtain ⟨now, hjoined⟩ := admits.joined
  have hnew : h ∉ l.seated id := by
    rw [hl.mem_seated_iff, admits.free]
    simp
  have hstay : ∀ k ∈ l.seated id, k ∈ l'.seated id := by
    intro k hk
    rw [seated, hjoined, List.map_append]
    exact List.mem_append_left _ hk
  refine ⟨?_, ?_, ?_⟩
  · intro id' m hm hold
    by_cases hid : id' = id
    · subst hid
      rw [hjoined] at hm
      rcases List.mem_append.mp hm with hm | hm
      · exact hm
      · obtain rfl := List.mem_singleton.mp hm
        exact absurd hold hnew
    · rwa [roster_congr (admits.others id' hid)] at hm
  · intro id' k hk
    by_cases hid : id' = id
    · subst hid
      have hold : l.arrivals l id' = [] := arrivals_eq_nil fun _ hk => hk
      rw [arrivals] at hold
      rw [told, noticesFor, departures_eq_nil hstay, arrivals, hjoined, List.filter_append, hold]
      by_cases hkh : k = h
      · simp [hkh, hnew]
      · simp [hk, hkh, Ne.symm hkh, hnew]
    · have hsame : l'.seated id' = l.seated id' := by
        rw [seated, roster_congr (admits.others id' hid), seated]
      have helsewhere : k ∉ l'.seated id := fun hk' => hid (hl'.seated_unique hk hk')
      rw [told, noticesFor_eq_nil (by simp [hsame])]
      simp [helsewhere]
  · intro k hk
    rw [told, if_neg fun hin => hk id hin.1]

/-- A player who leaves is announced to all who stay by one notice. -/
theorem Dismisses.announced {h : Handle} {d : Departure} (dismisses : Dismisses l h d l')
    (hl : l.Consistent drawn) (hl' : l'.Consistent drawn')
    (told : ∀ k, notices (post k) = if k ∈ l'.seated d.session then [leftNotice d.login] else []) :
    Announced l l' post := by
  obtain ⟨m, hm, hmh, hlogin⟩ := dismisses.member
  have hseats : ∀ k, k ∈ l'.seated d.session ↔ k ∈ l.seated d.session ∧ k ≠ h := by
    intro k
    simp only [seated, dismisses.left, List.mem_map, List.mem_filter, bne_iff_ne, ne_eq]
    constructor
    · rintro ⟨m', ⟨hm', hne⟩, rfl⟩
      exact ⟨⟨m', hm', rfl⟩, hne⟩
    · rintro ⟨⟨m', hm', rfl⟩, hne⟩
      exact ⟨m', ⟨hm', hne⟩, rfl⟩
  have hgone : l.departures l' d.session = [m] := by
    have hone : l.departures l' d.session = (l.roster d.session).filter (· = m) := by
      apply List.filter_congr
      intro m' hm'
      rw [decide_eq_decide, hseats, ← hmh]
      constructor
      · intro hnot
        have hsame : m'.handle = m.handle := by
          by_contra hne
          exact hnot ⟨List.mem_map_of_mem hm', hne⟩
        exact List.inj_on_of_nodup_map (hl.nodup_seated d.session) hm' hm hsame
      · rintro rfl ⟨-, hne⟩
        exact hne rfl
    rw [hone, List.filter_eq, (List.Nodup.of_map _ (hl.nodup_seated d.session)).count, if_pos hm]
    rfl
  refine ⟨?_, ?_, ?_⟩
  · intro id m' hm' _
    by_cases hid : id = d.session
    · subst hid
      rw [dismisses.left] at hm'
      exact List.mem_of_mem_filter hm'
    · rwa [roster_congr (dismisses.others id hid)] at hm'
  · intro id k hk
    by_cases hid : id = d.session
    · subst hid
      have hnobody : l.arrivals l' d.session = [] :=
        arrivals_eq_nil fun k hk => ((hseats k).mp hk).1
      rw [told, if_pos hk, noticesFor, hnobody, hgone, ← hlogin]
      rfl
    · have hsame : l'.seated id = l.seated id := by
        rw [seated, roster_congr (dismisses.others id hid), seated]
      have helsewhere : k ∉ l'.seated d.session := fun hk' => hid (hl'.seated_unique hk hk')
      rw [told, if_neg helsewhere, noticesFor_eq_nil (by simp [hsame])]
  · intro k hk
    rw [told, if_neg (hk d.session)]

/-- Players who leave because their connections have closed are announced to all who stay, by one
notice each. -/
theorem announced_of_closed
    (stayed : ∀ id, l'.roster id = (l.roster id).filter fun m => (l.connection m.handle).isOpen)
    (told : ∀ id, ∀ k ∈ l'.seated id, notices (post k) =
      ((l.roster id).filter fun m => !(l.connection m.handle).isOpen).map fun m =>
        leftNotice m.login)
    (silent : ∀ k, (∀ id, k ∉ l'.seated id) → notices (post k) = []) : Announced l l' post := by
  have hseats {id : SessionId} {k : Handle} :
      k ∈ l'.seated id ↔ k ∈ l.seated id ∧ (l.connection k).isOpen = true := by
    simp only [seated, stayed, List.mem_map, List.mem_filter]
    constructor
    · rintro ⟨m, ⟨hm, hopen⟩, rfl⟩
      exact ⟨⟨m, hm, rfl⟩, hopen⟩
    · rintro ⟨⟨m, hm, rfl⟩, hopen⟩
      exact ⟨m, ⟨hm, hopen⟩, rfl⟩
  refine ⟨fun id m hm _ => List.mem_of_mem_filter (stayed id ▸ hm), fun id k hk => ?_, silent⟩
  have hnobody : l.arrivals l' id = [] := arrivals_eq_nil fun k hk => (hseats.mp hk).1
  have hgone : l.departures l' id =
      (l.roster id).filter fun m => !(l.connection m.handle).isOpen := by
    apply List.filter_congr
    intro m hm
    have hin : m.handle ∈ l.seated id := List.mem_map_of_mem hm
    cases hopen : (l.connection m.handle).isOpen <;> simp [hseats, hin, hopen]
  rw [told id k hk, noticesFor, hnobody, hgone]
  rfl

end

end Lobby

end PlayServer
