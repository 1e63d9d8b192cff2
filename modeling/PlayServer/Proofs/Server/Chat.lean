import PlayServer.Proofs.Lobby.Broadcast
import PlayServer.Proofs.Server.Announcement
import PlayServer.Proofs.Server.Malformed
import PlayServer.Proofs.Server.Orderly
import PlayServer.Proofs.Server.Readiness

/-!
# Chat is relayed as it was said

Whatever a member of a session says there is put into one notice, with the login that it is said
under, and the notice goes to all other members. A text that is too long is cut, and no more is cut
off than has to be: `chat_of_run` says what the others read.

Who speaks is a member of a session in the lobby. In an orderly lobby the connection of such a
member names this session, so the text goes there and nowhere else, and whoever speaks is the one
member that is left out.
-/

namespace PlayServer

namespace ServerState

variable {s : ServerState} {h : Handle} {session : Session} {p : Packet} {text : String}

/-- A member of a session who is connected and has logged in says something there. -/
structure Speaks (s : ServerState) (h : Handle) (session : Session) (p : Packet) (text : String) :
    Prop where
  isOpen : (s.connection h).isOpen = true
  play : s.IsPlay h p
  method : p.method = Method.sessionChat
  body : p.body = utf8 text
  held : session ∈ s.lobby.sessions
  member : ∃ m ∈ session.members, m.handle = h

/-- What a member says is broadcast to its session. -/
theorem Speaks.handle_eq (speaks : s.Speaks h session p text) (hl : s.lobby.Orderly) :
    s.handle .game h p = { s with
      lobby.connections := (session.broadcast s.lobby.connections
        (chatNotice ((s.connection h).login.getD "") text) (some (s.connection h).id)).2 } := by
  have hnamed : (s.connection h).session = some session.id := by
    obtain ⟨m, hm, rfl⟩ := speaks.member
    exact (hl.occupied session speaks.held).claimed m hm
  have hfound : s.lobby.session? session.id = some session :=
    Lobby.session?_eq_some hl.keys speaks.held
  rw [handle_of_isPlay speaks.play, handlePlay_of_chat speaks.method, speaks.body, relayChat]
  dsimp only
  rw [hnamed, ofUtf8?_utf8]
  dsimp only
  rw [Lobby.broadcast, hfound]
  dsimp only
  rw [Lobby.broadcastReferred, Lobby.referred?_of_session? hfound]
  rfl

/-- The members who are not left out of it are all but whoever speaks. -/
theorem Speaks.hears_iff (speaks : s.Speaks h session p text) (hl : s.lobby.Orderly) (k : Handle) :
    (∃ m ∈ session.members, m.handle = k ∧ some m.id ≠ some (s.connection h).id) ↔
      (∃ m ∈ session.members, m.handle = k) ∧ k ≠ h := by
  have hoccupied := hl.occupied session speaks.held
  have hsame {m m' : Member} (hm : m ∈ session.members) (hm' : m' ∈ session.members) :=
    Session.id_eq_iff_handle_eq_of_named hoccupied.keys hoccupied.named hm hm'
  obtain ⟨speaker, hspeaker, rfl⟩ := speaks.member
  have hid : (s.connection speaker.handle).id = speaker.id :=
    (hoccupied.named speaker hspeaker).symm
  simp only [hid, ne_eq, Option.some.injEq]
  constructor
  · rintro ⟨m, hm, rfl, hother⟩
    exact ⟨⟨m, hm, rfl⟩, fun he => hother ((hsame hm hspeaker).mpr he)⟩
  · rintro ⟨⟨m, hm, rfl⟩, hother⟩
    exact ⟨m, hm, rfl, fun he => hother ((hsame hm hspeaker).mp he)⟩

/-- What a member says is queued once to every other member who is connected, and to nobody else. -/
theorem Speaks.queuedBy_eq (speaks : s.Speaks h session p text) (hl : s.lobby.Orderly)
    (ready : s.Ready) (k : Handle) :
    s.queuedBy (.packet .game h p) k =
      if ((∃ m ∈ session.members, m.handle = k) ∧ k ≠ h) ∧ (s.connection k).isOpen = true then
        [(chatNotice ((s.connection h).login.getD "") text).encode]
      else [] := by
  have hoccupied := hl.occupied session speaks.held
  have hget := Session.get_broadcast
    (Session.nodup_handle_of_named hoccupied.keys hoccupied.named) s.lobby.connections
    (chatNotice ((s.connection h).login.getD "") text) (some (s.connection h).id) k
  have hafter : (s.step (.packet .game h p)).connection k =
      if (∃ m ∈ session.members, m.handle = k) ∧ k ≠ h then
        ((s.connection k).sendBytes
          (chatNotice ((s.connection h).login.getD "") text).encode).2
      else s.connection k := by
    rw [step, speaks.handle_eq hl]
    exact hget.trans (if_congr (speaks.hears_iff hl k) rfl rfl)
  rw [queuedBy, hafter]
  by_cases hears : (∃ m ∈ session.members, m.handle = k) ∧ k ≠ h
  · rw [if_pos hears, Connection.snd_sendBytes (ready.writers k)]
    by_cases hopen : (s.connection k).isOpen = true
    · rw [if_pos hopen, if_pos ⟨hears, hopen⟩]
      exact List.drop_left
    · rw [if_neg hopen, if_neg fun hboth => hopen hboth.2]
      exact List.drop_length
  · rw [if_neg hears, if_neg fun hboth => hears hboth.1]
    exact List.drop_length

/-- What the others are told reads back as the login that it was said under, if this fits, and the
longest text within the limit. -/
theorem shortText_chatNotice {login : String} (fits : (utf8 login).length ≤ maxShortText)
    (text field : String) :
    ∃ after, (Cursor.mk (chatNotice login text).body 0).shortText field = (.ok login, after) ∧
      after.remaining = utf8 (Text.clipped maxChatText text) := by
  have hread := Cursor.shortText_encodeShortText [] login
    (utf8 (Text.clipped maxChatText text)) field
  rw [Text.clipped_of_fits fits] at hread
  rw [chatNotice, gameNotice, chatBody_eq, Cursor.mk_zero, hread]
  exact ⟨_, rfl, Cursor.remaining_between _ _⟩

/-- Whatever has happened since a server has started. When a member of a session who is connected
and has logged in says something there, one notice is queued to each other member who is connected,
and nothing to anybody else. In it reads first the login that it was said under, which has at most
255 bytes, and then the longest text of at most 512 bytes that the text begins with. This is all of
the text if that has at most 512 bytes, and otherwise it has more than 508. The place where a text
is cut is found for every text and every limit, without going below its start. -/
theorem chat_of_run {s : ServerState} {maxPlayers maxSessions : Nat} {cs : Connections}
    (lobby : s.lobby = .new maxPlayers maxSessions cs) (starts : ∀ c ∈ cs.opened, Starts c)
    (events : List Event) {h : Handle} {session : Session} {p : Packet} {text : String}
    (speaks : (s.run events).Speaks h session p text) :
    (∃ (login heard : String) (notice : Packet),
      ((s.run events).connection h).login = some login ∧ (utf8 login).length ≤ 255 ∧
      Text.IsLongestPrefix 512 text heard ∧
      ((utf8 text).length ≤ 512 → heard = text) ∧
      (512 < (utf8 text).length → 508 < (utf8 heard).length) ∧
      (notice.service = Service.game ∧ notice.method = Method.chatMessage ∧
        notice.correlation = 0) ∧
      (∀ field, ∃ after, (Cursor.mk notice.body 0).shortText field = (.ok login, after) ∧
        after.remaining = utf8 heard) ∧
      ∀ k, (s.run events).queuedBy (.packet .game h p) k =
        if ((∃ m ∈ session.members, m.handle = k) ∧ k ≠ h) ∧
            ((s.run events).connection k).isOpen = true then [notice.encode]
        else []) ∧
    ∀ limit t, Text.searchBelow? (utf8 t) (min limit (utf8 t).length) =
      some (Text.clip limit t).length := by
  have hl : (s.run events).lobby.Orderly :=
    orderly_run (lobby ▸ Lobby.orderly_new _ _ _) events
  have hready := (ready_of_start lobby starts).run events
  obtain ⟨login, hlogin, hfits⟩ := hready.identified h speaks.play.authenticated
  have hqueued := speaks.queuedBy_eq hl hready
  rw [hlogin] at hqueued
  have hheard := Text.isLongestPrefix_clipped maxChatText text
  refine ⟨⟨login, Text.clipped maxChatText text, chatNotice login text, hlogin, hfits, hheard,
    hheard.eq_of_fits, fun hlong => ?_, ⟨rfl, rfl, rfl⟩, shortText_chatNotice hfits text, hqueued⟩,
    fun limit t => ?_⟩
  · have hcut : 512 < (utf8 (Text.clipped maxChatText text)).length + 4 := hheard.limit_lt hlong
    omega
  · rw [Text.searchBelow?_utf8, Text.utf8_clipped]

/-- One player opens a session, and the other joins it. -/
def opensThenJoins : List Event :=
  [.packet .game 0 ⟨Service.game, Method.createSession, 1, []⟩,
    .packet .game 1 ⟨Service.game, Method.joinSession, 2, [0, 0, 0, 1]⟩]

/-- Six hundred bytes of text, three to a character. -/
def longText : String := String.ofList (List.replicate 200 '€')

/-- Of six hundred bytes the other player reads at most 512 and more than 508, and whoever speaks
reads nothing. -/
theorem chat_of_run_longText :
    let now := twoPlayers.run opensThenJoins
    let said : Packet := ⟨Service.game, Method.sessionChat, 3, utf8 longText⟩
    512 < (utf8 longText).length ∧ now.queuedBy (.packet .game 0 said) 0 = [] ∧
      ∃ (heard : String) (notice : Packet),
        Text.IsLongestPrefix 512 longText heard ∧ 508 < (utf8 heard).length ∧
        now.queuedBy (.packet .game 0 said) 1 = [notice.encode] := by
  intro now said
  have hlong : 512 < (utf8 longText).length := by
    have hsize : (utf8 longText).length = 200 * '€'.utf8Size := length_utf8_replicate 200 '€'
    rw [hsize]
    decide
  obtain ⟨session, hsession⟩ : ∃ session, now.lobby.session? ⟨1⟩ = some session :=
    Option.isSome_iff_exists.mp (by decide +kernel)
  have hseated (k : Handle) (hk : k ∈ now.lobby.seated ⟨1⟩) :
      ∃ m ∈ session.members, m.handle = k := by
    rw [Lobby.seated, Lobby.roster_of_session? hsession] at hk
    exact List.mem_map.mp hk
  have hspeaks (text : String) :
      now.Speaks 0 session ⟨Service.game, Method.sessionChat, 3, utf8 text⟩ text :=
    { isOpen := by decide +kernel
      play := ⟨by decide +kernel, rfl⟩
      method := rfl
      body := rfl
      held := (Lobby.mem_of_session? hsession).1
      member := hseated 0 (by decide +kernel) }
  obtain ⟨⟨_, heard, notice, -, -, hprefix, -, hmost, -, -, hqueued⟩, -⟩ :=
    chat_of_run rfl starts_twoPlayers opensThenJoins (hspeaks longText)
  refine ⟨hlong, ?_, heard, notice, hprefix, hmost hlong, ?_⟩
  · exact (hqueued 0).trans (if_neg fun hself => hself.1.2 rfl)
  · exact (hqueued 1).trans
      (if_pos ⟨⟨hseated 1 (by decide +kernel), by decide⟩, by decide +kernel⟩)

end ServerState

end PlayServer
