import Mathlib.Algebra.Order.BigOperators.Group.List
import PlayServer.Proofs.Server.Answer
import PlayServer.Proofs.Server.Closed
import PlayServer.Proofs.Server.Consistency

/-!
# Lists of characters

A list of characters tells of at most 255 of them, and clips each name to 255 bytes, but nothing
clips the list: each entry takes eleven bytes and its name. Within both limits the body can still be
larger than a peer accepts, and then it is not sent. Whoever has asked gets no answer at all.

`queuedBy_characterListRequest` says when a request is answered: exactly when the entries together
take no more than 65535 bytes, which with the byte of their number makes 65536. Few characters or
short names are enough for that.
-/

namespace PlayServer

/-- The bytes that an entry of a list takes: those of its numbers, the length of its name, and the
name. -/
def Character.listedSize (c : Character) : Nat := 11 + (Text.clip maxShortText c.name).length

/-- The bytes that the entries of a list take. -/
def listedSize (characters : List Character) : Nat :=
  ((characters.take maxListedCharacters).map Character.listedSize).sum

/-- The fields of a character take its listed size. -/
theorem Character.length_encodeAll_fields (c : Character) :
    (Field.encodeAll c.fields).length = c.listedSize := by
  simp [Field.encodeAll, fields, Field.encode, encodeShortText, listedSize]
  omega

/-- The fields of some characters take as much as those of each together. -/
theorem length_encodeAll_flatMap (characters : List Character) :
    (Field.encodeAll (characters.flatMap Character.fields)).length =
      (characters.map Character.listedSize).sum := by
  induction characters with
  | nil => rfl
  | cons c rest ih =>
    rw [List.flatMap_cons, Field.encodeAll_append, List.length_append, c.length_encodeAll_fields, ih]
    rfl

/-- A list takes the byte of its number and what its entries take. -/
theorem length_characterListBody (characters : List Character) :
    (characterListBody characters).length = 1 + listedSize characters := by
  rw [characterListBody, Field.encodeAll_cons, Field.encode_u8, List.length_append,
    length_encodeAll_flatMap]
  rfl

/-- Entries that take at most so many bytes each. -/
theorem listedSize_le {characters : List Character} {size : Nat}
    (each : ∀ c ∈ characters, c.listedSize ≤ size) :
    listedSize characters ≤ min maxListedCharacters characters.length * size := by
  have hlisted : ∀ n ∈ (characters.take maxListedCharacters).map Character.listedSize,
      n ≤ size := by
    intro n hn
    obtain ⟨c, hc, rfl⟩ := List.mem_map.mp hn
    exact each c (List.mem_of_mem_take hc)
  have hsum := List.sum_le_card_nsmul _ size hlisted
  rwa [List.length_map, List.length_take, Nat.nsmul_eq_mul] at hsum

/-- Entries that take so many bytes each. -/
theorem listedSize_eq {characters : List Character} {size : Nat}
    (each : ∀ c ∈ characters, c.listedSize = size) :
    listedSize characters = min maxListedCharacters characters.length * size := by
  have hlisted : ∀ n ∈ (characters.take maxListedCharacters).map Character.listedSize,
      n = size := by
    intro n hn
    obtain ⟨c, hc, rfl⟩ := List.mem_map.mp hn
    exact each c (List.mem_of_mem_take hc)
  have hsum := List.sum_eq_card_nsmul _ size hlisted
  rwa [List.length_map, List.length_take, Nat.nsmul_eq_mul] at hsum

/-- A list of at most 246 characters can be sent, whatever their names. -/
theorem length_characterListBody_le_of_few {characters : List Character}
    (few : characters.length ≤ 246) : (characterListBody characters).length ≤ maxBodySize := by
  have heach : ∀ c ∈ characters, c.listedSize ≤ 11 + maxShortText := fun c _ =>
    Nat.add_le_add_left (Text.length_clip_le maxShortText c.name) 11
  have htotal := listedSize_le heach
  rw [length_characterListBody]
  simp only [maxShortText, maxListedCharacters, maxBodySize] at htotal ⊢
  omega

/-- A list of characters whose names have at most 246 bytes can be sent, however many they are. -/
theorem length_characterListBody_le_of_shortNames {characters : List Character}
    (short : ∀ c ∈ characters, (utf8 c.name).length ≤ 246) :
    (characterListBody characters).length ≤ maxBodySize := by
  have heach : ∀ c ∈ characters, c.listedSize ≤ 257 := by
    intro c hc
    have hname := short c hc
    have hclipped : Text.clip maxShortText c.name = utf8 c.name :=
      clip_of_fits (Nat.le_trans hname (by decide))
    rw [Character.listedSize, hclipped]
    omega
  have htotal := listedSize_le heach
  rw [length_characterListBody]
  simp only [maxListedCharacters, maxBodySize] at htotal ⊢
  omega

namespace AccountStore

variable {s : AccountStore} {login : String}

/-- Adding a character changes no account. -/
theorem account?_addCharacter (s : AccountStore) (login name : String) (classId level : UInt8) :
    (s.addCharacter login name classId level).2.account? = s.account? := by
  unfold addCharacter
  split <;> rfl

/-- An added character stands at the end of the list of its account. -/
theorem charactersOf_addCharacter {before : List Character}
    (listed : s.charactersOf login = .ok before) (known : (s.account? login).isSome = true)
    (name : String) (classId level : UInt8) :
    ∃ c, c.name = name ∧
      (s.addCharacter login name classId level).2.charactersOf login = .ok (before ++ [c]) := by
  obtain ⟨a, ha⟩ := Option.isSome_iff_exists.mp known
  refine ⟨{ id := s.nextCharacter, account := a.id, name, classId, level }, rfl, ?_⟩
  have hfound : (s.addCharacter login name classId level).2.account? login = some a := by
    rw [account?_addCharacter, ha]
  unfold charactersOf ask at listed ⊢
  rw [hfound]
  rw [ha] at listed
  simp only [addCharacter, ha] at listed ⊢
  split at listed
  · next available =>
    obtain rfl := Except.ok.inj listed
    simp [available]
  · cases listed

end AccountStore

namespace ServerState

/-- The characters that a list tells of: those that the store gives, and none when it fails. -/
def charactersFound (s : ServerState) (login : String) : List Character :=
  match (s.charactersOf login).1 with
  | .ok characters => characters
  | .error _ => []

/-- The answer to a request for the list of characters. -/
def characterListAnswer (request : Packet) (characters : List Character) : Packet :=
  request.reply Method.characterListResponse (characterListBody characters)

/-- A player who has logged in asks for the list of characters, over a connection that can write and
that stays open while the store is asked. -/
structure AsksForCharacters (s : ServerState) (h : Handle) (p : Packet) (login : String) : Prop where
  service : p.service = Service.game
  method : p.method = Method.characterListRequest
  player : (s.connection h).loginState = (.authenticated, some login)
  hasWriter : (s.connection h).hasWriter = true
  stays : ((s.charactersOf login).2.connection h).isOpen = true

/-- When nothing comes in between, the store answers and nothing else happens. -/
theorem charactersOf_of_quiet {s : ServerState} (quiet : s.disturbances = []) (login : String) :
    s.charactersOf login = (s.store.charactersOf login, s) := by
  obtain ⟨⟩ := s
  obtain rfl : _ = [] := quiet
  rfl

variable {s : ServerState} {h : Handle} {p : Packet} {login : String}

/-- Whoever asks for the list of characters is served it. -/
theorem AsksForCharacters.handle_eq (asks : s.AsksForCharacters h p login) :
    s.handle .game h p = s.listCharacters h p := by
  have hauth := Connection.isAuthenticated_of_loginState asks.player
  have hroute : s.routeOf h p = .forwarded := by
    rw [routeOf, Route.of, hauth, asks.service]
    rfl
  have hread : GameRequest.read p.method p.body = .ok (some .characterList) := by
    rw [asks.method]
    rfl
  simp [handle, handleAtGame, handlePlay, hroute, asks.service, hread, serveRequest]

/-- Once the store has been asked, with a line in the log if it has failed, the answer is sent. -/
theorem AsksForCharacters.exists_sent (asks : s.AsksForCharacters h p login) :
    ∃ s' : ServerState, s.Posts .nobody s' ∧ (s'.connection h).isOpen = true ∧
      s.handle .game h p = s'.send h (characterListAnswer p (s.charactersFound login)) := by
  have hlogin : (s.connection h).login = some login := congrArg Prod.snd asks.player
  have hwaits : s.Waits (s.charactersOf login).2 := waits_callStore s _ _ _
  have hopen := asks.stays
  rw [asks.handle_eq, listCharacters, hlogin, charactersFound]
  dsimp only
  generalize s.charactersOf login = asked at hwaits hopen ⊢
  obtain ⟨e | characters, s'⟩ := asked
  · refine ⟨s'.logError ("Character lookup failed: " ++ e.message), ?_, hopen, if_pos hopen⟩
    exact hwaits.posts.quietly (.of_eq rfl rfl)
  · exact ⟨s', hwaits.posts, hopen, if_pos hopen⟩

/-- A packet is posted if it is within the limit, and otherwise nothing is. -/
theorem posts_send (s : ServerState) (h : Handle) (p : Packet) :
    s.Posts (.onlyTo h (if p.body.length ≤ maxBodySize then [p.encode] else [])) (s.send h p) := by
  split
  · next limit => exact .updateConnection ((s.connection h).posted_send_of_inLimit limit)
  · next exceeds =>
    have hsame : ((s.connection h).send p).2 = s.connection h := by
      rw [Connection.send, if_pos (Nat.lt_of_not_le exceeds)]
    exact .updateConnection (hsame.symm ▸ .refl (s.connection h))

/-- What is queued is the answer, as long as its entries fit into a body, and it is queued to
whoever has asked. -/
theorem AsksForCharacters.queuedBy_eq (asks : s.AsksForCharacters h p login) (k : Handle) :
    s.queuedBy (.packet .game h p) k =
      if k = h ∧ listedSize (s.charactersFound login) < maxBodySize then
        [(characterListAnswer p (s.charactersFound login)).encode]
      else [] := by
  have hsize := length_characterListBody (s.charactersFound login)
  obtain ⟨s', hposts, hopen, hsent⟩ := asks.exists_sent
  have hanswer := hposts.trans (s'.posts_send h (characterListAnswer p (s.charactersFound login)))
  rw [Post.nobody_andThen, ← hsent] at hanswer
  have hopen' : ((s.step (.packet .game h p)).connection h).isOpen = true := by
    rw [step, hsent, send, connection_updateConnection, Connection.isOpen_send]
    exact hopen
  have htakes : (s.connection k).hasWriter = true ∨ k ≠ h := by
    by_cases hk : k = h
    · exact .inl (hk ▸ asks.hasWriter)
    · exact .inr hk
  have hlimit : (characterListAnswer p (s.charactersFound login)).body.length ≤ maxBodySize ↔
      listedSize (s.charactersFound login) < maxBodySize := by
    change (characterListBody (s.charactersFound login)).length ≤ maxBodySize ↔ _
    omega
  rw [queuedBy_of_posts (.refl _) hanswer (htakes.imp_right fun hk => Post.onlyTo_of_ne hk _)]
  by_cases hk : k = h
  · subst hk
    simp [hopen', Post.onlyTo, hlimit]
  · simp [hk, Post.onlyTo]

/-- A request for the list of characters is answered to whoever has asked, and nobody else gets
anything: with the characters found, as long as their entries fit into a body. That they do is sure
for few characters and for short names only. -/
theorem queuedBy_characterListRequest (asks : s.AsksForCharacters h p login) :
    let characters := s.charactersFound login
    (∀ k, s.queuedBy (.packet .game h p) k =
      if k = h ∧ listedSize characters < maxBodySize then
        [(characterListAnswer p characters).encode]
      else []) ∧
    (characters.length ≤ 246 ∨ (∀ c ∈ characters, (utf8 c.name).length ≤ 246) →
      listedSize characters < maxBodySize) := by
  intro characters
  refine ⟨asks.queuedBy_eq, fun hsmall => ?_⟩
  have hsize := length_characterListBody characters
  have hfits := hsmall.elim length_characterListBody_le_of_few
    length_characterListBody_le_of_shortNames
  omega

/-- A server with a player who has logged in to an account without characters. -/
def newcomer : ServerState :=
  { lonePlayer with
    store :=
      { AccountStore.empty with
        accounts :=
          [{ id := 1
             login := "alice"
             email := ""
             credential := ⟨4, .replicate 16 0, .replicate 32 0, by decide⟩ }] } }

/-- A name as long as a list can tell of. -/
def longName : String := String.ofList (List.replicate maxShortText 'x')

/-- The account gets characters with long names. -/
def longNames (n : Nat) : List Event := List.replicate n (.addCharacter "alice" longName 0 1)

/-- The player asks for the list of characters. -/
def askForCharacters : Packet := ⟨Service.game, Method.characterListRequest, 7, []⟩

/-- An entry with a long name takes 266 bytes. -/
theorem listedSize_of_longName {c : Character} (long : c.name = longName) :
    c.listedSize = 266 := by
  have hlength : (utf8 longName).length = maxShortText := by decide +kernel
  rw [Character.listedSize, long, clip_of_fits hlength.le, hlength]
  rfl

/-- After so many characters with long names have been added to an account, they stand in its list,
and nothing but the store has changed. -/
theorem exists_run_longNames {s : ServerState} {before : List Character}
    (listed : s.store.charactersOf "alice" = .ok before)
    (known : (s.store.account? "alice").isSome = true) (n : Nat) :
    ∃ store added, s.run (longNames n) = { s with store } ∧
      store.charactersOf "alice" = .ok (before ++ added) ∧
      added.length = n ∧ ∀ c ∈ added, c.name = longName := by
  induction n generalizing s before with
  | zero => exact ⟨s.store, [], rfl, by simpa using listed, rfl, by simp⟩
  | succ n ih =>
    obtain ⟨c, hname, hadded⟩ := AccountStore.charactersOf_addCharacter listed known longName 0 1
    obtain ⟨store, added, hrun, hlisted, hlength, hnames⟩ :=
      ih (s := s.step (.addCharacter "alice" longName 0 1)) hadded
        (by rwa [step, AccountStore.account?_addCharacter])
    refine ⟨store, c :: added, hrun, by simpa using hlisted, by simp [hlength], ?_⟩
    exact List.forall_mem_cons.mpr ⟨hname, hnames⟩

/-- The player asks for a list of so many characters with long names. -/
theorem asksForCharacters_longNames (n : Nat) :
    (newcomer.run (longNames n)).AsksForCharacters 0 askForCharacters "alice" ∧
      ∃ added, (newcomer.run (longNames n)).charactersFound "alice" = added ∧
        added.length = n ∧ ∀ c ∈ added, c.name = longName := by
  have hnone : newcomer.store.charactersOf "alice" = .ok [] := rfl
  obtain ⟨store, added, hrun, hlisted, hlength, hnames⟩ := exists_run_longNames hnone rfl n
  rw [hrun]
  have hasked : ({ newcomer with store } : ServerState).charactersOf "alice" =
      (.ok added, { newcomer with store }) := by
    rw [charactersOf_of_quiet rfl]
    exact congrArg (·, _) hlisted
  refine ⟨⟨rfl, rfl, rfl, rfl, by rw [hasked]; rfl⟩, added, ?_, hlength, hnames⟩
  rw [charactersFound, hasked]

/-- A list of 246 characters with the longest names there can be is still sent. -/
theorem queuedBy_characterListRequest_longNames :
    let s := newcomer.run (longNames 246)
    s.AsksForCharacters 0 askForCharacters "alice" ∧
      s.queuedBy (.packet .game 0 askForCharacters) 0 =
        [(characterListAnswer askForCharacters (s.charactersFound "alice")).encode] := by
  intro s
  obtain ⟨asks, added, hfound, hlength, -⟩ := asksForCharacters_longNames 246
  obtain ⟨hqueued, hsmall⟩ := queuedBy_characterListRequest asks
  have hfits := hsmall (.inl (by rw [hfound, hlength]))
  exact ⟨asks, (hqueued 0).trans (if_pos ⟨rfl, hfits⟩)⟩

/-- One character more, and the player gets no answer, although the connection is open, can write
and stays so: the list takes more than a peer accepts. -/
theorem not_answered_longNames :
    let s := newcomer.run (longNames 247)
    s.AsksForCharacters 0 askForCharacters "alice" ∧
      maxBodySize < (characterListBody (s.charactersFound "alice")).length ∧
      ∀ k, s.queuedBy (.packet .game 0 askForCharacters) k = [] := by
  intro s
  obtain ⟨asks, added, hfound, hlength, hnames⟩ := asksForCharacters_longNames 247
  have hsize : listedSize (s.charactersFound "alice") = 65702 := by
    rw [hfound, listedSize_eq fun c hc => listedSize_of_longName (hnames c hc), hlength]
    rfl
  have hexceeds : ¬ listedSize (s.charactersFound "alice") < maxBodySize := by
    rw [hsize]
    decide
  refine ⟨asks, ?_, fun k => ?_⟩
  · rw [length_characterListBody, hsize]
    decide
  · exact (asks.queuedBy_eq k).trans (if_neg fun hboth => hexceeds hboth.2)

end ServerState

end PlayServer
