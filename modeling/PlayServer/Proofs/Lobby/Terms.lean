import PlayServer.Proofs.Lobby.Host
import PlayServer.Proofs.Lobby.Roster

/-!
# Terms

The terms of a session are its difficulty and its mode. `Lobby.terms?` gives those of the session
under an id. A session is opened on some terms and keeps them whoever joins or leaves it, whatever
is sent and however much time passes: only `setOptions` sets others. Whoever joins a session is told
the terms it is on: `Lobby.Tells`.
-/

namespace PlayServer

namespace Lobby

/-- The options of the session under an id. -/
def terms? (l : Lobby) (id : SessionId) : Option SessionOptions :=
  (l.session? id).map (·.options)

variable {l l' : Lobby} {s s' : Session}

/-- The options of a session that is found. -/
theorem terms?_of_session? {id : SessionId} (h : l.session? id = some s) :
    l.terms? id = some s.options := by
  rw [terms?, h]
  rfl

/-- Where the session is the same its options are. -/
theorem terms?_congr {id : SessionId} (h : l'.session? id = l.session? id) :
    l'.terms? id = l.terms? id := by
  rw [terms?, h, terms?]

/-- Where the table of sessions is the same all options are. -/
theorem terms?_of_sessions (h : l'.sessions = l.sessions) : l'.terms? = l.terms? := by
  funext id
  apply terms?_congr
  rw [session?, h, session?]

/-- The options after a session has been stored. -/
theorem terms?_store (known : (l.session? s.id).isSome = true) (id : SessionId) :
    (l.store s).terms? id = if id = s.id then some s.options else l.terms? id := by
  split
  · next he =>
    subst he
    exact terms?_of_session? (session?_store_self known)
  · next hne => exact terms?_congr (session?_store_of_ne hne)

/-- The options after a session has been added. -/
theorem terms?_insert (l : Lobby) (s : Session) (id : SessionId) :
    (l.insert s).terms? id = if id = s.id then some s.options else l.terms? id := by
  split
  · next he =>
    subst he
    exact terms?_of_session? (session?_insert_self l s)
  · next hne => exact terms?_congr (session?_insert_of_ne hne)

/-- What is referred to by an id has this id. -/
theorem id_of_referred? {id : SessionId} (h : l.referred? id = some s) : s.id = id := by
  unfold referred? at h
  cases hfound : l.session? id with
  | some t =>
    obtain rfl : t = s := by simpa [hfound] using h
    exact (mem_of_session? hfound).2
  | none =>
    have hretired : l.retired.find? (·.id == id) = some s := by simpa [hfound] using h
    simpa using List.find?_some hretired

/-- A session that somebody refers to may change in all but its id and its options. -/
theorem terms?_store_referred (held : l.referred? s.id = some s) (hid : s'.id = s.id)
    (hoptions : s'.options = s.options) (cs : Connections) (clock : Nat) :
    ({ l with connections := cs, clock }.store s').terms? = l.terms? := by
  cases hfound : l.session? s.id with
  | none =>
    -- A session that is not in the table is stored outside of it.
    apply terms?_of_sessions
    have hnone : Lobby.session? { l with connections := cs, clock } s'.id = none := hid ▸ hfound
    simp [store, hnone]
  | some t =>
    obtain rfl : t = s := Option.some.inj ((referred?_of_session? hfound).symm.trans held)
    have hknown : (Lobby.session? { l with connections := cs, clock } s'.id).isSome = true := by
      rw [hid]
      exact Option.isSome_of_eq_some hfound
    funext id
    rw [terms?_store hknown, hid, hoptions]
    split
    · next he => exact (he ▸ terms?_of_session? hfound).symm
    · rfl

/-- Every session is still there, with the options that it had. -/
def KeepsTerms (l l' : Lobby) : Prop :=
  ∀ id options, l.terms? id = some options → l'.terms? id = some options

/-- All options are the same. -/
theorem KeepsTerms.of_eq (h : l'.terms? = l.terms?) : l.KeepsTerms l' :=
  fun id _ hterms => (congrFun h id).trans hterms

/-- A session that is added under the next id leaves the others alone. -/
theorem keepsTerms_insert {drawn : Nat} (hl : l.Consistent drawn) (same : l'.sessions = l.sessions)
    (hid : s.id = ⟨l.nextId⟩) : l.KeepsTerms (l'.insert s) := by
  intro id options hterms
  have hne : id ≠ s.id := by
    rintro rfl
    simp [terms?, hid, hl.session?_nextId] at hterms
  rw [terms?_insert, if_neg hne, terms?_of_sessions same]
  exact hterms

/-- Every session is still there with the options that it had, and who is told of a session is told
the options that it has. -/
def Tells (l : Lobby) (outcome : Except SessionError SessionSummary × Lobby) : Prop :=
  l.KeepsTerms outcome.2 ∧
    ∀ summary, outcome.1 = .ok summary → outcome.2.terms? summary.id = some summary.options

/-- A refusal that changes no options tells of nothing. -/
theorem tells_error {e : SessionError} (h : l'.terms? = l.terms?) : l.Tells (.error e, l') :=
  ⟨.of_eq h, fun _ told => by cases told⟩

/-- Joining a session that is there. -/
theorem tells_joinSession (held : l.session? s.id = some s) (h : Handle) :
    l.Tells (l.joinSession s h) := by
  unfold joinSession
  split
  · exact tells_error rfl
  next s' cs joins =>
  obtain ⟨-, -, -, -, hs', -⟩ := Session.join_eq_ok_iff.mp joins
  have hid : s'.id = s.id := by rw [hs']
  have hoptions : s'.options = s.options := by rw [hs']
  have hsame := terms?_store_referred (referred?_of_session? held) hid hoptions cs (l.clock + 1)
  refine ⟨.of_eq hsame, fun summary told => ?_⟩
  obtain rfl : s'.summary = summary := Except.ok.inj told
  have hterms : l.terms? s'.id = some s'.options := by
    rw [hid, hoptions, terms?_of_session? held]
  exact (congrFun hsame s'.id).trans hterms

/-- Joining the session under an id. -/
theorem tells_join (l : Lobby) (id : SessionId) (h : Handle) : l.Tells (l.join id h) := by
  unfold join
  split
  · exact tells_error rfl
  · next s hs => exact tells_joinSession (by rw [(mem_of_session? hs).2, hs]) h

/-- Creating a session and joining it. -/
theorem tells_createAndJoin {drawn : Nat} (hl : l.Consistent drawn) (h : Handle)
    (options : SessionOptions) : l.Tells (l.createAndJoin h options) := by
  unfold createAndJoin
  split
  · exact tells_error rfl
  split
  · exact tells_error rfl
  next s l' hdraw =>
  obtain ⟨-, rfl, rfl⟩ := draw_eq_ok_iff.mp hdraw
  split
  · exact tells_error (terms?_of_sessions rfl)
  next s cs joins =>
  obtain ⟨-, -, -, -, rfl, -⟩ := Session.join_eq_ok_iff.mp joins
  refine ⟨keepsTerms_insert hl rfl rfl, fun summary told => ?_⟩
  cases told
  rw [terms?_insert]
  exact if_pos rfl

/-- Joining any session. -/
theorem tells_findOrCreateAndJoin {drawn : Nat} (hl : l.Consistent drawn) (h : Handle) :
    l.Tells (l.findOrCreateAndJoin h) := by
  rcases l.findOrCreateAndJoin_cases h with ⟨s, held, hjoin⟩ | hcreate
  · exact hjoin ▸ tells_joinSession held h
  · exact hcreate ▸ tells_createAndJoin hl h {}

/-- A new session leaves the options of the others alone. -/
theorem keepsTerms_create {drawn : Nat} (hl : l.Consistent drawn) (options : SessionOptions) :
    l.KeepsTerms (l.create options).2 := by
  unfold create
  split
  · exact .of_eq rfl
  · next s l' hdraw =>
    obtain ⟨-, rfl, rfl⟩ := draw_eq_ok_iff.mp hdraw
    exact keepsTerms_insert hl rfl rfl

/-- Leaving changes no options. -/
theorem terms?_leave (l : Lobby) (h : Handle) : (l.leave h).2.terms? = l.terms? := by
  unfold leave
  dsimp only
  split
  · rfl
  next id _ =>
  split
  · exact terms?_of_sessions rfl
  next s hs =>
  obtain ⟨-, rfl⟩ := mem_of_session? hs
  rw [leaveReferred, referred?_of_session? hs]
  dsimp only
  cases hleave : s.leave l.connections (l.connection h).id with
  | none => rfl
  | some left =>
    obtain ⟨login, s', cs⟩ := left
    obtain ⟨_, -, -, hs', -⟩ := Session.leave_eq_some_iff.mp hleave
    exact terms?_store_referred (referred?_of_session? hs) (by rw [hs']) (by rw [hs']) cs l.clock

/-- A broadcast changes no session. -/
theorem sessions_broadcast (l : Lobby) (id : SessionId) (p : Packet)
    (excluding : Option ConnectionId) : (l.broadcast id p excluding).2.sessions = l.sessions := by
  unfold broadcast broadcastReferred
  cases l.session? id with
  | none => rfl
  | some s => cases l.referred? id <;> rfl

/-- Time that passes in a session changes no options. -/
theorem terms?_tickReferred (l : Lobby) (id : SessionId) (delta : Duration) :
    (l.tickReferred id delta).2.terms? = l.terms? := by
  unfold tickReferred
  split
  · rfl
  next s hs =>
  split
  · rfl
  next logins s' cs hticked =>
  have hkept : s'.id = s.id ∧ s'.options = s.options := by
    unfold Session.tick at hticked
    split at hticked
    · cases hticked
    · obtain ⟨-, rfl, -⟩ : _ ∧ _ ∧ _ := by simpa [Prod.ext_iff, eq_comm] using hticked
      rw [Session.leaveEach_eq]
      exact ⟨rfl, rfl⟩
  obtain rfl := id_of_referred? hs
  exact terms?_store_referred hs hkept.1 hkept.2 cs l.clock

/-- Time that passes in some sessions changes no options. -/
theorem terms?_tickEach (l : Lobby) (delta : Duration) (ids : List SessionId) :
    (l.tickEach delta ids).2.terms? = l.terms? := by
  induction ids generalizing l with
  | nil => rfl
  | cons id rest ih =>
    have hfirst := l.terms?_tickReferred id delta
    unfold tickEach
    split
    · exact ih l
    split
    · next e l₁ heq => rwa [heq] at hfirst
    · next logins l₁ heq =>
      rw [heq] at hfirst
      have hall := (ih l₁).trans hfirst
      dsimp only
      split
      · next e l₂ heq' => rwa [heq'] at hall
      · next later l₂ heq' => rwa [heq'] at hall

/-- A pass of the scheduler changes no options. -/
theorem terms?_tickAll (l : Lobby) (delta : Duration) :
    (l.tickAll delta).2.terms? = l.terms? := l.terms?_tickEach delta _

/-- A session that was not reclaimed has the options that it had. -/
theorem terms?_of_sweepEmpty (hk : l.KeysDistinct) {id : SessionId} {options : SessionOptions}
    (h : l.sweepEmpty.2.terms? id = some options) : l.terms? id = some options := by
  obtain ⟨s, hs, rfl⟩ := Option.map_eq_some_iff.mp h
  obtain ⟨hmem, rfl⟩ := mem_of_session? hs
  exact terms?_of_session? (session?_eq_some hk (List.mem_of_mem_filter hmem))

/-- In whichever order the sessions are enumerated, they are found under their ids. -/
theorem session?_perm (hk : l.KeysDistinct) (order : l'.sessions.Perm l.sessions) :
    l'.session? = l.session? := by
  have hk' : l'.KeysDistinct := (order.map _).nodup_iff.mpr hk
  funext id
  apply Option.ext
  intro s
  constructor
  · intro hs
    obtain ⟨hmem, rfl⟩ := mem_of_session? hs
    exact session?_eq_some hk (order.mem_iff.mp hmem)
  · intro hs
    obtain ⟨hmem, rfl⟩ := mem_of_session? hs
    exact session?_eq_some hk' (order.mem_iff.mpr hmem)

/-- The order in which the sessions are enumerated changes no options. -/
theorem terms?_reorder (hk : l.KeysDistinct) (sessions : List Session) :
    (l.reorder sessions).terms? = l.terms? := by
  unfold reorder
  split
  · next order =>
    have hfound : Lobby.session? { l with sessions } = l.session? := session?_perm hk order
    funext id
    exact terms?_congr (congrFun hfound id)
  · rfl

/-- The order in which members are enumerated changes no options. -/
theorem terms?_reorderMembers (l : Lobby) (id : SessionId) (members : List Member) :
    (l.reorderMembers id members).terms? = l.terms? := by
  unfold reorderMembers
  split
  · rfl
  next s hs =>
  obtain ⟨-, rfl⟩ := mem_of_session? hs
  split
  · have hid : ({ s with members } : Session).id = s.id := rfl
    exact terms?_store_referred (referred?_of_session? hs) hid rfl l.connections l.clock
  · rfl

end Lobby

end PlayServer
