import PlayServer.Proofs.Lobby.Admission
import PlayServer.Proofs.Server.Effect

/-!
# The log-in check

`loginStep_authenticate` says all that a log-in request can do: the connection it came from stands
as it stood, or it had not logged in and now either has failed to or has logged in under the login
of the request, whose credentials the store accepted when the request came in. Nobody else's log-in
changes, no member comes in, and the store at most declines.

Credentials are checked by some calls of the store, one after the other. What every such call keeps
is kept by the check: `checkCredentials_keeps` and `judgeCredentials_keeps`. `callStore_keeps` says
what this is.
-/

namespace PlayServer.ServerState

/-- What is kept when a connection closes, whatever the accounts are and whatever is going to come
in between, is kept by every call of the store. -/
theorem callStore_keeps {motive : ServerState → Prop}
    (closes : ∀ (s : ServerState) (h : Handle), motive s → motive (s.close h))
    (others : ∀ (s : ServerState) (store : AccountStore)
      (disturbances : List (StoreCall × Disturbance)),
      motive s → motive { s with store, disturbances })
    {s : ServerState} (holds : motive s) {α : Type} (call : StoreCall) (override : Bool → Option α)
    (run : AccountStore → Except StoreError α × AccountStore) :
    motive (s.callStore call override run).2 := by
  have hbegun := others s s.store (takeDisturbance call s.disturbances).2 holds
  unfold callStore
  dsimp only
  split
  · exact others s _ _ holds
  next h _ => exact others _ _ _ (closes _ h hbegun)
  · exact others s _ _ holds
  · exact others s _ _ holds
  · split
    · exact hbegun
    · exact others s _ _ holds
  · exact hbegun

/-- What every call of the store keeps is kept while credentials are checked. -/
theorem checkCredentials_keeps {motive : ServerState → Prop}
    (calls : ∀ {α : Type} (s : ServerState) (call : StoreCall) (override : Bool → Option α)
      (run : AccountStore → Except StoreError α × AccountStore),
      motive s → motive (s.callStore call override run).2)
    {s : ServerState} (holds : motive s) (login password : String) :
    motive (s.checkCredentials login password).2 := by
  have h₁ : motive (s.hasAccount login).2 := calls s _ _ _ holds
  unfold checkCredentials
  generalize s.hasAccount login = known at h₁ ⊢
  obtain ⟨e | _ | _, s₁⟩ := known
  · exact h₁
  · exact h₁
  have h₂ : motive (s₁.isBanned login).2 := calls s₁ _ _ _ h₁
  dsimp only
  generalize s₁.isBanned login = banned at h₂ ⊢
  obtain ⟨e | _ | _, s₂⟩ := banned
  · exact h₂
  · have h₃ : motive (s₂.verify login password).2 := calls s₂ _ _ _ h₂
    dsimp only
    generalize s₂.verify login password = right at h₃ ⊢
    obtain ⟨e | _ | _, s₃⟩ := right
    · exact h₃
    · exact h₃
    have h₄ : motive (s₃.touchLastLogin login).2 := calls s₃ _ _ _ h₃
    dsimp only
    generalize s₃.touchLastLogin login = stamped at h₄ ⊢
    obtain ⟨e | _ | _, s₄⟩ := stamped
    · exact h₄
    · exact h₄
    · exact h₄
  · exact h₂

/-- What every call of the store and every line of the log keeps is kept while credentials are
judged. -/
theorem judgeCredentials_keeps {motive : ServerState → Prop}
    (calls : ∀ {α : Type} (s : ServerState) (call : StoreCall) (override : Bool → Option α)
      (run : AccountStore → Except StoreError α × AccountStore),
      motive s → motive (s.callStore call override run).2)
    (logs : ∀ (s : ServerState) (line : String), motive s → motive (s.logError line))
    {s : ServerState} (holds : motive s) (login password : String) :
    motive (s.judgeCredentials login password).2 := by
  have hchecked := checkCredentials_keeps calls holds login password
  unfold judgeCredentials
  generalize s.checkCredentials login password = checked at hchecked ⊢
  obtain ⟨e | verdict, s'⟩ := checked
  · exact logs s' _ hchecked
  · exact hchecked

section Questions

variable {s : ServerState} (login password : String)

/-- A question of yes or no has no effect but that of what comes in between. If declining never
brings an answer about, whoever gets it would have got it before. -/
theorem question_spec (genuine : s.Genuine) (call : StoreCall)
    {ask : AccountStore → Except StoreError Bool} {value : Bool}
    (reflects : ∀ store : AccountStore, s.store.Declines store → ask store = .ok value →
      ask s.store = .ok value) :
    QuietEffect s (s.callStore call some fun store => (ask store, store)).2 ∧
      ((s.callStore call some fun store => (ask store, store)).1 = .ok value →
        ask s.store = .ok value) := by
  obtain ⟨heffect, hanswer⟩ := callStore_spec genuine call some
    (fun store => (ask store, store)) fun store => .refl store
  constructor
  · exact heffect
  · intro hok
    obtain ⟨store, hstore, hfound⟩ := hanswer value hok
    exact reflects store hstore hfound

/-- An account that is found was there. -/
theorem hasAccount_spec (genuine : s.Genuine) :
    QuietEffect s (s.hasAccount login).2 ∧
      ((s.hasAccount login).1 = .ok true → s.store.hasAccount login = .ok true) :=
  question_spec genuine .hasAccount fun _ hstore => hstore.known

/-- An account that is found not to be banned was not banned. -/
theorem isBanned_spec (genuine : s.Genuine) :
    QuietEffect s (s.isBanned login).2 ∧
      ((s.isBanned login).1 = .ok false → s.store.isBanned login = .ok false) :=
  question_spec genuine .isBanned fun _ hstore => hstore.notBanned

/-- A password that is verified was right. -/
theorem verify_spec (genuine : s.Genuine) :
    QuietEffect s (s.verify login password).2 ∧
      ((s.verify login password).1 = .ok true → s.store.verify login password = .ok true) :=
  question_spec genuine .verify fun _ hstore => hstore.verified

/-- Stamping a log-in does no more than that. -/
theorem effect_touchLastLogin (genuine : s.Genuine) : QuietEffect s (s.touchLastLogin login).2 :=
  (callStore_spec genuine .touch some _ fun store => store.declines_touch login s.now).1

/-- Credentials that pass the check were acceptable when it began. -/
theorem checkCredentials_spec (genuine : s.Genuine) :
    QuietEffect s (s.checkCredentials login password).2 ∧
      ((s.checkCredentials login password).1 = .ok none → s.store.Accepts login password) := by
  obtain ⟨h₁, hknown⟩ := hasAccount_spec login genuine
  unfold checkCredentials
  split
  · next heq =>
    rw [heq] at h₁
    exact ⟨h₁, by simp⟩
  · next heq =>
    rw [heq] at h₁
    exact ⟨h₁, by simp⟩
  next s₁ heq₁ =>
  rw [heq₁] at h₁ hknown
  have genuine₁ := h₁.genuine genuine
  obtain ⟨h₂, hfree⟩ := isBanned_spec login genuine₁
  split
  · next heq =>
    rw [heq] at h₂
    exact ⟨h₁.trans h₂, by simp⟩
  · next heq =>
    rw [heq] at h₂
    exact ⟨h₁.trans h₂, by simp⟩
  next s₂ heq₂ =>
  rw [heq₂] at h₂ hfree
  have h₂ := h₁.trans h₂
  have genuine₂ := h₂.genuine genuine
  obtain ⟨h₃, hright⟩ := verify_spec login password genuine₂
  split
  · next heq =>
    rw [heq] at h₃
    exact ⟨h₂.trans h₃, by simp⟩
  · next heq =>
    rw [heq] at h₃
    exact ⟨h₂.trans h₃, by simp⟩
  next s₃ heq₃ =>
  rw [heq₃] at h₃ hright
  have h₃ := h₂.trans h₃
  have h₄ := effect_touchLastLogin login (h₃.genuine genuine)
  have haccepts : s.store.Accepts login password :=
    ⟨hknown rfl, h₁.store.notBanned (hfree rfl), h₂.store.verified (hright rfl)⟩
  split
  · next heq =>
    rw [heq] at h₄
    exact ⟨h₃.trans h₄, fun _ => haccepts⟩
  · next heq =>
    rw [heq] at h₄
    exact ⟨h₃.trans h₄, fun _ => haccepts⟩
  · next heq =>
    rw [heq] at h₄
    exact ⟨h₃.trans h₄, fun _ => haccepts⟩

/-- Credentials that are judged good were acceptable when the judgement began. -/
theorem judgeCredentials_spec (genuine : s.Genuine) :
    QuietEffect s (s.judgeCredentials login password).2 ∧
      ((s.judgeCredentials login password).1 = none → s.store.Accepts login password) := by
  obtain ⟨hchecked, haccepts⟩ :=
    checkCredentials_spec login password genuine
  unfold judgeCredentials
  split
  · next verdict s' heq =>
    rw [heq] at hchecked haccepts
    exact ⟨hchecked, fun hnone => haccepts (congrArg _ hnone)⟩
  · next e s' heq =>
    rw [heq] at hchecked
    exact ⟨hchecked.trans (.of_eq rfl rfl rfl), by simp⟩

end Questions

/-- All that a log-in on a connection leaves alone: the log-ins of all others and who may be a
member; and the store has at most declined. -/
structure LoginFrame (h : Handle) (s s' : ServerState) : Prop where
  others : ∀ k, k ≠ h → (s'.connection k).loginState = (s.connection k).loginState
  members : ∀ m, s'.lobby.HasMember m → s.lobby.HasMember m
  store : s.store.Declines s'.store
  disturbances : s'.disturbances ⊆ s.disturbances

/-- The log-ins of all connections after one has been changed. -/
theorem loginState_updateConnection (s : ServerState) (h k : Handle)
    (change : Connection → Connection) :
    ((s.updateConnection h change).connection k).loginState =
      if k = h then (change (s.connection h)).loginState else (s.connection k).loginState := by
  rw [connection_updateConnection_eq]
  split <;> rfl

/-- An effect leaves all log-ins alone. -/
theorem Effect.loginState {who : Handle → Prop} {s s' : ServerState} (he : Effect who s s')
    (k : Handle) : (s'.connection k).loginState = (s.connection k).loginState := by
  obtain ⟨n, hmoves⟩ := he.moves
  exact hmoves.loginState k

namespace LoginFrame

variable {h : Handle} {s s' s'' : ServerState}

/-- Leaving alone goes on. -/
theorem trans (hf : LoginFrame h s s') (hf' : LoginFrame h s' s'') : LoginFrame h s s'' where
  others k hk := (hf'.others k hk).trans (hf.others k hk)
  members m hm := hf.members m (hf'.members m hm)
  store := hf.store.trans hf'.store
  disturbances := List.Subset.trans hf'.disturbances hf.disturbances

/-- An effect that admits nobody leaves all that alone. -/
theorem of_effect (he : QuietEffect s s') : LoginFrame h s s' where
  others k _ := he.loginState k
  members m hm := by
    obtain ⟨n, hmoves⟩ := he.moves
    exact (hmoves.members hm).resolve_right fun hnew => hnew.1
  store := he.store
  disturbances := he.disturbances

/-- Changing the connection leaves all that alone. -/
theorem of_update (change : Connection → Connection) :
    LoginFrame h s (s.updateConnection h change) where
  others k hk := by rw [loginState_updateConnection, if_neg hk]
  members _ hm := hm
  store := .refl s.store
  disturbances := List.Subset.refl _

/-- The connection is changed, and then there is an effect that admits nobody. -/
theorem of_update_then (change : Connection → Connection)
    (he : QuietEffect (s.updateConnection h change) s') :
    LoginFrame h s s' ∧ (s'.connection h).loginState = (change (s.connection h)).loginState := by
  constructor
  · exact (of_update change).trans (of_effect he)
  · rw [he.loginState, loginState_updateConnection, if_pos rfl]

end LoginFrame

/-- What a log-in request can do. -/
structure LoginStep (h : Handle) (p : Packet) (s s' : ServerState) : Prop where
  frame : LoginFrame h s s'
  own : (s'.connection h).loginState = (s.connection h).loginState ∨
    (s.connection h).mayBeginAuth = true ∧
      ((s'.connection h).loginState = (.failed, none) ∨
        ∃ request, LoginRequest.parse p.body = .ok request ∧
          s.store.Accepts request.login request.password ∧
          (s'.connection h).loginState = (.authenticated, some request.login))

/-- What the connection comes to when a log-in is concluded. -/
theorem concludeLogin_spec (s : ServerState) (h : Handle) (p : Packet) (login : String)
    (verdict : Option LoginFailure) :
    LoginFrame h s (s.concludeLogin h p login verdict).2 ∧
      ((s.concludeLogin h p login verdict).2.connection h).loginState =
        if verdict = none then (.authenticated, some login) else (.failed, none) := by
  cases verdict with
  | none =>
    apply LoginFrame.of_update_then (·.completeAuth login)
    refine Effect.trans ?_ (.send h _)
    exact .of_eq rfl rfl rfl
  | some failure =>
    apply LoginFrame.of_update_then Connection.failAuth
    refine Effect.trans ?_ (.send h _)
    exact .of_eq rfl rfl rfl

/-- What the connection comes to when a log-in is given up. -/
theorem abandonLogin_spec (s : ServerState) (h : Handle) (login : String)
    (verdict : Option LoginFailure) :
    LoginFrame h s (s.abandonLogin h login verdict).2 ∧
      ((s.abandonLogin h login verdict).2.connection h).loginState = (.failed, none) := by
  apply LoginFrame.of_update_then Connection.failAuth
  exact .of_eq rfl rfl rfl

/-- A log-in request does what a log-in request can do. -/
theorem loginStep_authenticate {s : ServerState} (genuine : s.Genuine) (h : Handle) (p : Packet) :
    LoginStep h p s (s.authenticate h p).2 := by
  have quietly {s' : ServerState} (he : QuietEffect s s') : LoginStep h p s s' :=
    ⟨.of_effect he, .inl (he.loginState h)⟩
  unfold authenticate
  split
  · exact quietly (.of_eq rfl rfl rfl)
  next request hparse =>
  split
  · exact quietly (.refl s)
  next hmay =>
  have hmay : (s.connection h).mayBeginAuth = true := by simpa using hmay
  -- The log-in begins, and the credentials are judged.
  dsimp only
  have hbegun : LoginFrame h s (s.updateConnection h Connection.beginAuth) := .of_update _
  generalize hs₁ : (s.updateConnection h Connection.beginAuth).record _ = s₁
  have hattempted : QuietEffect (s.updateConnection h Connection.beginAuth) s₁ :=
    hs₁ ▸ .of_eq rfl rfl rfl
  have hframe₁ := hbegun.trans (.of_effect hattempted)
  have genuine₁ : s₁.Genuine := fun d hd => genuine d (hframe₁.disturbances hd)
  have hstore₁ : s₁.store = s.store := hs₁ ▸ rfl
  obtain ⟨hjudged, haccepts⟩ := judgeCredentials_spec request.login request.password genuine₁
  rw [hstore₁] at haccepts
  generalize s₁.judgeCredentials request.login request.password = judged at hjudged haccepts ⊢
  obtain ⟨verdict, s₂⟩ := judged
  have hframe₂ := hframe₁.trans (.of_effect hjudged)
  -- The log-in ends, one way or the other.
  dsimp only
  split
  · obtain ⟨hframe, hown⟩ := concludeLogin_spec s₂ h p request.login verdict
    refine ⟨hframe₂.trans hframe, .inr ⟨hmay, ?_⟩⟩
    cases verdict with
    | none => exact .inr ⟨request, hparse, haccepts rfl, hown⟩
    | some failure => exact .inl hown
  · obtain ⟨hframe, hown⟩ := abandonLogin_spec s₂ h request.login verdict
    exact ⟨hframe₂.trans hframe, .inr ⟨hmay, .inl hown⟩⟩

end PlayServer.ServerState
