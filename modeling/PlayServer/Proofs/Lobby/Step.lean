import PlayServer.Proofs.Lobby.Retirement

/-!
# Operations step by step

The table of sessions and every session have a lock of their own, and an operation that needs
several of them takes them one after the other. So other operations may come in between: joining is
finding a session, and then joining the one that was found; searching for a session is listing all
of them and trying one after the other; leaving is reading which session the connection names,
finding it, and leaving the one that was found; a pass of the scheduler is listing the sessions and
letting time pass in one after the other. Opening a session, alone or with its first member, and
reclaiming the empty ones happen at once.

`Lobby.Task` is what somebody is about to do who is in the middle of such an operation, and
`Lobby.advance` is the next step. Step after step an operation comes to what it does as a whole if
nothing comes in between: `completes_begin`. Whatever does come in between, a step is a sequence of
moves, and who is told that a connection has joined a session has just seen it admitted.
-/

namespace PlayServer.Lobby

/-- What a client asks for. -/
inductive Request where
  | create (options : SessionOptions)
  | createAndJoin (h : Handle) (options : SessionOptions)
  | join (id : SessionId) (h : Handle)
  | findOrCreateAndJoin (h : Handle)
  | leave (h : Handle)
  | tickAll (delta : Duration)
  | sweepEmpty

/-- What a client is told in the end. -/
inductive Answer where
  | created (result : Except SessionError SessionId)
  | joined (h : Handle) (result : Except SessionError SessionSummary)
  | left (result : Except SessionError Departure)
  | ticked (result : Except DurationError (List Departure))
  | swept (ids : List SessionId)

/-- What a client is about to do. -/
inductive Task where
  /-- It has asked for something and has not begun. -/
  | begin (request : Request)
  /-- It has found a session and is about to join it. -/
  | joining (h : Handle) (id : SessionId)
  /-- It has listed the sessions and is about to try the first one of those that remain, or to open
  one if none do. -/
  | searching (h : Handle) (ids : List SessionId)
  /-- It has read which session the connection names and is about to find it. -/
  | leaving (h : Handle) (id : SessionId)
  /-- It has found the session that the connection named and is about to leave it. -/
  | parting (h : Handle) (id : SessionId)
  /-- It has not found the session that the connection named and is about to release the
  connection. -/
  | releasing (h : Handle) (id : SessionId)
  /-- It has listed the sessions and is about to let time pass in the first one of those that
  remain; so many members have left. -/
  | ticking (delta : Duration) (ids : List SessionId) (departures : List Departure)

/-- Where a step leads: there is more to do, or the client is told the answer. -/
inductive Stage where
  | more (task : Task)
  | done (answer : Answer)

/-- What is still to be done. -/
def Stage.task? : Stage → Option Task
  | more task => some task
  | done _ => none

/-- What the client is told. -/
def Stage.answer? : Stage → Option Answer
  | more _ => none
  | done answer => some answer

/-- The client is told an answer when there is no more to do. -/
theorem Stage.answer?_eq_some_iff {stage : Stage} {answer : Answer} :
    stage.answer? = some answer ↔ stage = .done answer := by
  cases stage <;> simp [answer?]

/-- Lets time pass in one session that somebody refers to, unless it has no members; gives who has
left it. -/
def tickThrough (l : Lobby) (delta : Duration) (id : SessionId) :
    Except DurationError (List Departure) × Lobby :=
  if ((l.referred? id).map (·.isEmpty)).getD true then (.ok [], l)
  else match l.tickReferred id delta with
    | (.error e, l) => (.error e, l)
    | (.ok logins, l) =>
      let remaining := ((l.referred? id).map (·.members.length)).getD 0
      (.ok (logins.map (⟨id, ·, remaining⟩)), l)

/-- The next step of somebody who is about to do something. -/
def advance (l : Lobby) : Task → Stage × Lobby
  | .begin (.create options) =>
    let (result, l) := l.create options
    (.done (.created result), l)
  | .begin (.createAndJoin h options) =>
    let (result, l) := l.createAndJoin h options
    (.done (.joined h result), l)
  | .begin (.join id h) =>
    match l.session? id with
    | none => (.done (.joined h (.error (.notFound id))), l)
    | some _ => (.more (.joining h id), l)
  | .begin (.findOrCreateAndJoin h) =>
    match (l.connection h).session with
    | some current => (.done (.joined h (.error (.inAnotherSession current))), l)
    | none => (.more (.searching h (l.inIdOrder.map (·.id))), l)
  | .begin (.leave h) =>
    match (l.connection h).session with
    | none => (.done (.left (.error .notMember)), l)
    | some id => (.more (.leaving h id), l)
  | .begin (.tickAll delta) => (.more (.ticking delta (l.sessions.map (·.id)) []), l)
  | .begin .sweepEmpty =>
    let (ids, l) := l.sweepEmpty
    (.done (.swept ids), l)
  | .joining h id =>
    let (result, l) := l.joinReferred id h
    (.done (.joined h result), l)
  | .searching h [] =>
    let (result, l) := l.createAndJoin h {}
    (.done (.joined h result), l)
  | .searching h (id :: rest) =>
    match l.joinReferred id h with
    | (.ok summary, l) => (.done (.joined h (.ok summary)), l)
    | (.error e, l) =>
      if mayTryNext e then (.more (.searching h rest), l) else (.done (.joined h (.error e)), l)
  | .leaving h id =>
    match l.session? id with
    | none => (.more (.releasing h id), l)
    | some _ => (.more (.parting h id), l)
  | .parting h id =>
    match l.leaveReferred id (l.connection h).id with
    | (none, l) => (.done (.left (.error .notMember)), l)
    | (some departure, l) => (.done (.left (.ok departure)), l)
  | .releasing h id =>
    (.done (.left (.error (.notFound id))), l.updateConnection h (·.releaseSession id))
  | .ticking _ [] departures => (.done (.ticked (.ok departures)), l)
  | .ticking delta (id :: rest) departures =>
    match l.tickThrough delta id with
    | (.error e, l) => (.done (.ticked (.error e)), l)
    | (.ok left, l) => (.more (.ticking delta rest (departures ++ left)), l)

/-- Somebody goes on with a task until it is done, and nothing comes in between. -/
inductive Completes : Lobby → Task → Answer → Lobby → Prop where
  | done {l l' : Lobby} {task : Task} {answer : Answer} (last : l.advance task = (.done answer, l')) :
    Completes l task answer l'
  | more {l l' l'' : Lobby} {task next : Task} {answer : Answer}
      (first : l.advance task = (.more next, l')) (rest : Completes l' next answer l'') :
    Completes l task answer l''

/-- The operation that a client asks for. -/
def Request.operation : Request → Operation
  | create options => .create options
  | createAndJoin h options => .createAndJoin h options
  | join id h => .join id h
  | findOrCreateAndJoin h => .findOrCreateAndJoin h
  | leave h => .leave h
  | tickAll delta => .tickAll delta
  | sweepEmpty => .sweepEmpty

/-- What a client is told by an operation as a whole. -/
def answer (l : Lobby) : Request → Answer
  | .create options => .created (l.create options).1
  | .createAndJoin h options => .joined h (l.createAndJoin h options).1
  | .join id h => .joined h (l.join id h).1
  | .findOrCreateAndJoin h => .joined h (l.findOrCreateAndJoin h).1
  | .leave h => .left (l.leave h).1
  | .tickAll delta => .ticked (l.tickAll delta).1
  | .sweepEmpty => .swept l.sweepEmpty.1

/-- A search comes to what trying the sessions in turn comes to, and opens a session when none takes
the connection. -/
theorem completes_searching (l : Lobby) (h : Handle) (ids : List SessionId) :
    let outcome := match l.joinFirst h ids with
      | (some result, l) => (result, l)
      | (none, l) => l.createAndJoin h {}
    l.Completes (.searching h ids) (.joined h outcome.1) outcome.2 := by
  induction ids generalizing l with
  | nil => exact .done rfl
  | cons id rest ih =>
    unfold joinFirst
    cases hjoin : l.joinReferred id h with
    | mk result l₁ =>
      cases result with
      | ok summary => exact .done (by rw [advance, hjoin])
      | error e =>
        by_cases hnext : mayTryNext e = true
        · simp only [hnext, if_true]
          exact .more (by rw [advance, hjoin]; simp only [hnext, if_true]) (ih l₁)
        · simp only [hnext]
          exact .done (by rw [advance, hjoin]; simp [hnext])

/-- Letting time pass in some sessions is letting it pass in one after the other. -/
theorem tickEach_cons (l : Lobby) (delta : Duration) (id : SessionId) (rest : List SessionId) :
    l.tickEach delta (id :: rest) =
      match l.tickThrough delta id with
      | (.error e, l) => (.error e, l)
      | (.ok left, l) => ((l.tickEach delta rest).1.map (left ++ ·), (l.tickEach delta rest).2) := by
  rw [tickEach, tickThrough]
  split
  · dsimp only
    rcases l.tickEach delta rest with ⟨_ | later, l'⟩ <;> rfl
  · rcases l.tickReferred id delta with ⟨_ | logins, l₁⟩
    · rfl
    · dsimp only
      rcases l₁.tickEach delta rest with ⟨_ | later, l'⟩ <;> rfl

/-- A pass tells of those that have left before and of those that leave on the way. -/
theorem completes_ticking (l : Lobby) (delta : Duration) (ids : List SessionId)
    (departures : List Departure) :
    l.Completes (.ticking delta ids departures)
      (.ticked ((l.tickEach delta ids).1.map (departures ++ ·))) (l.tickEach delta ids).2 := by
  induction ids generalizing l departures with
  | nil => exact .done (by simp [advance, tickEach, Except.map])
  | cons id rest ih =>
    rw [tickEach_cons]
    cases hticked : l.tickThrough delta id with
    | mk result l₁ =>
      cases result with
      | error e => exact .done (by rw [advance, hticked]; rfl)
      | ok left =>
        refine .more (by rw [advance, hticked]) ?_
        have hall : (l₁.tickEach delta rest).1.map (departures ++ left ++ ·) =
            ((l₁.tickEach delta rest).1.map (left ++ ·)).map (departures ++ ·) := by
          rcases (l₁.tickEach delta rest).1 with _ | later
          · rfl
          · simp [Except.map]
        exact hall ▸ ih l₁ (departures ++ left)

/-- With nothing in between, the steps come to what the operation does as a whole. -/
theorem completes_begin (l : Lobby) (request : Request) :
    l.Completes (.begin request) (l.answer request) (l.perform request.operation) := by
  cases request with
  | create options => exact .done rfl
  | createAndJoin h options => exact .done rfl
  | join id h =>
    simp only [answer, Request.operation, perform, join]
    split
    · next hnone => exact .done (by rw [advance, hnone])
    · next s hs =>
      refine .more (by rw [advance, hs]) (.done ?_)
      rw [advance, joinReferred, referred?_of_session? hs]
  | findOrCreateAndJoin h =>
    have hsearch := l.completes_searching h (l.inIdOrder.map (·.id))
    simp only [answer, Request.operation, perform, findOrCreateAndJoin]
    split
    · next current hcurrent => exact .done (by rw [advance, hcurrent])
    · next hfree => exact .more (by rw [advance, hfree]) hsearch
  | leave h =>
    simp only [answer, Request.operation, perform, leave]
    split
    · next hfree => exact .done (by rw [advance, hfree])
    · next id hnamed =>
      split
      · next hnone =>
        exact .more (by rw [advance, hnamed]) (.more (by rw [advance, hnone]) (.done rfl))
      · next s hs =>
        refine .more (by rw [advance, hnamed]) (.more (by rw [advance, hs]) (.done ?_))
        rw [advance]
        rcases l.leaveReferred id (l.connection h).id with ⟨_ | departure, l'⟩ <;> rfl
  | tickAll delta =>
    have hpass : l.Completes (.ticking delta (l.sessions.map (·.id)) [])
        (.ticked ((l.tickAll delta).1.map ([] ++ ·))) (l.tickAll delta).2 :=
      l.completes_ticking delta _ []
    have hall : (l.tickAll delta).1.map ([] ++ ·) = (l.tickAll delta).1 := by
      rcases (l.tickAll delta).1 with _ | departures <;> rfl
    rw [hall] at hpass
    exact .more rfl hpass
  | sweepEmpty => exact .done rfl

/-- The sessions that a task refers to are known, and one that was not found has been reclaimed. -/
def Task.Sound (l : Lobby) : Task → Prop
  | begin _ => True
  | joining _ id | leaving _ id | parting _ id => l.Known id
  | releasing _ id => id ∈ l.reclaimedIds
  | searching _ ids | ticking _ ids _ => ∀ id ∈ ids, l.Known id

variable {l l' : Lobby} {drawn : Nat} {task next : Task}

/-- A session that is known and is not in the table has been reclaimed. -/
theorem Known.reclaimed {id : SessionId} (known : l.Known id) (gone : l.session? id = none) :
    id ∈ l.reclaimedIds := by
  refine known.resolve_left fun hid => ?_
  rw [← session?_isSome_iff, gone] at hid
  cases hid

/-- A session that is found is known. -/
theorem known_of_session? {id : SessionId} {s : Session} (h : l.session? id = some s) :
    l.Known id := .inl (session?_isSome_iff.mp (by rw [h]; rfl))

/-- A task stays sound whatever moves come in between. -/
theorem Task.Sound.moves {who : Handle → Prop} {n : Nat} (sound : task.Sound l)
    (moves : Moves who l n l') : task.Sound l' := by
  cases task with
  | begin request => trivial
  | joining h id => exact moves.known.2 sound
  | searching h ids => exact fun id hid => moves.known.2 (sound id hid)
  | leaving h id => exact moves.known.2 sound
  | parting h id => exact moves.known.2 sound
  | releasing h id => exact moves.known.1 sound
  | ticking delta ids departures => exact fun id hid => moves.known.2 (sound id hid)

/-- Joining a session that is referred to admits the connection or changes nothing. -/
theorem moves_joinReferred (hr : l.Reclaimed drawn) (id : SessionId) (h : Handle) :
    Moves (· = h) l 0 (l.joinReferred id h).2 := by
  cases hs : l.session? id with
  | none =>
    rw [hr.joinReferred_of_gone hs]
    exact .refl
  | some s =>
    obtain ⟨-, rfl⟩ := mem_of_session? hs
    rw [joinReferred, referred?_of_session? hs]
    exact moves_joinSession hs h

/-- Leaving a session that is referred to dismisses a member or changes nothing. -/
theorem quietMoves_leaveReferred (hr : l.Reclaimed drawn) (id : SessionId)
    (member : ConnectionId) : QuietMoves l (l.leaveReferred id member).2 := by
  cases hs : l.session? id with
  | none =>
    rw [hr.leaveReferred_of_gone hs]
    exact .refl
  | some s =>
    obtain ⟨-, rfl⟩ := mem_of_session? hs
    rw [leaveReferred, referred?_of_session? hs]
    dsimp only
    cases hl : s.leave l.connections member with
    | none => exact .refl
    | some left =>
      obtain ⟨login, s', cs⟩ := left
      exact .quiet (.dismissed hs hl) rfl

/-- Letting time pass in a session that is referred to advances it and dismisses members, or changes
nothing. -/
theorem quietMoves_tickThrough (hr : l.Reclaimed drawn) (delta : Duration) (id : SessionId) :
    QuietMoves l (l.tickThrough delta id).2 := by
  unfold tickThrough
  split
  · exact .refl
  · next hoccupied =>
    have hknown : (l.session? id).isSome = true := by
      rw [Option.isSome_iff_ne_none]
      exact fun gone => hoccupied (hr.isEmpty_of_gone gone)
    have hmoves := (quietMoves_tickReferred hknown delta).1
    cases hticked : l.tickReferred id delta with
    | mk result l₁ =>
      rw [hticked] at hmoves
      cases result with
      | error e => exact hmoves
      | ok logins => exact hmoves

/-- Releasing a connection from a reclaimed session changes nothing about the connection. -/
theorem quietMoves_release (hl : l.Consistent drawn) (hr : l.Reclaimed drawn) {id : SessionId}
    (hid : id ∈ l.reclaimedIds) (h : Handle) :
    QuietMoves l (l.updateConnection h (·.releaseSession id)) := by
  have hnot : (l.connection h).session ≠ some id := by
    intro hnamed
    have hfound := session?_isSome_iff.mpr (hl.known h id hnamed)
    rw [hr.session?_eq_none hid] at hfound
    cases hfound
  have hsame : (l.connection h).releaseSession id = l.connection h := by
    rw [Connection.releaseSession, if_neg hnot]
  refine .quiet (.touched (l.connections.sameStanding_set h _ ?_)) rfl
  change (l.connection h).SameStanding ((l.connection h).releaseSession id)
  rw [hsame]
  exact .refl _

/-- A step is a sequence of moves that draws at most one session id. -/
theorem moves_advance (hl : l.Consistent drawn) (hr : l.Reclaimed drawn) (sound : task.Sound l) :
    ∃ n ≤ 1, Moves (fun _ => True) l n (l.advance task).2 := by
  have unchanged : ∃ n ≤ 1, Moves (fun _ => True) l n l := ⟨0, by omega, .refl⟩
  have quietly {l' : Lobby} (h : QuietMoves l l') : ∃ n ≤ 1, Moves (fun _ => True) l n l' :=
    ⟨0, by omega, h.of_quiet⟩
  have joining (id : SessionId) (h : Handle) :
      ∃ n ≤ 1, Moves (fun _ => True) l n (l.joinReferred id h).2 :=
    ⟨0, by omega, (moves_joinReferred hr id h).mono fun _ _ => trivial⟩
  cases task with
  | begin request =>
    cases request with
    | create options => exact moves_perform hl.keys (.create options)
    | createAndJoin h options => exact moves_perform hl.keys (.createAndJoin h options)
    | join id h =>
      rw [advance]
      split <;> exact unchanged
    | findOrCreateAndJoin h =>
      rw [advance]
      split <;> exact unchanged
    | leave h =>
      rw [advance]
      split <;> exact unchanged
    | tickAll delta => exact unchanged
    | sweepEmpty => exact moves_perform hl.keys .sweepEmpty
  | joining h id => exact joining id h
  | searching h ids =>
    cases ids with
    | nil => exact moves_perform hl.keys (.createAndJoin h {})
    | cons id rest =>
      have hmoves := joining id h
      rw [advance]
      cases hjoin : l.joinReferred id h with
      | mk result l₁ =>
        rw [hjoin] at hmoves
        cases result with
        | ok summary => exact hmoves
        | error e =>
          dsimp only
          split <;> exact hmoves
  | leaving h id =>
    rw [advance]
    split <;> exact unchanged
  | parting h id =>
    have hmoves := quietMoves_leaveReferred hr id (l.connection h).id
    rw [advance]
    cases hleft : l.leaveReferred id (l.connection h).id with
    | mk departure l₁ =>
      rw [hleft] at hmoves
      cases departure with
      | none => exact quietly hmoves
      | some departure => exact quietly hmoves
  | releasing h id => exact quietly (quietMoves_release hl hr sound h)
  | ticking delta ids departures =>
    cases ids with
    | nil => exact unchanged
    | cons id rest =>
      have hmoves := quietMoves_tickThrough hr delta id
      rw [advance]
      cases hticked : l.tickThrough delta id with
      | mk result l₁ =>
        rw [hticked] at hmoves
        cases result with
        | error e => exact quietly hmoves
        | ok left => exact quietly hmoves

/-- What is still to be done after a step refers to known sessions. -/
theorem Task.Sound.advance (hl : l.Consistent drawn) (hr : l.Reclaimed drawn)
    (sound : task.Sound l) (step : l.advance task = (.more next, l')) : next.Sound l' := by
  obtain ⟨n, -, hmoves⟩ := moves_advance hl hr sound
  rw [step] at hmoves
  cases task with
  | begin request =>
    cases request with
    | create options => cases step
    | createAndJoin h options => cases step
    | join id h =>
      rw [Lobby.advance] at step
      split at step
      · cases step
      · next s hs =>
        cases step
        exact known_of_session? hs
    | findOrCreateAndJoin h =>
      rw [Lobby.advance] at step
      split at step
      · cases step
      · cases step
        intro id hid
        obtain ⟨s, hs, rfl⟩ := List.mem_map.mp hid
        exact .inl (List.mem_map_of_mem (List.mem_mergeSort.mp hs))
    | leave h =>
      rw [Lobby.advance] at step
      split at step
      · cases step
      · next id hnamed =>
        cases step
        exact .inl (hl.known h id hnamed)
    | tickAll delta =>
      cases step
      exact fun id hid => .inl hid
    | sweepEmpty => cases step
  | joining h id => cases step
  | searching h ids =>
    cases ids with
    | nil => cases step
    | cons id rest =>
      rw [Lobby.advance] at step
      split at step
      · cases step
      · split at step
        · cases step
          exact fun id' hid' => hmoves.known.2 (sound id' (List.mem_cons_of_mem _ hid'))
        · cases step
  | leaving h id =>
    rw [Lobby.advance] at step
    split at step
    · next hnone =>
      cases step
      exact Known.reclaimed sound hnone
    · cases step
      exact sound
  | parting h id =>
    rw [Lobby.advance] at step
    split at step <;> cases step
  | releasing h id => cases step
  | ticking delta ids departures =>
    cases ids with
    | nil => cases step
    | cons id rest =>
      rw [Lobby.advance] at step
      split at step
      · cases step
      · cases step
        exact fun id' hid' => hmoves.known.2 (sound id' (List.mem_cons_of_mem _ hid'))

/-- Joining a session that is referred to. -/
theorem joinOutcome_joinReferred (hr : l.Reclaimed drawn) (id : SessionId) (h : Handle) :
    JoinOutcome l h (l.joinReferred id h) := by
  cases hs : l.session? id with
  | none =>
    rw [hr.joinReferred_of_gone hs]
    exact .refused rfl rfl
  | some s =>
    obtain ⟨-, rfl⟩ := mem_of_session? hs
    rw [joinReferred, referred?_of_session? hs]
    exact joinOutcome_joinSession hs h

/-- Whoever is told that a connection has joined a session, this connection was admitted to it by
the step that ends with telling so. -/
theorem admits_of_joined (hl : l.Consistent drawn) (hr : l.Reclaimed drawn) {h : Handle}
    {summary : SessionSummary} (told : l.advance task = (.done (.joined h (.ok summary)), l')) :
    Admits l summary.id h l' := by
  have admitted {outcome : Except SessionError SessionSummary × Lobby}
      (houtcome : JoinOutcome l h outcome) (heq : outcome = (.ok summary, l')) :
      Admits l summary.id h l' := by
    rw [heq] at houtcome
    cases houtcome with
    | admitted admits => exact admits
  cases task with
  | begin request =>
    cases request with
    | create options => cases told
    | createAndJoin k options =>
      rw [Lobby.advance] at told
      cases hjoin : l.createAndJoin k options with
      | mk result l₁ =>
        rw [hjoin] at told
        cases told
        exact admitted (joinOutcome_createAndJoin hl h options) hjoin
    | join id k =>
      rw [Lobby.advance] at told
      split at told <;> cases told
    | findOrCreateAndJoin k =>
      rw [Lobby.advance] at told
      split at told <;> cases told
    | leave k =>
      rw [Lobby.advance] at told
      split at told <;> cases told
    | tickAll delta => cases told
    | sweepEmpty => cases told
  | joining k id =>
    rw [Lobby.advance] at told
    cases hjoin : l.joinReferred id k with
    | mk result l₁ =>
      rw [hjoin] at told
      cases told
      exact admitted (joinOutcome_joinReferred hr id h) hjoin
  | searching k ids =>
    cases ids with
    | nil =>
      rw [Lobby.advance] at told
      cases hjoin : l.createAndJoin k {} with
      | mk result l₁ =>
        rw [hjoin] at told
        cases told
        exact admitted (joinOutcome_createAndJoin hl h {}) hjoin
    | cons id rest =>
      rw [Lobby.advance] at told
      split at told
      · next summary' l₁ hjoin =>
        cases told
        exact admitted (joinOutcome_joinReferred hr id h) hjoin
      · split at told <;> cases told
  | leaving k id =>
    rw [Lobby.advance] at told
    split at told <;> cases told
  | parting k id =>
    rw [Lobby.advance] at told
    split at told <;> cases told
  | releasing k id => cases told
  | ticking delta ids departures =>
    cases ids with
    | nil => cases told
    | cons id rest =>
      rw [Lobby.advance] at told
      split at told <;> cases told

end PlayServer.Lobby
