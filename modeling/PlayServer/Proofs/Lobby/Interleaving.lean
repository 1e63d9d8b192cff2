import PlayServer.Proofs.Lobby.Step
import Mathlib.Logic.Function.Basic

/-!
# Operations that come in between each other

In a `Crowd` any number of clients take the steps of their operations in any order, for any
connections, while connections close. No connection is reserved to one of the clients.

In whatever way the steps are interleaved, connections and sessions agree after each of them, and
nobody is admitted to a session that has been reclaimed: `placed_of_run`. What a client holds in its
hands from one step to the next is a reference to a session, and what is known of it, `Task.Sound`,
stays true whatever the others do.
-/

namespace PlayServer.Lobby

/-- A lobby, and what each client is about to do. -/
structure Crowd where
  lobby : Lobby
  tasks : Nat → Option Task

namespace Crowd

/-- What happens in a crowd. -/
inductive Event where
  /-- A client that is not about to do anything asks for something. -/
  | call (client : Nat) (request : Request)
  /-- A client takes its next step. -/
  | resume (client : Nat)
  /-- Something happens in one step for which no client is needed: a connection closes, say. -/
  | meanwhile (op : Operation)

/-- One event happens. -/
def step (c : Crowd) : Event → Crowd
  | .call client request =>
    if (c.tasks client).isSome then c
    else { c with tasks := Function.update c.tasks client (some (.begin request)) }
  | .resume client =>
    match c.tasks client with
    | none => c
    | some task =>
      let (stage, lobby) := c.lobby.advance task
      { lobby, tasks := Function.update c.tasks client stage.task? }
  | .meanwhile op => { c with lobby := c.lobby.perform op }

/-- Events happen one after the other. -/
def run (c : Crowd) (events : List Event) : Crowd := events.foldl step c

/-- A client that is about to do something takes its next step. -/
theorem step_resume {c : Crowd} {client : Nat} {task : Task} (busy : c.tasks client = some task) :
    c.step (.resume client) = {
      lobby := (c.lobby.advance task).2
      tasks := Function.update c.tasks client (c.lobby.advance task).1.task? } := by
  rw [step, busy]

/-- What a client is told if its next step is the last one. -/
def answer? (c : Crowd) (client : Nat) : Option Answer :=
  (c.tasks client).bind fun task => (c.lobby.advance task).1.answer?

/-- How many session ids an event draws: none or one, which the counter tells. -/
def idsDrawnBy (c : Crowd) (e : Event) : Nat :=
  if (c.step e).lobby.nextId = c.lobby.nextId then 0 else 1

/-- How many session ids a run draws. -/
def idsDrawn (c : Crowd) : List Event → Nat
  | [] => 0
  | e :: rest => c.idsDrawnBy e + (c.step e).idsDrawn rest

/-- Nobody is about to do anything in a new lobby. -/
def start (maxPlayers maxSessions : Nat) (cs : Connections) : Crowd where
  lobby := new maxPlayers maxSessions cs
  tasks _ := none

/-- The invariant of a crowd that has drawn so many session ids. -/
structure Orderly (drawn : Nat) (c : Crowd) : Prop where
  consistent : c.lobby.Consistent drawn
  reclaimed : c.lobby.Reclaimed drawn
  sound : ∀ client task, c.tasks client = some task → task.Sound c.lobby

/-- What clients are about to do is sound if it is for one of them and for all others. -/
theorem sound_update {tasks : Nat → Option Task} {l : Lobby} {client : Nat} {next : Option Task}
    (others : ∀ client task, tasks client = some task → task.Sound l)
    (own : ∀ task ∈ next, task.Sound l) (other : Nat) (task : Task)
    (htask : Function.update tasks client next other = some task) : task.Sound l := by
  by_cases hsame : other = client
  · subst hsame
    rw [Function.update_self] at htask
    exact own task htask
  · rw [Function.update_of_ne hsame] at htask
    exact others other task htask

namespace Orderly

variable {c : Crowd} {drawn : Nat}

/-- An event moves the lobby, and draws at most one session id. -/
theorem moves_step (hc : c.Orderly drawn) (e : Event) :
    Moves (fun _ => True) c.lobby (c.idsDrawnBy e) (c.step e).lobby := by
  suffices hmoves : ∃ n ≤ 1, Moves (fun _ => True) c.lobby n (c.step e).lobby by
    obtain ⟨n, few, hmoves⟩ := hmoves
    have hdrawn : n = c.idsDrawnBy e := hmoves.draws_eq few
    exact hdrawn ▸ hmoves
  cases e with
  | call client request =>
    rw [Crowd.step]
    split <;> exact ⟨0, by omega, .refl⟩
  | resume client =>
    rw [Crowd.step]
    split
    · exact ⟨0, by omega, .refl⟩
    · next task htask => exact moves_advance hc.consistent hc.reclaimed (hc.sound client task htask)
  | meanwhile op => exact moves_perform hc.consistent.keys op

/-- An event keeps a crowd orderly. -/
theorem step (hc : c.Orderly drawn) (e : Event) (room : drawn + c.idsDrawnBy e < 2 ^ 32 - 1) :
    (c.step e).Orderly (drawn + c.idsDrawnBy e) := by
  have hmoves := hc.moves_step e
  refine ⟨hc.consistent.moves hmoves room, hc.reclaimed.moves hc.consistent hmoves room, ?_⟩
  cases e with
  | call client request =>
    rw [Crowd.step]
    split
    · exact hc.sound
    · exact sound_update hc.sound fun task htask => by
        obtain rfl := Option.some.inj htask
        trivial
  | resume client =>
    -- What other clients are about to do stays sound, since what is known stays known.
    have hkept (other : Nat) (task : Task) (htask : c.tasks other = some task) :=
      (hc.sound other task htask).moves hmoves
    cases hbusy : c.tasks client with
    | none =>
      rw [Crowd.step, hbusy]
      exact hc.sound
    | some task =>
      rw [step_resume hbusy] at hkept ⊢
      refine sound_update hkept fun next hnext => ?_
      cases hadvance : c.lobby.advance task with
      | mk stage l' =>
        rw [hadvance] at hnext
        cases stage with
        | done answer => cases hnext
        | more next =>
          cases hnext
          exact (hc.sound client task hbusy).advance hc.consistent hc.reclaimed hadvance
  | meanwhile op => exact fun other task htask => (hc.sound other task htask).moves hmoves

/-- A run keeps a crowd orderly. -/
theorem run (hc : c.Orderly drawn) (events : List Event)
    (room : drawn + c.idsDrawn events < 2 ^ 32 - 1) :
    (c.run events).Orderly (drawn + c.idsDrawn events) := by
  induction events generalizing c drawn with
  | nil => exact hc
  | cons e rest ih =>
    rw [idsDrawn, ← Nat.add_assoc] at room ⊢
    exact ih (hc.step e (by omega)) room

end Orderly

/-- A crowd is orderly when nobody is about to do anything in a new lobby. -/
theorem orderly_start (maxPlayers maxSessions : Nat) {cs : Connections}
    (free : ∀ c ∈ cs.opened, c.session = none) : (start maxPlayers maxSessions cs).Orderly 0 where
  consistent := consistent_new maxPlayers maxSessions free
  reclaimed := ⟨by simp [start, new], by simp [start, new], by simp [start, new],
    by simp [start, new]⟩
  sound client task htask := by cases htask

/-- The ids drawn by a run are those drawn by its parts. -/
theorem idsDrawn_append (c : Crowd) (earlier later : List Event) :
    c.idsDrawn (earlier ++ later) = c.idsDrawn earlier + (c.run earlier).idsDrawn later := by
  induction earlier generalizing c with
  | nil => exact (Nat.zero_add _).symm
  | cons e rest ih =>
    rw [List.cons_append, idsDrawn, idsDrawn, ih, Nat.add_assoc]
    rfl

end Crowd

/-- However the steps of any number of clients are interleaved, with each other, with passes of the
scheduler and with reclaiming, as long as the counter of session ids does not run out: after every
event a connection names a session exactly when the table holds that session with the connection as
a member. When a client is told that a connection has joined a session, the connection names this
session, which is in the table and has it as a member. A client that is about to join a session
which has been reclaimed is told that the session is not there, and one that tries such a session in
a search goes on to the next; neither changes anything. -/
theorem Crowd.placed_of_run (maxPlayers maxSessions : Nat) (cs : Connections)
    (free : ∀ c ∈ cs.opened, c.session = none) (events : List Crowd.Event)
    (drawn : (start maxPlayers maxSessions cs).idsDrawn events < 2 ^ 32 - 1) :
    (∀ h id, (((start maxPlayers maxSessions cs).run events).lobby.connection h).session = some id ↔
      ∃ s m, ((start maxPlayers maxSessions cs).run events).lobby.session? id = some s ∧
        s.member? (((start maxPlayers maxSessions cs).run events).lobby.connection h).id = some m ∧
        m.handle = h) ∧
    ∀ earlier client later, events = earlier ++ .resume client :: later →
      let before := (start maxPlayers maxSessions cs).run earlier
      let after := before.step (.resume client)
      (∀ h summary, before.answer? client = some (.joined h (.ok summary)) →
        (after.lobby.connection h).session = some summary.id ∧
        ∃ s m, after.lobby.session? summary.id = some s ∧
          s.member? (after.lobby.connection h).id = some m ∧ m.handle = h) ∧
      (∀ h id, before.tasks client = some (.joining h id) → id ∈ before.lobby.reclaimedIds →
        before.answer? client = some (.joined h (.error (.notFound id))) ∧
        after.lobby = before.lobby) ∧
      ∀ h id rest, before.tasks client = some (.searching h (id :: rest)) →
        id ∈ before.lobby.reclaimedIds →
        after.tasks client = some (.searching h rest) ∧ after.lobby = before.lobby := by
  have hstart := orderly_start maxPlayers maxSessions free
  refine ⟨(hstart.run events (by omega)).consistent.session_iff, ?_⟩
  rintro earlier client later rfl before after
  rw [idsDrawn_append, idsDrawn] at drawn
  have hbefore : before.Orderly _ := hstart.run earlier (by omega)
  have hafter : after.Orderly _ := (hstart.run earlier (by omega)).step (.resume client) (by omega)
  refine ⟨fun h summary told => ?_, fun h id htask swept => ?_, fun h id rest htask swept => ?_⟩
  · obtain ⟨task, hbusy, htold⟩ := Option.bind_eq_some_iff.mp told
    have hadvance : before.lobby.advance task =
        (.done (.joined h (.ok summary)), (before.lobby.advance task).2) :=
      Prod.ext (Stage.answer?_eq_some_iff.mp htold) rfl
    have hadmits := admits_of_joined hbefore.consistent hbefore.reclaimed hadvance
    have hnamed : (after.lobby.connection h).session = some summary.id := by
      have hlobby : after.lobby = (before.lobby.advance task).2 := by
        rw [show after = _ from step_resume hbusy]
      rw [hlobby, connection, hadmits.connections, Connections.get_set, if_pos rfl]
    exact ⟨hnamed, (hafter.consistent.session_iff h summary.id).mp hnamed⟩
  · have hgone := hbefore.reclaimed.session?_eq_none swept
    have hadvance : before.lobby.advance (.joining h id) =
        (.done (.joined h (.error (.notFound id))), before.lobby) := by
      rw [advance, hbefore.reclaimed.joinReferred_of_gone hgone]
    have hstep : after = _ := step_resume htask
    exact ⟨by rw [answer?, htask, Option.bind_some, hadvance]; rfl, by rw [hstep, hadvance]⟩
  · have hgone := hbefore.reclaimed.session?_eq_none swept
    have hadvance : before.lobby.advance (.searching h (id :: rest)) =
        (.more (.searching h rest), before.lobby) := by
      rw [advance, hbefore.reclaimed.joinReferred_of_gone hgone]
      rfl
    have hstep : after = _ := step_resume htask
    rw [hstep, hadvance]
    exact ⟨Function.update_self .., rfl⟩

/-- One client opens a session, and another one finds it in order to join it; but before it does so
the first client reclaims the session, which has no members. -/
def sweptBetween : List Crowd.Event :=
  [.call 0 (.create {}), .resume 0, .call 1 (.join ⟨1⟩ 0), .resume 1, .call 0 .sweepEmpty, .resume 0]

/-- The client that was about to join is told that the session is not there. -/
theorem Crowd.placed_of_run_sweptBetween :
    (∀ c ∈ twoConnections.opened, c.session = none) ∧
      (start 4 16 twoConnections).idsDrawn (sweptBetween ++ [.resume 1]) < 2 ^ 32 - 1 ∧
      ((start 4 16 twoConnections).run sweptBetween).answer? 1 =
        some (.joined 0 (.error (.notFound ⟨1⟩))) ∧
      (((start 4 16 twoConnections).run sweptBetween).step (.resume 1)).lobby =
        ((start 4 16 twoConnections).run sweptBetween).lobby := by
  have hfree : ∀ c ∈ twoConnections.opened, c.session = none := by decide
  have hdrawn : (start 4 16 twoConnections).idsDrawn (sweptBetween ++ [.resume 1]) < 2 ^ 32 - 1 := by
    decide
  have hrun := placed_of_run 4 16 twoConnections hfree (sweptBetween ++ [.resume 1]) hdrawn
  obtain ⟨-, hswept, -⟩ := hrun.2 sweptBetween 1 [] rfl
  exact ⟨hfree, hdrawn, hswept 0 ⟨1⟩ rfl (by decide)⟩

end PlayServer.Lobby
