import Mathlib.Data.List.Induction
import PlayServer.Server.FrontEnd

/-!
# Shutting a front end down again

Only the first shutdown of a front end acts. Initializing and running it stay possible afterwards,
and what they leave no later shutdown takes away: a front end that is initialized and run after its
first shutdown counts as running ever after, with two tasks that nobody waits for.

`shutdown_performAll` says after which calls a shutdown leaves the front end stopped: after all in
which no address was bound past a shutdown.
-/

namespace PlayServer

namespace FrontEnd

/-- A call on a front end. An initialization finds some addresses held. -/
inductive Call where
  | init (held : List SocketAddress) (address : SocketAddress)
  | run
  | shutdown
  deriving DecidableEq, Repr

/-- The front end after a call. -/
def perform (f : FrontEnd) : Call → FrontEnd
  | .init held address => (f.init held address).2
  | .run => f.run.2
  | .shutdown => f.shutdown

/-- The front end after some calls. -/
def performAll (f : FrontEnd) (calls : List Call) : FrontEnd := calls.foldl perform f

/-- A front end that is stopped: it does not count as running, holds no listener, and has waited for
all its tasks. -/
structure IsStopped (f : FrontEnd) : Prop where
  isRunning : f.isRunning = false
  held : f.held = []
  tasks : f.tasks = 0

/-- A front end that was told to stop and came back: it has bound an address that it has not run, or
it was run since, and has waited for neither of the tasks of that run. -/
structure IsRevived (f : FrontEnd) : Prop where
  isStopping : f.isStopping = true
  accepting : f.accepting = none
  phase : (f.listener.isSome = true ∧ f.isRunning = false ∧ f.tasks = 0) ∨
    (f.listener = none ∧ f.isRunning = true ∧ f.tasks = tasksPerRun)

/-- One of the calls is an initialization that binds its address, and a shutdown came before it. -/
def BoundAfterShutdown (f : FrontEnd) (calls : List Call) : Prop :=
  ∃ earlier held address later, calls = earlier ++ Call.init held address :: later ∧
    Call.shutdown ∈ earlier ∧ ∃ bound, ((f.performAll earlier).init held address).1 = .ok bound

variable {f : FrontEnd} {calls : List Call} {call : Call}

@[simp] theorem performAll_nil (f : FrontEnd) : f.performAll [] = f := rfl

/-- Calls are performed in turn. -/
@[simp] theorem performAll_concat (f : FrontEnd) (calls : List Call) (call : Call) :
    f.performAll (calls ++ [call]) = (f.performAll calls).perform call := by
  simp [performAll]

/-- An initialization does nothing, or binds an address. -/
theorem init_cases (f : FrontEnd) (held : List SocketAddress) (address : SocketAddress) :
    ((∃ e, (f.init held address).1 = .error e) ∧ (f.init held address).2 = f) ∨
      ∃ bound, (f.init held address).1 = .ok bound ∧ f.isRunning = false ∧
        (f.init held address).2 = { f with listener := some bound, address := some bound } := by
  unfold init
  split
  · exact .inl ⟨⟨_, rfl⟩, rfl⟩
  next hrunning =>
  have hidle : f.isRunning = false := by simpa using hrunning
  split
  · exact .inl ⟨⟨_, rfl⟩, rfl⟩
  · exact .inr ⟨_, rfl, hidle, rfl⟩

/-- A run does nothing, or takes the listener up. -/
theorem run_cases (f : FrontEnd) :
    (f.run.2 = f ∧ (f.isRunning = true ∨ f.listener = none)) ∨
      ∃ listener, f.isRunning = false ∧ f.listener = some listener ∧
        f.run.2 = { f with
          listener := none
          accepting := if f.isStopping then none else some listener
          isRunning := true
          tasks := f.tasks + tasksPerRun } := by
  unfold run
  split
  next hrunning => exact .inl ⟨rfl, .inl hrunning⟩
  next hrunning =>
  have hidle : f.isRunning = false := by simpa using hrunning
  cases hlistener : f.listener with
  | none => exact .inl ⟨rfl, .inr rfl⟩
  | some listener => exact .inr ⟨listener, hidle, rfl, rfl⟩

/-- A second shutdown does nothing. -/
theorem shutdown_of_isStopping (stopping : f.isStopping = true) : f.shutdown = f := by
  rw [shutdown, if_pos stopping]

/-- The first shutdown stops the front end. -/
theorem isStopped_shutdown (first : f.isStopping = false) : f.shutdown.IsStopped := by
  have hshutdown : f.shutdown = { f with
      listener := none
      accepting := none
      isStopping := true
      isRunning := false
      tasks := 0 } := by
    rw [shutdown, if_neg (by simp [first])]
  rw [hshutdown]
  exact ⟨rfl, rfl, rfl⟩

/-- A front end was told to stop once it was shut down, and not before. -/
theorem isStopping_perform (f : FrontEnd) (call : Call) :
    (f.perform call).isStopping = true ↔ call = .shutdown ∨ f.isStopping = true := by
  cases call with
  | init held address =>
    obtain ⟨-, hinit⟩ | ⟨bound, -, -, hinit⟩ := init_cases f held address <;>
      simp [perform, hinit]
  | run => obtain ⟨hrun, -⟩ | ⟨listener, -, -, hrun⟩ := run_cases f <;> simp [perform, hrun]
  | shutdown =>
    rw [perform, shutdown]
    split
    next hstopping => simp [hstopping]
    · simp

/-- A stopped front end has no listener, in a task or out of one. -/
theorem IsStopped.listener (stopped : f.IsStopped) : f.listener = none ∧ f.accepting = none := by
  simpa [FrontEnd.held, Option.toList_eq_nil_iff] using stopped.held

/-- A front end that came back and was not run since has no tasks. -/
theorem IsRevived.tasks (revived : f.IsRevived) (idle : f.isRunning = false) : f.tasks = 0 := by
  obtain ⟨-, -, htasks⟩ | ⟨-, hrunning, -⟩ := revived.phase
  · exact htasks
  · rw [idle] at hrunning
    cases hrunning

/-- What a stopped front end does about a call: it stays stopped, unless the call binds an address,
and comes back if it does. -/
theorem perform_of_isStopped (stopped : f.IsStopped) (stopping : f.isStopping = true)
    (call : Call) :
    ((f.perform call).IsStopped ∧
      ∀ held address bound, call = .init held address → (f.init held address).1 ≠ .ok bound) ∨
    ((f.perform call).IsRevived ∧
      ∃ held address bound, call = .init held address ∧ (f.init held address).1 = .ok bound) := by
  obtain ⟨hlistener, haccepting⟩ := stopped.listener
  cases call with
  | init held address =>
    obtain ⟨⟨e, herror⟩, hinit⟩ | ⟨bound, hbound, hidle, hinit⟩ := init_cases f held address
    · refine .inl ⟨by rwa [perform, hinit], ?_⟩
      intro held' address' bound hcall hok
      obtain ⟨rfl, rfl⟩ := Call.init.inj hcall
      rw [herror] at hok
      cases hok
    · refine .inr ⟨?_, held, address, bound, rfl, hbound⟩
      rw [perform, hinit]
      exact ⟨stopping, haccepting, .inl ⟨rfl, hidle, stopped.tasks⟩⟩
  | run =>
    refine .inl ⟨?_, by simp⟩
    obtain ⟨hrun, -⟩ | ⟨listener, -, hsome, -⟩ := run_cases f
    · rwa [perform, hrun]
    · rw [hlistener] at hsome
      cases hsome
  | shutdown => exact .inl ⟨by rwa [perform, shutdown_of_isStopping stopping], by simp⟩

/-- A front end that came back is stopped by no call. -/
theorem IsRevived.perform (revived : f.IsRevived) (call : Call) :
    (f.perform call).IsRevived := by
  cases call with
  | init held address =>
    obtain ⟨-, hinit⟩ | ⟨bound, -, hidle, hinit⟩ := init_cases f held address
    · rwa [FrontEnd.perform, hinit]
    · rw [FrontEnd.perform, hinit]
      exact ⟨revived.isStopping, revived.accepting, .inl ⟨rfl, hidle, revived.tasks hidle⟩⟩
  | run =>
    obtain ⟨hrun, -⟩ | ⟨listener, hidle, -, hrun⟩ := run_cases f
    · rwa [FrontEnd.perform, hrun]
    · rw [FrontEnd.perform, hrun]
      exact ⟨revived.isStopping, if_pos revived.isStopping,
        .inr ⟨rfl, rfl, by simp [revived.tasks hidle]⟩⟩
  | shutdown => rwa [FrontEnd.perform, shutdown_of_isStopping revived.isStopping]

/-- A front end that came back is not stopped. -/
theorem IsRevived.not_isStopped (revived : f.IsRevived) : ¬ f.IsStopped := by
  intro stopped
  obtain ⟨hlistener, -, -⟩ | ⟨-, hrunning, -⟩ := revived.phase
  · rw [stopped.listener.1] at hlistener
    cases hlistener
  · rw [stopped.isRunning] at hrunning
    cases hrunning

/-- A front end was told to stop if one of the calls is a shutdown. -/
theorem isStopping_performAll (fresh : f.isStopping = false) (calls : List Call) :
    (f.performAll calls).isStopping = true ↔ .shutdown ∈ calls := by
  induction calls using List.reverseRecOn with
  | nil => simp [fresh]
  | append_singleton calls call ih =>
    rw [performAll_concat, isStopping_perform, ih, List.mem_append, List.mem_singleton]
    constructor
    · rintro (rfl | hcall)
      · exact .inr rfl
      · exact .inl hcall
    · rintro (hcall | rfl)
      · exact .inr hcall
      · exact .inl rfl

/-- An address is bound past a shutdown by the last call or before it. -/
theorem boundAfterShutdown_concat (f : FrontEnd) (calls : List Call) (call : Call) :
    f.BoundAfterShutdown (calls ++ [call]) ↔
      f.BoundAfterShutdown calls ∨
        ∃ held address bound, call = .init held address ∧ .shutdown ∈ calls ∧
          ((f.performAll calls).init held address).1 = .ok bound := by
  constructor
  · rintro ⟨earlier, held, address, later, hcalls, hshutdown, bound, hbound⟩
    rcases List.eq_nil_or_concat later with rfl | ⟨later, last, rfl⟩
    · obtain ⟨rfl, hcall⟩ := List.append_inj' hcalls rfl
      obtain rfl := List.singleton_inj.mp hcall
      exact .inr ⟨held, address, bound, rfl, hshutdown, hbound⟩
    · rw [List.concat_eq_append, ← List.cons_append, ← List.append_assoc] at hcalls
      obtain ⟨rfl, -⟩ := List.append_inj' hcalls rfl
      exact .inl ⟨earlier, held, address, later, rfl, hshutdown, bound, hbound⟩
  · rintro (⟨earlier, held, address, later, rfl, hshutdown, hbound⟩ |
      ⟨held, address, bound, rfl, hshutdown, hbound⟩)
    · exact ⟨earlier, held, address, later ++ [call], by simp, hshutdown, hbound⟩
    · exact ⟨calls, held, address, [], rfl, hshutdown, bound, hbound⟩

/-- After a shutdown a front end has come back if an address was bound since, and is stopped if
not. -/
theorem performAll_of_mem_shutdown (fresh : f.isStopping = false) (calls : List Call)
    (shut : .shutdown ∈ calls) :
    (f.BoundAfterShutdown calls ∧ (f.performAll calls).IsRevived) ∨
      (¬ f.BoundAfterShutdown calls ∧ (f.performAll calls).IsStopped) := by
  induction calls using List.reverseRecOn with
  | nil => cases shut
  | append_singleton calls call ih =>
    rw [performAll_concat, boundAfterShutdown_concat]
    by_cases hearlier : Call.shutdown ∈ calls
    · obtain ⟨hbound, hrevived⟩ | ⟨hunbound, hstopped⟩ := ih hearlier
      · exact .inl ⟨.inl hbound, hrevived.perform call⟩
      · have hstopping : (f.performAll calls).isStopping = true :=
          (isStopping_performAll fresh calls).mpr hearlier
        obtain ⟨hstays, hnone⟩ | ⟨hrevived, held, address, bound, hcall, hbound⟩ :=
          perform_of_isStopped hstopped hstopping call
        · refine .inr ⟨?_, hstays⟩
          rintro (hbound | ⟨held, address, bound, hcall, -, hbound⟩)
          · exact hunbound hbound
          · exact hnone held address bound hcall hbound
        · exact .inl ⟨.inr ⟨held, address, bound, hcall, hearlier, hbound⟩, hrevived⟩
    · -- The last call is the first shutdown, and nothing came after it.
      have hfirst : (f.performAll calls).isStopping = false := by
        simpa [hearlier] using (isStopping_performAll fresh calls).not
      have hcall : call = .shutdown := by
        simpa [hearlier, eq_comm] using shut
      subst hcall
      refine .inr ⟨?_, isStopped_shutdown hfirst⟩
      rintro (⟨earlier, held, address, later, rfl, hshutdown, -⟩ |
        ⟨held, address, bound, -, hshutdown, -⟩)
      · exact hearlier (List.mem_append_left _ hshutdown)
      · exact hearlier hshutdown

/-- A shutdown leaves a front end stopped, whatever calls came before it, unless an address was
bound past an earlier shutdown. It does nothing then, and the front end stays as it came back: it
still holds a listener, or counts as running with tasks that nobody has waited for. -/
theorem shutdown_performAll (name : String) (calls : List Call) :
    let front : FrontEnd := { name }
    ((front.performAll calls).shutdown.IsStopped ↔ ¬ front.BoundAfterShutdown calls) ∧
      (front.BoundAfterShutdown calls →
        (front.performAll calls).shutdown = front.performAll calls ∧
          (front.performAll calls).IsRevived) := by
  intro front
  have hfresh : front.isStopping = false := rfl
  by_cases hshut : Call.shutdown ∈ calls
  · have hstopping : (front.performAll calls).isStopping = true :=
      (isStopping_performAll hfresh calls).mpr hshut
    rw [shutdown_of_isStopping hstopping]
    obtain ⟨hbound, hrevived⟩ | ⟨hunbound, hstopped⟩ :=
      performAll_of_mem_shutdown hfresh calls hshut
    · exact ⟨by simp [hbound, hrevived.not_isStopped], fun _ => ⟨rfl, hrevived⟩⟩
    · exact ⟨by simp [hunbound, hstopped], fun hbound => (hunbound hbound).elim⟩
  · have hunbound : ¬ front.BoundAfterShutdown calls := by
      rintro ⟨earlier, held, address, later, rfl, hshutdown, -⟩
      exact hshut (List.mem_append_left _ hshutdown)
    have hfirst : (front.performAll calls).isStopping = false := by
      simpa [hshut] using (isStopping_performAll hfresh calls).not
    exact ⟨by simp [hunbound, isStopped_shutdown hfirst], fun hbound => (hunbound hbound).elim⟩

/-- A gateway that is shut down, initialized, run and shut down again counts as running, and has
waited for neither of its tasks. -/
theorem shutdown_after_restart :
    let calls : List Call := [.shutdown, .init [] { ip := .v4 127 0 0 1, port := 0 }, .run]
    let front := (({ name := "gateway" } : FrontEnd).performAll calls).shutdown
    front.isRunning = true ∧ front.tasks = tasksPerRun ∧ ¬ front.IsStopped := by
  refine ⟨by decide, by decide, ?_⟩
  intro stopped
  exact absurd stopped.isRunning (by decide)

end FrontEnd

end PlayServer
