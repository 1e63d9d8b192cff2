import PlayServer.Connection.Basic
import Mathlib.Algebra.Order.Ring.Nat

/-!
# The writer of a connection

A writer takes payloads to the line one after the other. Whatever the line does, the payloads that
were accepted are those written in full, then the one that the line has taken a part of, if there is
one, and then those that still wait: `Written` keeps this account, together with the counters.

A connection is `Sending` while it is open, `Resting` once its writer has run as far as it gets, and
`Ended` after it has closed. `resumeWriter_spec` and `runWriter_spec` say what becomes of it when
the writer runs.
-/

namespace PlayServer

/-- What is left of a payload that a line has written: nothing, or what it waits for, or what it
has failed on. -/
def WriteEnd.Leaves : WriteEnd → Bytes → Line → Prop
  | .done, rest, _ => rest = []
  | .waits r, rest, l => r = rest ∧ rest ≠ [] ∧ l.stallRoom.isSome = true
  | .fails _, rest, _ => rest ≠ []

/-- What is left of some payloads that a line has written: all or part of the first of them has been
taken, or there are none. -/
def Line.PumpEnd.Leaves : Line.PumpEnd → (part : Bytes) → (todo : List Bytes) → Prop
  | .drained, part, todo => part = [] ∧ todo = []
  | .waits f queue, part, todo =>
    f.rest ≠ [] ∧ f.size = (part ++ f.rest).length ∧ todo = (part ++ f.rest) :: queue
  | .fails _, part, todo => ∃ rest queue, rest ≠ [] ∧ todo = (part ++ rest) :: queue

namespace Line

/-- What a line accepts comes after all that it has taken. -/
theorem taken_accept (l : Line) (bs : Bytes) : (l.accept bs).taken = l.taken ++ bs := by
  simp [taken, accept]

/-- A write takes the payload, or a part of it and not all. A write that waits has a line that
stalls. -/
theorem write_spec (l : Line) (bs : Bytes) :
    ∃ part rest, bs = part ++ rest ∧ (l.write bs).2.taken = l.taken ++ part ∧
      (l.write bs).1.Leaves rest (l.write bs).2 := by
  have hall : ∃ part rest, bs = part ++ rest ∧ (l.accept bs).taken = l.taken ++ part ∧ rest = [] :=
    ⟨bs, [], (List.append_nil bs).symm, l.taken_accept bs, rfl⟩
  unfold write
  split
  · exact hall
  next n hroom =>
  split
  · exact hall
  next hless =>
  have hrest : bs.drop n ≠ [] := by
    intro hnil
    rw [List.drop_eq_nil_iff] at hnil
    exact hless hnil
  have hpart := l.taken_accept (bs.take n)
  dsimp only
  split
  · exact ⟨bs.take n, bs.drop n, (List.take_append_drop n bs).symm, hpart, hrest⟩
  next hnofail =>
  refine ⟨bs.take n, bs.drop n, (List.take_append_drop n bs).symm, hpart, rfl, hrest, ?_⟩
  -- Without a stall the room is what is left before a write fails, and that has been used up.
  cases hstall : l.stallRoom with
  | some m => simp [accept, hstall]
  | none =>
    cases hfail : l.failRoom with
    | none => simp [room, hstall, hfail] at hroom
    | some limit =>
      obtain ⟨m, kind⟩ := limit
      have hm : m = n := by simpa [room, hstall, hfail] using hroom
      have hused : n - (bs.take n).length = 0 := by
        rw [List.length_take]
        omega
      exact absurd (by simp only [accept, hfail, Option.map_some, hm, hused]) (hnofail kind)

/-- A payload of which nothing has been taken. -/
def whole (p : Bytes) : InFlight := ⟨p.length, p⟩

/-- How a line has got on with some payloads, having taken `base` before them: those in `done` are
written in full, and of those in `todo` it has taken `part`. It stalls if a write waits. -/
structure Pumped.Splits (r : Pumped) (base : Bytes) (payloads done : List Bytes) (part : Bytes)
    (todo : List Bytes) : Prop where
  payloads : payloads = done ++ todo
  written : r.written = done.map List.length
  taken : r.line.taken = base ++ done.flatten ++ part
  left : r.outcome.Leaves part todo
  stalls : ∀ f queue, r.outcome = .waits f queue → r.line.stallRoom.isSome = true

/-- A line gets on with a payload, of which it has taken a part, and then with those after it. -/
theorem pump_cons {l : Line} {base part rest : Bytes} {todo : List Bytes}
    (htaken : l.taken = base ++ part)
    (later : ∀ l : Line, ∃ done part' todo',
      (l.pump (todo.map whole)).Splits l.taken todo done part' todo') :
    ∃ done part' todo', (l.pump (⟨(part ++ rest).length, rest⟩ :: todo.map whole)).Splits base
      ((part ++ rest) :: todo) done part' todo' := by
  obtain ⟨part₁, rest₁, hsplit, htaken₁, hleft⟩ := l.write_spec rest
  have hpart : (l.write rest).2.taken = base ++ (part ++ part₁) := by
    rw [htaken₁, htaken, List.append_assoc]
  have hqueue : (todo.map whole).map InFlight.rest = todo := by
    rw [List.map_map]
    exact List.map_id todo
  unfold pump
  dsimp only
  split
  · next l₁ hwrite =>
    rw [hwrite] at hpart hleft
    obtain rfl : rest₁ = [] := hleft
    rw [List.append_nil] at hsplit
    subst hsplit
    obtain ⟨done, part', todo', hlater⟩ := later l₁
    refine ⟨(part ++ rest) :: done, part', todo', ?_, ?_, ?_, hlater.left, hlater.stalls⟩
    · rw [hlater.payloads, List.cons_append]
    · rw [hlater.written, List.map_cons]
    · rw [hlater.taken, hpart, List.flatten_cons, List.append_assoc base]
  · next r l₁ hwrite =>
    rw [hwrite] at hpart hleft
    obtain ⟨rfl, hrest, hstall⟩ := hleft
    refine ⟨[], part ++ part₁, (part ++ rest) :: todo, rfl, rfl, ?_, ⟨hrest, ?_, ?_⟩,
      fun _ _ _ => hstall⟩
    · rw [hpart, List.flatten_nil, List.append_nil]
    · rw [hsplit, List.append_assoc]
    · rw [hqueue, hsplit, List.append_assoc]
  · next kind l₁ hwrite =>
    rw [hwrite] at hpart hleft
    refine ⟨[], part ++ part₁, (part ++ rest) :: todo, rfl, rfl, ?_, ⟨rest₁, todo, hleft, ?_⟩, ?_⟩
    · rw [hpart, List.flatten_nil, List.append_nil]
    · rw [hsplit, List.append_assoc]
    · intro f queue hwaits
      cases hwaits

/-- A line gets on with payloads of which it has taken nothing. -/
theorem pump_whole (l : Line) (todo : List Bytes) :
    ∃ done part todo', (l.pump (todo.map whole)).Splits l.taken todo done part todo' := by
  induction todo generalizing l with
  | nil => exact ⟨[], [], [], rfl, rfl, by simp [pump], ⟨rfl, rfl⟩, by simp [pump]⟩
  | cons p todo ih =>
    have hnothing : l.taken = l.taken ++ [] := (List.append_nil _).symm
    exact pump_cons hnothing ih

end Line

/-- The payloads before a writer: the one of which a part has been taken, if there is one, and then
the queue. -/
def Outbox.Holds (o : Outbox) (part : Bytes) (todo : List Bytes) : Prop :=
  match o.current with
  | none => part = [] ∧ todo = o.queue
  | some f => f.rest ≠ [] ∧ f.size = (part ++ f.rest).length ∧ todo = (part ++ f.rest) :: o.queue

/-- Nothing is left of some payloads, or a part of the first of them has been taken and not all. -/
def CutAt (part : Bytes) (todo : List Bytes) : Prop :=
  part = [] ∧ todo = [] ∨ ∃ rest queue, rest ≠ [] ∧ todo = (part ++ rest) :: queue

/-- What is left of payloads is cut at the part that was taken. -/
theorem Line.PumpEnd.Leaves.cutAt {e : Line.PumpEnd} {part : Bytes} {todo : List Bytes}
    (h : e.Leaves part todo) : CutAt part todo := by
  cases e with
  | drained => exact .inl h
  | waits f queue => exact .inr ⟨f.rest, queue, h.1, h.2.2⟩
  | fails kind => exact .inr h

namespace Connection

/-- The account of a connection: of the accepted payloads those in `done` have been written in full
and are counted, and of those in `todo` the line has taken `part`. -/
structure Written (accepted : List Bytes) (c : Connection) (done : List Bytes) (part : Bytes)
    (todo : List Bytes) : Prop where
  accepted : accepted = done ++ todo
  taken : c.line.taken = done.flatten ++ part
  packets : c.traffic.packetsSent = done.length
  bytes : c.traffic.bytesSent = done.flatten.length

/-- An open connection that can write, and the account of which is in order. It is writing if it has
anything to write. -/
structure Sending (accepted : List Bytes) (c : Connection) : Prop where
  isOpen : c.isOpen = true
  hasWriter : c.hasWriter = true
  account : ∃ done part todo, Written accepted c done part todo ∧ c.outbox.Holds part todo
  idle : c.outbox.writing = false → c.outbox.queue = [] ∧ c.outbox.current = none

/-- An open connection whose writer has run as far as it gets: it has nothing to write, or the line
stalls. -/
structure Resting (accepted : List Bytes) (c : Connection) : Prop extends Sending accepted c where
  rests : c.outbox.current = none → c.outbox.writing = false
  stalls : c.outbox.current.isSome = true → c.line.stallRoom.isSome = true

/-- A connection that has closed, and the account of which is in order. -/
structure Ended (accepted : List Bytes) (c : Connection) : Prop where
  isClosed : c.isOpen = false
  account : ∃ done part todo, Written accepted c done part todo ∧ CutAt part todo

/-- Counting payloads adds up. -/
theorem foldl_countSent (c : Connection) (sizes : List Nat) :
    sizes.foldl countSent c = { c with
      traffic.packetsSent := c.traffic.packetsSent + sizes.length
      traffic.bytesSent := c.traffic.bytesSent + sizes.sum } := by
  induction sizes generalizing c with
  | nil => rfl
  | cons size rest ih =>
    rw [List.foldl_cons, ih]
    simp only [countSent, List.length_cons, List.sum_cons]
    congr 2 <;> omega

/-- A line gets on with the payloads before a writer. -/
theorem pump_pending {c : Connection} {base part : Bytes} {todo : List Bytes}
    (htaken : c.line.taken = base ++ part) (holds : c.outbox.Holds part todo) :
    ∃ done part' todo', (c.line.pump c.pending).Splits base todo done part' todo' := by
  unfold Outbox.Holds at holds
  cases hcurrent : c.outbox.current with
  | none =>
    obtain ⟨rfl, rfl⟩ : part = [] ∧ todo = c.outbox.queue := by simpa [hcurrent] using holds
    have hpending : c.pending = c.outbox.queue.map Line.whole := by
      rw [pending, hcurrent]
      rfl
    rw [hpending, ← List.append_nil base, ← htaken]
    exact c.line.pump_whole c.outbox.queue
  | some f =>
    rw [hcurrent] at holds
    obtain ⟨-, hsize, rfl⟩ := holds
    have hpending : c.pending =
        ⟨(part ++ f.rest).length, f.rest⟩ :: c.outbox.queue.map Line.whole := by
      rw [pending, hcurrent, ← hsize]
      rfl
    rw [hpending]
    exact Line.pump_cons htaken fun l => l.pump_whole c.outbox.queue

/-- A connection that closes is closed. -/
theorem isOpen_close (c : Connection) : c.close.isOpen = false := by
  unfold close
  split
  · rfl
  · next h => simpa using h

/-- Closing leaves the line alone. -/
theorem line_close (c : Connection) : c.close.line = c.line := by
  unfold close
  split <;> rfl

/-- Closing counts nothing. -/
theorem traffic_close (c : Connection) : c.close.traffic = c.traffic := by
  unfold close
  split <;> rfl

/-- What a run of the writer came to: the connection rests and no write has failed, or one has and
the connection has ended. -/
def WriterRun.Settles (run : WriterRun) (accepted : List Bytes) : Prop :=
  run.fault = none ∧ Resting accepted run.connection ∨
    run.fault.isSome = true ∧ Ended accepted run.connection

/-- A writer that goes on counts what it writes. -/
theorem traffic_resumeWriter (c : Connection) :
    c.resumeWriter.connection.traffic = { c.traffic with
      packetsSent := c.traffic.packetsSent + c.resumeWriter.written.length
      bytesSent := c.traffic.bytesSent + c.resumeWriter.written.sum } := by
  unfold resumeWriter
  dsimp only
  rw [foldl_countSent]
  split
  · rfl
  · rfl
  · exact traffic_close _

/-- A writer that goes on keeps the account in order, and nothing waits or the line stalls, or a
write fails and the connection closes. -/
theorem account_resumeWriter {accepted done todo : List Bytes} {part : Bytes} {c : Connection}
    (hwritten : Written accepted c done part todo) (holds : c.outbox.Holds part todo) :
    let c' := c.resumeWriter.connection
    ∃ done' part' todo', Written accepted c' done' part' todo' ∧
      (c.resumeWriter.fault = none ∧ c'.isOpen = c.isOpen ∧ c'.hasWriter = c.hasWriter ∧
          c'.outbox.Holds part' todo' ∧
          (c'.outbox = {} ∨ c'.outbox.writing = true ∧ c'.outbox.current.isSome = true ∧
            c'.line.stallRoom.isSome = true) ∨
        c.resumeWriter.fault.isSome = true ∧ c'.isOpen = false ∧ c'.outbox = {} ∧
          CutAt part' todo') := by
  intro c'
  obtain ⟨done', part', todo', hpump⟩ := pump_pending hwritten.taken holds
  -- The account after the run, whatever becomes of the outbox.
  have account (c' : Connection) (hline : c'.line = (c.line.pump c.pending).line)
      (htraffic : c'.traffic = { c.traffic with
        packetsSent := c.traffic.packetsSent + (c.line.pump c.pending).written.length
        bytesSent := c.traffic.bytesSent + (c.line.pump c.pending).written.sum }) :
      Written accepted c' (done ++ done') part' todo' := by
    rw [hpump.written] at htraffic
    refine ⟨?_, ?_, ?_, ?_⟩
    · rw [hwritten.accepted, hpump.payloads, List.append_assoc]
    · rw [hline, hpump.taken, List.flatten_append]
    · rw [htraffic, hwritten.packets, List.length_map, List.length_append]
    · rw [htraffic, hwritten.bytes, List.flatten_append, List.length_append, List.length_flatten
        (L := done')]
  have hleft := hpump.left
  refine ⟨done ++ done', part', todo', ?_⟩
  change Written accepted c.resumeWriter.connection _ _ _ ∧ _
  unfold c' resumeWriter
  dsimp only
  rw [foldl_countSent]
  split
  · next hdrained =>
    rw [hdrained] at hleft
    exact ⟨account _ rfl rfl, .inl ⟨rfl, rfl, rfl, hleft, .inl rfl⟩⟩
  · next current queue hwaits =>
    rw [hwaits] at hleft
    exact ⟨account _ rfl rfl,
      .inl ⟨rfl, rfl, rfl, hleft, .inr ⟨rfl, rfl, hpump.stalls _ _ hwaits⟩⟩⟩
  · refine ⟨account _ (line_close _) (traffic_close _),
      .inr ⟨rfl, isOpen_close _, ?_, hleft.cutAt⟩⟩
    unfold close
    split <;> rfl

/-- A writer that goes on comes to rest, or a write fails and the connection ends. -/
theorem resumeWriter_spec {accepted : List Bytes} {c : Connection} (h : Sending accepted c) :
    c.resumeWriter.Settles accepted := by
  obtain ⟨done, part, todo, hwritten, holds⟩ := h.account
  obtain ⟨done', part', todo', hwritten', hend⟩ := account_resumeWriter hwritten holds
  obtain ⟨hfault, hopen, hwriter, holds', hrests⟩ | ⟨hfault, hclosed, -, hcut⟩ := hend
  · refine .inl ⟨hfault, {
      isOpen := hopen.trans h.isOpen
      hasWriter := hwriter.trans h.hasWriter
      account := ⟨done', part', todo', hwritten', holds'⟩
      idle := ?_
      rests := ?_
      stalls := ?_ }⟩
    all_goals
      obtain hempty | ⟨hwriting, hcurrent, hstalls⟩ := hrests
    · simp [hempty]
    · simp [hwriting]
    · simp [hempty]
    · intro hnone
      simp [hnone] at hcurrent
    · simp [hempty]
    · exact fun _ => hstalls
  · exact .inr ⟨hfault, hclosed, done', part', todo', hwritten', hcut⟩

/-- A closed connection writes nothing more. -/
theorem runWriter_of_closed {c : Connection} (h : c.isOpen = false) :
    c.runWriter = { connection := { c with outbox := {}, line.isShut := true } } := by
  simp [runWriter, h]

/-- Once the writer of a connection has run as far as it gets, the connection rests, or a write has
failed and the connection has ended. -/
theorem runWriter_spec {accepted : List Bytes} {c : Connection} (h : Sending accepted c)
    (stalls : c.outbox.current.isSome = true → c.line.stallRoom.isSome = true) :
    c.runWriter.Settles accepted := by
  by_cases hwork : (c.isOpen && c.outbox.writing && c.outbox.current.isNone) = true
  · have hrun : c.runWriter = if c.resumeWriter.connection.isOpen then c.resumeWriter else
        { c.resumeWriter with connection :=
          { c.resumeWriter.connection with outbox := {}, line.isShut := true } } := by
      rw [runWriter, if_pos hwork]
    rw [hrun]
    rcases resumeWriter_spec h with ⟨hfault, hrests⟩ | ⟨hfault, hended⟩
    · rw [if_pos hrests.isOpen]
      exact .inl ⟨hfault, hrests⟩
    · rw [if_neg (by simp [hended.isClosed])]
      obtain ⟨done, part, todo, hwritten, hcut⟩ := hended.account
      exact .inr ⟨hfault, hended.isClosed, done, part, todo,
        ⟨hwritten.accepted, hwritten.taken, hwritten.packets, hwritten.bytes⟩, hcut⟩
  · have hrun : c.runWriter = { connection := c } := by
      rw [runWriter, if_neg hwork]
      exact if_pos h.isOpen
    have hrests : c.outbox.current = none → c.outbox.writing = false := by
      intro hnone
      simpa [h.isOpen, hnone] using hwork
    rw [hrun]
    exact .inl ⟨rfl, { h with rests := hrests, stalls }⟩

end Connection

end PlayServer
