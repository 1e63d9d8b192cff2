import PlayServer.Proofs.Connection.Writer

/-!
# Delivery

What is sent on a connection is delivered in the order in which it was accepted, nothing of it twice
or in between other things, and all of it unless the connection closes or the line stalls.

`Delivery` is a connection together with what was accepted for sending and which faults have ended a
write. `Delivery.run` lets any actions happen: packets and payloads are sent, the connection closes,
and the line takes bytes, stalls or fails. After every action the writer runs as far as it gets.
-/

namespace PlayServer

/-- A payload more in the queue, and a writer that has it in hand. -/
def Outbox.enqueue (o : Outbox) (payload : Bytes) : Outbox :=
  { o with queue := o.queue ++ [payload], writing := true }

/-- A payload that is accepted comes last. -/
theorem Outbox.Holds.enqueue {o : Outbox} {part : Bytes} {todo : List Bytes}
    (h : o.Holds part todo) (payload : Bytes) :
    (o.enqueue payload).Holds part (todo ++ [payload]) := by
  unfold Outbox.Holds at h ⊢
  rw [show (o.enqueue payload).current = o.current from rfl]
  cases hcurrent : o.current with
  | none =>
    rw [hcurrent] at h
    exact ⟨h.1, congrArg (· ++ [payload]) h.2⟩
  | some f =>
    rw [hcurrent] at h
    exact ⟨h.1, h.2.1, congrArg (· ++ [payload]) h.2.2⟩

namespace Connection

/-- A line that stalls takes a number of further bytes, or any number, and a write that waits goes
on. -/
def makeRoom (c : Connection) (room : Option Nat) : WriterRun :=
  let c := { c with line.stallRoom := room }
  if c.isOpen && c.outbox.current.isSome then c.resumeWriter else { connection := c }

/-- A line that no longer stalls takes any number of bytes. -/
theorem unstall_eq_makeRoom (c : Connection) : c.unstall = c.makeRoom none := rfl

/-- A connection that is open and on which nothing was sent yet. -/
structure IsFresh (c : Connection) : Prop where
  isOpen : c.isOpen = true
  hasWriter : c.hasWriter = true
  outbox : c.outbox = {}
  taken : c.line.taken = []
  packets : c.traffic.packetsSent = 0
  bytes : c.traffic.bytesSent = 0

variable {accepted : List Bytes} {c c' : Connection}

/-- An account does not depend on what else there is to a connection. -/
theorem Written.congr {done todo : List Bytes} {part : Bytes}
    (h : Written accepted c done part todo) (htaken : c'.line.taken = c.line.taken)
    (htraffic : c'.traffic = c.traffic) : Written accepted c' done part todo :=
  ⟨h.accepted, htaken.trans h.taken, htraffic ▸ h.packets, htraffic ▸ h.bytes⟩

/-- A payload that is accepted goes on the account. -/
theorem Written.accept {done todo : List Bytes} {part : Bytes} (payload : Bytes)
    (h : Written accepted c done part todo) :
    Written (accepted ++ [payload]) c done part (todo ++ [payload]) :=
  ⟨by rw [h.accepted, List.append_assoc], h.taken, h.packets, h.bytes⟩

/-- A connection that sends goes on sending when the line changes what it will do. -/
theorem Sending.of_line (h : Sending accepted c) {line : Line}
    (htaken : line.taken = c.line.taken) : Sending accepted { c with line } := by
  obtain ⟨done, part, todo, hwritten, holds⟩ := h.account
  exact ⟨h.isOpen, h.hasWriter, ⟨done, part, todo, hwritten.congr htaken rfl, holds⟩, h.idle⟩

/-- An open connection that can write accepts any payload, whether or not it is being written to. -/
theorem sendBytes_of_open (isOpen : c.isOpen = true) (hasWriter : c.hasWriter = true)
    (payload : Bytes) :
    c.sendBytes payload = (.ok (), { c with outbox := c.outbox.enqueue payload }) := by
  cases hwriting : c.outbox.writing with
  | true => simp [Connection.sendBytes, Outbox.enqueue, isOpen, hwriting]
  | false => simp [Connection.sendBytes, Outbox.enqueue, isOpen, hasWriter, hwriting]

/-- A connection that sends accepts any payload. -/
theorem Sending.sendBytes (h : Sending accepted c) (payload : Bytes) :
    c.sendBytes payload = (.ok (), { c with outbox := c.outbox.enqueue payload }) :=
  sendBytes_of_open h.isOpen h.hasWriter payload

/-- A closed connection accepts nothing. -/
theorem sendBytes_of_closed (h : c.isOpen = false) (payload : Bytes) :
    c.sendBytes payload = (.error .closed, c) := by
  simp [Connection.sendBytes, h]

/-- An accepted payload is before the writer. -/
theorem Sending.enqueue (h : Sending accepted c) (payload : Bytes) :
    Sending (accepted ++ [payload]) { c with outbox := c.outbox.enqueue payload } := by
  obtain ⟨done, part, todo, hwritten, holds⟩ := h.account
  exact ⟨h.isOpen, h.hasWriter, ⟨done, part, todo ++ [payload],
    (hwritten.accept payload).congr rfl rfl, holds.enqueue payload⟩, fun hidle => by cases hidle⟩

/-- A connection that rests holds nothing, or a payload of which a part has been taken. -/
theorem Resting.cutAt (h : Resting accepted c) {part : Bytes} {todo : List Bytes}
    (holds : c.outbox.Holds part todo) : CutAt part todo := by
  unfold Outbox.Holds at holds
  cases hcurrent : c.outbox.current with
  | none =>
    rw [hcurrent] at holds
    obtain ⟨hqueue, -⟩ := h.idle (h.rests hcurrent)
    exact .inl ⟨holds.1, holds.2.trans hqueue⟩
  | some f =>
    rw [hcurrent] at holds
    exact .inr ⟨f.rest, c.outbox.queue, holds.1, holds.2.2⟩

/-- A connection that rests ends when it closes. -/
theorem Resting.close (h : Resting accepted c) : Ended accepted c.close := by
  obtain ⟨done, part, todo, hwritten, holds⟩ := h.account
  exact ⟨isOpen_close c, done, part, todo,
    hwritten.congr (congrArg Line.taken (line_close c)) (traffic_close c), h.cutAt holds⟩

/-- Taking further bytes lets a connection rest again, or a write fails and the connection ends. -/
theorem Resting.makeRoom (h : Resting accepted c) (room : Option Nat) :
    (c.makeRoom room).fault = none ∧ Sending accepted (c.makeRoom room).connection ∧
        ((c.makeRoom room).connection.outbox.current.isSome = true →
          (c.makeRoom room).connection.line.stallRoom.isSome = true) ∨
      Ended accepted (c.makeRoom room).connection := by
  have hsending : Sending accepted { c with line.stallRoom := room } := h.toSending.of_line rfl
  unfold Connection.makeRoom
  dsimp only
  split
  · rcases resumeWriter_spec hsending with ⟨hfault, hrests⟩ | ⟨-, hended⟩
    · exact .inl ⟨hfault, hrests.toSending, hrests.stalls⟩
    · exact .inr hended
  · next hidle =>
    refine .inl ⟨rfl, hsending, ?_⟩
    intro hcurrent
    simp [h.isOpen, hcurrent] at hidle

end Connection

/-- A connection, the payloads that were accepted for sending, in the order of this, and the faults
that have ended a write. -/
structure Delivery where
  connection : Connection
  accepted : List Bytes := []
  faults : List IoFault := []

namespace Delivery

/-- What happens to a connection. -/
inductive Action where
  /-- A packet is sent. -/
  | send (p : Packet)
  /-- A payload that is encoded already is sent. -/
  | sendBytes (payload : Bytes)
  /-- The connection closes. -/
  | close
  /-- From now on the line takes a number of bytes and then lets a write wait. -/
  | stall (room : Nat)
  /-- The line takes a number of further bytes, for which a write that waits goes on. -/
  | makeRoom (room : Nat)
  /-- The line takes bytes again, and a write that waits goes on. -/
  | unstall
  /-- From now on the line takes a number of bytes and then fails every write. -/
  | failWrites (room : Nat) (kind : IoFault)

/-- Takes in what sending a payload came to. -/
def sent (d : Delivery) (payload : Bytes) : Except SendError Unit × Connection → Delivery
  | (.ok (), c) => { d with connection := c, accepted := d.accepted ++ [payload] }
  | (.error _, c) => { d with connection := c }

/-- Takes in what a run of the writer came to. -/
def wrote (d : Delivery) (run : Connection.WriterRun) : Delivery :=
  { d with connection := run.connection, faults := d.faults ++ run.fault.toList }

/-- An action happens. -/
def perform (d : Delivery) : Action → Delivery
  | .send p => d.sent p.encode (d.connection.send p)
  | .sendBytes payload => d.sent payload (d.connection.sendBytes payload)
  | .close => { d with connection := d.connection.close }
  | .stall room => { d with connection := d.connection.stall room }
  | .makeRoom room => d.wrote (d.connection.makeRoom (some room))
  | .unstall => d.wrote d.connection.unstall
  | .failWrites room kind => { d with connection := d.connection.failWrites room kind }

/-- An action happens, and then the writer runs as far as it gets. -/
def step (d : Delivery) (a : Action) : Delivery :=
  let d := d.perform a
  d.wrote d.connection.runWriter

/-- Actions happen one after the other. -/
def run (d : Delivery) (actions : List Action) : Delivery := actions.foldl step d

/-- The payloads that lie wholly within a number of bytes, of those that are sent one after the
other. -/
def wholeWithin : Nat → List Bytes → List Bytes
  | _, [] => []
  | n, p :: rest => if p.length ≤ n then p :: wholeWithin (n - p.length) rest else []

/-- What holds of a delivery between two actions: the connection rests and no write has failed, or
it has ended. -/
def Sound (d : Delivery) : Prop :=
  d.connection.Resting d.accepted ∧ d.faults = [] ∨ d.connection.Ended d.accepted

/-- What holds of a delivery between an action and the run of the writer that follows it. -/
def Loaded (d : Delivery) : Prop :=
  d.faults = [] ∧ d.connection.Sending d.accepted ∧
      (d.connection.outbox.current.isSome = true →
        d.connection.line.stallRoom.isSome = true) ∨
    d.connection.Ended d.accepted

/-- Sending a payload on a connection that rests gives the writer work. -/
theorem loaded_sendBytes {d : Delivery} (h : d.connection.Resting d.accepted)
    (hfaults : d.faults = []) (payload : Bytes) :
    (d.sent payload (d.connection.sendBytes payload)).Loaded := by
  rw [h.toSending.sendBytes payload]
  exact .inl ⟨hfaults, h.toSending.enqueue payload, h.stalls⟩

/-- An action on a connection that rests gives its writer work, or ends it. -/
theorem loaded_of_resting {d : Delivery} (h : d.connection.Resting d.accepted)
    (hfaults : d.faults = []) (a : Action) : (d.perform a).Loaded := by
  have admitted (room : Option Nat) : (d.wrote (d.connection.makeRoom room)).Loaded := by
    rcases h.makeRoom room with ⟨hfault, hsending, hstalls⟩ | hended
    · refine .inl ⟨?_, hsending, hstalls⟩
      rw [wrote, hfaults, hfault]
      rfl
    · exact .inr hended
  cases a with
  | send p =>
    rw [perform, Connection.send]
    split
    · exact .inl ⟨hfaults, h.toSending, h.stalls⟩
    · exact loaded_sendBytes h hfaults p.encode
  | sendBytes payload => exact loaded_sendBytes h hfaults payload
  | close => exact .inr h.close
  | stall room => exact .inl ⟨hfaults, h.toSending.of_line rfl, fun _ => rfl⟩
  | makeRoom room => exact admitted (some room)
  | unstall =>
    rw [perform, Connection.unstall_eq_makeRoom]
    exact admitted none
  | failWrites room kind => exact .inl ⟨hfaults, h.toSending.of_line rfl, h.stalls⟩

/-- A delivery that has ended and goes no further: nothing more is accepted, taken or counted. -/
structure Still (d d' : Delivery) : Prop where
  isClosed : d'.connection.isOpen = false
  taken : d'.connection.line.taken = d.connection.line.taken
  traffic : d'.connection.traffic = d.connection.traffic
  accepted : d'.accepted = d.accepted
  faults : d'.faults = d.faults

/-- What went no further twice went no further. -/
theorem Still.trans {d d' d'' : Delivery} (h : Still d d') (h' : Still d' d'') : Still d d'' :=
  ⟨h'.isClosed, h'.taken.trans h.taken, h'.traffic.trans h.traffic, h'.accepted.trans h.accepted,
    h'.faults.trans h.faults⟩

/-- Nothing is accepted on a closed connection, and no action lets it go further. -/
theorem still_perform {d : Delivery} (h : d.connection.isOpen = false) (a : Action) :
    Still d (d.perform a) := by
  have refused (payload : Bytes) : Still d (d.sent payload (d.connection.sendBytes payload)) := by
    rw [Connection.sendBytes_of_closed h]
    exact ⟨h, rfl, rfl, rfl, rfl⟩
  have admitted (room : Option Nat) : Still d (d.wrote (d.connection.makeRoom room)) := by
    rw [Connection.makeRoom, if_neg (by simp [h])]
    exact ⟨h, rfl, rfl, rfl, List.append_nil _⟩
  cases a with
  | send p =>
    rw [perform, Connection.send]
    split
    · exact ⟨h, rfl, rfl, rfl, rfl⟩
    · exact refused p.encode
  | sendBytes payload => exact refused payload
  | close =>
    exact ⟨Connection.isOpen_close _, congrArg Line.taken (Connection.line_close _),
      Connection.traffic_close _, rfl, rfl⟩
  | stall room => exact ⟨h, rfl, rfl, rfl, rfl⟩
  | makeRoom room => exact admitted (some room)
  | unstall =>
    rw [perform, Connection.unstall_eq_makeRoom]
    exact admitted none
  | failWrites room kind => exact ⟨h, rfl, rfl, rfl, rfl⟩

/-- The writer of a closed connection goes no further. -/
theorem still_runWriter {d : Delivery} (h : d.connection.isOpen = false) :
    Still d (d.wrote d.connection.runWriter) := by
  rw [Connection.runWriter_of_closed h]
  exact ⟨h, rfl, rfl, rfl, List.append_nil _⟩

/-- A closed connection goes no further with an action. -/
theorem still_step {d : Delivery} (h : d.connection.isOpen = false) (a : Action) :
    Still d (d.step a) := by
  have hperformed := still_perform h a
  exact hperformed.trans (still_runWriter hperformed.isClosed)

/-- A closed connection goes no further, whatever happens. -/
theorem still_run {d : Delivery} (h : d.connection.isOpen = false) (actions : List Action) :
    Still d (d.run actions) := by
  induction actions generalizing d with
  | nil => exact ⟨h, rfl, rfl, rfl, rfl⟩
  | cons a rest ih =>
    have hstep := still_step h a
    exact hstep.trans (ih hstep.isClosed)

/-- What has ended and goes no further has ended. -/
theorem Still.ended {d d' : Delivery} (h : Still d d') (hended : d.connection.Ended d.accepted) :
    d'.connection.Ended d'.accepted := by
  obtain ⟨done, part, todo, hwritten, hcut⟩ := hended.account
  rw [h.accepted]
  exact ⟨h.isClosed, done, part, todo, hwritten.congr h.taken h.traffic, hcut⟩

/-- After every action a delivery is sound if it was before. -/
theorem Sound.step {d : Delivery} (h : d.Sound) (a : Action) : (d.step a).Sound := by
  rcases h with ⟨hrests, hfaults⟩ | hended
  · rcases loaded_of_resting hrests hfaults a with ⟨hfaults, hsending, hstalls⟩ | hended
    · rcases Connection.runWriter_spec hsending hstalls with ⟨hfault, hrests⟩ | ⟨-, hended⟩
      · refine .inl ⟨hrests, ?_⟩
        rw [Delivery.step, wrote, hfaults, hfault]
        rfl
      · exact .inr hended
    · exact .inr ((still_runWriter hended.isClosed).ended hended)
  · exact .inr ((still_step hended.isClosed a).ended hended)

/-- A delivery that is sound stays sound. -/
theorem Sound.run {d : Delivery} (h : d.Sound) (actions : List Action) : (d.run actions).Sound := by
  induction actions generalizing d with
  | nil => exact h
  | cons a rest ih => exact ih (h.step a)

/-- A delivery begins soundly. -/
theorem sound_of_fresh {c : Connection} (fresh : c.IsFresh) : Sound { connection := c } := by
  have hidle : c.outbox.queue = [] ∧ c.outbox.current = none := by simp [fresh.outbox]
  refine .inl ⟨⟨⟨fresh.isOpen, fresh.hasWriter, ⟨[], [], [], ?_, ?_⟩, fun _ => hidle⟩, ?_, ?_⟩, rfl⟩
  · exact ⟨rfl, fresh.taken, fresh.packets, fresh.bytes⟩
  · rw [fresh.outbox]
    exact ⟨rfl, rfl⟩
  · exact fun _ => by rw [fresh.outbox]
  · simp [hidle.2]

/-- The payloads that lie wholly within what a line has taken are those that it has taken in full,
if it has taken a part and not all of the next one. -/
theorem wholeWithin_of_cutAt {done todo : List Bytes} {part : Bytes} (h : CutAt part todo) :
    wholeWithin (done.flatten ++ part).length (done ++ todo) = done := by
  induction done with
  | nil =>
    rcases h with ⟨rfl, rfl⟩ | ⟨rest, queue, hrest, rfl⟩
    · rfl
    · have hlength : 0 < rest.length := List.length_pos_iff.mpr hrest
      have hless : ¬ (part ++ rest).length ≤ part.length := by
        rw [List.length_append]
        omega
      exact if_neg hless
  | cons p done ih =>
    have hfits : p.length ≤ ((p :: done).flatten ++ part).length := by
      rw [List.flatten_cons, List.append_assoc, List.length_append]
      omega
    have hrest : ((p :: done).flatten ++ part).length - p.length =
        (done.flatten ++ part).length := by
      rw [List.flatten_cons, List.append_assoc, List.length_append]
      omega
    rw [List.cons_append, wholeWithin, if_pos hfits, hrest, ih]

/-- What a line has taken is the beginning of what was accepted. -/
theorem prefix_of_cutAt {done todo : List Bytes} {part : Bytes} (h : CutAt part todo) :
    done.flatten ++ part <+: (done ++ todo).flatten := by
  rw [List.flatten_append]
  apply (List.prefix_append_right_inj _).mpr
  rcases h with ⟨rfl, rfl⟩ | ⟨rest, queue, -, rfl⟩
  · exact List.nil_prefix
  · rw [List.flatten_cons, List.append_assoc]
    exact List.prefix_append _ _

/-- The account of a sound delivery. -/
theorem Sound.account {d : Delivery} (h : d.Sound) :
    ∃ done part todo, d.connection.Written d.accepted done part todo ∧ CutAt part todo := by
  rcases h with ⟨hrests, -⟩ | hended
  · obtain ⟨done, part, todo, hwritten, holds⟩ := hrests.account
    exact ⟨done, part, todo, hwritten, hrests.cutAt holds⟩
  · exact hended.account

/-- An open connection whose line does not hold up a write has delivered all that it accepted. -/
theorem delivered_of_resting {accepted : List Bytes} {c : Connection} (h : c.Resting accepted)
    (hfree : c.line.stallRoom = none ∨ c.outbox.current = none) :
    c.line.taken = accepted.flatten ∧ c.outbox.queue = [] ∧ c.outbox.writing = false := by
  have hnone : c.outbox.current = none := by
    rcases hfree with hstall | hnone
    · cases hcurrent : c.outbox.current with
      | none => rfl
      | some f =>
        have hstalls := h.stalls (by rw [hcurrent]; rfl)
        rw [hstall] at hstalls
        cases hstalls
    · exact hnone
  have hwriting := h.rests hnone
  have hqueue := (h.idle hwriting).1
  obtain ⟨done, part, todo, hwritten, holds⟩ := h.account
  rw [Outbox.Holds, hnone] at holds
  obtain ⟨rfl, rfl⟩ := holds
  refine ⟨?_, hqueue, hwriting⟩
  rw [hwritten.taken, hwritten.accepted, hqueue, List.append_nil, List.append_nil]

/-- When a connection closes its line takes nothing more. -/
theorem still_close {d : Delivery} : d.connection.line.taken =
    (d.step .close).connection.line.taken ∧ (d.step .close).connection.isOpen = false := by
  have hclosed : (d.perform .close).connection.isOpen = false := Connection.isOpen_close _
  have hstill := still_runWriter hclosed
  have hline : (d.perform .close).connection.line.taken = d.connection.line.taken :=
    congrArg Line.taken (Connection.line_close _)
  exact ⟨(hstill.taken.trans hline).symm, hstill.isClosed⟩

/-- Once a connection has been closed in a run it is closed. -/
theorem isClosed_of_close {d : Delivery} {actions : List Action} (hclose : .close ∈ actions) :
    (d.run actions).connection.isOpen = false := by
  obtain ⟨earlier, later, rfl⟩ := List.append_of_mem hclose
  rw [run, List.foldl_append, List.foldl_cons]
  exact (still_run still_close.2 later).isClosed

/-- Whatever is sent, and whatever the line does: the line has taken the beginning of the payloads
that were accepted, in this order; exactly the payloads that it has taken in full are counted, with
their lengths; while the connection is open and the line does not hold up a write, it has taken all
of them and the writer has nothing to do; after a close or a failed write the connection is closed;
and then the line takes nothing more, now or ever, and nothing more is accepted. -/
theorem delivery_of_run {c : Connection} (fresh : c.IsFresh) (actions : List Action) :
    let d := ({ connection := c } : Delivery).run actions
    d.connection.line.taken <+: d.accepted.flatten ∧
    (d.connection.traffic.packetsSent =
        (wholeWithin d.connection.line.taken.length d.accepted).length ∧
      d.connection.traffic.bytesSent =
        (wholeWithin d.connection.line.taken.length d.accepted).flatten.length) ∧
    (d.connection.isOpen = true →
      d.connection.line.stallRoom = none ∨ d.connection.outbox.current = none →
        d.connection.line.taken = d.accepted.flatten ∧ d.connection.outbox.queue = [] ∧
          d.connection.outbox.writing = false) ∧
    (.close ∈ actions ∨ d.faults ≠ [] → d.connection.isOpen = false) ∧
    (d.step .close).connection.line.taken = d.connection.line.taken ∧
    (d.connection.isOpen = false → ∀ later : List Action,
      (d.run later).connection.line.taken = d.connection.line.taken ∧
        (d.run later).connection.isOpen = false ∧
        ∀ payload, ((d.run later).connection.sendBytes payload).1 = .error .closed) := by
  intro d
  have hsound : d.Sound := (sound_of_fresh fresh).run actions
  obtain ⟨done, part, todo, hwritten, hcut⟩ := hsound.account
  have hwhole : wholeWithin d.connection.line.taken.length d.accepted = done := by
    rw [hwritten.taken, hwritten.accepted]
    exact wholeWithin_of_cutAt hcut
  refine ⟨?_, ?_, ?_, ?_, still_close.1.symm, ?_⟩
  · rw [hwritten.taken, hwritten.accepted]
    exact prefix_of_cutAt hcut
  · rw [hwhole]
    exact ⟨hwritten.packets, hwritten.bytes⟩
  · intro hopen hfree
    rcases hsound with ⟨hrests, -⟩ | hended
    · exact delivered_of_resting hrests hfree
    · rw [hended.isClosed] at hopen
      cases hopen
  · rintro (hclose | hfaults)
    · exact isClosed_of_close hclose
    · rcases hsound with ⟨-, hnone⟩ | hended
      · exact absurd hnone hfaults
      · exact hended.isClosed
  · intro hclosed later
    have hstill := still_run hclosed later
    refine ⟨hstill.taken, hstill.isClosed, ?_⟩
    intro payload
    rw [Connection.sendBytes_of_closed hstill.isClosed]

/-- A connection as it is when it opens. -/
def opened : Connection where
  id := ⟨1⟩
  address := default

/-- The line takes three bytes of two payloads and then lets the write wait. -/
def stallWithin : List Action := [.stall 3, .sendBytes [1, 2], .sendBytes [3, 4]]

/-- The first payload is counted and of the second one a byte has been taken. -/
theorem delivery_of_run_stallWithin :
    opened.IsFresh ∧
      (({ connection := opened } : Delivery).run stallWithin).connection.line.taken = [1, 2, 3] ∧
      (({ connection := opened } : Delivery).run stallWithin).connection.traffic.packetsSent =
        (wholeWithin 3 [[1, 2], [3, 4]]).length := by
  have hfresh : opened.IsFresh := ⟨rfl, rfl, rfl, rfl, rfl, rfl⟩
  have htaken : (({ connection := opened } : Delivery).run stallWithin).connection.line.taken =
      [1, 2, 3] := by decide
  have haccepted : (({ connection := opened } : Delivery).run stallWithin).accepted =
      [[1, 2], [3, 4]] := by decide
  obtain ⟨-, ⟨hpackets, -⟩, -⟩ := delivery_of_run hfresh stallWithin
  rw [htaken, haccepted] at hpackets
  exact ⟨hfresh, htaken, hpackets⟩

end Delivery

end PlayServer
