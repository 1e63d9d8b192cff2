import PlayServer.Proofs.Connection.Delivery

/-!
# Accounts of what a connection has sent

Whatever happens to a connection, the payloads that were queued to it are those that its line has
taken in full, then perhaps one of which it has taken a part, and then those that still wait or were
dropped when the connection closed: `Accounted`. The bytes that the connection counts as sent are
those of the payloads taken in full.

Two things happen to connections. While a server handles something, payloads are queued and
connections close: `Handled`. And writers run, and lines change what they will do: `Ran`. Neither
asks for a connection that is open or can write.
-/

namespace PlayServer

/-- A part of the first of some payloads has been taken, and not all, or nothing has been taken of
any. -/
def BrokenOff (part : Bytes) (todo : List Bytes) : Prop :=
  part = [] ∨ ∃ rest queue, rest ≠ [] ∧ todo = (part ++ rest) :: queue

/-- What is before a writer is broken off at the part that was taken. -/
theorem Outbox.Holds.brokenOff {o : Outbox} {part : Bytes} {todo : List Bytes}
    (h : o.Holds part todo) : BrokenOff part todo := by
  unfold Outbox.Holds at h
  cases hcurrent : o.current with
  | none =>
    rw [hcurrent] at h
    exact .inl h.1
  | some f =>
    rw [hcurrent] at h
    exact .inr ⟨f.rest, o.queue, h.1, h.2.2⟩

/-- What is cut at the part that was taken is broken off there. -/
theorem CutAt.brokenOff {part : Bytes} {todo : List Bytes} (h : CutAt part todo) :
    BrokenOff part todo :=
  h.imp And.left id

/-- Payloads that come later break off nothing. -/
theorem BrokenOff.append {part : Bytes} {todo : List Bytes} (h : BrokenOff part todo)
    (later : List Bytes) : BrokenOff part (todo ++ later) := by
  obtain hnone | ⟨rest, queue, hrest, rfl⟩ := h
  · exact .inl hnone
  · exact .inr ⟨rest, queue ++ later, hrest, rfl⟩

/-- What is before a writer comes before what is queued later. -/
theorem Outbox.Holds.append {o o' : Outbox} {part : Bytes} {todo later : List Bytes}
    (h : o.Holds part todo) (current : o'.current = o.current)
    (queue : o'.queue = o.queue ++ later) : o'.Holds part (todo ++ later) := by
  unfold Outbox.Holds at h ⊢
  rw [current, queue]
  cases hcurrent : o.current with
  | none =>
    rw [hcurrent] at h
    exact ⟨h.1, by rw [h.2]⟩
  | some f =>
    rw [hcurrent] at h
    exact ⟨h.1, h.2.1, by rw [h.2.2, List.cons_append]⟩

namespace Delivery

/-- Of payloads that are broken off, those that lie wholly within the part have no bytes. -/
theorem flatten_wholeWithin_of_brokenOff {part : Bytes} {todo : List Bytes}
    (h : BrokenOff part todo) : (wholeWithin part.length todo).flatten = [] := by
  obtain rfl | ⟨rest, queue, hrest, rfl⟩ := h
  · induction todo with
    | nil => rfl
    | cons p todo ih =>
      unfold wholeWithin
      split
      next hfits =>
        obtain rfl : p = [] := List.length_eq_zero_iff.mp (Nat.le_zero.mp hfits)
        exact ih
      · rfl
  · have hlength : 0 < rest.length := List.length_pos_iff.mpr hrest
    have hless : ¬ (part ++ rest).length ≤ part.length := by
      rw [List.length_append]
      omega
    rw [wholeWithin, if_neg hless]
    rfl

/-- The bytes of the payloads that a line has taken in full are those of the payloads that lie
wholly within what it has taken. -/
theorem flatten_wholeWithin {done todo : List Bytes} {part : Bytes} (h : BrokenOff part todo) :
    (wholeWithin (done.flatten ++ part).length (done ++ todo)).flatten = done.flatten := by
  induction done with
  | nil => exact flatten_wholeWithin_of_brokenOff h
  | cons p done ih =>
    have hsplit : ((p :: done).flatten ++ part).length =
        p.length + (done.flatten ++ part).length := by
      rw [List.flatten_cons, List.append_assoc, List.length_append]
    rw [List.cons_append, wholeWithin, hsplit, if_pos (Nat.le_add_right _ _),
      Nat.add_sub_cancel_left, List.flatten_cons, ih, List.flatten_cons]

end Delivery

namespace Connection

variable {accepted : List Bytes} {c c' c'' : Connection}

/-- A connection whose writer has nothing in hand has nothing before it. -/
def Tidy (c : Connection) : Prop :=
  c.outbox.writing = false → c.outbox.queue = [] ∧ c.outbox.current = none

/-- The account of a connection is in order, whatever has happened to it: of the payloads that were
queued to it those in `done` have been taken in full and are counted, and of those in `todo` the
line has taken `part`. While it is open those in `todo` are before the writer. -/
structure Accounted (accepted : List Bytes) (c : Connection) : Prop where
  tidy : c.Tidy
  account : ∃ done part todo, Written accepted c done part todo ∧ BrokenOff part todo ∧
    (c.isOpen = true → c.outbox.Holds part todo)

/-- A connection over which nothing has gone. -/
structure Untouched (c : Connection) : Prop where
  outbox : c.outbox = {}
  taken : c.line.taken = []
  traffic : c.traffic = {}

/-- The account of a connection over which nothing has gone is empty. -/
theorem Untouched.accounted (h : c.Untouched) : Accounted [] c where
  tidy _ := by simp [h.outbox]
  account := by
    refine ⟨[], [], [], ⟨rfl, h.taken, ?_, ?_⟩, .inl rfl, fun _ => ?_⟩
    · rw [h.traffic]
      rfl
    · rw [h.traffic]
      rfl
    · rw [h.outbox]
      exact ⟨rfl, rfl⟩

/-- Nothing goes over a connection when it closes. -/
theorem Untouched.close (h : c.Untouched) : c.close.Untouched := by
  unfold Connection.close
  split
  · exact ⟨by rw [h.outbox], h.taken, h.traffic⟩
  · exact h

/-- What a connection counts as sent are the payloads that its line has taken in full. -/
theorem Accounted.bytesSent (h : Accounted accepted c) :
    c.line.taken <+: accepted.flatten ∧
      c.traffic.bytesSent = (Delivery.wholeWithin c.line.taken.length accepted).flatten.length := by
  obtain ⟨done, part, todo, hwritten, hbroken, -⟩ := h.account
  constructor
  · rw [hwritten.taken, hwritten.accepted, List.flatten_append]
    apply (List.prefix_append_right_inj _).mpr
    obtain rfl | ⟨rest, queue, -, rfl⟩ := hbroken
    · exact List.nil_prefix
    · rw [List.flatten_cons, List.append_assoc]
      exact List.prefix_append _ _
  · rw [hwritten.bytes, hwritten.taken, hwritten.accepted, Delivery.flatten_wholeWithin hbroken]

/-- A packet that comes in is on no account of what was sent. -/
theorem Accounted.countReceived (h : Accounted accepted c) (size : Nat) :
    Accounted accepted (c.countReceived size) := by
  obtain ⟨done, part, todo, hwritten, hbroken, hholds⟩ := h.account
  exact ⟨h.tidy, done, part, todo,
    ⟨hwritten.accepted, hwritten.taken, hwritten.packets, hwritten.bytes⟩, hbroken, hholds⟩

/-- What happens to a connection while a server handles something: payloads may be queued to it and
it may close, but no writer runs and nothing comes in. -/
structure Handled (c c' : Connection) : Prop where
  line : c'.line = c.line
  traffic : c'.traffic = c.traffic
  current : c'.outbox.current = c.outbox.current
  opened : c'.isOpen = true → c.isOpen = true
  tidy : c.Tidy → c'.Tidy
  queued : c.Tidy → c'.isOpen = true → c.outbox.queue <+: c'.outbox.queue

/-- What is queued to a connection: all that stands in its queue behind what stood there before. -/
def queuedSince (c c' : Connection) : List Bytes :=
  c'.outbox.queue.drop c.outbox.queue.length

namespace Handled

/-- Nothing happens to a connection. -/
theorem refl (c : Connection) : c.Handled c :=
  ⟨rfl, rfl, rfl, fun hopen => hopen, fun tidy => tidy, fun _ _ => List.prefix_refl _⟩

/-- One thing happens after the other. -/
theorem trans (h : c.Handled c') (h' : c'.Handled c'') : c.Handled c'' where
  line := h'.line.trans h.line
  traffic := h'.traffic.trans h.traffic
  current := h'.current.trans h.current
  opened := h.opened ∘ h'.opened
  tidy := h'.tidy ∘ h.tidy
  queued tidy isOpen := (h.queued tidy (h'.opened isOpen)).trans (h'.queued (h.tidy tidy) isOpen)

/-- Where a connection stands with its log-in and which session it names does not matter. -/
theorem of_standing (auth : AuthState) (login : Option String) (session : Option SessionId) :
    c.Handled { c with auth, login, session } :=
  ⟨rfl, rfl, rfl, fun hopen => hopen, fun tidy => tidy, fun _ _ => List.prefix_refl _⟩

/-- A payload is sent. -/
theorem sendBytes (c : Connection) (payload : Bytes) : c.Handled (c.sendBytes payload).2 := by
  unfold Connection.sendBytes
  split
  · exact .refl c
  split
  next hwriting =>
    exact ⟨rfl, rfl, rfl, fun hopen => hopen, fun _ hidle => by simp [hwriting] at hidle,
      fun _ _ => List.prefix_append _ _⟩
  next hidle =>
  have hidle : c.outbox.writing = false := by simpa using hidle
  split
  · refine ⟨rfl, rfl, rfl, fun hopen => hopen, fun tidy _ => ⟨rfl, (tidy hidle).2⟩, fun tidy _ => ?_⟩
    simp [(tidy hidle).1]
  · exact ⟨rfl, rfl, rfl, fun hopen => hopen, fun _ hwriting => by simp at hwriting,
      fun _ _ => List.prefix_append _ _⟩

/-- A packet is sent. -/
theorem send (c : Connection) (p : Packet) : c.Handled (c.send p).2 := by
  unfold Connection.send
  split
  · exact .refl c
  · exact sendBytes c p.encode

/-- A connection closes. -/
theorem close (c : Connection) : c.Handled c.close := by
  unfold Connection.close
  split
  · exact ⟨rfl, rfl, rfl, fun hopen => by simp at hopen, fun tidy hidle => ⟨rfl, (tidy hidle).2⟩,
      fun _ hopen => by simp at hopen⟩
  · exact .refl c

end Handled

/-- What is queued while something is handled goes on the account. -/
theorem Accounted.handled (h : Accounted accepted c) (handled : c.Handled c') :
    Accounted (accepted ++ c.queuedSince c') c' := by
  obtain ⟨done, part, todo, hwritten, hbroken, hholds⟩ := h.account
  refine ⟨handled.tidy h.tidy, done, part, todo ++ c.queuedSince c', ?_, hbroken.append _, ?_⟩
  · have htaken : c'.line.taken = c.line.taken := by rw [handled.line]
    have hsame := hwritten.congr htaken handled.traffic
    exact ⟨by rw [hwritten.accepted, List.append_assoc], hsame.taken, hsame.packets, hsame.bytes⟩
  · intro hopen
    obtain ⟨later, hqueue⟩ := handled.queued h.tidy hopen
    have hlater : c.queuedSince c' = later := by
      rw [queuedSince, ← hqueue, List.drop_left]
    rw [hlater]
    exact (hholds (handled.opened hopen)).append handled.current hqueue.symm

/-- What happens to a connection when its writer runs, or its line changes what it will do: the
payloads that are written are counted, nothing comes in, and the account stays in order. -/
structure Ran (c : Connection) (run : WriterRun) : Prop where
  traffic : run.connection.traffic = { c.traffic with
    packetsSent := c.traffic.packetsSent + run.written.length
    bytesSent := c.traffic.bytesSent + run.written.sum }
  accounted : ∀ {accepted : List Bytes}, Accounted accepted c → Accounted accepted run.connection

/-- Nothing is written. -/
theorem ran_of_idle (htraffic : c'.traffic = c.traffic)
    (accounted : ∀ {accepted : List Bytes}, Accounted accepted c → Accounted accepted c') :
    c.Ran { connection := c' } :=
  ⟨htraffic, accounted⟩

/-- What else there is to a connection does not matter for its account. -/
theorem Accounted.congr (h : Accounted accepted c) (taken : c'.line.taken = c.line.taken)
    (traffic : c'.traffic = c.traffic) (outbox : c'.outbox = c.outbox)
    (isOpen : c'.isOpen = c.isOpen) : Accounted accepted c' := by
  obtain ⟨done, part, todo, hwritten, hbroken, hholds⟩ := h.account
  refine ⟨?_, done, part, todo, hwritten.congr taken traffic, hbroken, ?_⟩
  · have htidy := h.tidy
    rwa [Tidy, ← outbox] at htidy
  · rwa [outbox, isOpen]

/-- The account of a connection that has closed stays in order when what it had is given up. -/
theorem Accounted.give_up (h : Accounted accepted c) (isClosed : c.isOpen = false) :
    Accounted accepted { c with outbox := {}, line.isShut := true } := by
  obtain ⟨done, part, todo, hwritten, hbroken, -⟩ := h.account
  refine ⟨fun _ => ⟨rfl, rfl⟩, done, part, todo, hwritten.congr rfl rfl, hbroken, fun hopen => ?_⟩
  rw [isClosed] at hopen
  cases hopen

/-- A writer that goes on on an open connection counts what it writes. -/
theorem ran_resumeWriter (isOpen : c.isOpen = true) : c.Ran c.resumeWriter where
  traffic := c.traffic_resumeWriter
  accounted h := by
    obtain ⟨done, part, todo, hwritten, -, hholds⟩ := h.account
    obtain ⟨done', part', todo', hwritten', hend⟩ := account_resumeWriter hwritten (hholds isOpen)
    obtain ⟨-, -, -, hholds', hrests⟩ | ⟨-, hclosed, hempty, hcut⟩ := hend
    · refine ⟨fun hidle => ?_, done', part', todo', hwritten', hholds'.brokenOff, fun _ => hholds'⟩
      obtain hempty | ⟨hwriting, -, -⟩ := hrests
      · simp [hempty]
      · rw [hidle] at hwriting
        cases hwriting
    · refine ⟨fun _ => by simp [hempty], done', part', todo', hwritten', hcut.brokenOff, ?_⟩
      intro hopen
      rw [hclosed] at hopen
      cases hopen

/-- A writer that runs counts what it writes. If the connection has closed, what it had is given
up. -/
theorem ran_runWriter (c : Connection) : c.Ran c.runWriter := by
  generalize hrun : (if c.isOpen && c.outbox.writing && c.outbox.current.isNone then c.resumeWriter
    else { connection := c } : WriterRun) = run
  have hran : c.Ran run := by
    rw [← hrun]
    split
    next hwork =>
      have hopen : c.isOpen = true := by
        rw [Bool.and_eq_true, Bool.and_eq_true] at hwork
        exact hwork.1.1
      exact ran_resumeWriter hopen
    · exact ran_of_idle rfl fun h => h
  unfold runWriter
  dsimp only
  rw [hrun]
  split
  · exact hran
  next hclosed =>
    have hclosed : run.connection.isOpen = false := by simpa using hclosed
    exact ⟨hran.traffic, fun h => (hran.accounted h).give_up hclosed⟩

/-- A line that is given room takes further bytes. -/
theorem ran_makeRoom (c : Connection) (room : Option Nat) : c.Ran (c.makeRoom room) := by
  have hsame : ∀ {accepted : List Bytes}, Accounted accepted c →
      Accounted accepted { c with line.stallRoom := room } :=
    fun h => h.congr rfl rfl rfl rfl
  unfold makeRoom
  dsimp only
  split
  next hwaits =>
    have hopen : c.isOpen = true := by
      rw [Bool.and_eq_true] at hwaits
      exact hwaits.1
    have hran := ran_resumeWriter (c := { c with line.stallRoom := room }) hopen
    exact ⟨hran.traffic, fun h => hran.accounted (hsame h)⟩
  · exact ran_of_idle rfl hsame

/-- A line that will stall takes nothing yet. -/
theorem ran_stall (c : Connection) (room : Nat) : c.Ran { connection := c.stall room } :=
  ran_of_idle rfl fun h => h.congr rfl rfl rfl rfl

/-- A line that will fail takes nothing yet. -/
theorem ran_failWrites (c : Connection) (room : Nat) (kind : IoFault) :
    c.Ran { connection := c.failWrites room kind } :=
  ran_of_idle rfl fun h => h.congr rfl rfl rfl rfl

end Connection

end PlayServer
