import PlayServer.Proofs.Lobby.Membership
import Mathlib.Data.List.Sort

/-!
# Hosts

The host of a session is the member that joined first of those still there. A session keeps its host
in a field of its own and chooses another one only when the host leaves, so this is an invariant:
`Session.Led`. It rests on the instants of joining, no two of which are the same in one session.

With such instants the first member, and the order of joining, do not depend on the order in which
the member table is enumerated.
-/

namespace PlayServer

namespace Session

/-- No two of these members joined at the same instant. -/
def Apart (ms : List Member) : Prop := (ms.map (·.joinedAt)).Nodup

variable {ms ms' : List Member} {m : Member}

/-- Some of the members that joined at different instants. -/
theorem Apart.sublist (h : Apart ms) (hsub : ms'.Sublist ms) : Apart ms' := (hsub.map _).nodup h

/-- It does not matter how the members are enumerated. -/
theorem Apart.perm (h : Apart ms) (order : ms'.Perm ms) : Apart ms' :=
  (order.map _).nodup_iff.mpr h

/-- Whoever joined at the instant of a member is that member. -/
theorem Apart.eq_of_joinedAt {m' : Member} (h : Apart ms) (hm : m ∈ ms) (hm' : m' ∈ ms)
    (same : m.joinedAt = m'.joinedAt) : m = m' := List.inj_on_of_nodup_map h hm hm' same

/-- The first of some members is one of them, and none of them joined before it. -/
theorem earliest?_spec (h : earliest? ms = some m) :
    m ∈ ms ∧ ∀ m' ∈ ms, m.joinedAt ≤ m'.joinedAt := by
  induction ms generalizing m with
  | nil => cases h
  | cons first rest ih =>
    unfold earliest? at h
    split at h
    · next hnone =>
      obtain rfl := Option.some.inj h
      have hrest : rest = [] := by
        cases rest with
        | nil => rfl
        | cons second rest =>
          unfold earliest? at hnone
          split at hnone
          · cases hnone
          · split at hnone <;> cases hnone
      simp [hrest]
    · next best hbest =>
      obtain ⟨hmem, hle⟩ := ih hbest
      split at h
      · next hlt =>
        obtain rfl := Option.some.inj h
        exact ⟨List.mem_cons_of_mem _ hmem,
          List.forall_mem_cons.mpr ⟨Nat.le_of_lt hlt, hle⟩⟩
      · next hge =>
        obtain rfl := Option.some.inj h
        refine ⟨List.mem_cons_self, List.forall_mem_cons.mpr ⟨Nat.le_refl _, fun m' hm' => ?_⟩⟩
        exact Nat.le_trans (Nat.le_of_not_lt hge) (hle m' hm')

/-- Where there are members there is a first one. -/
theorem earliest?_isSome (h : ms ≠ []) : ∃ m, earliest? ms = some m := by
  cases ms with
  | nil => exact absurd rfl h
  | cons first rest =>
    unfold earliest?
    split
    · exact ⟨_, rfl⟩
    · split <;> exact ⟨_, rfl⟩

/-- Of members that joined at different instants the first is the one that none joined before. -/
theorem earliest?_eq_some_iff (h : Apart ms) :
    earliest? ms = some m ↔ m ∈ ms ∧ ∀ m' ∈ ms, m.joinedAt ≤ m'.joinedAt := by
  refine ⟨earliest?_spec, fun ⟨hm, hle⟩ => ?_⟩
  obtain ⟨first, hfirst⟩ := earliest?_isSome (List.ne_nil_of_mem hm)
  obtain ⟨hmem, hle'⟩ := earliest?_spec hfirst
  have hsame := Nat.le_antisymm (hle first hmem) (hle' m hm)
  rw [hfirst, h.eq_of_joinedAt hm hmem hsame]

/-- The first member does not depend on how the members are enumerated. -/
theorem earliest?_perm (h : Apart ms) (order : ms'.Perm ms) : earliest? ms' = earliest? ms := by
  apply Option.ext
  intro m
  rw [earliest?_eq_some_iff h, earliest?_eq_some_iff (h.perm order)]
  simp only [order.mem_iff]

/-- The first member stays the first when others leave. -/
theorem earliest?_filter {stays : Member → Bool} (h : Apart ms) (first : earliest? ms = some m)
    (hm : stays m = true) : earliest? (ms.filter stays) = some m := by
  obtain ⟨hmem, hle⟩ := earliest?_spec first
  rw [earliest?_eq_some_iff (h.sublist List.filter_sublist)]
  exact ⟨List.mem_filter.mpr ⟨hmem, hm⟩, fun m' hm' => hle m' (List.mem_of_mem_filter hm')⟩

/-- Members in the order of joining are these members. -/
theorem inJoinOrder_perm (s : Session) : s.inJoinOrder.Perm s.members := List.mergeSort_perm _ _

/-- In the order of joining nobody stands before somebody who joined earlier. -/
theorem inJoinOrder_ordered (s : Session) :
    s.inJoinOrder.Pairwise fun m m' => m.joinedAt ≤ m'.joinedAt := by
  simpa only [inJoinOrder, decide_eq_true_eq] using
    @List.pairwise_mergeSort Member (fun m m' => decide (m.joinedAt ≤ m'.joinedAt))
      (fun _ _ _ h h' => by simpa using Nat.le_trans (by simpa using h) (by simpa using h'))
      (fun m m' => by simpa using Nat.le_total m.joinedAt m'.joinedAt) s.members

/-- The members of a session in order are its members in the order of joining. -/
theorem eq_inJoinOrder {s : Session} (h : Apart s.members) (order : ms.Perm s.members)
    (ordered : ms.Pairwise fun m m' => m.joinedAt ≤ m'.joinedAt) : ms = s.inJoinOrder := by
  refine List.Perm.eq_of_pairwise (fun m m' hm hm' hle hge => ?_) ordered s.inJoinOrder_ordered
    (order.trans s.inJoinOrder_perm.symm)
  exact h.eq_of_joinedAt (order.mem_iff.mp hm) (s.inJoinOrder_perm.mem_iff.mp hm')
    (Nat.le_antisymm hle hge)

/-- The first in the order of joining is the first member. -/
theorem head?_inJoinOrder {s : Session} (h : Apart s.members) :
    s.inJoinOrder.head? = earliest? s.members := by
  have hordered := s.inJoinOrder_ordered
  rw [← earliest?_perm h s.inJoinOrder_perm]
  cases hjoined : s.inJoinOrder with
  | nil => rfl
  | cons first rest =>
    rw [hjoined, List.pairwise_cons] at hordered
    have hapart : Apart (first :: rest) := hjoined ▸ h.perm s.inJoinOrder_perm
    refine ((earliest?_eq_some_iff hapart).mpr ⟨List.mem_cons_self, ?_⟩).symm
    exact List.forall_mem_cons.mpr ⟨Nat.le_refl _, hordered.1⟩

/-- The members of a session joined at different instants, before now, and the first of them is the
host. -/
structure Led (s : Session) (now : Nat) : Prop where
  apart : Apart s.members
  past : ∀ m ∈ s.members, m.joinedAt < now
  host : s.host = (earliest? s.members).map (·.id)

namespace Led

variable {s s' : Session} {now : Nat} {cs cs' : Connections}

/-- A session goes on to be led as time passes. -/
theorem later {now' : Nat} (hs : s.Led now) (hle : now ≤ now') : s.Led now' :=
  ⟨hs.apart, fun m hm => Nat.lt_of_lt_of_le (hs.past m hm) hle, hs.host⟩

/-- Who leads does not depend on options, times or the order of the members. -/
theorem of_perm (hs : s.Led now) (hhost : s'.host = s.host) (order : s'.members.Perm s.members) :
    s'.Led now where
  apart := hs.apart.perm order
  past m hm := hs.past m (order.mem_iff.mp hm)
  host := by rw [hhost, hs.host, earliest?_perm hs.apart order]

/-- A new member is the host only if it is the only member. -/
theorem join {h : Handle} (hs : s.Led now) (joins : s.join cs h now = .ok (s', cs')) :
    s'.Led (now + 1) := by
  obtain ⟨-, -, -, -, rfl, -⟩ := join_eq_ok_iff.mp joins
  have hnew : ∀ m ∈ s.members, m.joinedAt ≠ now := fun m hm => Nat.ne_of_lt (hs.past m hm)
  have hapart : Apart (s.members ++ [⟨(cs.get h).id, h, loginOf (cs.get h), now⟩]) := by
    simp only [Apart, List.map_append, List.map_cons, List.map_nil]
    apply hs.apart.append (by simp)
    simpa [List.disjoint_singleton] using hnew
  refine ⟨hapart, fun m hm => ?_, ?_⟩
  · rcases List.mem_append.mp hm with hm | hm
    · exact Nat.lt_succ_of_lt (hs.past m hm)
    · obtain rfl := List.mem_singleton.mp hm
      exact Nat.lt_succ_self now
  · cases hmembers : s.members with
    | nil => simp [hs.host, hmembers, earliest?]
    | cons m rest =>
      obtain ⟨first, hfirst⟩ := earliest?_isSome (hmembers ▸ List.cons_ne_nil m rest)
      obtain ⟨hmem, hle⟩ := earliest?_spec hfirst
      have hstays : earliest? (s.members ++ [⟨(cs.get h).id, h, loginOf (cs.get h), now⟩]) =
          some first := by
        refine (earliest?_eq_some_iff hapart).mpr ⟨List.mem_append_left _ hmem, fun m' hm' => ?_⟩
        rcases List.mem_append.mp hm' with hm' | hm'
        · exact hle m' hm'
        · obtain rfl := List.mem_singleton.mp hm'
          exact Nat.le_of_lt (hs.past first hmem)
      rw [← hmembers, hstays]
      simp [hs.host, hfirst]

/-- When the host leaves, the first of those still there is the host; when another member leaves,
the host still is the first. -/
theorem leave {id : ConnectionId} {login : String} (hs : s.Led now)
    (leaves : s.leave cs id = some (login, s', cs')) : s'.Led now := by
  obtain ⟨m, hm, -, rfl, -⟩ := leave_eq_some_iff.mp leaves
  refine ⟨hs.apart.sublist List.filter_sublist,
    fun m' hm' => hs.past m' (List.mem_of_mem_filter hm'), ?_⟩
  dsimp only
  split
  · rfl
  · next hother =>
    obtain ⟨first, hfirst⟩ := earliest?_isSome (List.ne_nil_of_mem (mem_of_member? hm).1)
    have hstays : (first.id != id) = true := by
      rw [hs.host, hfirst] at hother
      simpa using hother
    rw [hs.host, hfirst, earliest?_filter hs.apart hfirst hstays]

/-- Taking members out leaves the first of those still there as the host. -/
theorem leaveEach (hs : s.Led now) (cs : Connections) (ids : List ConnectionId) :
    (s.leaveEach cs ids).2.1.Led now := by
  induction ids generalizing s cs with
  | nil => exact hs
  | cons id rest ih =>
    unfold Session.leaveEach
    split
    · exact ih hs cs
    · next login s₁ cs₁ hl => exact ih (hs.leave hl) cs₁

end Led

/-- Taking members out changes the members and the host of a session, and nothing else. -/
theorem leaveEach_eq (s : Session) (cs : Connections) (ids : List ConnectionId) :
    (s.leaveEach cs ids).2.1 = { s with
      members := s.members.filter (·.id ∉ ids)
      host := (s.leaveEach cs ids).2.1.host } := by
  have hkept : ∃ members host, (s.leaveEach cs ids).2.1 = { s with members, host } := by
    induction ids generalizing s cs with
    | nil => exact ⟨_, _, rfl⟩
    | cons id rest ih =>
      unfold Session.leaveEach
      split
      · exact ih s cs
      · next login s₁ cs₁ hl =>
        obtain ⟨_, -, -, rfl, -⟩ := leave_eq_some_iff.mp hl
        exact ih _ cs₁
  obtain ⟨members, host, hkept⟩ := hkept
  have hmembers := members_leaveEach s cs ids
  rw [hkept] at hmembers ⊢
  rw [← hmembers]

end Session

namespace Lobby

/-- Every session is led. -/
def Hosted (l : Lobby) : Prop := ∀ s ∈ l.sessions, s.Led l.clock

namespace Hosted

variable {l l' : Lobby}

/-- A session that is led again may be stored. -/
theorem store {s s' : Session} (hl : l.Hosted) (held : l.session? s.id = some s)
    (hid : s'.id = s.id) {clock : Nat} (hs' : s'.Led clock) (hle : l.clock ≤ clock)
    (cs : Connections) : ({ l with connections := cs, clock }.store s').Hosted := by
  have known : (l.session? s'.id).isSome = true := by simp [hid, held]
  rw [store_eq_replace (l := { l with connections := cs, clock }) known]
  intro t ht
  rcases (mem_replace (session?_isSome_iff.mp known)).mp ht with rfl | ⟨ht, -⟩
  · exact hs'
  · exact (hl t ht).later hle

/-- A session may change in all but its id, its members and its host. -/
theorem restore {s : Session} (hl : l.Hosted) (held : l.session? s.id = some s) (s' : Session)
    (hid : s'.id = s.id) (hhost : s'.host = s.host) (order : s'.members.Perm s.members) :
    (l.store s').Hosted :=
  hl.store held hid ((hl s (mem_of_session? held).1).of_perm hhost order) (Nat.le_refl _)
    l.connections

/-- Every move leaves every session with its first member as the host. -/
theorem move {c : Change} (hl : l.Hosted) (move : Move l c l') : l'.Hosted := by
  cases move with
  | admitted held joins =>
    have hid := (Session.join_eq_ok_iff.mp joins).2.2.2.2.1
    have hled := (hl _ (mem_of_session? held).1).join joins
    exact hl.store held (by rw [hid]) hled (Nat.le_succ _) _
  | dismissed held leaves =>
    have hled := (hl _ (mem_of_session? held).1).leave leaves
    exact hl.store held (Session.id_of_leave leaves) hled (Nat.le_refl _) _
  | @reformed s held options => exact hl.restore held { s with options } rfl rfl (.refl _)
  | @advanced s held elapsed =>
    exact hl.restore held { s with elapsed, tickCount := s.tickCount + 1 } rfl rfl (.refl _)
  | @reorderedMembers s members held order =>
    exact hl.restore held { s with members } rfl rfl order
  | touched same => exact hl
  | released names gone => exact hl
  | drawn room => exact hl
  | opened room options =>
    intro t ht
    rcases List.mem_append.mp ht with hold | hnew
    · exact hl t (List.mem_of_mem_filter hold)
    · obtain rfl := List.mem_singleton.mp hnew
      exact ⟨List.nodup_nil, fun m hm => absurd hm List.not_mem_nil, rfl⟩
  | reclaimed => exact fun t ht => hl t (List.mem_of_mem_filter ht)
  | reordered order => exact fun t ht => hl t (order.mem_iff.mp ht)

/-- Moves leave every session with its first member as the host. -/
theorem moves {who : Handle → Prop} {n : Nat} (hl : l.Hosted) (moves : Moves who l n l') :
    l'.Hosted := by
  induction moves with
  | refl => exact hl
  | tail _ last _ ih => exact ih.move last

end Hosted

/-- In a run of any length every session has its first member as the host. -/
theorem hosted_run (maxPlayers maxSessions : Nat) (cs : Connections) (ops : List Operation) :
    ((new maxPlayers maxSessions cs).run ops).Hosted := by
  have hnew : (new maxPlayers maxSessions cs).Hosted := fun s hs => absurd hs List.not_mem_nil
  exact hnew.moves (moves_run (keysDistinct_new _ _ _) ops)

end Lobby

end PlayServer
