import PlayServer.Connection.Registry
import Mathlib.Data.List.Nodup
import Mathlib.Data.List.Perm.Subperm

/-!
# The cap on addresses

A registry takes a connection only while fewer open connections from its address are registered than
the cap allows. Connections close behind the back of the registry, their entries stay until they are
swept out, and ids may compete for an entry; still no address ever has more open connections than
the cap, since open connections enter only by registration and a connection never opens again:
`Registry.cap_of_run`.

`Registry.Operation` lists what can happen to a registry and its connections. The entries are
enumerated in no order of their own, so that they may be found in another one at any time.
-/

namespace PlayServer

/-- Some connections may have closed; none has opened, and none goes by another id or address. -/
structure Connections.OnlyClosed (cs cs' : Connections) : Prop where
  id : ∀ h, (cs'.get h).id = (cs.get h).id
  address : ∀ h, (cs'.get h).address = (cs.get h).address
  isOpen : ∀ h, (cs'.get h).isOpen = true → (cs.get h).isOpen = true

namespace Connections

variable {a b c cs cs' : Connections}

/-- No connection has closed. -/
theorem OnlyClosed.refl (cs : Connections) : cs.OnlyClosed cs :=
  ⟨fun _ => rfl, fun _ => rfl, fun _ h => h⟩

/-- Connections that close one after the other close. -/
theorem OnlyClosed.trans (hab : a.OnlyClosed b) (hbc : b.OnlyClosed c) : a.OnlyClosed c where
  id h := (hbc.id h).trans (hab.id h)
  address h := (hbc.address h).trans (hab.address h)
  isOpen h opened := hab.isOpen h (hbc.isOpen h opened)

/-- One connection closes. -/
theorem onlyClosed_close (cs : Connections) (h : Handle) :
    cs.OnlyClosed (cs.update h Connection.close) := by
  have hclose (c : Connection) :
      c.close.id = c.id ∧ c.close.address = c.address ∧ c.close.isOpen = false := by
    cases hopen : c.isOpen <;> simp [Connection.close, hopen]
  refine ⟨fun k => ?_, fun k => ?_, fun k => ?_⟩ <;> rw [get_update] <;> split
  · next he => exact he ▸ (hclose (cs.get h)).1
  · rfl
  · next he => exact he ▸ (hclose (cs.get h)).2.1
  · rfl
  · simp [hclose]
  · exact fun opened => opened

/-- Some connections close one after the other. -/
theorem onlyClosed_closeEach (cs : Connections) (hs : List Handle) :
    cs.OnlyClosed (Registry.closeEach cs hs).2 := by
  induction hs generalizing cs with
  | nil => exact .refl cs
  | cons h rest ih => exact (cs.onlyClosed_close h).trans (ih _)

end Connections

namespace Registry

variable {r r' : Registry} {cs cs' : Connections}

/-- No two entries have the same id. -/
def KeysDistinct (r : Registry) : Prop := (r.entries.map (·.1)).Nodup

/-- Where ids are distinct a connection is found under an id exactly when this is an entry. -/
theorem get?_eq_some_iff (hk : r.KeysDistinct) {id : ConnectionId} {h : Handle} :
    r.get? id = some h ↔ (id, h) ∈ r.entries := by
  simp only [get?, Option.map_eq_some_iff]
  constructor
  · rintro ⟨e, he, rfl⟩
    obtain rfl : e.1 = id := by simpa using List.find?_some he
    exact List.mem_of_find?_eq_some he
  · intro hmem
    obtain ⟨e, he⟩ : ∃ e, r.entries.find? (·.1 == id) = some e := by
      apply Option.isSome_iff_exists.mp
      simpa using ⟨h, hmem⟩
    have hid : e.1 = id := by simpa using List.find?_some he
    have hsame := List.inj_on_of_nodup_map hk (List.mem_of_find?_eq_some he) hmem hid
    exact ⟨e, he, by rw [hsame]⟩

/-- No connection is found under an id exactly when no entry has it. -/
theorem get?_eq_none_iff {id : ConnectionId} : r.get? id = none ↔ ∀ e ∈ r.entries, e.1 ≠ id := by
  simp [get?]

/-- One more connection from an address is acceptable while there are fewer than the cap. -/
theorem checkAddress_eq_ok_iff {address : IpAddress} :
    r.checkAddress cs address = .ok () ↔ r.countFor cs address < r.maxPerAddress := by
  unfold checkAddress
  split
  · next hfull => simpa using hfull
  · next hroom => simpa using hroom

/-- A connection is registered exactly when its id is not taken and its address has room, and then
there is an entry more. -/
theorem register_eq_ok_iff {h : Handle} :
    r.register cs h = .ok r' ↔ r.get? (cs.get h).id = none ∧
      r.checkAddress cs (cs.get h).address.ip = .ok () ∧
      r' = { r with entries := r.entries ++ [((cs.get h).id, h)] } := by
  unfold register
  dsimp only
  split
  · next taken =>
    obtain ⟨other, hother⟩ := Option.isSome_iff_exists.mp taken
    simp [hother]
  next free =>
  have hfree : r.get? (cs.get h).id = none := by simpa using free
  split
  · next e refused => simp [refused]
  · next accepted => simp [hfree, accepted, eq_comm]

/-- After a sweep the open connections are found under their ids, and no others. -/
theorem get?_sweep (hk : r.KeysDistinct) {id : ConnectionId} {h : Handle} :
    (r.sweep cs).2.get? id = some h ↔ r.get? id = some h ∧ (cs.get h).isOpen = true := by
  have hk' : (r.sweep cs).2.KeysDistinct := (List.filter_sublist.map _).nodup hk
  rw [get?_eq_some_iff hk', get?_eq_some_iff hk]
  exact List.mem_filter

/-- A sweep tells the ids under which closed connections were found. -/
theorem mem_sweep_iff (hk : r.KeysDistinct) {id : ConnectionId} :
    id ∈ (r.sweep cs).1 ↔ ∃ h, r.get? id = some h ∧ (cs.get h).isOpen = false := by
  simp [sweep, get?_eq_some_iff hk]

/-- A second sweep finds nothing to do. -/
theorem sweep_sweep (r : Registry) (cs : Connections) :
    (r.sweep cs).2.sweep cs = ([], (r.sweep cs).2) := by
  simp [sweep, List.filter_filter]

/-- Every connection is registered under its id, no id twice, and from no address are more open
connections registered than the cap allows. -/
structure Sound (r : Registry) (cs : Connections) : Prop where
  keyed : ∀ e ∈ r.entries, e.1 = (cs.get e.2).id
  keys : r.KeysDistinct
  capped : ∀ address, r.countFor cs address ≤ r.maxPerAddress

namespace Sound

/-- Some of the entries, in any order, are as sound as all of them. -/
theorem of_subperm {entries : List (ConnectionId × Handle)} (hr : r.Sound cs)
    (kept : entries.Subperm r.entries) : Sound { r with entries } cs where
  keyed e he := hr.keyed e (kept.subset he)
  keys := by
    obtain ⟨ordered, order, hsub⟩ := kept
    exact (order.map _).nodup_iff.mp ((hsub.map _).nodup hr.keys)
  capped address := Nat.le_trans (kept.filter _).length_le (hr.capped address)

/-- Connections may close. -/
theorem onlyClosed (hr : r.Sound cs) (closed : cs.OnlyClosed cs') : r.Sound cs' where
  keyed e he := (hr.keyed e he).trans (closed.id e.2).symm
  keys := hr.keys
  capped address := by
    refine Nat.le_trans (List.Sublist.length_le ?_) (hr.capped address)
    apply List.monotone_filter_right
    rintro ⟨id, h⟩ counted
    simp only [Bool.and_eq_true, closed.address] at counted ⊢
    exact ⟨closed.isOpen h counted.1, counted.2⟩

/-- A connection that is registered had room under the cap. -/
theorem register {h : Handle} (hr : r.Sound cs) (registers : r.register cs h = .ok r') :
    r'.Sound cs := by
  obtain ⟨free, accepted, rfl⟩ := register_eq_ok_iff.mp registers
  have hroom := checkAddress_eq_ok_iff.mp accepted
  refine ⟨fun e he => ?_, ?_, fun address => ?_⟩
  · rcases List.mem_append.mp he with he | he
    · exact hr.keyed e he
    · obtain rfl := List.mem_singleton.mp he
      rfl
  · simp only [KeysDistinct, List.map_append, List.map_cons, List.map_nil]
    apply List.Nodup.append hr.keys (List.nodup_singleton _)
    rw [List.disjoint_singleton]
    intro taken
    obtain ⟨e, he, hid⟩ := List.mem_map.mp taken
    exact get?_eq_none_iff.mp free e he hid
  · have hold := hr.capped address
    simp only [countFor, List.filter_append, List.length_append] at hold hroom ⊢
    by_cases same : (cs.get h).address.ip = address
    · subst same
      have hone := List.length_filter_le (fun e : ConnectionId × Handle =>
        (cs.get e.2).isOpen && (cs.get e.2).address.ip == (cs.get h).address.ip)
        [((cs.get h).id, h)]
      simp only [List.length_singleton] at hone
      omega
    · simpa [same] using hold

/-- No connection has two entries. -/
theorem handles_nodup (hr : r.Sound cs) : (r.entries.map (·.2)).Nodup := by
  apply (List.Nodup.of_map _ hr.keys).map_on
  intro e he e' he' same
  apply List.inj_on_of_nodup_map hr.keys he he'
  rw [hr.keyed e he, hr.keyed e' he', same]

end Sound

/-- What happens to a registry and to its connections. -/
inductive Operation where
  | register (h : Handle)
  | remove (id : ConnectionId)
  | sweep
  /-- Connections that have been idle for too long are closed; how long is told for each. -/
  | closeIdle (timeout : Duration) (idle : Handle → Duration)
  | closeAll
  /-- A connection closes. -/
  | close (h : Handle)
  /-- From now on the entries are enumerated in this order, if it is one of theirs. -/
  | reorder (entries : List (ConnectionId × Handle))

/-- A registry and the connections that are there. -/
structure Gate where
  registry : Registry
  connections : Connections

/-- Carries out an operation. -/
def Gate.perform (g : Gate) : Operation → Gate
  | .register h =>
    match g.registry.register g.connections h with
    | .error _ => g
    | .ok registry => { g with registry }
  | .remove id => { g with registry := g.registry.remove id }
  | .sweep => { g with registry := (g.registry.sweep g.connections).2 }
  | .closeIdle timeout idle =>
    { g with connections := (g.registry.closeIdle g.connections timeout idle).2 }
  | .closeAll => { g with connections := (g.registry.closeAll g.connections).2 }
  | .close h => { g with connections := g.connections.update h Connection.close }
  | .reorder entries =>
    if entries.Perm g.registry.entries then { g with registry := { g.registry with entries } }
    else g

/-- Carries out operations one after the other. -/
def Gate.run (g : Gate) (ops : List Operation) : Gate := ops.foldl Gate.perform g

/-- Every operation leaves a sound registry sound, and does not change its cap. -/
theorem Sound.perform {g : Gate} (hg : g.registry.Sound g.connections) (op : Operation) :
    (g.perform op).registry.Sound (g.perform op).connections ∧
      (g.perform op).registry.maxPerAddress = g.registry.maxPerAddress := by
  cases op with
  | register h =>
    simp only [Gate.perform]
    split
    · exact ⟨hg, rfl⟩
    · next r registers =>
      obtain ⟨-, -, hr⟩ := register_eq_ok_iff.mp registers
      exact ⟨hg.register registers, by rw [hr]⟩
  | remove id => exact ⟨hg.of_subperm List.filter_sublist.subperm, rfl⟩
  | sweep => exact ⟨hg.of_subperm List.filter_sublist.subperm, rfl⟩
  | closeIdle timeout idle => exact ⟨hg.onlyClosed (g.connections.onlyClosed_closeEach _), rfl⟩
  | closeAll => exact ⟨hg.onlyClosed (g.connections.onlyClosed_closeEach _), rfl⟩
  | close h => exact ⟨hg.onlyClosed (g.connections.onlyClosed_close h), rfl⟩
  | reorder entries =>
    simp only [Gate.perform]
    split
    · next order => exact ⟨hg.of_subperm order.subperm, rfl⟩
    · exact ⟨hg, rfl⟩

/-- A run leaves a sound registry sound, and does not change its cap. -/
theorem Sound.run {g : Gate} (hg : g.registry.Sound g.connections) (ops : List Operation) :
    (g.run ops).registry.Sound (g.run ops).connections ∧
      (g.run ops).registry.maxPerAddress = g.registry.maxPerAddress := by
  induction ops generalizing g with
  | nil => exact ⟨hg, rfl⟩
  | cons op rest ih =>
    obtain ⟨hfirst, hcap⟩ := hg.perform op
    obtain ⟨hrest, hcap'⟩ := ih hfirst
    exact ⟨hrest, hcap'.trans hcap⟩

/-- A registry without entries is sound. -/
theorem sound_empty (maxPerAddress : Nat) (cs : Connections) : Sound { maxPerAddress } cs where
  keyed _ he := absurd he List.not_mem_nil
  keys := List.nodup_nil
  capped _ := Nat.zero_le _

/-- The cap on addresses holds in every state of every run, over any connections. Each entry is that
of a connection of its own, under the id of this connection; from no address are more open
connections registered than the cap allows, and one more is accepted exactly while there are fewer.
A connection is registered exactly when its id is not taken and its address is accepted, and
otherwise nothing changes. A sweep tells exactly the ids of
the closed connections and leaves exactly the open ones, so that a second one finds nothing. -/
theorem cap_of_run (maxPerAddress : Nat) (cs : Connections) (ops : List Operation) :
    let g := Gate.run ⟨{ maxPerAddress }, cs⟩ ops
    let r := g.registry
    let openFrom (address : IpAddress) := (r.entries.filter fun (_, h) =>
      (g.connections.get h).isOpen && (g.connections.get h).address.ip == address).length
    ((∀ e ∈ r.entries, e.1 = (g.connections.get e.2).id) ∧ (r.entries.map (·.1)).Nodup ∧
      (r.entries.map (·.2)).Nodup) ∧
    (∀ address, openFrom address ≤ maxPerAddress ∧
      (r.checkAddress g.connections address = .ok () ↔ openFrom address < maxPerAddress)) ∧
    (∀ h r', r.register g.connections h = .ok r' ↔ r.get? (g.connections.get h).id = none ∧
      r.checkAddress g.connections (g.connections.get h).address.ip = .ok () ∧
      r' = { r with entries := r.entries ++ [((g.connections.get h).id, h)] }) ∧
    (∀ h e, r.register g.connections h = .error e → g.perform (.register h) = g) ∧
    (∀ id, id ∈ (r.sweep g.connections).1 ↔
      ∃ h, r.get? id = some h ∧ (g.connections.get h).isOpen = false) ∧
    (∀ id h, (r.sweep g.connections).2.get? id = some h ↔
      r.get? id = some h ∧ (g.connections.get h).isOpen = true) ∧
    (r.sweep g.connections).2.sweep g.connections = ([], (r.sweep g.connections).2) := by
  intro g r openFrom
  have hempty : Sound { maxPerAddress } cs := sound_empty maxPerAddress cs
  obtain ⟨hr, hcap⟩ := Sound.run (g := ⟨{ maxPerAddress }, cs⟩) hempty ops
  have hcap : r.maxPerAddress = maxPerAddress := hcap
  refine ⟨⟨hr.keyed, hr.keys, hr.handles_nodup⟩, fun address => ⟨?_, ?_⟩,
    fun h r' => register_eq_ok_iff, fun h e refused => ?_, fun id => mem_sweep_iff hr.keys,
    fun id h => get?_sweep hr.keys, r.sweep_sweep g.connections⟩
  · exact hcap ▸ hr.capped address
  · exact hcap ▸ checkAddress_eq_ok_iff
  · rw [Gate.perform, refused]

/-- Two connections from one address. -/
def neighbours : Connections where
  opened := [{ id := ⟨1⟩, address := default }, { id := ⟨2⟩, address := default }]

/-- The second connection is refused by the cap while the first one is open. It is registered once
the first one has closed, whose entry is still there: now two connections are registered from one
address, and one of them is open. -/
theorem cap_of_run_neighbours :
    let g := Gate.run ⟨{ maxPerAddress := 1 }, neighbours⟩ [.register 0]
    let g' := Gate.run ⟨{ maxPerAddress := 1 }, neighbours⟩
      [.register 0, .register 1, .close 0, .register 1]
    g.registry.register g.connections 1 =
        .error (.addressLimit (neighbours.get 1).address.ip 1) ∧
      g.perform (.register 1) = g ∧ g'.registry.entries = [(⟨1⟩, 0), (⟨2⟩, 1)] ∧
      (g'.registry.entries.filter fun (_, h) => (g'.connections.get h).isOpen &&
        (g'.connections.get h).address.ip == (neighbours.get 1).address.ip).length ≤ 1 ∧
      g'.registry.sweep g'.connections =
        ([⟨1⟩], { maxPerAddress := 1, entries := [(⟨2⟩, 1)] }) := by
  intro g g'
  have hrefused : g.registry.register g.connections 1 =
      .error (.addressLimit (neighbours.get 1).address.ip 1) := by decide
  obtain ⟨-, -, -, hunchanged, -⟩ := cap_of_run 1 neighbours [.register 0]
  obtain ⟨-, hcapped, -⟩ := cap_of_run 1 neighbours
    [.register 0, .register 1, .close 0, .register 1]
  exact ⟨hrefused, hunchanged 1 _ hrefused, by decide, (hcapped _).1, by decide⟩

end Registry

end PlayServer
