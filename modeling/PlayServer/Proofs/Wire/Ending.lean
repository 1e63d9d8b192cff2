import PlayServer.Proofs.Wire.Framing

/-!
# How streams end

A stream delivers its bytes in pieces and then ends: it is over, it fails, or the reader is told
that the connection was closed on this side. What comes after the bytes that are read makes no
difference to them; a packet that is cut short gives the error of the ending.
-/

namespace PlayServer

/-- How a stream ends. -/
inductive StreamEnd where
  | endOfStream
  | fault (kind : IoFault)
  | closedHere
  deriving DecidableEq, Repr

namespace StreamEnd

/-- What a stream delivers at its end. -/
def arrivals : StreamEnd → Stream
  | endOfStream => []
  | fault kind => [.fault kind]
  | closedHere => [.closedHere]

/-- The error that a reader gets who waits for bytes at the end. -/
def error : StreamEnd → ReadError
  | endOfStream => .connectionClosed
  | fault kind => .ofFault kind
  | closedHere => .closedHere

end StreamEnd

/-- Some bytes are packets within the limit, and then a rest that is no whole packet. -/
structure Decodes (bs : Bytes) (ps : List Packet) (rest : Bytes) : Prop where
  bytes : bs = Packet.encodeAll ps ++ rest
  inLimit : ∀ p ∈ ps, p.InLimit
  rest : DeclaresTooMuch rest ∨ CutShort rest

/-- All bytes decode. -/
theorem exists_decodes (bs : Bytes) : ∃ ps rest, Decodes bs ps rest := by
  obtain ⟨ps, rest, hbytes, hlimit, hrest⟩ := exists_packets bs
  exact ⟨ps, rest, hbytes, hlimit, hrest⟩

/-- A rest that declares too much is not cut short. -/
theorem CutShort.not_declaresTooMuch {bs : Bytes} (h : CutShort bs) : ¬ DeclaresTooMuch bs := by
  rintro ⟨hheader, hlimit⟩
  rcases h with hless | ⟨hwithin, -⟩
  · exact absurd hless (Nat.not_lt_of_le hheader)
  · exact absurd hlimit (Nat.not_lt_of_le hwithin)

instance (bs : Bytes) : Decidable (DeclaresTooMuch bs) :=
  inferInstanceAs (Decidable (headerSize ≤ bs.length ∧ maxBodySize < declaredLength bs))

namespace Stream

/-- Nothing is taken if nothing is asked for. -/
theorem take_zero (s : Stream) : s.take 0 = ⟨.ok [], 0, s⟩ := by
  cases s with
  | nil => rfl
  | cons arrival rest => cases arrival <;> rfl

/-- Bytes that are there are taken as they stand, whatever the stream delivers after them. -/
theorem take_append_of_ok {s : Stream} {n : Nat} {bs : Bytes} (after : Stream)
    (h : (s.take n).result = .ok bs) :
    (s ++ after).take n = ⟨.ok bs, (s.take n).consumed, (s.take n).rest ++ after⟩ := by
  induction s generalizing n bs with
  | nil =>
    by_cases hn : n = 0
    · subst hn
      simp only [take_zero] at h ⊢
      cases h
      rfl
    · rw [take, if_neg hn] at h
      cases h
  | cons arrival rest ih =>
    by_cases hn : n = 0
    · subst hn
      simp only [take_zero] at h ⊢
      cases h
      rfl
    cases arrival with
    | bytes piece =>
      rw [List.cons_append]
      rw [take] at h ⊢
      rw [take]
      dsimp only at h ⊢
      split at h
      · next hall =>
        cases h
        rw [if_pos hall, if_pos hall]
        rfl
      · next hpart =>
        rw [if_neg hpart, if_neg hpart]
        dsimp only at h ⊢
        cases hmore : (take (n - (piece.take n).length) rest).result with
        | error e =>
          rw [hmore] at h
          cases h
        | ok more =>
          rw [hmore] at h
          cases h
          rw [ih hmore]
          rfl
    | fault kind =>
      rw [take, if_neg hn] at h
      cases h
    | closedHere =>
      rw [take, if_neg hn] at h
      cases h

/-- A packet that is there is read, whatever the stream delivers after it. -/
theorem readPacket_append_of_ok {s : Stream} {p : Packet} (after : Stream)
    (h : s.readPacket.result = .ok p) :
    (s ++ after).readPacket = ⟨.ok p, s.readPacket.consumed, s.readPacket.rest ++ after⟩ := by
  unfold readPacket at h ⊢
  dsimp only at h ⊢
  cases hhead : (s.take headerSize).result with
  | error e =>
    rw [hhead] at h
    cases h
  | ok bs =>
    rw [hhead] at h
    rw [take_append_of_ok after hhead]
    dsimp only at h ⊢
    split at h
    · cases h
    next hwithin =>
    rw [if_neg hwithin, if_neg hwithin]
    cases hbody : ((s.take headerSize).rest.take (Header.decode bs).bodyLength.toNat).result with
    | error e =>
      rw [hbody] at h
      cases h
    | ok body =>
      rw [hbody] at h
      rw [take_append_of_ok after hbody]
      cases h
      rfl

/-- A packet that stands first is read, and no more than its bytes are taken. -/
theorem readPacket_of_packet_before {p : Packet} {after : Bytes} {chunks : List Bytes}
    (ending : StreamEnd) (hp : p.InLimit) (h : chunks.flatten = p.encode ++ after) :
    ∃ left : List Bytes, (ofChunks chunks ++ ending.arrivals).readPacket =
        ⟨.ok p, p.encode.length, ofChunks left ++ ending.arrivals⟩ ∧ left.flatten = after := by
  obtain ⟨left, hread, hleft⟩ := readPacket_of_packet hp h
  refine ⟨left, ?_, hleft⟩
  rw [readPacket_append_of_ok ending.arrivals (p := p) (by rw [hread]), hread]

/-- A header that declares too large a body is refused, whatever the stream delivers after it. -/
theorem readPacket_of_declaresTooMuch_before {chunks : List Bytes} (ending : StreamEnd)
    (h : DeclaresTooMuch chunks.flatten) :
    (ofChunks chunks ++ ending.arrivals).readPacket.result =
      .error (.bodyTooLarge (declaredLength chunks.flatten)) := by
  obtain ⟨left, hhead, -⟩ := take_ofChunks h.1
  have hlarge : (Header.decode chunks.flatten).withinLimit = false :=
    decide_eq_false (Nat.not_le_of_lt h.2)
  have hbytes : ((ofChunks chunks).take headerSize).result =
      .ok (chunks.flatten.take headerSize) := by rw [hhead]
  rw [readPacket, take_append_of_ok ending.arrivals hbytes]
  dsimp only
  rw [Header.decode_take_headerSize, hlarge]
  rfl

/-- Where there are fewer bytes than asked for, the ending gives the error. -/
theorem take_of_lt_before {n : Nat} {chunks : List Bytes} (ending : StreamEnd)
    (h : chunks.flatten.length < n) :
    ((ofChunks chunks ++ ending.arrivals).take n).result = .error ending.error := by
  induction chunks generalizing n with
  | nil =>
    have hn : n ≠ 0 := by
      rw [List.flatten_nil, List.length_nil] at h
      omega
    cases ending with
    | endOfStream =>
      change (take n []).result = _
      rw [take, if_neg hn]
      rfl
    | fault kind =>
      change (take n [.fault kind]).result = _
      rw [take, if_neg hn]
      rfl
    | closedHere =>
      change (take n [.closedHere]).result = _
      rw [take, if_neg hn]
      rfl
  | cons bs rest ih =>
    change (take n (.bytes bs :: (ofChunks rest ++ ending.arrivals))).result = _
    rw [List.flatten_cons, List.length_append] at h
    have hgot : bs.take n = bs := List.take_of_length_le (by omega)
    rw [take, hgot]
    dsimp only
    rw [if_neg (by omega), ih (by omega)]
    rfl

/-- Where a packet is cut short, the ending gives the error. -/
theorem readPacket_of_cutShort_before {chunks : List Bytes} (ending : StreamEnd)
    (h : CutShort chunks.flatten) :
    (ofChunks chunks ++ ending.arrivals).readPacket.result = .error ending.error := by
  by_cases hheader : chunks.flatten.length < headerSize
  · rw [readPacket, take_of_lt_before ending hheader]
  obtain ⟨hlimit, hless⟩ := h.resolve_left hheader
  obtain ⟨left, hhead, hleft⟩ := take_ofChunks (Nat.le_of_not_lt hheader)
  have hbody : left.flatten.length < (Header.decode chunks.flatten).bodyLength.toNat := by
    have hdeclared : (Header.decode chunks.flatten).bodyLength.toNat =
        declaredLength chunks.flatten := rfl
    rw [hleft, List.length_drop, hdeclared]
    omega
  have hwithin : (Header.decode chunks.flatten).withinLimit = true := decide_eq_true hlimit
  have hbytes : ((ofChunks chunks).take headerSize).result =
      .ok (chunks.flatten.take headerSize) := by rw [hhead]
  rw [readPacket, take_append_of_ok ending.arrivals hbytes, hhead]
  dsimp only
  rw [Header.decode_take_headerSize, hwithin]
  rw [if_neg (by simp), take_of_lt_before ending hbody]
  rfl

end Stream

end PlayServer
