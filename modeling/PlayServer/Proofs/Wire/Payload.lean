import PlayServer.Proofs.Wire.Framing

/-!
# Payloads that are packets

A payload is what is queued to a connection at once. Where every payload is a packet within the
limit, the peer reads packets within the limit: all of them once everything has come in, and before
that those that have come in whole.
-/

namespace PlayServer

/-- Some bytes are a packet whose body a peer accepts. -/
def IsPacket (bs : Bytes) : Prop := ∃ p : Packet, p.InLimit ∧ bs = p.encode

/-- The beginning of a packet is cut short. -/
theorem BeginsPacket.cutShort {bs : Bytes} (h : BeginsPacket bs) : CutShort bs := by
  obtain ⟨p, hp, ⟨after, hafter⟩, hpart⟩ := h
  have hmore : 0 < after.length := by
    apply List.length_pos_iff.mpr
    rintro rfl
    exact hpart (by rw [← hafter, List.append_nil])
  have hless : bs.length < p.encode.length := by
    rw [← hafter, List.length_append]
    omega
  by_cases hheader : bs.length < headerSize
  · exact .inl hheader
  have hdeclared : declaredLength bs = p.body.length := by
    have hwhole := declaredLength_encode_append hp []
    rw [List.append_nil, ← hafter, declaredLength, ← Header.decode_take_headerSize,
      List.take_append_of_le_length (by omega), Header.decode_take_headerSize] at hwhole
    exact hwhole
  have hlimit : p.body.length ≤ maxBodySize := hp
  rw [Packet.length_encode] at hless
  exact .inr ⟨by omega, by omega⟩

/-- Payloads that are packets are the encodings of packets within the limit. -/
theorem exists_packets_of_payloads {payloads : List Bytes} (h : ∀ bs ∈ payloads, IsPacket bs) :
    ∃ ps : List Packet, (∀ p ∈ ps, p.InLimit) ∧ payloads = ps.map Packet.encode := by
  induction payloads with
  | nil => exact ⟨[], by simp, rfl⟩
  | cons first rest ih =>
    obtain ⟨⟨p, hp, rfl⟩, hrest⟩ := List.forall_mem_cons.mp h
    obtain ⟨ps, hps, rfl⟩ := ih hrest
    exact ⟨p :: ps, List.forall_mem_cons.mpr ⟨hp, hps⟩, rfl⟩

/-- What has come in of some packets within the limit are the first of them, and a rest that is cut
short. -/
theorem exists_packets_of_prefix {ps : List Packet} (hps : ∀ p ∈ ps, p.InLimit) {bs : Bytes}
    (h : bs <+: Packet.encodeAll ps) : ∃ ps' rest, ps' <+: ps ∧
      bs = Packet.encodeAll ps' ++ rest ∧ CutShort rest ∧
      (bs = Packet.encodeAll ps → ps' = ps) := by
  induction ps generalizing bs with
  | nil =>
    obtain rfl : bs = [] := List.prefix_nil.mp h
    exact ⟨[], [], List.prefix_refl _, rfl, .inl (by decide), fun _ => rfl⟩
  | cons p ps ih =>
    obtain ⟨hp, hps⟩ := List.forall_mem_cons.mp hps
    have hall : Packet.encodeAll (p :: ps) = p.encode ++ Packet.encodeAll ps := rfl
    rw [hall] at h ⊢
    by_cases hwhole : p.encode.length ≤ bs.length
    · obtain ⟨after, rfl⟩ := List.prefix_of_prefix_length_le (List.prefix_append _ _) h hwhole
      obtain ⟨ps', rest, hfirst, rfl, hshort, hend⟩ :=
        ih hps ((List.prefix_append_right_inj p.encode).mp h)
      refine ⟨p :: ps', rest, (List.prefix_cons_inj p).mpr hfirst, ?_, hshort, fun he => ?_⟩
      · exact (List.append_assoc _ _ _).symm
      · rw [hend (List.append_cancel_left he)]
    · have hpart : bs <+: p.encode :=
        List.prefix_of_prefix_length_le h (List.prefix_append _ _) (by omega)
      have hbegins : BeginsPacket bs := ⟨p, hp, hpart, by rintro rfl; omega⟩
      refine ⟨[], bs, List.nil_prefix, rfl, hbegins.cutShort, fun he => ?_⟩
      rw [he, List.length_append] at hwhole
      omega

/-- Whatever part of some packets within the limit has come in, and in whatever pieces: the first of
them are read, and then the peer has closed; all are read if all has come in. -/
theorem Stream.readPackets_of_prefix {ps : List Packet} (hps : ∀ p ∈ ps, p.InLimit)
    {chunks : List Bytes} (h : chunks.flatten <+: Packet.encodeAll ps) :
    ∃ ps', ps' <+: ps ∧ (chunks.flatten = Packet.encodeAll ps → ps' = ps) ∧
      readPackets (ofChunks chunks) =
        received 0 ps' ++ [(.error .connectionClosed, chunks.flatten.length)] := by
  obtain ⟨ps', rest, hfirst, hsplit, hshort, hend⟩ := exists_packets_of_prefix hps h
  have hlimit : ∀ p ∈ ps', p.InLimit := fun p hp => hps p (hfirst.subset hp)
  exact ⟨ps', hfirst, hend, readPackets_of_cutShort hlimit hsplit hshort⟩

end PlayServer
