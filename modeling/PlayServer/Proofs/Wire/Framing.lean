import PlayServer.Wire.Stream
import Mathlib.Algebra.Order.Ring.Nat

/-!
# Framing

Reading packets off a stream depends only on the bytes that the stream delivers, and not on the
pieces in which it delivers them. What was written as packets reads back as these packets. Of any
other bytes, what is read before the first error is what was written at their beginning, and the
first error tells why the rest begins no further packet: it declares too large a body, or it is cut
short.

A rest that is cut short is the beginning of a packet, except for one kind: `BeginsTooMuch` is said
of a header that is cut short within its length, of which so much is there that it exceeds the
limit whatever would follow.
-/

namespace PlayServer

namespace BigEndian

/-- A byte string spells its parts one after the other. -/
theorem decode_append (bs after : Bytes) :
    decode (bs ++ after) = decode bs * 256 ^ after.length + decode after := by
  induction after using Bytes.snocInduction with
  | nil => simp [decode]
  | snoc after b ih =>
    rw [← List.append_assoc, decode_append_singleton, ih, decode_append_singleton,
      List.length_append, List.length_singleton, Nat.pow_succ, Nat.add_mul, Nat.mul_assoc,
      Nat.add_assoc]

/-- Zeros spell nothing. -/
theorem decode_zeros (n : Nat) : decode (List.replicate n 0) = 0 := by
  induction n with
  | zero => rfl
  | succ n ih =>
    rw [List.replicate_succ', decode_append_singleton, ih]
    rfl

/-- A field of two bytes is written as it was read. -/
theorem encode_field16 {bs : Bytes} (h : bs.length = 2) :
    encode 2 (UInt16.ofNat (decode bs)).toNat = bs := by
  have hlt := decode_lt bs
  rw [h] at hlt
  rw [UInt16.toNat_ofNat_of_lt' hlt, ← h, encode_decode]

/-- A field of four bytes is written as it was read. -/
theorem encode_field32 {bs : Bytes} (h : bs.length = 4) :
    encode 4 (UInt32.ofNat (decode bs)).toNat = bs := by
  have hlt := decode_lt bs
  rw [h] at hlt
  rw [UInt32.toNat_ofNat_of_lt' hlt, ← h, encode_decode]

end BigEndian

namespace Header

/-- A header depends on its twelve bytes alone. -/
theorem decode_take_headerSize (bs : Bytes) : decode (bs.take headerSize) = decode bs := by
  simp [decode, headerSize, List.take_take, List.drop_take]

/-- A header that was read is written as the bytes that it was read from. -/
theorem encode_decode {bs : Bytes} (h : bs.length = headerSize) : (decode bs).encode = bs := by
  rw [headerSize] at h
  have hservice : (bs.take 2).length = 2 := by simp [h]
  have hmethod : ((bs.drop 2).take 2).length = 2 := by simp [h]
  have hcorrelation : ((bs.drop 4).take 4).length = 4 := by simp [h]
  have hlength : ((bs.drop 8).take 4).length = 4 := by simp [h]
  have hlast : (bs.drop 8).take 4 = bs.drop 8 := List.take_of_length_le (by simp [h])
  simp only [encode, decode]
  rw [BigEndian.encode_field16 hservice, BigEndian.encode_field16 hmethod,
    BigEndian.encode_field32 hcorrelation, BigEndian.encode_field32 hlength, hlast,
    List.append_assoc, List.append_assoc]
  conv_rhs => rw [← List.take_append_drop 2 bs, ← List.take_append_drop 2 (bs.drop 2),
    ← List.take_append_drop 4 ((bs.drop 2).drop 2)]
  simp [List.drop_drop]

end Header

/-- Packets whose bodies a peer accepts. -/
def Packet.InLimit (p : Packet) : Prop := p.body.length ≤ maxBodySize

/-- The bytes of some packets, one after the other. -/
def Packet.encodeAll (ps : List Packet) : Bytes := ps.flatMap Packet.encode

/-- The length of the body that the header at the beginning of some bytes declares. -/
def declaredLength (bs : Bytes) : Nat := (Header.decode bs).bodyLength.toNat

/-- A complete header that declares too large a body stands at the beginning. -/
def DeclaresTooMuch (bs : Bytes) : Prop :=
  headerSize ≤ bs.length ∧ maxBodySize < declaredLength bs

/-- A header is cut short, or what it declares of a body is. -/
def CutShort (bs : Bytes) : Prop :=
  bs.length < headerSize ∨
    declaredLength bs ≤ maxBodySize ∧ bs.length < headerSize + declaredLength bs

/-- A header is cut short within its length, of which so much is there that the limit is exceeded
whatever would follow. -/
def BeginsTooMuch (bs : Bytes) : Prop :=
  bs.length < headerSize ∧
    maxBodySize < BigEndian.decode (bs.drop 8) * 256 ^ (headerSize - bs.length)

/-- The bytes are the beginning, and not the whole, of a packet whose body a peer accepts. -/
def BeginsPacket (bs : Bytes) : Prop :=
  ∃ p : Packet, p.InLimit ∧ bs <+: p.encode ∧ bs ≠ p.encode

/-- The packet that a header announces with a body. -/
def Header.packet (h : Header) (body : Bytes) : Packet := ⟨h.service, h.method, h.correlation, body⟩

/-- A packet whose body has the length that its header declares is written as the two. -/
theorem Header.encode_packet {h : Header} {body : Bytes}
    (hbody : body.length = h.bodyLength.toNat) : (h.packet body).encode = h.encode ++ body := by
  have hheader : (h.packet body).header = h := by simp [Packet.header, packet, hbody]
  rw [Packet.encode, hheader]
  rfl

/-- The length that a packet declares is that of its body. -/
theorem declaredLength_encode_append {p : Packet} (hp : p.InLimit) (after : Bytes) :
    declaredLength (p.encode ++ after) = p.body.length := by
  have hlt : p.body.length < UInt32.size := Nat.lt_of_le_of_lt hp (by decide)
  rw [declaredLength, Packet.encode, List.append_assoc, Header.decode_encode]
  exact UInt32.toNat_ofNat_of_lt' hlt

/-- Any bytes begin with a packet whose body is within the limit, or declare too large a body, or
are cut short. -/
theorem exists_packet_or (bs : Bytes) :
    (∃ (p : Packet) (after : Bytes), p.InLimit ∧ bs = p.encode ++ after) ∨
      DeclaresTooMuch bs ∨ CutShort bs := by
  by_cases hheader : bs.length < headerSize
  · exact .inr (.inr (.inl hheader))
  by_cases hlimit : maxBodySize < declaredLength bs
  · exact .inr (.inl ⟨by omega, hlimit⟩)
  by_cases hbody : bs.length < headerSize + declaredLength bs
  · exact .inr (.inr (.inr ⟨by omega, hbody⟩))
  -- All is there: the header, and the body that it declares.
  have hfirst : (bs.take headerSize).length = headerSize := by simp; omega
  have hrest : ((bs.drop headerSize).take (declaredLength bs)).length = declaredLength bs := by
    simp; omega
  refine .inl ⟨(Header.decode bs).packet ((bs.drop headerSize).take (declaredLength bs)),
    (bs.drop headerSize).drop (declaredLength bs), ?_, ?_⟩
  · rw [Packet.InLimit, Header.packet, hrest]
    omega
  · have hencode : (Header.decode bs).encode = bs.take headerSize := by
      rw [← Header.decode_take_headerSize, Header.encode_decode hfirst]
    rw [Header.encode_packet hrest, hencode, List.append_assoc, List.take_append_drop,
      List.take_append_drop]

/-- Any bytes are some packets, whose bodies are within the limit, and a rest that declares too
large a body or is cut short. -/
theorem exists_packets (bs : Bytes) :
    ∃ ps rest, bs = Packet.encodeAll ps ++ rest ∧ (∀ p ∈ ps, p.InLimit) ∧
      (DeclaresTooMuch rest ∨ CutShort rest) := by
  induction hn : bs.length using Nat.strongRecOn generalizing bs with
  | ind n ih =>
    rcases exists_packet_or bs with ⟨p, after, hp, rfl⟩ | hrest
    · have hless : after.length < n := by
        rw [← hn, List.length_append, Packet.length_encode, headerSize]
        omega
      obtain ⟨ps, rest, rfl, hps, hrest⟩ := ih after.length hless after rfl
      refine ⟨p :: ps, rest, ?_, List.forall_mem_cons.mpr ⟨hp, hps⟩, hrest⟩
      simp [Packet.encodeAll]
    · exact ⟨[], bs, rfl, by simp, hrest⟩

/-- The declared length is spelled by the last four bytes of a header. -/
theorem declaredLength_eq {bs : Bytes} (h : bs.length = headerSize) :
    declaredLength bs = BigEndian.decode (bs.drop 8) := by
  have hlength : (bs.drop 8).length = 4 := by simp [h, headerSize]
  have hlt := BigEndian.decode_lt (bs.drop 8)
  rw [hlength] at hlt
  rw [declaredLength, Header.decode, List.take_of_length_le (Nat.le_of_eq hlength),
    UInt32.toNat_ofNat_of_lt' hlt]

/-- What a header declares once it is completed: what is there of its length, moved up by the bytes
that were missing, and what these spell. -/
theorem declaredLength_append {bs after : Bytes} (h : (bs ++ after).length = headerSize)
    (hbegun : 8 ≤ bs.length) :
    declaredLength (bs ++ after) =
      BigEndian.decode (bs.drop 8) * 256 ^ (headerSize - bs.length) + BigEndian.decode after := by
  have hmissing : after.length = headerSize - bs.length := by
    rw [List.length_append] at h
    omega
  rw [declaredLength_eq h, List.drop_append_of_le_length hbegun, BigEndian.decode_append, hmissing]

/-- A header that begins to declare too much has begun to declare. -/
theorem BeginsTooMuch.length {bs : Bytes} (h : BeginsTooMuch bs) : 8 ≤ bs.length := by
  by_contra hless
  have hnone : bs.drop 8 = [] := List.drop_eq_nil_of_le (by omega)
  have hexceeds := h.2
  rw [hnone] at hexceeds
  simp [BigEndian.decode] at hexceeds

/-- A packet within the limit does not begin to declare too much. -/
theorem BeginsPacket.not_beginsTooMuch {bs : Bytes} (h : BeginsPacket bs) : ¬ BeginsTooMuch bs := by
  intro hexceeds
  obtain ⟨p, hp, ⟨after, hafter⟩, -⟩ := h
  have hless : bs.length < headerSize := hexceeds.1
  have hsize : headerSize ≤ p.encode.length := by simp
  have hheader : p.encode.take headerSize = bs ++ after.take (headerSize - bs.length) := by
    rw [← hafter, List.take_append, List.take_of_length_le (Nat.le_of_lt hless)]
  have hlength : (bs ++ after.take (headerSize - bs.length)).length = headerSize := by
    rw [← hheader, List.length_take]
    omega
  have hdeclared := declaredLength_append hlength hexceeds.length
  rw [← hheader, declaredLength, Header.decode_take_headerSize] at hdeclared
  have hbody := declaredLength_encode_append hp []
  rw [List.append_nil, declaredLength] at hbody
  have hlimit : p.body.length ≤ maxBodySize := hp
  have hlarge := hexceeds.2
  omega

/-- A header that is cut short and does not begin to declare too much begins a packet: the one whose
missing bytes are zeros. -/
theorem beginsPacket_of_header {bs : Bytes} (hless : bs.length < headerSize)
    (hfits : ¬ BeginsTooMuch bs) : BeginsPacket bs := by
  obtain ⟨zeros, hzeros⟩ : ∃ zeros, zeros = List.replicate (headerSize - bs.length) (0 : UInt8) :=
    ⟨_, rfl⟩
  have hlength : (bs ++ zeros).length = headerSize := by
    rw [hzeros, List.length_append, List.length_replicate]
    omega
  have hdeclared : declaredLength (bs ++ zeros) ≤ maxBodySize := by
    by_cases hbegun : 8 ≤ bs.length
    · rw [declaredLength_append hlength hbegun, hzeros, BigEndian.decode_zeros, Nat.add_zero]
      exact Nat.le_of_not_lt fun hlarge => hfits ⟨hless, hlarge⟩
    · have hnone : (bs ++ zeros).drop 8 = zeros.drop (8 - bs.length) := by
        rw [List.drop_append, List.drop_eq_nil_of_le (by omega), List.nil_append]
      rw [declaredLength_eq hlength, hnone, hzeros, List.drop_replicate, BigEndian.decode_zeros]
      exact Nat.zero_le _
  obtain ⟨body, hbody⟩ : ∃ body, body = List.replicate (declaredLength (bs ++ zeros)) (0 : UInt8) :=
    ⟨_, rfl⟩
  have hsize : body.length = declaredLength (bs ++ zeros) := by rw [hbody, List.length_replicate]
  have hencode : ((Header.decode (bs ++ zeros)).packet body).encode = bs ++ (zeros ++ body) := by
    rw [Header.encode_packet hsize, Header.encode_decode hlength, List.append_assoc]
  refine ⟨(Header.decode (bs ++ zeros)).packet body, ?_, ⟨zeros ++ body, hencode.symm⟩, ?_⟩
  · rw [Packet.InLimit, Header.packet, hsize]
    exact hdeclared
  · intro he
    rw [hencode] at he
    have hsame := congrArg List.length he
    rw [List.length_append, List.length_append] at hsame
    rw [List.length_append] at hlength
    omega

/-- A body that is cut short begins a packet: the one whose missing bytes are zeros. -/
theorem beginsPacket_of_body {bs : Bytes} (hheader : headerSize ≤ bs.length)
    (hlimit : declaredLength bs ≤ maxBodySize)
    (hless : bs.length < headerSize + declaredLength bs) : BeginsPacket bs := by
  obtain ⟨zeros, hzeros⟩ : ∃ zeros, zeros =
    List.replicate (headerSize + declaredLength bs - bs.length) (0 : UInt8) := ⟨_, rfl⟩
  have hsize : (bs.drop headerSize ++ zeros).length = declaredLength bs := by
    rw [hzeros, List.length_append, List.length_drop, List.length_replicate]
    omega
  have hfirst : (bs.take headerSize).length = headerSize := by
    rw [List.length_take]
    omega
  have hencode : ((Header.decode bs).packet (bs.drop headerSize ++ zeros)).encode =
      bs ++ zeros := by
    rw [Header.encode_packet hsize, ← Header.decode_take_headerSize, Header.encode_decode hfirst,
      ← List.append_assoc, List.take_append_drop]
  refine ⟨(Header.decode bs).packet (bs.drop headerSize ++ zeros), ?_, ⟨zeros, hencode.symm⟩, ?_⟩
  · rw [Packet.InLimit, Header.packet, hsize]
    exact hlimit
  · intro he
    rw [hencode] at he
    have hsame := congrArg List.length he
    rw [List.length_append, hzeros, List.length_replicate] at hsame
    omega

/-- What is cut short begins a packet unless it begins to declare too much. -/
theorem beginsPacket_iff {bs : Bytes} (hshort : CutShort bs) :
    BeginsPacket bs ↔ ¬ BeginsTooMuch bs := by
  constructor
  · exact BeginsPacket.not_beginsTooMuch
  · intro hfits
    by_cases hheader : bs.length < headerSize
    · exact beginsPacket_of_header hheader hfits
    · obtain ⟨hlimit, hless⟩ := hshort.resolve_left hheader
      exact beginsPacket_of_body (by omega) hlimit hless

namespace Stream

/-- A stream that delivers some pieces and then ends. -/
def ofChunks (chunks : List Bytes) : Stream := chunks.map Arrival.bytes

/-- A stream has as many bytes to deliver as its pieces together. -/
theorem size_ofChunks (chunks : List Bytes) : (ofChunks chunks).size = chunks.flatten.length := by
  induction chunks with
  | nil => rfl
  | cons bs rest ih =>
    change bs.length + (ofChunks rest).size = _
    rw [ih, List.flatten_cons, List.length_append]

/-- Bytes that are there are taken as they stand, whatever the pieces; what is left is a stream in
pieces again. -/
theorem take_ofChunks {n : Nat} {chunks : List Bytes} (h : n ≤ chunks.flatten.length) :
    ∃ left : List Bytes,
      (ofChunks chunks).take n = ⟨.ok (chunks.flatten.take n), n, ofChunks left⟩ ∧
        left.flatten = chunks.flatten.drop n := by
  induction chunks generalizing n with
  | nil =>
    obtain rfl : n = 0 := by simpa using h
    exact ⟨[], rfl, rfl⟩
  | cons bs rest ih =>
    change ∃ left : List Bytes, take n (.bytes bs :: ofChunks rest) = _ ∧ _
    rw [List.flatten_cons, List.length_append] at h
    rw [take, List.flatten_cons]
    dsimp only
    split
    · next hall =>
      have hn : n ≤ bs.length := by
        rw [List.length_take] at hall
        omega
      refine ⟨bs.drop n :: rest, ?_, ?_⟩
      · rw [List.take_append_of_le_length hn]
        rfl
      · rw [List.flatten_cons, List.drop_append_of_le_length hn]
    · next hpart =>
      have hn : bs.length < n := by
        rw [List.length_take] at hpart
        omega
      have hgot : bs.take n = bs := List.take_of_length_le (by omega)
      obtain ⟨left, htaken, hleft⟩ := ih (n := n - bs.length) (by omega)
      refine ⟨left, ?_, ?_⟩
      · rw [hgot, htaken, List.take_append, hgot]
        simp only [Except.map, Taken.mk.injEq, true_and, and_true]
        omega
      · have hnone : bs.drop n = [] := List.drop_eq_nil_of_le (Nat.le_of_lt hn)
        rw [hleft, List.drop_append, hnone, List.nil_append]

/-- Where there are fewer bytes than asked for, all of them are taken and the stream has ended. -/
theorem take_ofChunks_of_lt {n : Nat} {chunks : List Bytes} (h : chunks.flatten.length < n) :
    (ofChunks chunks).take n = ⟨.error .connectionClosed, chunks.flatten.length, []⟩ := by
  induction chunks generalizing n with
  | nil =>
    have hn : n ≠ 0 := by
      rw [List.flatten_nil, List.length_nil] at h
      omega
    change take n [] = _
    rw [take, if_neg hn]
    rfl
  | cons bs rest ih =>
    change take n (.bytes bs :: ofChunks rest) = _
    rw [List.flatten_cons, List.length_append] at h ⊢
    have hgot : bs.take n = bs := List.take_of_length_le (by omega)
    rw [take, hgot]
    dsimp only
    rw [if_neg (by omega), ih (by omega)]
    rfl

/-- A packet that stands first is read, and no more than its bytes are taken. -/
theorem readPacket_of_packet {p : Packet} {after : Bytes} {chunks : List Bytes} (hp : p.InLimit)
    (h : chunks.flatten = p.encode ++ after) :
    ∃ left : List Bytes, (ofChunks chunks).readPacket = ⟨.ok p, p.encode.length, ofChunks left⟩ ∧
      left.flatten = after := by
  have hsize : headerSize ≤ chunks.flatten.length := by
    rw [h, List.length_append, Packet.length_encode]
    omega
  obtain ⟨chunks₁, hhead, hrest⟩ := take_ofChunks hsize
  have hheader : Header.decode (chunks.flatten.take headerSize) = p.header := by
    rw [Header.decode_take_headerSize, h, Packet.encode, List.append_assoc, Header.decode_encode]
  have hlength : p.header.bodyLength.toNat = p.body.length := by
    have hdeclared := declaredLength_encode_append hp []
    rwa [declaredLength, List.append_nil, Packet.encode, Header.decode_encode] at hdeclared
  have hbody : chunks₁.flatten = p.body ++ after := by
    rw [hrest, h, Packet.encode, List.append_assoc, List.drop_left' (Header.length_encode _)]
  have hthere : p.body.length ≤ chunks₁.flatten.length := by
    rw [hbody, List.length_append]
    omega
  obtain ⟨left, htaken, hleft⟩ := take_ofChunks hthere
  rw [hbody, List.take_left] at htaken
  rw [hbody, List.drop_left] at hleft
  refine ⟨left, ?_, hleft⟩
  have hwithin : p.header.withinLimit = true := by
    rw [Header.withinLimit, hlength]
    exact decide_eq_true hp
  rw [readPacket, hhead]
  dsimp only
  rw [hheader, hwithin, hlength, htaken, Packet.length_encode]
  rfl

/-- A header that declares too large a body is refused, and no more than its bytes are taken. -/
theorem readPacket_of_declaresTooMuch {chunks : List Bytes} (h : DeclaresTooMuch chunks.flatten) :
    (ofChunks chunks).readPacket.result = .error (.bodyTooLarge (declaredLength chunks.flatten)) ∧
      (ofChunks chunks).readPacket.consumed = headerSize := by
  obtain ⟨left, hhead, -⟩ := take_ofChunks h.1
  have hlarge : (Header.decode chunks.flatten).withinLimit = false :=
    decide_eq_false (Nat.not_le_of_lt h.2)
  rw [readPacket, hhead]
  dsimp only
  rw [Header.decode_take_headerSize, hlarge]
  exact ⟨rfl, rfl⟩

/-- Where a packet is cut short, all that is there is taken and the peer has closed. -/
theorem readPacket_of_cutShort {chunks : List Bytes} (h : CutShort chunks.flatten) :
    (ofChunks chunks).readPacket.result = .error .connectionClosed ∧
      (ofChunks chunks).readPacket.consumed = chunks.flatten.length := by
  by_cases hheader : chunks.flatten.length < headerSize
  · rw [readPacket, take_ofChunks_of_lt hheader]
    exact ⟨rfl, rfl⟩
  obtain ⟨hlimit, hless⟩ := h.resolve_left hheader
  obtain ⟨left, hhead, hleft⟩ := take_ofChunks (Nat.le_of_not_lt hheader)
  have hrest : left.flatten.length = chunks.flatten.length - headerSize := by
    rw [hleft, List.length_drop]
  have hbody : left.flatten.length < (Header.decode chunks.flatten).bodyLength.toNat := by
    have hdeclared : (Header.decode chunks.flatten).bodyLength.toNat =
        declaredLength chunks.flatten := rfl
    rw [hrest, hdeclared]
    omega
  have hwithin : (Header.decode chunks.flatten).withinLimit = true := decide_eq_true hlimit
  rw [readPacket, hhead]
  dsimp only
  rw [Header.decode_take_headerSize, hwithin, take_ofChunks_of_lt hbody, hrest]
  exact ⟨rfl, Nat.add_sub_cancel' (Nat.le_of_not_lt hheader)⟩

/-- What reading gives for some packets: each of them, with the number of bytes taken up to its
end. -/
def received (consumed : Nat) : List Packet → List (Except ReadError Packet × Nat)
  | [] => []
  | p :: ps =>
    (.ok p, consumed + p.encode.length) :: received (consumed + p.encode.length) ps

/-- Packets that stand first are read one after the other, and then reading goes on after them. -/
theorem readPacketsFrom_encodeAll {ps : List Packet} {rest : Bytes} {chunks : List Bytes}
    {fuel : Nat} (consumed : Nat) (hps : ∀ p ∈ ps, p.InLimit)
    (h : chunks.flatten = Packet.encodeAll ps ++ rest) (hfuel : chunks.flatten.length < fuel) :
    ∃ (left : List Bytes) (fuel' : Nat), left.flatten = rest ∧ rest.length < fuel' ∧
      readPacketsFrom fuel consumed (ofChunks chunks) = received consumed ps ++
        readPacketsFrom fuel' (consumed + (Packet.encodeAll ps).length) (ofChunks left) := by
  induction ps generalizing chunks fuel consumed with
  | nil => exact ⟨chunks, fuel, h, by rw [← show chunks.flatten = rest from h]; exact hfuel, rfl⟩
  | cons p ps ih =>
    obtain ⟨hp, hps⟩ := List.forall_mem_cons.mp hps
    have hsplit : chunks.flatten = p.encode ++ (Packet.encodeAll ps ++ rest) := by
      rw [h, ← List.append_assoc]
      rfl
    obtain ⟨chunks₁, hread, hflat⟩ := readPacket_of_packet hp hsplit
    obtain ⟨fuel, rfl⟩ : ∃ fuel₁, fuel = fuel₁ + 1 := ⟨fuel - 1, by omega⟩
    have hless : chunks₁.flatten.length < fuel := by
      rw [hsplit, List.length_append, Packet.length_encode, ← hflat, headerSize] at hfuel
      omega
    obtain ⟨left, fuel', hleft, hfuel', hlater⟩ :=
      ih (consumed + p.encode.length) hps hflat hless
    refine ⟨left, fuel', hleft, hfuel', ?_⟩
    have hall : (Packet.encodeAll (p :: ps)).length =
        p.encode.length + (Packet.encodeAll ps).length := by
      rw [Packet.encodeAll, List.flatMap_cons, List.length_append]
      rfl
    rw [readPacketsFrom, hread, hall, ← Nat.add_assoc]
    dsimp only
    rw [hlater]
    rfl

/-- Reading ends with the first error. -/
theorem readPacketsFrom_of_error {s : Stream} {fuel : Nat} {e : ReadError} (consumed : Nat)
    (hfuel : 0 < fuel) (herror : s.readPacket.result = .error e) :
    readPacketsFrom fuel consumed s = [(.error e, consumed + s.readPacket.consumed)] := by
  obtain ⟨fuel, rfl⟩ : ∃ fuel₁, fuel = fuel₁ + 1 := ⟨fuel - 1, by omega⟩
  rw [readPacketsFrom, herror]

/-- Packets and then a rest that begins none: the packets are read, and the first error is that of
the rest. -/
theorem readPackets_of_error {ps : List Packet} {rest : Bytes} {chunks : List Bytes} {e : ReadError}
    {taken : Nat} (hps : ∀ p ∈ ps, p.InLimit) (h : chunks.flatten = Packet.encodeAll ps ++ rest)
    (herror : ∀ left : List Bytes, left.flatten = rest →
      (ofChunks left).readPacket.result = .error e ∧ (ofChunks left).readPacket.consumed = taken) :
    readPackets (ofChunks chunks) =
      received 0 ps ++ [(.error e, (Packet.encodeAll ps).length + taken)] := by
  have hsize : chunks.flatten.length < (ofChunks chunks).size + 1 := by
    rw [size_ofChunks]
    omega
  obtain ⟨left, fuel, hleft, hfuel, hread⟩ := readPacketsFrom_encodeAll 0 hps h hsize
  obtain ⟨hresult, htaken⟩ := herror left hleft
  rw [readPackets, hread, Nat.zero_add, readPacketsFrom_of_error _ (by omega) hresult, htaken]

/-- Packets and then a rest that is cut short: the packets are read, and then the peer has closed
and all bytes are taken. -/
theorem readPackets_of_cutShort {ps : List Packet} {rest : Bytes} {chunks : List Bytes}
    (hps : ∀ p ∈ ps, p.InLimit) (h : chunks.flatten = Packet.encodeAll ps ++ rest)
    (hshort : CutShort rest) :
    readPackets (ofChunks chunks) =
      received 0 ps ++ [(.error .connectionClosed, chunks.flatten.length)] := by
  rw [h, List.length_append]
  apply readPackets_of_error hps h
  intro left hleft
  subst hleft
  exact readPacket_of_cutShort hshort

/-- Framing is exact, in whatever pieces a stream delivers its bytes. If the bytes are those of some
packets within the limit, exactly these are read and then the peer has closed. Whatever the bytes
are, those taken for packets are exactly the packets' encodings. If the rest declares too large a
body in a complete header, the error tells the size and the header is all that is taken of the rest;
otherwise the peer has closed, and all of the rest is taken. The rest is then the beginning of a
packet within the limit exactly if it is not a header, cut short within its length, that begins to
declare too much. -/
theorem readPackets_exact (chunks : List Bytes) :
    (∀ ps : List Packet, (∀ p ∈ ps, p.InLimit) → chunks.flatten = Packet.encodeAll ps →
      readPackets (ofChunks chunks) =
        received 0 ps ++ [(.error .connectionClosed, chunks.flatten.length)]) ∧
    ∃ (ps : List Packet) (rest : Bytes), chunks.flatten = Packet.encodeAll ps ++ rest ∧
      (∀ p ∈ ps, p.InLimit) ∧
      (DeclaresTooMuch rest ∧ readPackets (ofChunks chunks) = received 0 ps ++
          [(.error (.bodyTooLarge (declaredLength rest)),
            (Packet.encodeAll ps).length + headerSize)] ∨
        ¬ DeclaresTooMuch rest ∧ readPackets (ofChunks chunks) = received 0 ps ++
          [(.error .connectionClosed, chunks.flatten.length)] ∧
          (BeginsPacket rest ↔ ¬ BeginsTooMuch rest)) := by
  constructor
  · intro ps hps hall
    have hnone : CutShort [] := .inl (by decide)
    exact readPackets_of_cutShort hps (hall.trans (List.append_nil _).symm) hnone
  · obtain ⟨ps, rest, hsplit, hps, hlarge | hshort⟩ := exists_packets chunks.flatten
    · refine ⟨ps, rest, hsplit, hps, .inl ⟨hlarge, readPackets_of_error hps hsplit ?_⟩⟩
      intro left hleft
      subst hleft
      exact readPacket_of_declaresTooMuch hlarge
    · refine ⟨ps, rest, hsplit, hps, .inr ⟨?_, readPackets_of_cutShort hps hsplit hshort,
        beginsPacket_iff hshort⟩⟩
      rintro ⟨hheader, hlarge⟩
      rcases hshort with hless | ⟨hlimit, -⟩ <;> omega

/-- A packet whose header and body both arrive in two pieces. -/
def splitPacket : List Bytes := [[0, 4, 0, 6, 0, 0, 0, 2, 0], [0, 0, 2, 7], [9]]

/-- It is read once, and then the peer has closed. -/
theorem readPackets_exact_splitPacket :
    (∀ p ∈ [(⟨4, 6, 2, [7, 9]⟩ : Packet)], p.InLimit) ∧
      splitPacket.flatten = Packet.encodeAll [⟨4, 6, 2, [7, 9]⟩] ∧
      readPackets (ofChunks splitPacket) =
        [(.ok ⟨4, 6, 2, [7, 9]⟩, 14), (.error .connectionClosed, 14)] := by
  have hlimit : ∀ p ∈ [(⟨4, 6, 2, [7, 9]⟩ : Packet)], p.InLimit := by
    intro p hp
    obtain rfl := List.mem_singleton.mp hp
    rw [Packet.InLimit]
    decide
  have hbytes : splitPacket.flatten = Packet.encodeAll [⟨4, 6, 2, [7, 9]⟩] := by decide
  exact ⟨hlimit, hbytes, (readPackets_exact splitPacket).1 _ hlimit hbytes⟩

/-- A header that is cut short after the first byte of its length, which is 1. -/
def headerCutShort : Bytes := [0, 1, 0, 1, 0, 0, 0, 0, 1]

/-- The peer has closed after these bytes, which are no packets with a rest that begins another:
every length that begins with this byte exceeds the limit. -/
theorem readPackets_headerCutShort :
    readPackets (ofChunks [headerCutShort]) = [(.error .connectionClosed, 9)] ∧
      ¬ ∃ (ps : List Packet) (rest : Bytes), headerCutShort = Packet.encodeAll ps ++ rest ∧
        (readPackets (ofChunks [headerCutShort]) = received 0 ps ++
            [(.error (.bodyTooLarge (declaredLength rest)),
              (Packet.encodeAll ps).length + headerSize)] ∨
          readPackets (ofChunks [headerCutShort]) = received 0 ps ++
            [(.error .connectionClosed, 9)] ∧ BeginsPacket rest) := by
  have hread : readPackets (ofChunks [headerCutShort]) = [(.error .connectionClosed, 9)] := by
    decide
  have hexceeds : BeginsTooMuch headerCutShort := by
    rw [BeginsTooMuch]
    decide
  refine ⟨hread, ?_⟩
  rintro ⟨ps, rest, hsplit, hclaimed⟩
  rw [hread] at hclaimed
  cases ps with
  | nil =>
    obtain rfl : headerCutShort = rest := hsplit
    rcases hclaimed with hlarge | ⟨-, hbegins⟩
    · simp [received] at hlarge
    · exact hbegins.not_beginsTooMuch hexceeds
  | cons p ps => simp [received] at hclaimed

end Stream

end PlayServer
