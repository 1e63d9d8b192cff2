import PlayServer.Metrics.Counters
import PlayServer.Proofs.Newest
import PlayServer.Proofs.Number.Single

/-!
# Percentiles of tick times

The gauges of tick times are taken anew with each tick, once there are ten samples, so what they
show after a run depends on the window alone. The window holds the newest thousand of all tick
times, `window_ticks`, and the gauges show order statistics of it, `showsOrder_takePercentiles`.

Which sample is shown is computed in single precision, where neither 0.95 nor 0.99 is exact. For
windows of up to a thousand samples the place is nevertheless the exact share of their number,
rounded down.
-/

namespace PlayServer.Metrics

open Single (Denotes roundedQuotient)

/-- A share of a count, computed in single precision, ends at a place: the product of the two has 24
bits once it is rounded, and the place is its whole part. The share is a significand of 24 bits
after the point. -/
def EndsAt (significand count place : Nat) : Prop :=
  let product := count * 2 ^ (23 - count.log2) * significand
  let lost := product.log2 - 23
  23 ≤ product.log2 ∧ roundedQuotient product (2 ^ lost) < 2 ^ 24 ∧ count.log2 + lost ≤ 47 ∧
    roundedQuotient product (2 ^ lost) / 2 ^ (47 - count.log2 - lost) = place

instance (significand count place : Nat) : Decidable (EndsAt significand count place) :=
  inferInstanceAs (Decidable (_ ∧ _))

/-- The index of a share is the place at which it ends. -/
theorem shareIndex_of_endsAt {share : Float32} {significand count place : Nat}
    (hshare : Denotes share significand (-24)) (pos : 0 < count) (few : count < 2 ^ 23)
    (ends : EndsAt significand count place) : shareIndex share count = place := by
  obtain ⟨hbits, hupper, hlost, rfl⟩ := ends
  have hlog : count.log2 < 23 := (Nat.log2_lt (by omega)).mpr few
  have hcount := Single.denotes_ofNat (Nat.log2_self_le (by omega)) Nat.lt_log2_self hlog
  have hproduct := hcount.mul hshare (by omega) hupper (by omega) (by omega)
  rw [shareIndex, hproduct.toUInt64 (by omega)]
  congr 2
  omega

/-- Within the size of the window 95 hundredths end where they do without rounding. -/
theorem shareIndex_95 {count : Nat} (pos : 0 < count) (few : count ≤ windowSize) :
    shareIndex 0.95 count = 95 * count / 100 := by
  have hshare : Denotes 0.95 15938355 (-24) :=
    Single.denotes_of_eq (by decide) (by decide) (by decide) (by decide) (by decide +kernel)
  -- At the multiples of twenty the product falls short and only its rounding makes up for it, so
  -- each count is looked at.
  have hends : ∀ count ≤ windowSize, 0 < count → EndsAt 15938355 count (95 * count / 100) := by
    decide +kernel
  exact shareIndex_of_endsAt hshare pos (Nat.lt_of_le_of_lt few (by decide)) (hends count few pos)

/-- Within the size of the window 99 hundredths end where they do without rounding. -/
theorem shareIndex_99 {count : Nat} (pos : 0 < count) (few : count ≤ windowSize) :
    shareIndex 0.99 count = 99 * count / 100 := by
  have hshare : Denotes 0.99 16609444 (-24) :=
    Single.denotes_of_eq (by decide) (by decide) (by decide) (by decide) (by decide +kernel)
  have hends : ∀ count ≤ windowSize, 0 < count → EndsAt 16609444 count (99 * count / 100) := by
    decide +kernel
  exact shareIndex_of_endsAt hshare pos (Nat.lt_of_le_of_lt few (by decide)) (hends count few pos)

/-- Ticks happen one after the other. -/
def ticks (m : Metrics) (times : List Duration) : Metrics := times.foldl tick m

/-- The gauges show order statistics of some samples, given in ascending order and counted from 0:
the samples at 95 and at 99 hundredths of their number, rounded down, and the greatest. -/
structure ShowsOrder (m : Metrics) (sorted : List Nat) : Prop where
  p95 : sorted[95 * sorted.length / 100]? = some m.tickTimeP95.toNat
  p99 : sorted[99 * sorted.length / 100]? = some m.tickTimeP99.toNat
  greatest : sorted[sorted.length - 1]? = some m.tickTimeMax.toNat

variable {m : Metrics}

/-- Percentiles are three gauges. -/
theorem takePercentiles_eq (m : Metrics) : m.takePercentiles = { m with
    tickTimeP95 := m.takePercentiles.tickTimeP95
    tickTimeP99 := m.takePercentiles.tickTimeP99
    tickTimeMax := m.takePercentiles.tickTimeMax } := by
  unfold takePercentiles
  split <;> rfl

/-- What a tick does, but for the percentiles. -/
theorem tick_eq (m : Metrics) (time : Duration) : m.tick time = takePercentiles { m with
    tickTime := time.micros
    tickCount := m.tickCount + 1
    window := (m.window ++ [time.micros]).rtake windowSize } := by
  rw [tick, List.rtake]

/-- A tick moves the window along. -/
theorem window_tick (m : Metrics) (time : Duration) :
    (m.tick time).window = (m.window ++ [time.micros]).rtake windowSize := by
  rw [tick_eq, takePercentiles_eq]

/-- A tick is counted. -/
theorem tickCount_tick (m : Metrics) (time : Duration) :
    (m.tick time).tickCount = m.tickCount + 1 := by
  rw [tick_eq, takePercentiles_eq]

/-- The time of the last tick is shown. -/
theorem tickTime_tick (m : Metrics) (time : Duration) : (m.tick time).tickTime = time.micros := by
  rw [tick_eq, takePercentiles_eq]

/-- The window never holds more than its size. -/
theorem length_window_tick (m : Metrics) (time : Duration) :
    (m.tick time).window.length = min windowSize (m.window.length + 1) := by
  rw [window_tick, length_rtake, List.length_append, List.length_singleton]

/-- Sorting puts samples in ascending order. -/
theorem pairwise_mergeSort (samples : List UInt64) : samples.mergeSort.Pairwise (· ≤ ·) := by
  have htrans (a b c : UInt64) : decide (a ≤ b) → decide (b ≤ c) → decide (a ≤ c) := by
    simpa using UInt64.le_trans
  have htotal (a b : UInt64) : decide (a ≤ b) || decide (b ≤ a) := by
    simpa using UInt64.le_total a b
  simpa using List.pairwise_mergeSort htrans htotal samples

/-- In ascending order what comes later is no less. -/
theorem le_of_index_le {sorted : List Nat} {i j a b : Nat} (ordered : sorted.Pairwise (· ≤ ·))
    (index : i ≤ j) (ha : sorted[i]? = some a) (hb : sorted[j]? = some b) : a ≤ b := by
  obtain ⟨hi, rfl⟩ := List.getElem?_eq_some_iff.mp ha
  obtain ⟨hj, rfl⟩ := List.getElem?_eq_some_iff.mp hb
  rcases Nat.eq_or_lt_of_le index with rfl | hlt
  · exact Nat.le_refl _
  · exact List.pairwise_iff_getElem.mp ordered i j hi hj hlt

/-- A percentile is the sample at its place. -/
theorem getElem?_percentile {sorted : List UInt64} {share : Float32} {place : Nat}
    (index : shareIndex share sorted.length = place) (inside : place < sorted.length) :
    sorted[place]? = some (percentile sorted share) := by
  rw [percentile, index, Nat.min_eq_left (by omega), List.getD_eq_getElem?_getD,
    List.getElem?_eq_getElem inside, Option.getD_some]

/-- Where there are enough samples the gauges show order statistics of them. -/
theorem showsOrder_takePercentiles (enough : ¬m.window.length < percentileThreshold)
    (few : m.window.length ≤ windowSize) :
    m.takePercentiles.ShowsOrder (m.window.mergeSort.map UInt64.toNat) := by
  have hlength : m.window.mergeSort.length = m.window.length := List.length_mergeSort m.window
  rw [takePercentiles, if_neg enough]
  generalize m.window.mergeSort = sorted at hlength
  rw [← hlength] at enough few
  rw [percentileThreshold] at enough
  have hpos : 0 < sorted.length := by omega
  constructor
  · rw [List.length_map, List.getElem?_map, getElem?_percentile (shareIndex_95 hpos few) (by omega)]
    rfl
  · rw [List.length_map, List.getElem?_map, getElem?_percentile (shareIndex_99 hpos few) (by omega)]
    rfl
  · dsimp only
    rw [List.length_map, List.getElem?_map, List.getLastD_eq_getLast?, List.getLast?_eq_getElem?,
      List.getElem?_eq_getElem (by omega)]
    rfl

/-- With a tick the gauges are taken anew. -/
theorem showsOrder_tick {time : Duration}
    (enough : ¬(m.tick time).window.length < percentileThreshold) :
    (m.tick time).ShowsOrder ((m.tick time).window.mergeSort.map UInt64.toNat) := by
  have hfew := length_window_tick m time
  rw [window_tick] at enough hfew ⊢
  rw [tick_eq]
  generalize (m.window ++ [time.micros]).rtake windowSize = window at enough hfew ⊢
  exact showsOrder_takePercentiles enough (by rw [hfew]; exact Nat.min_le_left _ _)

/-- The greater the share, the greater the sample. -/
theorem ShowsOrder.ordered {sorted : List Nat} (h : m.ShowsOrder sorted)
    (ordered : sorted.Pairwise (· ≤ ·)) :
    m.tickTimeP95 ≤ m.tickTimeP99 ∧ m.tickTimeP99 ≤ m.tickTimeMax := by
  rw [UInt64.le_iff_toNat_le, UInt64.le_iff_toNat_le]
  have hp99 := (List.getElem?_eq_some_iff.mp h.p99).1
  exact ⟨le_of_index_le ordered (by omega) h.p95 h.p99,
    le_of_index_le ordered (by omega) h.p99 h.greatest⟩

/-- What happens first comes first. -/
theorem ticks_cons (m : Metrics) (time : Duration) (rest : List Duration) :
    m.ticks (time :: rest) = (m.tick time).ticks rest :=
  List.foldl_cons ..

/-- The last tick comes after all others. -/
theorem ticks_concat (m : Metrics) (times : List Duration) (last : Duration) :
    m.ticks (times ++ [last]) = (m.ticks times).tick last :=
  List.foldl_concat ..

/-- The window holds the newest samples. -/
theorem window_ticks (few : m.window.length ≤ windowSize) (times : List Duration) :
    (m.ticks times).window = (m.window ++ times.map Duration.micros).rtake windowSize := by
  induction times generalizing m with
  | nil =>
    rw [List.map_nil, List.append_nil, rtake_of_length_le few]
    rfl
  | cons time rest ih =>
    have hfew : (m.tick time).window.length ≤ windowSize := by
      rw [length_window_tick]
      exact Nat.min_le_left _ _
    rw [ticks_cons, ih hfew, window_tick, rtake_append_rtake, List.map_cons, List.append_assoc,
      List.singleton_append]

/-- All ticks are counted. -/
theorem tickCount_ticks (m : Metrics) (times : List Duration) :
    (m.ticks times).tickCount = m.tickCount + UInt64.ofNat times.length := by
  induction times generalizing m with
  | nil => exact (UInt64.add_zero _).symm
  | cons time rest ih =>
    rw [ticks_cons, ih, tickCount_tick, List.length_cons, UInt64.add_assoc, UInt64.add_comm 1,
      UInt64.ofNat_add]
    rfl

/-- While samples are too few no percentile is taken. -/
theorem percentiles_ticks_of_few {times : List Duration}
    (few : m.window.length + times.length < percentileThreshold) :
    (m.ticks times).tickTimeP95 = m.tickTimeP95 ∧ (m.ticks times).tickTimeP99 = m.tickTimeP99 ∧
      (m.ticks times).tickTimeMax = m.tickTimeMax := by
  induction times generalizing m with
  | nil => exact ⟨rfl, rfl, rfl⟩
  | cons time rest ih =>
    rw [List.length_cons] at few
    have hlength := length_window_tick m time
    have hfew : (m.tick time).window.length + rest.length < percentileThreshold := by omega
    have hnone : ((m.window ++ [time.micros]).rtake windowSize).length < percentileThreshold := by
      rw [← window_tick]
      omega
    obtain ⟨hp95, hp99, hmax⟩ := ih hfew
    rw [ticks_cons, hp95, hp99, hmax, tick_eq, takePercentiles, if_pos hnone]
    exact ⟨rfl, rfl, rfl⟩

/-- After a run the gauges show the time of the last tick and the number of ticks, as far as 64 bits
do, and order statistics of the newest thousand tick times, once there are ten. The places of these
are never outside the window. -/
theorem gauges_of_ticks (times : List Duration) (last : Duration) :
    let all := times ++ [last]
    let m := ticks {} all
    let newest := (all.rtake 1000).map fun time => time.nanos / 1000 % 2 ^ 64
    m.tickTime.toNat = last.nanos / 1000 % 2 ^ 64 ∧
      m.tickCount.toNat = all.length % 2 ^ 64 ∧
      if all.length < 10 then m.tickTimeP95 = 0 ∧ m.tickTimeP99 = 0 ∧ m.tickTimeMax = 0
      else
        (∃ sorted : List Nat, sorted.Perm newest ∧ sorted.Pairwise (· ≤ ·) ∧ m.ShowsOrder sorted) ∧
          m.tickTimeP95 ≤ m.tickTimeP99 ∧ m.tickTimeP99 ≤ m.tickTimeMax ∧
          shareIndex 0.95 newest.length < newest.length ∧
          shareIndex 0.99 newest.length < newest.length := by
  intro all m newest
  have hmicros (time : Duration) : time.micros.toNat = time.nanos / 1000 % 2 ^ 64 :=
    UInt64.toNat_ofNat'
  have hwindow : m.window = (all.map Duration.micros).rtake windowSize :=
    window_ticks (Nat.zero_le _) all
  have hnewest : m.window.map UInt64.toNat = newest := by
    rw [hwindow, rtake_map, List.map_map]
    exact List.map_congr_left fun time _ => hmicros time
  have hlength : newest.length = min 1000 all.length := by
    rw [List.length_map, length_rtake]
  refine ⟨?_, ?_, ?_⟩
  · change (ticks {} (times ++ [last])).tickTime.toNat = _
    rw [ticks_concat, tickTime_tick, hmicros]
  · change (ticks {} all).tickCount.toNat = _
    rw [tickCount_ticks, UInt64.zero_add, UInt64.toNat_ofNat']
  · split
    · next hfew =>
      exact percentiles_ticks_of_few (by rw [percentileThreshold]; simpa using hfew)
    · next henough =>
      have henough : ¬m.window.length < percentileThreshold := by
        rw [hwindow, length_rtake, List.length_map, windowSize, percentileThreshold]
        omega
      have hordered : (m.window.mergeSort.map UInt64.toNat).Pairwise (· ≤ ·) :=
        List.pairwise_map.mpr (pairwise_mergeSort m.window)
      have hshows : m.ShowsOrder (m.window.mergeSort.map UInt64.toNat) := by
        change (ticks {} (times ++ [last])).ShowsOrder
          ((ticks {} (times ++ [last])).window.mergeSort.map UInt64.toNat)
        rw [ticks_concat]
        exact showsOrder_tick (by rwa [← ticks_concat])
      obtain ⟨hp95, hp99⟩ := hshows.ordered hordered
      have hpos : 0 < newest.length := by omega
      have hfew : newest.length ≤ windowSize := by
        rw [hlength]
        exact Nat.min_le_left _ _
      refine ⟨⟨_, ?_, hordered, hshows⟩, hp95, hp99, ?_, ?_⟩
      · rw [← hnewest]
        exact (List.mergeSort_perm _ _).map _
      · rw [shareIndex_95 hpos hfew]
        omega
      · rw [shareIndex_99 hpos hfew]
        omega

end PlayServer.Metrics
