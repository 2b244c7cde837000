import CanopenTools.Runs.Windows
import Mathlib.Data.List.Induction
import Mathlib.Data.List.Perm.Subperm
import Mathlib.Tactic.Linarith
import Mathlib.Algebra.Order.Field.Rat

/-!
# The bit rate of the viewer

The loop of `Bitrate::start_thread` takes a sample every 10 ms and computes the points of the chart
from the samples that it holds. A sample has a point when there is a sample `ratePeriod` places
before it, time has passed between the two and the bits between them fit an `i32`.

Subtractions of `usize` and indexing are checked operations of the model, and `ticks_concat` says
that none of them fails. After each tick the loop holds the last samples, and its points are those
of the samples that it holds. The trimming comes before the push, so that the loop holds up to
`ratesLen + ratePeriod + 1` samples. `keepsWindow_iff` says in which runs the window has its size.
-/

set_option autoImplicit false
set_option relaxedAutoImplicit false

namespace CanopenTools.Viewer

open CanopenTools.Runs

/-! ### The loop -/

def ratesLen : ℕ := 1024

def ratePeriod : ℕ := 4

/-- The points of the chart: a time and a rate. -/
abbrev RatesData := List (ℚ × ℚ)

/-- `Bitrate`: the output and the samples, each a time in seconds and the bits received so far. -/
structure Bitrate where
  rates : RatesData
  data : List (ℚ × ℕ)
  deriving DecidableEq

namespace Bitrate

/-- What makes the loop panic. -/
inductive Panic
  | subtractOverflow
  | indexOutOfBounds
  deriving DecidableEq

/-- The subtraction of `usize`. -/
def usizeSub (left right : ℕ) : Except Panic ℕ :=
  if right ≤ left then .ok (left - right) else .error .subtractOverflow

/-- The index into a `VecDeque`. -/
def index {α : Type} (data : List α) (position : ℕ) : Except Panic α :=
  match data[position]? with
  | some value => .ok value
  | none => .error .indexOutOfBounds

def i32Min : ℤ := -2147483648

def i32Max : ℤ := 2147483647

/-- `i32::try_from` of a `usize`. -/
def i32TryFrom (value : ℕ) : Option ℤ := if (value : ℤ) ≤ i32Max then some value else none

/-- `Bitrate::new`. The output belongs to the caller. -/
def new (output : RatesData) : Bitrate := ⟨output, []⟩

/-- The body of the loop of `calculate_rate`. -/
def rateStep (data : List (ℚ × ℕ)) (rates : RatesData) :
    (ℚ × ℕ) × ℕ → Except Panic RatesData
  | ((currentTime, currentBits), i) =>
    if i < ratePeriod then .ok rates
    else do
      let (prevTime, prevBits) ← index data (← usizeSub i ratePeriod)
      match i32TryFrom (← usizeSub currentBits prevBits) with
      | none => return rates
      | some bitsDiff =>
        let durationSecs := currentTime - prevTime
        if durationSecs > 0 then
          let rate := bitsDiff / durationSecs
          return rates ++ [(currentTime, rate)]
        else return rates

/-- `Bitrate::calculate_rate`. -/
def calculateRate (bitrate : Bitrate) : Except Panic Bitrate := do
  let rates ← bitrate.data.zipIdx.foldlM (rateStep bitrate.data) []
  return { bitrate with rates }

/-- One pass of the loop of `start_thread`, which takes a sample. -/
def tick (bitrate : Bitrate) (sample : ℚ × ℕ) : Except Panic Bitrate :=
  let popped := if bitrate.data.length > ratesLen + ratePeriod then bitrate.data.tail
    else bitrate.data
  calculateRate { bitrate with data := popped ++ [sample] }

/-- The loop after some samples. -/
def ticks (output : RatesData) (samples : List (ℚ × ℕ)) : Except Panic Bitrate :=
  samples.foldlM tick (new output)

/-- Six samples, 10 ms apart. -/
example : ticks [] [(0, 0), (1 / 100, 100), (2 / 100, 100), (3 / 100, 200), (4 / 100, 300),
      (5 / 100, 500)] =
    .ok ⟨[(4 / 100, 7500), (5 / 100, 10000)], [(0, 0), (1 / 100, 100), (2 / 100, 100),
      (3 / 100, 200), (4 / 100, 300), (5 / 100, 500)]⟩ := by
  decide +kernel

/-! ### The points of a window -/

section Points

variable (data : List (ℚ × ℕ)) (i : ℕ)

/-- The time of a held sample. -/
def timeAt : ℚ := (data.getD i (0, 0)).1

/-- The bits of a held sample. -/
def bitsAt : ℕ := (data.getD i (0, 0)).2

/-- The bits between a sample and the one `ratePeriod` before it. -/
def bitsDiff : ℤ := bitsAt data i - bitsAt data (i - ratePeriod)

/-- The time between a sample and the one `ratePeriod` before it. -/
def duration : ℚ := timeAt data i - timeAt data (i - ratePeriod)

/-- A sample has a point. -/
def HasPoint : Prop :=
  ratePeriod ≤ i ∧ 0 < duration data i ∧ i32Min ≤ bitsDiff data i ∧ bitsDiff data i ≤ i32Max

instance : Decidable (HasPoint data i) := inferInstanceAs (Decidable (_ ∧ _ ∧ _ ∧ _))

/-- The point of a sample. -/
def point : ℚ × ℚ := (timeAt data i, bitsDiff data i / duration data i)

/-- The points of the held samples, in their order. -/
def points : RatesData := ((List.range data.length).filter fun i ↦ HasPoint data i).map (point data)

end Points

/-! ### A pass -/

/-- Samples whose times and bits do not decrease. -/
structure NonDecreasing (samples : List (ℚ × ℕ)) : Prop where
  times : samples.Pairwise fun earlier later ↦ earlier.1 ≤ later.1
  bits : samples.Pairwise fun earlier later ↦ earlier.2 ≤ later.2

section NonDecreasing

variable {samples data : List (ℚ × ℕ)} {i : ℕ}

theorem NonDecreasing.sublist (hsamples : NonDecreasing samples) (hdata : data.Sublist samples) :
    NonDecreasing data :=
  ⟨hsamples.times.sublist hdata, hsamples.bits.sublist hdata⟩

theorem timeAt_of_getElem? {sample : ℚ × ℕ} (hsample : data[i]? = some sample) :
    timeAt data i = sample.1 := by
  rw [timeAt, List.getD_eq_getElem?_getD, hsample, Option.getD_some]

theorem bitsAt_of_getElem? {sample : ℚ × ℕ} (hsample : data[i]? = some sample) :
    bitsAt data i = sample.2 := by
  rw [bitsAt, List.getD_eq_getElem?_getD, hsample, Option.getD_some]

theorem NonDecreasing.timeAt_le (hdata : NonDecreasing data) {j : ℕ} (horder : i < j)
    (hheld : j < data.length) : timeAt data i ≤ timeAt data j := by
  rw [timeAt_of_getElem? (List.getElem?_eq_getElem (horder.trans hheld)),
    timeAt_of_getElem? (List.getElem?_eq_getElem hheld)]
  exact List.pairwise_iff_getElem.mp hdata.times i j _ hheld horder

theorem NonDecreasing.bitsAt_le (hdata : NonDecreasing data) {j : ℕ} (horder : i < j)
    (hheld : j < data.length) : bitsAt data i ≤ bitsAt data j := by
  rw [bitsAt_of_getElem? (List.getElem?_eq_getElem (horder.trans hheld)),
    bitsAt_of_getElem? (List.getElem?_eq_getElem hheld)]
  exact List.pairwise_iff_getElem.mp hdata.bits i j _ hheld horder

/-- The bits between two samples are no negative number. -/
theorem NonDecreasing.bitsDiff_nonneg (hdata : NonDecreasing data) (hperiod : ratePeriod ≤ i)
    (hheld : i < data.length) : 0 ≤ bitsDiff data i := by
  have hbefore : i - ratePeriod < i := Nat.sub_lt_self (by decide) hperiod
  have hle := hdata.bitsAt_le hbefore hheld
  unfold bitsDiff
  omega

/-- What the body of the inner loop does with a sample and the one `ratePeriod` before it. -/
theorem rateStep_of_prev {currentTime prevTime : ℚ} {currentBits prevBits : ℕ} (rates : RatesData)
    (hperiod : ratePeriod ≤ i) (hprev : data[i - ratePeriod]? = some (prevTime, prevBits))
    (hle : prevBits ≤ currentBits) :
    rateStep data rates ((currentTime, currentBits), i) =
      .ok (if ((currentBits - prevBits : ℕ) : ℤ) ≤ i32Max ∧ 0 < currentTime - prevTime then
        rates ++ [(currentTime, ((currentBits - prevBits : ℕ) : ℤ) / (currentTime - prevTime))]
      else rates) := by
  have hposition : usizeSub i ratePeriod = .ok (i - ratePeriod) := if_pos hperiod
  have hindex : index data (i - ratePeriod) = .ok (prevTime, prevBits) := by
    rw [index, hprev]
  have hbits : usizeSub currentBits prevBits = .ok (currentBits - prevBits) := if_pos hle
  simp only [rateStep, if_neg (Nat.not_lt.mpr hperiod), hposition, hindex, hbits, bind, Except.bind,
    i32TryFrom]
  by_cases hmax : ((currentBits - prevBits : ℕ) : ℤ) ≤ i32Max
  · rw [if_pos hmax]
    by_cases hpositive : 0 < currentTime - prevTime
    · rw [if_pos ⟨hmax, hpositive⟩]
      exact if_pos hpositive
    · rw [if_neg fun hboth ↦ hpositive hboth.2]
      exact if_neg hpositive
  · rw [if_neg hmax, if_neg fun hboth ↦ hmax hboth.1]
    rfl

/-- What one pass of the inner loop does, which never fails. It pushes the point of the sample if
there is one. -/
theorem rateStep_eq (hdata : NonDecreasing data) {input : (ℚ × ℕ) × ℕ}
    (hinput : input ∈ data.zipIdx) (rates : RatesData) :
    rateStep data rates input =
      .ok (if HasPoint data input.2 then rates ++ [point data input.2] else rates) := by
  obtain ⟨⟨currentTime, currentBits⟩, i⟩ := input
  have hcurrent : data[i]? = some (currentTime, currentBits) :=
    List.mem_zipIdx_iff_getElem?.mp hinput
  obtain ⟨hheld, -⟩ := List.getElem?_eq_some_iff.mp hcurrent
  by_cases hperiod : i < ratePeriod
  · rw [rateStep, if_pos hperiod, if_neg fun hpoint ↦ absurd hpoint.1 (Nat.not_le.mpr hperiod)]
  · rw [Nat.not_lt] at hperiod
    obtain ⟨⟨prevTime, prevBits⟩, hprev⟩ : ∃ sample, data[i - ratePeriod]? = some sample :=
      ⟨_, List.getElem?_eq_getElem ((Nat.sub_le ..).trans_lt hheld)⟩
    have hbits : bitsDiff data i = (currentBits : ℤ) - prevBits := by
      rw [bitsDiff, bitsAt_of_getElem? hcurrent, bitsAt_of_getElem? hprev]
    have hduration : duration data i = currentTime - prevTime := by
      rw [duration, timeAt_of_getElem? hcurrent, timeAt_of_getElem? hprev]
    have hnonneg := hdata.bitsDiff_nonneg hperiod hheld
    have hcast : ((currentBits - prevBits : ℕ) : ℤ) = bitsDiff data i := by omega
    have hpoint : HasPoint data i ↔ bitsDiff data i ≤ i32Max ∧ 0 < duration data i :=
      ⟨fun hpoint ↦ ⟨hpoint.2.2.2, hpoint.2.1⟩,
        fun hboth ↦ ⟨hperiod, hboth.2, le_trans (by decide) hnonneg, hboth.1⟩⟩
    rw [rateStep_of_prev rates hperiod hprev (by omega), hcast, ← hduration, point,
      timeAt_of_getElem? hcurrent]
    simp only [hpoint]

end NonDecreasing

/-- The points are those of the held samples, whatever the output was before. -/
theorem calculateRate_eq (rates : RatesData) {data : List (ℚ × ℕ)} (hdata : NonDecreasing data) :
    calculateRate ⟨rates, data⟩ = .ok ⟨points data, data⟩ := by
  have hpushed := foldlM_push (fun input : (ℚ × ℕ) × ℕ ↦ HasPoint data input.2)
    (fun input ↦ point data input.2) (fun _ hinput rates ↦ rateStep_eq hdata hinput rates) []
  have hpoints : points data = (data.zipIdx.filter fun input ↦
      HasPoint data input.2).map fun input ↦ point data input.2 := by
    rw [points, List.range_eq_range', ← List.zipIdx_map_snd, List.filter_map, List.map_map]
    rfl
  rw [calculateRate, hpushed, List.nil_append, ← hpoints]
  rfl

/-! ### Runs -/

/-- The loop with the last samples and their points. -/
def window (samples : List (ℚ × ℕ)) : Bitrate :=
  ⟨points (samples.rtake (ratesLen + ratePeriod + 1)),
    samples.rtake (ratesLen + ratePeriod + 1)⟩

@[simp] theorem data_window (samples : List (ℚ × ℕ)) :
    (window samples).data = samples.rtake (ratesLen + ratePeriod + 1) := by
  rw [window]

@[simp] theorem rates_window (samples : List (ℚ × ℕ)) :
    (window samples).rates = points (samples.rtake (ratesLen + ratePeriod + 1)) := by
  rw [window]

theorem tick_eq {bitrate : Bitrate} {before : List (ℚ × ℕ)} {last : ℚ × ℕ}
    (hdata : bitrate.data = before.rtake (ratesLen + ratePeriod + 1))
    (hsamples : NonDecreasing (before ++ [last])) :
    bitrate.tick last = .ok (window (before ++ [last])) := by
  have hlength : bitrate.data.length ≤ ratesLen + ratePeriod + 1 := by
    rw [hdata, length_rtake]
    exact min_le_left ..
  have htick : bitrate.tick last = calculateRate
      ⟨bitrate.rates, (before ++ [last]).rtake (ratesLen + ratePeriod + 1)⟩ := by
    rw [← rtake_push before (ratesLen + ratePeriod) last, ← hdata, ← ite_tail hlength, tick]
  rw [htick, window]
  exact calculateRate_eq _ (hsamples.sublist (rtake_sublist _ _))

theorem ticks_concat_eq (output : RatesData) (before : List (ℚ × ℕ)) (last : ℚ × ℕ) :
    ticks output (before ++ [last]) = ticks output before >>= fun bitrate ↦ bitrate.tick last := by
  rw [ticks, List.foldlM_append]
  simp [ticks]

/-- After some samples the loop holds the last ones. -/
theorem exists_ticks (output : RatesData) {samples : List (ℚ × ℕ)}
    (hsamples : NonDecreasing samples) : ∃ bitrate, ticks output samples = .ok bitrate ∧
      bitrate.data = samples.rtake (ratesLen + ratePeriod + 1) := by
  induction samples using List.reverseRecOn with
  | nil =>
    refine ⟨new output, rfl, ?_⟩
    rw [List.rtake_nil]
    rfl
  | append_singleton before last ih =>
    obtain ⟨bitrate, hticks, hdata⟩ := ih (hsamples.sublist (List.sublist_append_left _ _))
    refine ⟨window (before ++ [last]), ?_, data_window _⟩
    rw [ticks_concat_eq, hticks]
    exact tick_eq hdata hsamples

/-- After each tick the loop holds the last samples and their points, and no tick panics. -/
theorem ticks_concat (output : RatesData) {before : List (ℚ × ℕ)} {last : ℚ × ℕ}
    (hsamples : NonDecreasing (before ++ [last])) :
    ticks output (before ++ [last]) = .ok (window (before ++ [last])) := by
  obtain ⟨bitrate, hticks, hdata⟩ :=
    exists_ticks output (hsamples.sublist (List.sublist_append_left _ _))
  rw [ticks_concat_eq, hticks]
  exact tick_eq hdata hsamples

/-! ### What the chart shows -/

section Points

variable {data : List (ℚ × ℕ)}

/-- The times of the points do not decrease. -/
theorem NonDecreasing.points_times (hdata : NonDecreasing data) :
    (points data).Pairwise fun earlier later ↦ earlier.1 ≤ later.1 := by
  rw [points, List.pairwise_map]
  apply List.Pairwise.filter
  apply List.pairwise_lt_range.imp_of_mem
  intro i j _ hheld horder
  exact hdata.timeAt_le horder (List.mem_range.mp hheld)

theorem mem_points {rate : ℚ × ℚ} : rate ∈ points data ↔
    ∃ i, i < data.length ∧ HasPoint data i ∧ point data i = rate := by
  simp [points, and_assoc]

/-- No rate is negative. -/
theorem NonDecreasing.points_nonneg (hdata : NonDecreasing data) {rate : ℚ × ℚ}
    (hrate : rate ∈ points data) : 0 ≤ rate.2 := by
  obtain ⟨i, hheld, hpoint, rfl⟩ := mem_points.mp hrate
  have hbits := hdata.bitsDiff_nonneg hpoint.1 hheld
  exact div_nonneg (by exact_mod_cast hbits) hpoint.2.1.le

/-- The first `ratePeriod` samples have no points. -/
theorem length_points_le (data : List (ℚ × ℕ)) :
    (points data).length ≤ data.length - ratePeriod := by
  have hsubset : ((List.range data.length).filter fun i ↦ HasPoint data i) ⊆
      List.range' ratePeriod (data.length - ratePeriod) := by
    intro i hi
    rw [List.mem_filter, List.mem_range, decide_eq_true_eq] at hi
    rw [List.mem_range'_1]
    have hperiod := hi.2.1
    omega
  have hnodup := (List.nodup_range (n := data.length)).filter fun i ↦ decide (HasPoint data i)
  have hlength := (List.Nodup.subperm hnodup hsubset).length_le
  rw [List.length_range'] at hlength
  rw [points, List.length_map]
  exact hlength

end Points

/-- The points are those of the held samples, with times in order and no negative rate. -/
structure ChartRates (bitrate : Bitrate) : Prop where
  rates_eq : bitrate.rates = points bitrate.data
  times : bitrate.rates.Pairwise fun earlier later ↦ earlier.1 ≤ later.1
  nonneg : ∀ rate ∈ bitrate.rates, 0 ≤ rate.2

/-- The rate window: the points of the held samples, and its size. -/
structure RateWindow (bitrate : Bitrate) : Prop extends ChartRates bitrate where
  data_length : bitrate.data.length ≤ ratesLen + ratePeriod
  rates_length : bitrate.rates.length ≤ ratesLen

/-- The samples of a run of the loop. The clock does not go back, and the count of bits grows. -/
structure Sampling where
  samples : List (ℚ × ℕ)
  nonDecreasing : NonDecreasing samples

/-- After every tick of a run, none of which panics, the loop has a rate window. -/
def KeepsWindow (output : RatesData) (samples : List (ℚ × ℕ)) : Prop :=
  ∀ before last, before ++ [last] <+: samples →
    ∃ bitrate, ticks output (before ++ [last]) = .ok bitrate ∧ RateWindow bitrate

/-- After every tick of every run the points are those of the held samples. -/
theorem chartRates_window {samples : List (ℚ × ℕ)} (hsamples : NonDecreasing samples) :
    ChartRates (window samples) := by
  have hheld := hsamples.sublist (rtake_sublist samples (ratesLen + ratePeriod + 1))
  constructor
  · rw [rates_window, data_window]
  · rw [rates_window]
    exact hheld.points_times
  · intro rate hrate
    rw [rates_window] at hrate
    exact hheld.points_nonneg hrate

theorem rateWindow_window {samples : List (ℚ × ℕ)} (hsamples : NonDecreasing samples)
    (hlength : samples.length ≤ ratesLen + ratePeriod) : RateWindow (window samples) := by
  have hdata : (samples.rtake (ratesLen + ratePeriod + 1)).length ≤ ratesLen + ratePeriod := by
    rw [length_rtake]
    exact (min_le_right ..).trans hlength
  refine ⟨chartRates_window hsamples, ?_, ?_⟩
  · rw [data_window]
    exact hdata
  · rw [rates_window]
    apply (length_points_le _).trans
    exact Nat.sub_le_of_le_add hdata

theorem KeepsWindow.length_le {output : RatesData} {samples : List (ℚ × ℕ)}
    (hkeeps : KeepsWindow output samples) (hsamples : NonDecreasing samples) :
    samples.length ≤ ratesLen + ratePeriod := by
  induction samples using List.reverseRecOn with
  | nil => exact Nat.zero_le _
  | append_singleton before last _ =>
    obtain ⟨bitrate, hticks, hwindow⟩ := hkeeps before last List.prefix_rfl
    obtain rfl : window (before ++ [last]) = bitrate := by
      rw [ticks_concat output hsamples] at hticks
      exact Except.ok.inj hticks
    have hdata := hwindow.data_length
    rw [data_window, length_rtake] at hdata
    omega

/-- The window has its size as long as the loop has taken no more samples than it is to hold. The
trimming of the loop comes before the push and lets one sample more stay. -/
theorem keepsWindow_iff (output : RatesData) (sampling : Sampling) :
    KeepsWindow output sampling.samples ↔
      sampling.samples.length ≤ ratesLen + ratePeriod := by
  constructor
  · intro hkeeps
    exact hkeeps.length_le sampling.nonDecreasing
  · intro hlength before last hfront
    have hbefore := sampling.nonDecreasing.sublist hfront.sublist
    refine ⟨_, ticks_concat output hbefore, ?_⟩
    exact rateWindow_window hbefore (hfront.length_le.trans hlength)

/-- A sample every 10 ms, with 500 bits between two samples. -/
def regularSampling (number : ℕ) : Sampling where
  samples := (List.range number).map fun (tick : ℕ) ↦ ((tick / 100 : ℚ), 500 * tick)
  nonDecreasing := by
    constructor
    · rw [List.pairwise_map]
      apply List.pairwise_lt_range.imp
      intro earlier later horder
      have hle : (earlier : ℚ) ≤ later := by exact_mod_cast horder.le
      dsimp only
      linarith
    · rw [List.pairwise_map]
      apply List.pairwise_lt_range.imp
      intro earlier later horder
      dsimp only
      omega

/-- After 1029 samples the loop holds all of them. -/
theorem not_keepsWindow_regularSampling : ¬ KeepsWindow [] (regularSampling 1029).samples := by
  intro hkeeps
  have hlength := hkeeps.length_le (regularSampling 1029).nonDecreasing
  have hnumber : (regularSampling 1029).samples.length = 1029 := by
    rw [regularSampling, List.length_map, List.length_range]
  rw [hnumber] at hlength
  exact absurd hlength (by decide)

end Bitrate

end CanopenTools.Viewer
