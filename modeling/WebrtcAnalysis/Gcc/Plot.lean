/-
WebrtcAnalysis/Gcc/Plot.lean

The shared time axis of the two charts.  `plot_gcc_decision_metrics` takes
`start_time_ms` and `time_limit` from the trendline, RTT and decision
timestamps only, or `0` and `10` s when there are none, and draws every panel,
the loss estimates and the probes included, against `[0, time_limit]`.
`plot_constraint_analysis` does the same with the constraint timestamps and
draws the pushback points against them.

Times are the code's binary64 values.  `(t - start) / 1000.0` converts the
integer difference to a double and rounds the quotient (`relTime`);
`time_limit` rounds once more when it adds `1.0` (`timeRange`).  Each of the
three operations is monotone (`PyFloat.ofInt_mono`, `PyFloat.divPos_mono`,
`PyFloat.add_finite_mono`), so a point between the least and the greatest of
the timestamps that fix the range is inside it, and one before the least is
outside.  The edge at `max + 1000` is not sharp: `time_limit` carries two
roundings and the point's time one, so at `t = max + 1000` either may be the
larger (timestamps `0` and `118` put `1118` outside, as
`1118 / 1000.0 > 118 / 1000.0 + 1.0`).  Bracketing both times between
multiples of `2 ^ -20`, which are doubles (`roundDouble_grid`), shows that for
timestamps below `2 ^ 42` ms a point at most 999 ms after the greatest is
inside and one 1001 ms or more after it is outside (`inRange_of_shown`,
`not_inRange_of_clipped`).  With no timestamps the range is `[0, 10]`, and a
point is inside exactly when `t ≤ 10000` (`inRange_nil_iff`).
-/
import WebrtcAnalysis.Gcc.Parse
import WebrtcAnalysis.Rounding

namespace WebrtcAnalysis.Gcc

open WebrtcAnalysis

/-! ### The time axis -/

/-- `start_time_ms` and `time_limit` from the timestamps that fix the range:
`min`, and `(max - min) / 1000.0 + 1.0`; `0` and `10.0` when there are none. -/
def timeRange : List ℕ → ℕ × PyFloat
  | [] => (0, .finite 10)
  | t :: ts => (ts.foldl min t,
      ((PyFloat.ofInt (ts.foldl max t - ts.foldl min t : ℤ)).divPos 1000).add (.finite 1))

/-- `(timestamp - start_time_ms) / 1000.0` -/
def relTime (start t : ℕ) : PyFloat := (PyFloat.ofInt ((t : ℤ) - start)).divPos 1000

/-- The point at timestamp `t` lies in the x-range `[0, time_limit]`. -/
def InRange (range : ℕ × PyFloat) (t : ℕ) : Prop :=
  (PyFloat.finite 0).le (relTime range.1 t) = true ∧ (relTime range.1 t).le range.2 = true

instance (range : ℕ × PyFloat) (t : ℕ) : Decidable (InRange range t) :=
  inferInstanceAs (Decidable (_ ∧ _))

/-- The timestamps the x-range is sure to show: from the least of those that
fix it to 999 ms past the greatest, or up to `10000` when there are none. -/
def Shown : List ℕ → ℕ → Prop
  | [], t => t ≤ 10000
  | t₀ :: ts, t => ts.foldl min t₀ ≤ t ∧ t ≤ ts.foldl max t₀ + 999

/-- The timestamps it is sure to clip: before the least, or 1001 ms or more
past the greatest; past `10000` when there are none. -/
def Clipped : List ℕ → ℕ → Prop
  | [], t => 10000 < t
  | t₀ :: ts, t => t < ts.foldl min t₀ ∨ ts.foldl max t₀ + 1001 ≤ t

instance : ∀ ts t, Decidable (Shown ts t)
  | [], _ => inferInstanceAs (Decidable (_ ≤ _))
  | _ :: _, _ => inferInstanceAs (Decidable (_ ∧ _))

instance : ∀ ts t, Decidable (Clipped ts t)
  | [], _ => inferInstanceAs (Decidable (_ < _))
  | _ :: _, _ => inferInstanceAs (Decidable (_ ∨ _))

theorem foldl_min_le {t : ℕ} {ts : List ℕ} : ∀ x ∈ t :: ts, ts.foldl min t ≤ x := by
  induction ts generalizing t with
  | nil => simp
  | cons y ts ih =>
    intro x hx
    rcases List.mem_cons.mp hx with rfl | hx
    · exact (ih _ (List.mem_cons_self _ _)).trans (min_le_left _ _)
    · rcases List.mem_cons.mp hx with rfl | hx
      · exact (ih _ (List.mem_cons_self _ _)).trans (min_le_right _ _)
      · exact ih x (List.mem_cons_of_mem _ hx)

theorem le_foldl_max {t : ℕ} {ts : List ℕ} : ∀ x ∈ t :: ts, x ≤ ts.foldl max t := by
  induction ts generalizing t with
  | nil => simp
  | cons y ts ih =>
    intro x hx
    rcases List.mem_cons.mp hx with rfl | hx
    · exact (le_max_left _ _).trans (ih _ (List.mem_cons_self _ _))
    · rcases List.mem_cons.mp hx with rfl | hx
      · exact (le_max_right _ _).trans (ih _ (List.mem_cons_self _ _))
      · exact ih x (List.mem_cons_of_mem _ hx)

theorem foldl_min_le_foldl_max (t₀ : ℕ) (ts : List ℕ) : ts.foldl min t₀ ≤ ts.foldl max t₀ :=
  (foldl_min_le t₀ (List.mem_cons_self _ _)).trans (le_foldl_max t₀ (List.mem_cons_self _ _))

/-- `time_limit` is the time of the greatest timestamp, plus `1.0`. -/
theorem timeRange_cons (t₀ : ℕ) (ts : List ℕ) :
    timeRange (t₀ :: ts) =
      (ts.foldl min t₀, (relTime (ts.foldl min t₀) (ts.foldl max t₀)).add (.finite 1)) := rfl

/-! ### Times as doubles -/

theorem relTime_ne_nan (start t : ℕ) : relTime start t ≠ .nan :=
  PyFloat.divPos_ne_nan (roundDouble_ne_nan _) _

theorem timeRange_ne_nan : ∀ ts : List ℕ, (timeRange ts).2 ≠ .nan
  | [] => nofun
  | _ :: _ => PyFloat.add_finite_ne_nan (relTime_ne_nan _ _) _

theorem inRange_iff_toExt {start : ℕ} {limit : PyFloat} (hL : limit ≠ .nan) (t : ℕ) :
    InRange (start, limit) t ↔
      0 ≤ (relTime start t).toExt ∧ (relTime start t).toExt ≤ limit.toExt := by
  show (PyFloat.finite 0).le (relTime start t) = true ∧ (relTime start t).le limit = true ↔ _
  rw [PyFloat.le_iff_toExt (show PyFloat.finite 0 ≠ .nan from nofun) (relTime_ne_nan _ _),
    PyFloat.le_iff_toExt (relTime_ne_nan _ _) hL, PyFloat.toExt_finite_zero]

/-- From `start` on, the difference converts exactly, and the quotient is
rounded once. -/
theorem relTime_of_le {start t : ℕ} (h : start ≤ t) (ht : t - start < 2 ^ 53) :
    relTime start t = roundDouble ((t - start : ℕ) / 1000) := by
  rw [relTime, PyFloat.ofInt, show ((t : ℤ) - start : ℤ) = ((t - start : ℕ) : ℤ) by omega,
    Int.cast_natCast, roundDouble_natCast ht]
  rfl

theorem relTime_mono (start : ℕ) {t t' : ℕ} (h : t ≤ t') :
    (relTime start t).toExt ≤ (relTime start t').toExt :=
  PyFloat.divPos_mono (by norm_num) (PyFloat.ofInt_mono (by omega))

theorem relTime_nonneg {start t : ℕ} (h : start ≤ t) : 0 ≤ (relTime start t).toExt :=
  calc (0 : WithBot (WithTop ℚ)) = (relTime start start).toExt := by
        rw [relTime, sub_self, PyFloat.ofInt, Int.cast_zero, roundDouble_zero]
        show 0 = (roundDouble (0 / 1000)).toExt
        rw [zero_div, roundDouble_zero, PyFloat.toExt_finite_zero]
    _ ≤ (relTime start t).toExt := relTime_mono start h

/-- A point before `start` has a negative time: at most the double nearest
`-1 / 1000`, itself below `-2 ^ -10`. -/
theorem relTime_neg {start t : ℕ} (h : t < start) : (relTime start t).toExt < 0 := by
  have hone : PyFloat.ofInt (-1) = .finite (-((1 : ℕ) / 2 ^ 0)) := by
    rw [PyFloat.ofInt, ← roundDouble_neg_grid (by norm_num) (by norm_num)]; norm_num
  have hint : (PyFloat.ofInt ((t : ℤ) - start)).toExt ≤ (PyFloat.ofInt (-1)).toExt :=
    PyFloat.ofInt_mono (m := (t : ℤ) - start) (n := -1) (by omega)
  calc (relTime start t).toExt ≤ ((PyFloat.ofInt (-1)).divPos 1000).toExt :=
        PyFloat.divPos_mono (by norm_num) hint
    _ ≤ (PyFloat.finite (-((1 : ℕ) / 2 ^ 10))).toExt := by
        rw [hone, ← roundDouble_neg_grid (k := 1) (n := 10) (by norm_num) (by norm_num)]
        exact roundDouble_mono (by norm_num)
    _ < (PyFloat.finite 0).toExt := PyFloat.toExt_finite_lt.mpr (by norm_num)

/-- A time at or below a multiple of `2 ^ -20` rounds at or below it. -/
theorem relTime_le_grid {start t k : ℕ} (h : start ≤ t) (ht : t - start < 2 ^ 53) (hk : k < 2 ^ 53)
    (hle : (t - start) * 2 ^ 20 ≤ k * 1000) :
    (relTime start t).toExt ≤ (PyFloat.finite (k / 2 ^ 20)).toExt := by
  rw [relTime_of_le h ht]
  exact roundDouble_le_grid hk (by norm_num)
    (by rw [div_le_div_iff₀ (by norm_num) (by norm_num)]; exact_mod_cast hle)

/-- A time at or above a multiple of `2 ^ -20` rounds at or above it. -/
theorem grid_le_relTime {start t k : ℕ} (h : start ≤ t) (ht : t - start < 2 ^ 53) (hk : k < 2 ^ 53)
    (hle : k * 1000 ≤ (t - start) * 2 ^ 20) :
    (PyFloat.finite (k / 2 ^ 20)).toExt ≤ (relTime start t).toExt := by
  rw [relTime_of_le h ht]
  exact grid_le_roundDouble hk (by norm_num)
    (by rw [div_le_div_iff₀ (by norm_num) (by norm_num)]; exact_mod_cast hle)

/-- Adding `1.0` to a multiple of `2 ^ -20` below `2 ^ 33` is exact. -/
theorem grid_add_one {k : ℕ} (hk : k + 2 ^ 20 < 2 ^ 53) :
    (PyFloat.finite (k / 2 ^ 20)).add (.finite 1) = .finite ((k + 2 ^ 20 : ℕ) / 2 ^ 20) := by
  show roundDouble _ = _
  rw [← roundDouble_grid hk (by norm_num), Nat.cast_add, Nat.cast_pow, Nat.cast_ofNat, add_div,
    div_self (by positivity)]

/-- The multiple of `2 ^ -20` just below `m / 1000`. -/
theorem exists_grid_below (m : ℕ) : ∃ k, k * 1000 ≤ m * 2 ^ 20 ∧ m * 2 ^ 20 < k * 1000 + 1000 :=
  ⟨_, Nat.div_mul_le_self _ _, Nat.lt_div_mul_add (by norm_num)⟩

theorem le_limit {lo hi k : ℕ} (h : lo ≤ hi) (hhi : hi - lo < 2 ^ 53) (hk : k + 2 ^ 20 < 2 ^ 53)
    (hle : k * 1000 ≤ (hi - lo) * 2 ^ 20) :
    (PyFloat.finite ((k + 2 ^ 20 : ℕ) / 2 ^ 20)).toExt ≤ ((relTime lo hi).add (.finite 1)).toExt := by
  rw [← grid_add_one hk]
  exact PyFloat.add_finite_mono 1 (grid_le_relTime h hhi (by omega) hle)

theorem limit_le {lo hi k : ℕ} (h : lo ≤ hi) (hhi : hi - lo < 2 ^ 53) (hk : k + 2 ^ 20 < 2 ^ 53)
    (hle : (hi - lo) * 2 ^ 20 ≤ k * 1000) :
    ((relTime lo hi).add (.finite 1)).toExt ≤ (PyFloat.finite ((k + 2 ^ 20 : ℕ) / 2 ^ 20)).toExt := by
  rw [← grid_add_one hk]
  exact PyFloat.add_finite_mono 1 (relTime_le_grid h hhi (by omega) hle)

/-! ### Which points the x-range shows -/

/-- Between the least and the greatest timestamp, a point is inside. -/
theorem inRange_of_between {t₀ t : ℕ} {ts : List ℕ} (h₁ : ts.foldl min t₀ ≤ t)
    (h₂ : t ≤ ts.foldl max t₀) : InRange (timeRange (t₀ :: ts)) t := by
  rw [timeRange_cons, inRange_iff_toExt (PyFloat.add_finite_ne_nan (relTime_ne_nan _ _) _)]
  exact ⟨relTime_nonneg h₁,
    (relTime_mono _ h₂).trans (PyFloat.le_add_one fun _ hv => PyFloat.divPos_idem hv)⟩

/-- The timestamps that fix the range are inside it. -/
theorem inRange_of_mem {ts : List ℕ} {t : ℕ} (h : t ∈ ts) : InRange (timeRange ts) t := by
  cases ts with
  | nil => cases h
  | cons t₀ ts => exact inRange_of_between (foldl_min_le t h) (le_foldl_max t h)

/-- **With no timestamps, the x-range `[0, 10]` shows the first ten
seconds.** -/
theorem inRange_nil_iff (t : ℕ) : InRange (timeRange []) t ↔ t ≤ 10000 := by
  have h10 : relTime 0 10000 = .finite 10 := by
    rw [relTime_of_le (Nat.zero_le _) (by norm_num),
      show ((10000 - 0 : ℕ) : ℚ) / 1000 = ((10 : ℕ) : ℚ) by norm_num, roundDouble_natCast (by norm_num)]
    rfl
  rw [timeRange, inRange_iff_toExt (show PyFloat.finite 10 ≠ .nan from nofun)]
  constructor
  · rintro ⟨-, hle⟩
    by_contra hgt
    have hlow : (PyFloat.finite ((10 * 2 ^ 20 + 1 : ℕ) / 2 ^ 20)).toExt ≤ (relTime 0 t).toExt :=
      (grid_le_relTime (Nat.zero_le 10001) (by norm_num) (by norm_num) (by norm_num)).trans
        (relTime_mono 0 (by omega))
    exact absurd (PyFloat.toExt_finite_le.mp (hlow.trans hle)) (by norm_num)
  · intro h
    exact ⟨relTime_nonneg (Nat.zero_le t), h10 ▸ relTime_mono 0 h⟩

/-- **Up to 999 ms past the greatest timestamp, a point is inside.** -/
theorem inRange_of_shown {ts : List ℕ} {t : ℕ} (ht : t < 2 ^ 42) (h : Shown ts t) :
    InRange (timeRange ts) t := by
  cases ts with
  | nil => exact (inRange_nil_iff t).mpr h
  | cons t₀ ts =>
    obtain ⟨h₁, h₂⟩ := h
    rcases le_or_lt t (ts.foldl max t₀) with hhi | hhi
    · exact inRange_of_between h₁ hhi
    have hlohi := foldl_min_le_foldl_max t₀ ts
    obtain ⟨k, hk', hk⟩ := exists_grid_below (ts.foldl max t₀ - ts.foldl min t₀)
    rw [timeRange_cons, inRange_iff_toExt (PyFloat.add_finite_ne_nan (relTime_ne_nan _ _) _)]
    exact ⟨relTime_nonneg h₁, (relTime_le_grid h₁ (by omega) (by omega) (by omega)).trans
      (le_limit (by omega) (by omega) (by omega) hk')⟩

/-- **Before the least timestamp, or 1001 ms or more past the greatest, a
point is outside.** -/
theorem not_inRange_of_clipped {ts : List ℕ} {t : ℕ} (ht : t < 2 ^ 42) (h : Clipped ts t) :
    ¬ InRange (timeRange ts) t := by
  cases ts with
  | nil => exact fun hin => absurd ((inRange_nil_iff t).mp hin) (not_le.mpr h)
  | cons t₀ ts =>
    rw [timeRange_cons, inRange_iff_toExt (PyFloat.add_finite_ne_nan (relTime_ne_nan _ _) _)]
    rintro ⟨h0, hle⟩
    rcases h with hlt | hge
    · exact absurd h0 (not_le.mpr (relTime_neg hlt))
    have hlohi := foldl_min_le_foldl_max t₀ ts
    obtain ⟨k, hk', hk⟩ := exists_grid_below (ts.foldl max t₀ - ts.foldl min t₀)
    have hlow : (PyFloat.finite ((k + 2 + 2 ^ 20 : ℕ) / 2 ^ 20)).toExt ≤
        (relTime (ts.foldl min t₀) t).toExt :=
      grid_le_relTime (by omega) (by omega) (by omega) (by omega)
    have hhigh := limit_le (k := k + 1) hlohi (by omega) (by omega) (by omega)
    have hgap : ((k + 1 + 2 ^ 20 : ℕ) : ℚ) / 2 ^ 20 < ((k + 2 + 2 ^ 20 : ℕ) : ℚ) / 2 ^ 20 :=
      div_lt_div_of_pos_right (by exact_mod_cast (by omega)) (by positivity)
    exact absurd (PyFloat.toExt_finite_le.mp ((hlow.trans hle).trans hhigh)) (not_le.mpr hgap)

/-- What the x-range of `timeRange ts` shows. -/
theorem timeRange_shows (ts : List ℕ) :
    (∀ t ∈ ts, InRange (timeRange ts) t) ∧
    ∀ t < 2 ^ 42, (Shown ts t → InRange (timeRange ts) t) ∧
      (Clipped ts t → ¬ InRange (timeRange ts) t) :=
  ⟨fun _ => inRange_of_mem, fun _ ht => ⟨inRange_of_shown ht, not_inRange_of_clipped ht⟩⟩

/-! ### The two charts -/

/-- What `plot_gcc_decision_metrics` draws: the x-range of all five panels and
the timestamps of the points of each. -/
structure MetricsChart where
  range : ℕ × PyFloat
  trendline : List ℕ
  rtt : List ℕ
  loss : List ℕ
  probe : List ℕ
  decision : List ℕ
  deriving DecidableEq, Repr

/-- `plot_gcc_decision_metrics`: nothing when trendline, RTT and loss data are
all empty; otherwise the range from the trendline, RTT and decision timestamps,
the loss panel showing the estimates (`state >= 0`), and the probe panel every
probe row (every row carries a timestamp). -/
def plotGccDecisionMetrics (d : GccData) : Option MetricsChart :=
  if d.trendline = [] ∧ d.rtt = [] ∧ d.loss = [] then none
  else
    let trendline := d.trendline.map (·.timestamp)
    let rtt := d.rtt.map (·.timestamp)
    let decision := d.decision.map (·.timestamp)
    some { range := timeRange (trendline ++ rtt ++ decision), trendline, rtt
           loss := (d.loss.filter fun r => 0 ≤ r.state).map (·.timestamp)
           probe := d.probe.map (·.timestamp), decision }

/-- What `plot_constraint_analysis` draws: the x-range of its six panels, the
constraint points and the pushback points. -/
structure ConstraintChart where
  range : ℕ × PyFloat
  constraint : List ℕ
  pushback : List ℕ
  deriving DecidableEq, Repr

/-- `plot_constraint_analysis`: nothing without constraint rows; otherwise the
range from the constraint timestamps. -/
def plotConstraintAnalysis (d : GccData) : Option ConstraintChart :=
  if d.constraintApply = [] then none
  else
    let constraint := d.constraintApply.map (·.timestamp)
    some { range := timeRange constraint, constraint, pushback := d.pushback.map (·.timestamp) }

theorem plotGccDecisionMetrics_range {d : GccData} {c : MetricsChart}
    (h : plotGccDecisionMetrics d = some c) :
    c.range = timeRange (c.trendline ++ c.rtt ++ c.decision) := by
  unfold plotGccDecisionMetrics at h
  split at h
  · cases h
  · cases h; rfl

theorem plotConstraintAnalysis_range {d : GccData} {c : ConstraintChart}
    (h : plotConstraintAnalysis d = some c) : c.range = timeRange c.constraint := by
  unfold plotConstraintAnalysis at h
  split at h
  · cases h
  · cases h; rfl

/-- **Which points the charts show.**  In `plot_gcc_decision_metrics` every
trendline, RTT and decision point is inside the x-range.  For timestamps below
`2 ^ 42` ms, a point (a loss estimate or a probe included) is inside when it
lies from the least of those timestamps to 999 ms past the greatest, and
outside when it lies before the least or 1001 ms or more past the greatest;
with none of them, inside exactly up to `10000`.  In
`plot_constraint_analysis` the same holds of the constraint timestamps, and
the pushback points among the others. -/
theorem plot_points_in_range (d : GccData) :
    (∀ c, plotGccDecisionMetrics d = some c →
      (∀ t ∈ c.trendline ++ c.rtt ++ c.decision, InRange c.range t) ∧
      ∀ t < 2 ^ 42, (Shown (c.trendline ++ c.rtt ++ c.decision) t → InRange c.range t) ∧
        (Clipped (c.trendline ++ c.rtt ++ c.decision) t → ¬ InRange c.range t)) ∧
    (∀ c, plotConstraintAnalysis d = some c →
      (∀ t ∈ c.constraint, InRange c.range t) ∧
      ∀ t < 2 ^ 42, (Shown c.constraint t → InRange c.range t) ∧
        (Clipped c.constraint t → ¬ InRange c.range t)) := by
  refine ⟨fun c h => ?_, fun c h => ?_⟩
  · rw [plotGccDecisionMetrics_range h]
    exact timeRange_shows _
  · rw [plotConstraintAnalysis_range h]
    exact timeRange_shows _

/-- A loss estimate logged before the first trendline point is clipped off the
chart. -/
theorem loss_point_before_range :
    parseLogFile ["[Trendline] Time: 1000 ms, Modified trend: 1, Threshold: 6, State: normal".toList,
      "[LossBWE-Estimate] Time: 0 ms, State: 0, Bandwidth: 5000 bps, Observations: 3".toList] =
      .ok { trendline := [⟨1000, .finite 1, .finite 6, "normal"⟩],
            loss := [⟨0, 0, 5000, 3, none⟩] } ∧
    plotGccDecisionMetrics
        { trendline := [⟨1000, .finite 1, .finite 6, "normal"⟩], loss := [⟨0, 0, 5000, 3, none⟩] } =
      some ⟨timeRange [1000], [1000], [], [0], [], []⟩ ∧
    ¬ InRange (timeRange [1000]) 0 :=
  ⟨by rfl, by rfl, not_inRange_of_clipped (by norm_num) (Or.inl (by decide))⟩

end WebrtcAnalysis.Gcc
