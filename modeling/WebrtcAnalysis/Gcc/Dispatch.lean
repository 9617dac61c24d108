/-
WebrtcAnalysis/Gcc/Dispatch.lean

Facts about the ten returned series that hold on every run.

* The series follow the lines (`parseLogFile_series_follow_lines`): there is one
  outcome per line, every series is the outcomes of its kind in line order, and
  a row of a timestamped kind carries the timestamp its own grammar captures in
  its line.  Monotone input timestamps therefore give monotone columns.
* `LossBWE-Estimate` and `LossBWE-Candidates` rows share `loss`, told apart by
  the sign of `state` (`parseLogFile_loss_sentinel`): the estimate grammar
  captures `State: (\d+)`, which is never negative.
* No block tries the `config_limit` pattern, so the `config_limit` series is
  empty on every run (`parseLogFile_configLimit_eq_nil`).
-/
import WebrtcAnalysis.Gcc.Run
import Mathlib.Data.List.Sort

namespace WebrtcAnalysis.Gcc

open WebrtcAnalysis

/-! ### Timestamps written in a line -/

/-- The grammar that captures an event's timestamp as its group 1; the legacy
probe rows have none. -/
def Event.ownPattern? : Event → Option Regex
  | .trendline _ => some trendlinePattern
  | .rtt _ => some rttBwePattern
  | .lossEstimate _ => some lossBwePattern
  | .lossCandidates _ => some lossCandidatesPattern
  | .probe r =>
    match r.source with
    | .result => some probeResultPattern
    | .success => some probeSuccessPattern
    | .resultOld | .successOld => none
  | .decision _ => some decisionPattern
  | .constraintApply _ => some constraintApplyPattern
  | .delayLimit _ => some delayLimitPattern
  | .receiverLimit _ => some receiverLimitPattern
  | .pushback _ => some pushbackPattern

/-- The timestamp the event's own grammar finds written in `line`. -/
def writtenTimestamp (e : Event) (line : List Char) : Option Nat :=
  e.ownPattern?.bind fun p => (p.search line).map (·.int 1)

/-- A row of a timestamped kind carries the timestamp written in its line. -/
theorem Yields.writtenTimestamp_eq {last : Option Nat} {line : List Char} {e : Event}
    (h : Yields last line e) (hp : e.ownPattern?.isSome) :
    writtenTimestamp e line = some e.timestamp := by
  cases h with
  | lossCandidates hm hr =>
    simp [writtenTimestamp, Event.ownPattern?, hm, Event.timestamp, (candidatesRow_fields hr).1]
  | pushback hm hr =>
    simp [writtenTimestamp, Event.ownPattern?, hm, Event.timestamp, pushbackRow_timestamp hr]
  | probeResultOld => simp [Event.ownPattern?, oldProbeRow] at hp
  | probeSuccessOld => simp [Event.ownPattern?, oldProbeRow] at hp
  | _ => simp only [writtenTimestamp, Event.ownPattern?, probeRow, Option.some_bind, Option.map_some', *]; rfl

/-! ### Timestamp columns -/

/-- The `timestamp` column of a series (`config_limit` rows have none). -/
def GccData.timestamps (d : GccData) : Series → List Nat
  | .trendline => d.trendline.map (·.timestamp)
  | .rtt => d.rtt.map (·.timestamp)
  | .loss => d.loss.map (·.timestamp)
  | .probe => d.probe.map (·.timestamp)
  | .decision => d.decision.map (·.timestamp)
  | .constraintApply => d.constraintApply.map (·.timestamp)
  | .delayLimit => d.delayLimit.map (·.timestamp)
  | .receiverLimit => d.receiverLimit.map (·.timestamp)
  | .configLimit => []
  | .pushback => d.pushback.map (·.timestamp)

theorem GccData.timestamps_append (d d' : GccData) (k : Series) :
    (d.append d').timestamps k = d.timestamps k ++ d'.timestamps k := by
  cases k <;> simp [timestamps, append]

theorem GccData.timestamps_ofEvents_singleton (e : Event) (k : Series) :
    (ofEvents [e]).timestamps k = if e.series = k then [e.timestamp] else [] := by
  cases e <;> cases k <;> rfl

theorem GccData.timestamps_ofEvents (es : List Event) (k : Series) :
    (ofEvents es).timestamps k = (es.filter (·.series = k)).map Event.timestamp := by
  induction es with
  | nil => cases k <;> rfl
  | cons e es ih =>
    rw [ofEvents_cons, timestamps_append, ih, timestamps_ofEvents_singleton, List.filter_cons]
    split <;> simp_all

/-- The timestamps written in the lines whose outcome is a row of series `k`,
in line order. -/
def linesTimestamps (k : Series) (log : List (List Char)) (outs : List (Option Event)) :
    List Nat :=
  (log.zip outs).filterMap fun p =>
    p.2.bind fun e => if e.series = k then writtenTimestamp e p.1 else none

theorem linesTimestamps_eq {k : Series} {log : List (List Char)} {outs : List (Option Event)}
    (hlen : outs.length = log.length)
    (hw : ∀ l e, (l, some e) ∈ log.zip outs → e.series = k →
      writtenTimestamp e l = some e.timestamp) :
    linesTimestamps k log outs = ((outs.filterMap id).filter (·.series = k)).map Event.timestamp := by
  induction log generalizing outs with
  | nil => cases outs <;> simp_all [linesTimestamps]
  | cons l log ih =>
    cases outs with
    | nil => simp at hlen
    | cons o outs =>
      have ih' := @ih outs (by simpa using hlen)
        fun l' e h hk => hw l' e (by simp [h]) hk
      simp only [linesTimestamps] at ih' ⊢
      cases o with
      | none => simpa using ih'
      | some e =>
        by_cases hk : e.series = k
        · simp [hk, hw l e (by simp) hk, ih']
        · simp [hk, ih']

/-! ### The series follow the lines -/

/-- `r` is the lines of `log` read one outcome each and sorted into series:
outcome `i` is what the loop body yields on line `i`; every series is the rows
of its kind among the outcomes, in line order, so no line adds more than one
row to any series; a row of a timestamped kind carries the timestamp written
in its own line; hence a series whose lines all carry timestamps,
non-decreasing in line order, has a non-decreasing timestamp column. -/
def SeriesFollowLines (log : List (List Char)) (r : GccData) : Prop :=
  ∃ outs : List (Option Event),
    List.Forall₂ (fun l o => ∃ t, classify t l = .ok o) log outs ∧
    r = GccData.ofEvents (outs.filterMap id) ∧
    (∀ l e, (l, some e) ∈ log.zip outs → e.ownPattern?.isSome →
      writtenTimestamp e l = some e.timestamp) ∧
    ∀ k : Series, (∀ e ∈ outs.filterMap id, e.series = k → e.ownPattern?.isSome) →
      List.Sorted (· ≤ ·) (linesTimestamps k log outs) →
      List.Sorted (· ≤ ·) (r.timestamps k)

/-- **Series follow the lines** on every run that returns. -/
theorem parseLogFile_series_follow_lines {log : List (List Char)} {r : GccData}
    (h : parseLogFile log = .ok r) : SeriesFollowLines log r := by
  rw [parseLogFile_eq] at h
  cases hl : lineEvents none log with
  | error err => simp [hl, Except.map] at h
  | ok outs =>
    simp only [hl, Except.map, Except.ok.injEq] at h
    subst h
    have hf := lineEvents_forall₂ hl
    have hw : ∀ l e, (l, some e) ∈ log.zip outs → e.ownPattern?.isSome →
        writtenTimestamp e l = some e.timestamp := by
      intro l e hmem hp
      obtain ⟨t, hc⟩ := List.forall₂_zip hf hmem
      exact (classify_yields hc).writtenTimestamp_eq hp
    refine ⟨outs, hf, rfl, hw, fun k hk hs => ?_⟩
    rw [GccData.timestamps_ofEvents]
    rwa [linesTimestamps_eq hf.length_eq.symm fun l e hmem he => hw l e hmem <| hk e
      (List.mem_filterMap.mpr ⟨some e, (List.of_mem_zip hmem).2, rfl⟩) he] at hs

theorem series_follow_lines_rtt_line :
    parseLogFile ["[RttBWE-Update] Time: 5 ms, PropagationRtt: 1 ms, CorrectedRtt: 2 ms, RttLimit: 3 ms, AboveLimit: true".toList] =
      .ok { rtt := [⟨5, 2, 3, true⟩] } ∧
    SeriesFollowLines
      ["[RttBWE-Update] Time: 5 ms, PropagationRtt: 1 ms, CorrectedRtt: 2 ms, RttLimit: 3 ms, AboveLimit: true".toList]
      { rtt := [⟨5, 2, 3, true⟩] } :=
  ⟨by rfl, parseLogFile_series_follow_lines (by rfl)⟩

/-! ### The loss series -/

/-- The row of a `LossBWE-Estimate` event. -/
def Event.lossEstimate? : Event → Option LossRow
  | .lossEstimate r => some r
  | _ => none

/-- The row of a `LossBWE-Candidates` event. -/
def Event.lossCandidates? : Event → Option LossRow
  | .lossCandidates r => some r
  | _ => none

/-- The `state` each loss block writes: the captured `\d+` for an estimate, the
marker `-1` for a candidate list. -/
def Event.LossStateOk : Event → Prop
  | .lossEstimate r => 0 ≤ r.state
  | .lossCandidates r => r.state = -1
  | _ => True

theorem Yields.lossStateOk {last : Option Nat} {line : List Char} {e : Event}
    (h : Yields last line e) : e.LossStateOk := by
  cases h with
  | lossEstimate => simp [Event.LossStateOk, lossEstimateRow]
  | lossCandidates _ hr => exact (candidatesRow_fields hr).2
  | _ => trivial

section LossRows

variable {E : List Event} (h : ∀ e ∈ E, e.LossStateOk)
include h

theorem loss_state_cases : ∀ row ∈ E.filterMap Event.loss?, row.state = -1 ∨ 0 ≤ row.state := by
  intro row hrow
  obtain ⟨e, he, hre⟩ := List.mem_filterMap.mp hrow
  have hs := h e he
  cases e with
  | lossEstimate r => cases hre; exact .inr hs
  | lossCandidates r => cases hre; exact .inl hs
  | _ => cases hre

theorem filter_loss_estimates :
    (E.filterMap Event.loss?).filter (fun row => 0 ≤ row.state) =
      E.filterMap Event.lossEstimate? := by
  induction E with
  | nil => rfl
  | cons e E ih =>
    have he := h e (List.mem_cons_self e E)
    have ih := ih fun e' he' => h e' (List.mem_cons_of_mem e he')
    cases e with
    | lossEstimate r =>
      have hr : 0 ≤ r.state := he
      simp [Event.loss?, Event.lossEstimate?, hr, ih]
    | lossCandidates r =>
      have hr : r.state = -1 := he
      simp [Event.loss?, Event.lossEstimate?, hr, ih]
    | _ => exact ih

theorem filter_loss_candidates :
    (E.filterMap Event.loss?).filter (fun row => row.state = -1) =
      E.filterMap Event.lossCandidates? := by
  induction E with
  | nil => rfl
  | cons e E ih =>
    have he := h e (List.mem_cons_self e E)
    have ih := ih fun e' he' => h e' (List.mem_cons_of_mem e he')
    cases e with
    | lossEstimate r =>
      have hr : r.state ≠ -1 := by have : 0 ≤ r.state := he; omega
      simp [Event.loss?, Event.lossCandidates?, hr, ih]
    | lossCandidates r =>
      have hr : r.state = -1 := he
      simp [Event.loss?, Event.lossCandidates?, hr, ih]
    | _ => exact ih

end LossRows

/-- The loss sentinel decodes on `log`'s result `r`: every `loss` row has
`state = -1` or `state ≥ 0`; the rows with `state ≥ 0` are exactly the
`LossBWE-Estimate` rows and the rows with `state = -1` exactly the
`LossBWE-Candidates` rows, each in line order.  `loss_df[loss_df['state'] >= 0]`,
from which `plot_gcc_decision_metrics` computes its loss statistics, is
therefore the estimates, all of them. -/
def LossSentinelDecodes (log : List (List Char)) (r : GccData) : Prop :=
  ∃ outs, lineEvents none log = .ok outs ∧
    (∀ row ∈ r.loss, row.state = -1 ∨ 0 ≤ row.state) ∧
    r.loss.filter (fun row => 0 ≤ row.state) = (outs.filterMap id).filterMap Event.lossEstimate? ∧
    r.loss.filter (fun row => row.state = -1) = (outs.filterMap id).filterMap Event.lossCandidates?

/-- **The loss sentinel decodes** on every run that returns. -/
theorem parseLogFile_loss_sentinel {log : List (List Char)} {r : GccData}
    (h : parseLogFile log = .ok r) : LossSentinelDecodes log r := by
  rw [parseLogFile_eq] at h
  cases hl : lineEvents none log with
  | error err => simp [hl, Except.map] at h
  | ok outs =>
    simp only [hl, Except.map, Except.ok.injEq] at h
    subst h
    have hok : ∀ e ∈ outs.filterMap id, e.LossStateOk := fun e he => by
      obtain ⟨l, -, t, hy⟩ := lineEvents_yields hl he
      exact hy.lossStateOk
    exact ⟨outs, hl, loss_state_cases hok, filter_loss_estimates hok,
      filter_loss_candidates hok⟩

theorem loss_sentinel_two_lines :
    parseLogFile ["[LossBWE-Estimate] Time: 1 ms, State: 0, Bandwidth: 5000 bps, Observations: 3".toList,
      "[LossBWE-Candidates] Time: 2 ms, Candidate Bandwidths (kbps): 100, 200, ".toList] =
      .ok { loss := [⟨1, 0, 5000, 3, none⟩, ⟨2, -1, 200000, 2, some [.finite 100, .finite 200]⟩] } ∧
    LossSentinelDecodes
      ["[LossBWE-Estimate] Time: 1 ms, State: 0, Bandwidth: 5000 bps, Observations: 3".toList,
        "[LossBWE-Candidates] Time: 2 ms, Candidate Bandwidths (kbps): 100, 200, ".toList]
      { loss := [⟨1, 0, 5000, 3, none⟩, ⟨2, -1, 200000, 2, some [.finite 100, .finite 200]⟩] } :=
  ⟨by rfl, parseLogFile_loss_sentinel (by rfl)⟩

/-! ### The `config_limit` series -/

/-- No block of the loop tries `config_limit`: the series is empty on every
run. -/
theorem parseLogFile_configLimit_eq_nil {log : List (List Char)} {r : GccData}
    (h : parseLogFile log = .ok r) : r.configLimit = [] := by
  rw [parseLogFile_eq] at h
  cases hl : lineEvents none log with
  | error err => simp [hl, Except.map] at h
  | ok outs =>
    simp only [hl, Except.map, Except.ok.injEq] at h
    subst h
    rfl

/-- A `BWE-ConfigLimit` line yields no row at all. -/
theorem parseLogFile_configLimit_line :
    parseLogFile ["[BWE-ConfigLimit] MinBitrate: 1 -> 2 bps, MaxBitrate: 3 -> 4 bps, CurrentTarget: 5 bps".toList] =
      .ok {} := by
  rfl

end WebrtcAnalysis.Gcc
