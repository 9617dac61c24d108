/-
WebrtcAnalysis/Gcc/Failures.lean

Where a parse can fail, and what its float fields hold.  Only two blocks call
`float` or `int` without a guard: `LossBWE-Candidates` (`float` on every
piece, `int(max(...) * 1000)`) and the pushback block (`float` on the ratio).
An exception in either ends the whole parse.  No other block raises, and the
line that raises is one that no earlier block takes (`classify_error`,
`parseLogFile_error`).  The Trendline block catches every exception.  It reads
a trend of `'nan'` and text that `float` refuses as `0.0`, and any other text
as `float` reads it, so `inf` stays infinite and `-nan` stays NaN.  The
threshold has no `'nan'` test, so `NaN` stays NaN, although the comment above
the block says that it handles `'nan'` values.

On a run that returns, every float field is what `float` made of the text its
own line captured (`parseLogFile_ok_float_fields`).
-/
import WebrtcAnalysis.Gcc.Run

namespace WebrtcAnalysis.Gcc

open WebrtcAnalysis

/-! ### Which blocks raise -/

theorem map_eq_error {α β : Type} {f : α → β} {x : Except PyError α} {e : PyError}
    (h : f <$> x = .error e) : x = .error e := by
  cases x <;> simp_all [Functor.map, Except.map]

theorem searchBranch_ok_ne_error {p : Regex} {f : Match → Event} {last : Option Nat}
    {line : List Char} {e : PyError} :
    searchBranch p (fun m => .ok (f m)) last line ≠ some (.error e) := by
  simp [searchBranch]

theorem guardedBranch_ne_error {p : Regex} {body : Nat → Match → Event} {last : Option Nat}
    {line : List Char} {e : PyError} : guardedBranch p body last line ≠ some (.error e) := by
  intro h
  obtain ⟨_, _, _, _, _, h⟩ := guardedBranch_eq_some.mp h
  cases h

/-- The first hit of `findSome?`, with its position: nothing before it hits. -/
theorem findSome?_eq_some_getElem? {α β : Type} {f : α → Option β} {l : List α} {b : β}
    (h : l.findSome? f = some b) :
    ∃ k a, l[k]? = some a ∧ f a = some b ∧ ∀ x ∈ l.take k, f x = none := by
  obtain ⟨l₁, a, l₂, rfl, ha, hl₁⟩ := List.findSome?_eq_some_iff.mp h
  exact ⟨l₁.length, a, by rw [List.getElem?_append_right le_rfl, Nat.sub_self, List.getElem?_cons_zero], ha,
    by simpa using hl₁⟩

/-- **Only two blocks raise**: an exception of the loop body comes from the
candidates body or the pushback body, on a line that its pattern matches and
that no earlier block takes. -/
theorem classify_error {last : Option Nat} {line : List Char} {e : PyError}
    (h : classify last line = .error e) : ∃ m,
      ((∀ b ∈ branches.take 3, b last line = none) ∧
        lossCandidatesPattern.search line = some m ∧ candidatesRow m = .error e) ∨
      ((∀ b ∈ branches.take 12, b last line = none) ∧
        pushbackPattern.search line = some m ∧ pushbackRow m = .error e) := by
  simp only [classify] at h
  split at h
  · rename_i r hr
    cases map_eq_error h
    obtain ⟨k, b, hk, hbr, hbefore⟩ := findSome?_eq_some_getElem? hr
    obtain _ | _ | _ | _ | _ | _ | _ | _ | _ | _ | _ | _ | _ | k := k <;>
      simp only [branches, List.getElem?_cons_succ, List.getElem?_cons_zero, List.getElem?_nil,
        Option.some.injEq] at hk <;>
      try subst hk
    -- the candidates block and the pushback block
    pick_goal 4
    · obtain ⟨m, hm, he⟩ := searchBranch_eq_some.mp hbr
      exact ⟨m, .inl ⟨hbefore, hm, map_eq_error he⟩⟩
    pick_goal 12
    · obtain ⟨m, hm, he⟩ := searchBranch_eq_some.mp hbr
      exact ⟨m, .inr ⟨hbefore, hm, map_eq_error he⟩⟩
    -- past the last block there is none
    pick_goal 12
    · cases hk
    -- the eleven blocks that cannot raise: the two legacy probe blocks, then
    -- the nine whose body is `.ok`
    pick_goal 6
    · exact (guardedBranch_ne_error hbr).elim
    pick_goal 6
    · exact (guardedBranch_ne_error hbr).elim
    all_goals exact (searchBranch_ok_ne_error hbr).elim
  · cases h

/-- The line of a failed loop, with the resolver's value it is classified
under. -/
theorem lineEvents_error {last : Option Nat} {ls : List (List Char)} {e : PyError}
    (h : lineEvents last ls = .error e) :
    ∃ i l, ls[i]? = some l ∧ classify (lastAfter last (ls.take (i + 1))) l = .error e := by
  induction ls generalizing last with
  | nil => cases h
  | cons l ls ih =>
    simp only [lineEvents, bind, Except.bind] at h
    split at h
    · rename_i hc
      cases h
      exact ⟨0, l, List.getElem?_cons_zero, hc⟩
    · split at h
      · rename_i hl
        cases h
        obtain ⟨i, l', hl', hc⟩ := ih hl
        exact ⟨i + 1, l', by rwa [List.getElem?_cons_succ], hc⟩
      · cases h

/-- **A failed parse names the line that raised**: the candidates or the
pushback body raised on it, and no earlier block took it under the resolver's
value there. -/
theorem parseLogFile_error {log : List (List Char)} {e : PyError}
    (h : parseLogFile log = .error e) : ∃ i l, log[i]? = some l ∧ ∃ m,
      ((∀ b ∈ branches.take 3, b (lastAfter none (log.take (i + 1))) l = none) ∧
        lossCandidatesPattern.search l = some m ∧ candidatesRow m = .error e) ∨
      ((∀ b ∈ branches.take 12, b (lastAfter none (log.take (i + 1))) l = none) ∧
        pushbackPattern.search l = some m ∧ pushbackRow m = .error e) := by
  rw [parseLogFile_eq] at h
  cases hl : lineEvents none log with
  | error err =>
    simp only [hl, Except.map, Except.error.injEq] at h
    subst h
    obtain ⟨i, l, hl', hc⟩ := lineEvents_error hl
    exact ⟨i, l, hl', classify_error hc⟩
  | ok outs => simp [hl, Except.map] at h

/-! ### The float fields of a returning run -/

theorem Yields.trendline_row {last : Option Nat} {line : List Char} {e : Event}
    {row : TrendlineRow} (h : Yields last line e) (he : e.trendline? = some row) :
    ∃ m, trendlinePattern.search line = some m ∧ row = trendlineRow m := by
  cases h with
  | trendline hm => cases he; exact ⟨_, hm, rfl⟩
  | _ => simp [Event.trendline?] at he

theorem Yields.pushback_ratio {last : Option Nat} {line : List Char} {e : Event}
    {row : PushbackRow} (h : Yields last line e) (he : e.pushback? = some row) :
    ∃ m, pushbackPattern.search line = some m ∧ pyFloatE (m.chars 6) = .ok row.reductionRatio := by
  cases h with
  | pushback hm hr =>
    cases he
    refine ⟨_, hm, ?_⟩
    simp only [pushbackRow, bind, Except.bind] at hr
    split at hr
    · cases hr
    · cases hr; assumption
  | _ => simp [Event.pushback?] at he

theorem candidatesRow_candidates {m : Match} {row : LossRow} {cs : List PyFloat}
    (h : candidatesRow m = .ok row) (hc : row.candidates = some cs) :
    (candidatePieces (m.chars 2)).mapM pyFloatE = .ok cs := by
  simp only [candidatesRow, bind, Except.bind, pure, Except.pure] at h
  split at h
  · cases h
  · rename_i cs' hf
    have hrow : row.candidates = some cs' := by
      split at h <;> (try split at h) <;> cases h <;> rfl
    rw [hc, Option.some.injEq] at hrow
    rwa [hrow]

theorem Yields.loss_candidates {last : Option Nat} {line : List Char} {e : Event}
    {row : LossRow} {cs : List PyFloat} (h : Yields last line e) (he : e.loss? = some row)
    (hc : row.candidates = some cs) :
    ∃ m, lossCandidatesPattern.search line = some m ∧
      (candidatePieces (m.chars 2)).mapM pyFloatE = .ok cs := by
  cases h with
  | lossEstimate hm =>
    simp only [Event.loss?, Option.some.injEq] at he
    subst he
    simp [lossEstimateRow] at hc
  | lossCandidates hm hr =>
    simp only [Event.loss?, Option.some.injEq] at he
    subst he
    exact ⟨_, hm, candidatesRow_candidates hr hc⟩
  | _ => simp [Event.loss?] at he

/-- On a run that returns, every Trendline row is the Trendline body on a line
of the log, every candidate list is `float` of the pieces its line captured,
and every pushback ratio is `float` of the text its line captured. -/
theorem parseLogFile_ok_float_fields {log : List (List Char)} {r : GccData}
    (h : parseLogFile log = .ok r) :
    (∀ row ∈ r.trendline, ∃ l ∈ log, ∃ m,
      trendlinePattern.search l = some m ∧ row = trendlineRow m) ∧
    (∀ row ∈ r.loss, ∀ cs, row.candidates = some cs → ∃ l ∈ log, ∃ m,
      lossCandidatesPattern.search l = some m ∧
        (candidatePieces (m.chars 2)).mapM pyFloatE = .ok cs) ∧
    (∀ row ∈ r.pushback, ∃ l ∈ log, ∃ m,
      pushbackPattern.search l = some m ∧ pyFloatE (m.chars 6) = .ok row.reductionRatio) := by
  rw [parseLogFile_eq] at h
  cases hl : lineEvents none log with
  | error err => simp [hl, Except.map] at h
  | ok outs =>
    simp only [hl, Except.map, Except.ok.injEq] at h
    subst h
    refine ⟨fun row hrow => ?_, fun row hrow cs hc => ?_, fun row hrow => ?_⟩
    · obtain ⟨e, he, hrow⟩ := List.mem_filterMap.mp hrow
      obtain ⟨l, hl', t, hy⟩ := lineEvents_yields hl he
      exact ⟨l, hl', hy.trendline_row hrow⟩
    · obtain ⟨e, he, hrow⟩ := List.mem_filterMap.mp hrow
      obtain ⟨l, hl', t, hy⟩ := lineEvents_yields hl he
      exact ⟨l, hl', hy.loss_candidates hrow hc⟩
    · obtain ⟨e, he, hrow⟩ := List.mem_filterMap.mp hrow
      obtain ⟨l, hl', t, hy⟩ := lineEvents_yields hl he
      exact ⟨l, hl', hy.pushback_ratio hrow⟩

/-- **The unguarded `float` calls abort the parse, and a NaN threshold stays
NaN.**  For every log, a parse fails only on a line that the candidates or
the pushback block takes, first among the blocks, and whose body raised.  On
a run that returns, every float field is `float` of the text its line
captured.  So a candidate or a pushback ratio that `float` refuses ends the
whole parse with `ValueError`, and the Trendline threshold `NaN` is kept as
NaN, not read as `0.0`. -/
theorem parseLogFile_float_fields :
    (∀ log : List (List Char),
      (∀ e, parseLogFile log = .error e → ∃ i l, log[i]? = some l ∧ ∃ m,
        ((∀ b ∈ branches.take 3, b (lastAfter none (log.take (i + 1))) l = none) ∧
          lossCandidatesPattern.search l = some m ∧ candidatesRow m = .error e) ∨
        ((∀ b ∈ branches.take 12, b (lastAfter none (log.take (i + 1))) l = none) ∧
          pushbackPattern.search l = some m ∧ pushbackRow m = .error e)) ∧
      (∀ r, parseLogFile log = .ok r →
        (∀ row ∈ r.trendline, ∃ l ∈ log, ∃ m,
          trendlinePattern.search l = some m ∧ row = trendlineRow m) ∧
        (∀ row ∈ r.loss, ∀ cs, row.candidates = some cs → ∃ l ∈ log, ∃ m,
          lossCandidatesPattern.search l = some m ∧
            (candidatePieces (m.chars 2)).mapM pyFloatE = .ok cs) ∧
        (∀ row ∈ r.pushback, ∃ l ∈ log, ∃ m,
          pushbackPattern.search l = some m ∧ pyFloatE (m.chars 6) = .ok row.reductionRatio))) ∧
    parseLogFile ["[LossBWE-Candidates] Time: 1 ms, Candidate Bandwidths (kbps): x".toList] =
      .error .valueError ∧
    parseLogFile ["[BWE-CongestionWindowPushback] Time: 1 ms, OriginalRate: 2 bps, PushbackRate: 1 bps, MinBitrate: 1 bps, Reduction: 1 bps, ReductionRatio: x%".toList] =
      .error .valueError ∧
    parseLogFile
      ["[Trendline] Time: 3 ms, Modified trend: nan, Threshold: NaN, State: normal".toList] =
      .ok { trendline := [⟨3, .finite 0, .nan, "normal"⟩] } :=
  ⟨fun _ => ⟨fun _ h => parseLogFile_error h, fun _ h => parseLogFile_ok_float_fields h⟩,
    by rfl, by rfl, by rfl⟩

end WebrtcAnalysis.Gcc
