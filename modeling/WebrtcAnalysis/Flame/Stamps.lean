/-
WebrtcAnalysis/Flame/Stamps.lean

Two clocks in one timeline.  `_parse_video_quality_events` and
`_parse_gcc_events` take the timestamp written in the line.
`_parse_rtp_events` and `_parse_thread_timing` write `line_num * 100`
instead, and the RTP helper also estimates the duration as
`max(1, line_num % 50)`.  The comment says "1-50ms", but `% 50` never gives 50.

The events of line `n` satisfy `StampedAt n`: an RTP or threading event
carries `100 * n`, and an RTP event has a duration from 1 to 49.  Each helper
keeps this for the events it appends (`stampedAt_parseLine`).  Lines come with
increasing numbers, so over a parse the line-stamped events are in
non-decreasing timestamp order (`stamps_parseLines`).  The stable sort of
`generate_flame_graph_data` therefore leaves them in log order, however it
moves the events with logged timestamps around them
(`line_stamped_events_keep_log_order`).
-/
import WebrtcAnalysis.Flame.Session

namespace WebrtcAnalysis.Flame

open WebrtcAnalysis

/-! ### Line-stamped events -/

/-- An event that `_parse_rtp_events` or `_parse_thread_timing` adds. -/
def LineStamped (e : TimelineEvent) : Bool :=
  eventCategory e == "RTP".toList || eventCategory e == "Threading".toList

/-- What an event of line `n` satisfies: when it is line-stamped it carries
`100 * n`, and when it is an RTP event its duration lies between 1 and 49. -/
def StampedAt (n : ℕ) (e : TimelineEvent) : Prop :=
  LineStamped e = true → e.timestamp = 100 * n ∧
    (eventCategory e = "RTP".toList → 1 ≤ e.duration ∧ e.duration ≤ 49)

theorem forall_addTimelineEvent {P : TimelineEvent → Prop} {g : Generator}
    (hg : ∀ e ∈ g.timelineData, P e) {timestamp : ℤ} {function : List Char} {duration : ℤ}
    (he : P ⟨timestamp, function, duration⟩) :
    ∀ e ∈ (g.addTimelineEvent timestamp function duration).timelineData, P e := fun e h => by
  rcases List.mem_append.mp h with h | h
  · exact hg e h
  · rw [List.mem_singleton.mp h]; exact he

section Events

variable {n : ℕ} {t d : ℤ}

/-- An event with a logged timestamp is not line-stamped. -/
theorem stampedAt_logged {c : List Char} (hc : c = "VideoQuality".toList ∨ c = "GCC".toList)
    (rest : List Char) : StampedAt n ⟨t, c ++ '.' :: rest, d⟩ := by
  intro hs
  have hcat : eventCategory ⟨t, c ++ '.' :: rest, d⟩ = c :=
    eventCategory_of_wellFormed (by rcases hc with rfl | rfl <;> decide) rfl
  rw [LineStamped, hcat] at hs
  rcases hc with rfl | rfl <;> exact absurd hs (by decide)

theorem stampedAt_videoQuality (x y : List Char) :
    StampedAt n ⟨t, "VideoQuality.".toList ++ x ++ y, d⟩ :=
  stampedAt_logged (.inl rfl) (x ++ y)

theorem stampedAt_gcc (x : List Char) : StampedAt n ⟨t, "GCC.".toList ++ x, d⟩ :=
  stampedAt_logged (.inr rfl) x

/-- The RTP event of line `n`: stamped `100 * n`, lasting `max(1, n % 50)`. -/
theorem stampedAt_rtp (x : List Char) :
    StampedAt n ⟨n * 100, "RTP.".toList ++ x, max 1 (n % 50)⟩ := fun _ => by
  dsimp only
  exact ⟨by omega, fun _ => ⟨le_max_left _ _, max_le (by decide) (by omega)⟩⟩

theorem stampedAt_thread (k : ℕ) :
    StampedAt n ⟨n * 100, "Threading.MessageDispatch".toList, k⟩ := by
  have hcat : eventCategory ⟨n * 100, "Threading.MessageDispatch".toList, k⟩ = "Threading".toList :=
    eventCategory_of_wellFormed (by decide) rfl
  exact fun _ => ⟨by dsimp only; omega, fun h => absurd (hcat.symm.trans h) (by decide)⟩

end Events

section Helpers

variable {n : ℕ} {g : Generator} (hg : ∀ e ∈ g.timelineData, StampedAt n e) (line : List Char)
include hg

theorem stampedAt_parseVideoQualityEvents :
    ∀ e ∈ (parseVideoQualityEvents g line).timelineData, StampedAt n e := by
  unfold parseVideoQualityEvents
  cases videoQualityPattern.search line with
  | none => exact hg
  | some m =>
    cases hf : fpsPattern.search (m.chars 4) <;> cases hd : decodeMsPattern.search (m.chars 4) <;>
      simp only [hf, hd] <;> split_ifs <;>
      repeat (first | exact hg | refine forall_addTimelineEvent ?_ (stampedAt_videoQuality _ _))

theorem stampedAt_parseGccEvents : ∀ e ∈ (parseGccEvents g line).timelineData, StampedAt n e := by
  unfold parseGccEvents
  cases gccDecisionPattern.search line <;> cases gccBwePattern.search line <;> dsimp only <;>
    repeat (first | exact hg | refine forall_addTimelineEvent ?_ (stampedAt_gcc _))

theorem stampedAt_parseRtpEvents :
    ∀ e ∈ (parseRtpEvents g line n).timelineData, StampedAt n e := by
  unfold parseRtpEvents
  cases rtpReceivePattern.search line with
  | none => exact hg
  | some m =>
    dsimp only
    split_ifs
    · exact forall_addTimelineEvent hg (stampedAt_rtp _)
    · exact hg

theorem stampedAt_parseThreadTiming :
    ∀ e ∈ (parseThreadTiming g line n).timelineData, StampedAt n e := by
  unfold parseThreadTiming
  cases threadTimingPattern.search line with
  | none => exact hg
  | some m => exact forall_addTimelineEvent hg (stampedAt_thread _)

/-- One turn of the loop keeps every event stamped at its line. -/
theorem stampedAt_parseLine : ∀ e ∈ (parseLine g n line).timelineData, StampedAt n e := by
  unfold parseLine
  dsimp only
  split_ifs
  · exact hg
  · exact stampedAt_parseThreadTiming (stampedAt_parseRtpEvents (stampedAt_parseGccEvents
      (stampedAt_parseVideoQualityEvents hg _) _) _) _

end Helpers

/-! ### Over a parse, and through the sort -/

/-- **A parse from line `k`**: every event is stamped at one of its lines,
and the line-stamped events come in non-decreasing timestamp order. -/
theorem stamps_parseLines (k : ℕ) (ls : List (List Char)) :
    (∀ e ∈ (parseLines .init k ls).timelineData, ∃ i < ls.length, StampedAt (k + i) e) ∧
    ((parseLines .init k ls).timelineData.filter LineStamped).Pairwise
      fun a b => a.timestamp ≤ b.timestamp := by
  induction ls generalizing k with
  | nil => exact ⟨fun e h => absurd h (List.not_mem_nil e), List.Pairwise.nil⟩
  | cons l ls ih =>
    have hsplit : (parseLines .init k (l :: ls)).timelineData =
        (parseLine .init k l).timelineData ++ (parseLines .init (k + 1) ls).timelineData :=
      parseLines_timelineData (parseLine .init k l) (k + 1) ls
    have hline : ∀ e ∈ (parseLine .init k l).timelineData, StampedAt k e :=
      stampedAt_parseLine (fun e h => absurd h (List.not_mem_nil e)) l
    obtain ⟨hrest, hpair⟩ := ih (k + 1)
    -- every line-stamped event of the rest is stamped after line `k`
    have hlater : ∀ e ∈ (parseLines .init (k + 1) ls).timelineData.filter LineStamped,
        100 * (k : ℤ) + 100 ≤ e.timestamp := fun e he => by
      obtain ⟨he, hs⟩ := List.mem_filter.mp he
      obtain ⟨i, -, hi⟩ := hrest e he
      rw [(hi hs).1]
      omega
    have hnow : ∀ e ∈ (parseLine .init k l).timelineData.filter LineStamped,
        e.timestamp = 100 * k := fun e he => by
      obtain ⟨he, hs⟩ := List.mem_filter.mp he
      exact (hline e he hs).1
    rw [hsplit, List.filter_append, List.pairwise_append]
    refine ⟨fun e he => ?_, List.pairwise_of_forall_mem_list fun a ha b hb => by
      rw [hnow a ha, hnow b hb], hpair, fun a ha b hb => by
      have := hlater b hb; rw [hnow a ha]; omega⟩
    rcases List.mem_append.mp he with he | he
    · exact ⟨0, by simp, by simpa using hline e he⟩
    · obtain ⟨i, hi, hs⟩ := hrest e he
      exact ⟨i + 1, by simpa using hi, by rwa [show k + (i + 1) = k + 1 + i by omega]⟩

/-- **RTP and thread events are stamped by line, and the sort keeps them in
log order.**  For every log, every RTP or threading event carries 100 times
the number of a line of the log, and every RTP event has a duration from 1 to
49.  After `generate_flame_graph_data`, these events, taken alone, are in the
order the parse produced them. -/
theorem line_stamped_events_keep_log_order (lines : List (List Char)) :
    (∀ e ∈ (parseWebrtcLogs .init lines).timelineData, LineStamped e = true →
      ∃ i < lines.length, e.timestamp = 100 * (i + 1) ∧
        (eventCategory e = "RTP".toList → 1 ≤ e.duration ∧ e.duration ≤ 49)) ∧
    (generateFlameGraphData (parseWebrtcLogs .init lines)).1.timelineData.filter LineStamped =
      (parseWebrtcLogs .init lines).timelineData.filter LineStamped := by
  obtain ⟨hstamp, hpair⟩ := stamps_parseLines 1 lines
  refine ⟨fun e he hs => ?_, ?_⟩
  · obtain ⟨i, hi, h⟩ := hstamp e he
    exact ⟨i, hi, by rw [(h hs).1]; push_cast; ring, (h hs).2⟩
  · -- the line-stamped events are already sorted, so the stable sort keeps them
    have hsub := (List.sublist_insertionSort hpair (List.filter_sublist _)).filter LineStamped
    rw [List.filter_filter, List.filter_congr fun e _ => Bool.and_self _] at hsub
    exact (hsub.eq_of_length ((perm_generateFlameGraphData _).filter _).length_eq.symm).symm

end WebrtcAnalysis.Flame
