/-
WebrtcAnalysis/Flame/Parse.lean

`WebRTCFlameGraphGenerator` of `generate_webrtc_flamegraph.py`: the generator's
`timeline_data`, and `parse_webrtc_logs`, which passes every stripped,
non-blank line of the log, with its 1-based number, to four helpers in turn.
Each helper searches the line with patterns of the registry and appends
events with `_add_timeline_event`:

* `_parse_video_quality_events`: `VideoQuality.<type>.ProcessFrame` with
  `fps * 10` when the details hold `FPS:` and match `FPS: (\d+)`, and
  `VideoQuality.<type>.Decode` with `decode_ms` when that is positive;
* `_parse_gcc_events`: `GCC.DecisionSnapshot` with 5, and `GCC.<type>` with 3
  for a BWE line;
* `_parse_rtp_events`: `RTP.<function>` with `max(1, line_num % 50)` when the
  function names Receive, Process, Decode or Render;
* `_parse_thread_timing`: `Threading.MessageDispatch` with the time the line
  logs.

A helper only appends, and what it appends depends on the line alone
(`Appends`).  So does a whole parse: `parse_webrtc_logs` appends one run's
events to whatever `timeline_data` already holds, and nothing resets it
(`appends_parseWebrtcLogs`).  Every appended event has a duration of at
least zero and a name `<category>.<rest>` with one of the four categories
(`TimelineEvent.WellFormed`).  That holds in every state a generator reaches
by parsing (`valid_parseWebrtcLogs`).

The registry's `video_stats`, `gcc_trendline`, `codec_timing` and
`frame_timing` patterns are read by no method and are left out, as are
`function_stack_data`, which nothing reads, and the file and tool paths.
-/
import WebrtcAnalysis.Gcc.Patterns

namespace WebrtcAnalysis.Flame

open WebrtcAnalysis
open WebrtcAnalysis.Gcc (digits word anyPlus noneOf)

/-! ### The patterns -/

/-- `'video_quality'`: `\[VideoQuality-([^\]]+)\] Time: (\d+), SSRC: (\d+), (.+)` -/
def videoQualityPattern : Regex :=
  ⟨[lit "[VideoQuality-" ++ grp 1 (noneOf ']') ++ lit "] Time: " ++ grp 2 digits ++
    lit ", SSRC: " ++ grp 3 digits ++ lit ", " ++ grp 4 anyPlus]⟩

/-- `FPS: (\d+)` -/
def fpsPattern : Regex := ⟨[lit "FPS: " ++ grp 1 digits]⟩

/-- `decode_ms: (\d+)` -/
def decodeMsPattern : Regex := ⟨[lit "decode_ms: " ++ grp 1 digits]⟩

/-- `'gcc_decision'`: `\[GCC-DECISION-SNAPSHOT\] at (\d+)ms \| (.+)` -/
def gccDecisionPattern : Regex :=
  ⟨[lit "[GCC-DECISION-SNAPSHOT] at " ++ grp 1 digits ++ lit "ms | " ++ grp 2 anyPlus]⟩

/-- `'gcc_bwe'`: `\[([^-]+BWE-[^\]]+)\] Time: (\d+) ms, (.+)` -/
def gccBwePattern : Regex :=
  ⟨[lit "[" ++ [.groupOpen 1, noneOf '-'] ++ lit "BWE-" ++ [noneOf ']', .groupClose 1] ++
    lit "] Time: " ++ grp 2 digits ++ lit " ms, " ++ grp 3 anyPlus]⟩

/-- `'rtp_receive'`: `\(([^)]+)\): (\w+): (.+)` -/
def rtpReceivePattern : Regex :=
  ⟨[lit "(" ++ grp 1 (noneOf ')') ++ lit "): " ++ grp 2 word ++ lit ": " ++ grp 3 anyPlus]⟩

/-- `'thread_timing'`: `\(thread\.cc:\d+\): Message to Thread .+ took (\d+)ms` -/
def threadTimingPattern : Regex :=
  ⟨[lit "(thread.cc:" ++ [digits] ++ lit "): Message to Thread " ++ [anyPlus] ++ lit " took " ++
    grp 1 digits ++ lit "ms"]⟩

/-! ### The generator and its helpers -/

/-- One entry of `timeline_data`. -/
structure TimelineEvent where
  timestamp : ℤ
  function : List Char
  duration : ℤ
  deriving DecidableEq, Repr

/-- The state of the generator that the modelled methods read and write. -/
structure Generator where
  timelineData : List TimelineEvent
  deriving DecidableEq, Repr

/-- `__init__`: `self.timeline_data = []`. -/
def Generator.init : Generator := ⟨[]⟩

/-- `_add_timeline_event` -/
def Generator.addTimelineEvent (self : Generator) (timestamp : ℤ) (function : List Char)
    (duration : ℤ) : Generator :=
  ⟨self.timelineData ++ [⟨timestamp, function, duration⟩]⟩

/-- `_parse_video_quality_events` -/
def parseVideoQualityEvents (self : Generator) (line : List Char) : Generator :=
  match videoQualityPattern.search line with
  | some m =>
    let self :=
      if isInfix "FPS:".toList (m.chars 4) then
        match fpsPattern.search (m.chars 4) with
        | some fps =>
          self.addTimelineEvent (m.int 2)
            ("VideoQuality.".toList ++ m.chars 1 ++ ".ProcessFrame".toList) (fps.int 1 * 10)
        | none => self
      else self
    if isInfix "decode_ms:".toList (m.chars 4) then
      match decodeMsPattern.search (m.chars 4) with
      | some d =>
        if 0 < d.int 1 then
          self.addTimelineEvent (m.int 2) ("VideoQuality.".toList ++ m.chars 1 ++ ".Decode".toList)
            (d.int 1)
        else self
      | none => self
    else self
  | none => self

/-- `_parse_gcc_events` -/
def parseGccEvents (self : Generator) (line : List Char) : Generator :=
  let self :=
    match gccDecisionPattern.search line with
    | some m => self.addTimelineEvent (m.int 1) "GCC.DecisionSnapshot".toList 5
    | none => self
  match gccBwePattern.search line with
  | some m => self.addTimelineEvent (m.int 2) ("GCC.".toList ++ m.chars 1) 3
  | none => self

/-- `_parse_rtp_events` -/
def parseRtpEvents (self : Generator) (line : List Char) (lineNum : ℕ) : Generator :=
  match rtpReceivePattern.search line with
  | some m =>
    if anyKeywordIn ["Receive", "Process", "Decode", "Render"] (m.chars 2) then
      self.addTimelineEvent (lineNum * 100) ("RTP.".toList ++ m.chars 2) (max 1 (lineNum % 50))
    else self
  | none => self

/-- `_parse_thread_timing` -/
def parseThreadTiming (self : Generator) (line : List Char) (lineNum : ℕ) : Generator :=
  match threadTimingPattern.search line with
  | some m => self.addTimelineEvent (lineNum * 100) "Threading.MessageDispatch".toList (m.int 1)
  | none => self

/-- One turn of the loop: `line.strip()`, skipped when blank, else the four
helpers in order. -/
def parseLine (self : Generator) (lineNum : ℕ) (line : List Char) : Generator :=
  let line := strip line
  if line.isEmpty then self
  else
    parseThreadTiming
      (parseRtpEvents (parseGccEvents (parseVideoQualityEvents self line) line) line lineNum)
      line lineNum

/-- `for line_num, line in enumerate(lines, 1)`, from line number `lineNum`. -/
def parseLines (self : Generator) : ℕ → List (List Char) → Generator
  | _, [] => self
  | lineNum, line :: rest => parseLines (parseLine self lineNum line) (lineNum + 1) rest

/-- `parse_webrtc_logs`: the lines of the log file, numbered from 1. -/
def parseWebrtcLogs (self : Generator) (lines : List (List Char)) : Generator :=
  parseLines self 1 lines

/-! ### Well-formed events -/

/-- The four categories the helpers name. -/
def categoryNames : List (List Char) :=
  ["VideoQuality".toList, "GCC".toList, "RTP".toList, "Threading".toList]

/-- What every event a helper appends satisfies: a duration of at least zero,
and a name `<category>.<rest>` with one of the four categories. -/
structure TimelineEvent.WellFormed (e : TimelineEvent) : Prop where
  duration_nonneg : 0 ≤ e.duration
  function_eq : ∃ c ∈ categoryNames, ∃ rest, e.function = c ++ '.' :: rest

theorem TimelineEvent.wellFormed_mk {c : List Char} (hc : c ∈ categoryNames) (rest : List Char)
    {timestamp duration : ℤ} (hd : 0 ≤ duration) :
    (⟨timestamp, c ++ '.' :: rest, duration⟩ : TimelineEvent).WellFormed :=
  ⟨hd, c, hc, rest, rfl⟩

/-- The invariant of a generator: all its events are well formed. -/
def Generator.Valid (g : Generator) : Prop := ∀ e ∈ g.timelineData, e.WellFormed

theorem Generator.valid_init : Generator.init.Valid := fun _ h => by cases h

theorem Generator.Valid.add {g : Generator} (hg : g.Valid) {timestamp : ℤ} {function : List Char}
    {duration : ℤ} (he : (⟨timestamp, function, duration⟩ : TimelineEvent).WellFormed) :
    (g.addTimelineEvent timestamp function duration).Valid := fun e h => by
  rcases List.mem_append.mp h with h | h
  · exact hg e h
  · rw [List.mem_singleton.mp h]; exact he

/-! ### Each helper appends, whatever the state -/

theorem parseVideoQualityEvents_timelineData (g : Generator) (line : List Char) :
    (parseVideoQualityEvents g line).timelineData =
      g.timelineData ++ (parseVideoQualityEvents .init line).timelineData := by
  unfold parseVideoQualityEvents
  cases videoQualityPattern.search line with
  | none => exact (List.append_nil _).symm
  | some m =>
    cases hf : fpsPattern.search (m.chars 4) <;> cases hd : decodeMsPattern.search (m.chars 4) <;>
      simp only [hf, hd] <;> split_ifs <;> simp only [Generator.addTimelineEvent, Generator.init, List.append_assoc, List.nil_append, List.append_nil]

theorem valid_parseVideoQualityEvents {g : Generator} (hg : g.Valid) (line : List Char) :
    (parseVideoQualityEvents g line).Valid := by
  have hwf : ∀ (rest : List Char) {t d : ℤ}, 0 ≤ d →
      (⟨t, "VideoQuality.".toList ++ rest, d⟩ : TimelineEvent).WellFormed :=
    fun rest _ _ hd => TimelineEvent.wellFormed_mk (List.mem_cons_self _ _) rest hd
  unfold parseVideoQualityEvents
  cases videoQualityPattern.search line with
  | none => exact hg
  | some m =>
    cases hf : fpsPattern.search (m.chars 4) <;> cases hd : decodeMsPattern.search (m.chars 4) <;>
      simp only [hf, hd] <;> split_ifs <;>
      repeat (first | exact hg | refine Generator.Valid.add ?_ (hwf _ (by omega)))

theorem parseGccEvents_timelineData (g : Generator) (line : List Char) :
    (parseGccEvents g line).timelineData =
      g.timelineData ++ (parseGccEvents .init line).timelineData := by
  unfold parseGccEvents
  cases gccDecisionPattern.search line <;> cases gccBwePattern.search line <;>
    simp only [Generator.addTimelineEvent, Generator.init, List.append_assoc, List.nil_append, List.append_nil]

theorem valid_parseGccEvents {g : Generator} (hg : g.Valid) (line : List Char) :
    (parseGccEvents g line).Valid := by
  have hwf : ∀ (rest : List Char) {t d : ℤ}, 0 ≤ d →
      (⟨t, "GCC.".toList ++ rest, d⟩ : TimelineEvent).WellFormed :=
    fun rest _ _ hd => @TimelineEvent.wellFormed_mk "GCC".toList (by decide) rest _ _ hd
  unfold parseGccEvents
  cases gccDecisionPattern.search line <;> cases gccBwePattern.search line <;> dsimp only <;>
    repeat (first | exact hg | refine Generator.Valid.add ?_ (hwf _ (by decide)))

theorem parseRtpEvents_timelineData (g : Generator) (line : List Char) (lineNum : ℕ) :
    (parseRtpEvents g line lineNum).timelineData =
      g.timelineData ++ (parseRtpEvents .init line lineNum).timelineData := by
  unfold parseRtpEvents
  cases rtpReceivePattern.search line with
  | none => exact (List.append_nil _).symm
  | some m => dsimp only; split_ifs <;> simp only [Generator.addTimelineEvent, Generator.init, List.append_assoc, List.nil_append, List.append_nil]

theorem valid_parseRtpEvents {g : Generator} (hg : g.Valid) (line : List Char) (lineNum : ℕ) :
    (parseRtpEvents g line lineNum).Valid := by
  unfold parseRtpEvents
  cases rtpReceivePattern.search line with
  | none => exact hg
  | some m =>
    dsimp only
    split_ifs
    · exact hg.add (@TimelineEvent.wellFormed_mk "RTP".toList (by decide) _ _ _
        (le_max_of_le_left (by decide)))
    · exact hg

theorem parseThreadTiming_timelineData (g : Generator) (line : List Char) (lineNum : ℕ) :
    (parseThreadTiming g line lineNum).timelineData =
      g.timelineData ++ (parseThreadTiming .init line lineNum).timelineData := by
  unfold parseThreadTiming
  cases threadTimingPattern.search line <;> simp only [Generator.addTimelineEvent, Generator.init, List.append_assoc, List.nil_append, List.append_nil]

theorem valid_parseThreadTiming {g : Generator} (hg : g.Valid) (line : List Char) (lineNum : ℕ) :
    (parseThreadTiming g line lineNum).Valid := by
  unfold parseThreadTiming
  cases threadTimingPattern.search line with
  | none => exact hg
  | some m => exact hg.add (@TimelineEvent.wellFormed_mk "Threading".toList (by decide) _ _ _
      (Int.natCast_nonneg _))

/-! ### A whole parse appends, whatever the state -/

/-- One turn of the loop appends what it appends from a fresh generator. -/
theorem parseLine_timelineData (g : Generator) (lineNum : ℕ) (line : List Char) :
    (parseLine g lineNum line).timelineData =
      g.timelineData ++ (parseLine .init lineNum line).timelineData := by
  unfold parseLine
  dsimp only
  split_ifs
  · exact (List.append_nil _).symm
  · rw [parseThreadTiming_timelineData, parseRtpEvents_timelineData, parseGccEvents_timelineData,
      parseVideoQualityEvents_timelineData,
      parseThreadTiming_timelineData (parseRtpEvents _ _ _), parseRtpEvents_timelineData (parseGccEvents _ _),
      parseGccEvents_timelineData (parseVideoQualityEvents _ _)]
    simp only [List.append_assoc]

theorem valid_parseLine {g : Generator} (hg : g.Valid) (lineNum : ℕ) (line : List Char) :
    (parseLine g lineNum line).Valid := by
  unfold parseLine
  dsimp only
  split_ifs
  · exact hg
  · exact valid_parseThreadTiming (valid_parseRtpEvents (valid_parseGccEvents
      (valid_parseVideoQualityEvents hg _) _) _ _) _ _

theorem parseLines_timelineData (g : Generator) (lineNum : ℕ) (lines : List (List Char)) :
    (parseLines g lineNum lines).timelineData =
      g.timelineData ++ (parseLines .init lineNum lines).timelineData := by
  induction lines generalizing g lineNum with
  | nil => exact (List.append_nil _).symm
  | cons line rest ih =>
    rw [parseLines, parseLines, ih, ih (parseLine .init _ _), parseLine_timelineData,
      List.append_assoc]

/-- **A parse appends to `timeline_data`**: the events of one run from a fresh
generator, after whatever the generator already held. -/
theorem parseWebrtcLogs_timelineData (g : Generator) (lines : List (List Char)) :
    (parseWebrtcLogs g lines).timelineData =
      g.timelineData ++ (parseWebrtcLogs .init lines).timelineData :=
  parseLines_timelineData g 1 lines

theorem valid_parseLines {g : Generator} (hg : g.Valid) (lineNum : ℕ) (lines : List (List Char)) :
    (parseLines g lineNum lines).Valid := by
  induction lines generalizing g lineNum with
  | nil => exact hg
  | cons line rest ih => exact ih (valid_parseLine hg _ _) _

/-- **Parsing keeps every event well formed.** -/
theorem valid_parseWebrtcLogs {g : Generator} (hg : g.Valid) (lines : List (List Char)) :
    (parseWebrtcLogs g lines).Valid :=
  valid_parseLines hg 1 lines

end WebrtcAnalysis.Flame
