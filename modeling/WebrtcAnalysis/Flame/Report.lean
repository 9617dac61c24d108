/-
WebrtcAnalysis/Flame/Report.lean

The two outputs built from `timeline_data`.  `generate_flame_graph_data`
sorts `timeline_data` by timestamp in place and sums the durations per
function name into a `defaultdict(int)`.  It then writes one folded stack
line per function: the name's `.`-separated parts joined by `;`, a space, and
the total, or `WebRTC;<name>` when the name has no dot.
`generate_summary_report` groups the events by `function.split('.')[0]`.  It
gives each category its event count, total and largest duration, next to the
number of events and the total duration.

On a well-formed event the first part of the name is its category
(`eventCategory_of_wellFormed`), and the folded line of its function starts
with that category (`foldedLine_of_wellFormed`).  Both groupings are loops
of `defaultdict` updates, so the lemmas of `WebrtcAnalysis.Dict` give their
sums and entries.  Over every valid generator, every category of an event and
every first frame of a folded line has an entry in the summary.  The folded
lines of a category add up to the category's total, and the categories' counts
and totals add up to the number and the total duration of the events.  Each category's maximum is
the largest of its durations (`reportsAgree_of_valid`).

A second parse appends a second copy of the events, since nothing resets
`timeline_data`.  So `k` parses give `k` copies, `k` times the counts and
totals, and the single parse's timeline only when `k = 1` or the log yields
no event (`parse_webrtc_logs_repeated`).

`average_time_ms`, `analysis_timestamp` (the clock), the JSON file, the SVG
and the interactive chart are left out.
-/
import WebrtcAnalysis.Flame.Parse
import WebrtcAnalysis.Dict
import Mathlib.Data.List.Sort

namespace WebrtcAnalysis.Flame

open WebrtcAnalysis

/-! ### The folded stacks -/

/-- A line of `stack_data`: the frames joined by `;`, and the count written
after them. -/
structure FoldedLine where
  stack : List Char
  count : ℤ
  deriving DecidableEq, Repr

/-- `f"{stack_trace} {total_duration}"` -/
def FoldedLine.text (l : FoldedLine) : List Char := l.stack ++ ' ' :: (toString l.count).toList

/-- The first frame of the line: its stack up to the first `;`. -/
def FoldedLine.firstFrame (l : FoldedLine) : List Char := l.stack.takeWhile (· != ';')

/-- `function_stats`: the durations summed per function name, in the order
the names first occur. -/
def functionStats (events : List TimelineEvent) : List (List Char × ℤ) :=
  upsertAll (·.function) (fun e total => total + e.duration) 0 [] events

/-- The folded line of one function, with the `WebRTC;` fallback for a name
without a dot. -/
def foldedLine (function : List Char) (totalDuration : ℤ) : FoldedLine :=
  let parts := splitOn '.' function
  if 2 ≤ parts.length then ⟨[';'].intercalate parts, totalDuration⟩
  else ⟨"WebRTC;".toList ++ function, totalDuration⟩

/-- `generate_flame_graph_data`: `timeline_data` sorted by timestamp (stably,
as `list.sort` is), and the folded lines. -/
def generateFlameGraphData (self : Generator) : Generator × List FoldedLine :=
  let sorted := self.timelineData.insertionSort fun a b => a.timestamp ≤ b.timestamp
  (⟨sorted⟩, (functionStats sorted).map fun p => foldedLine p.1 p.2)

/-! ### The summary report -/

/-- `function.split('.')[0]`; a split has at least one part. -/
def eventCategory (e : TimelineEvent) : List Char := (splitOn '.' e.function).headD []

/-- One entry of `category_stats`. -/
structure CategoryStats where
  count : ℕ
  totalTime : ℤ
  maxTime : ℤ
  deriving DecidableEq, Repr

/-- The loop body of `generate_summary_report` on one category's entry. -/
def CategoryStats.add (duration : ℤ) (s : CategoryStats) : CategoryStats :=
  ⟨s.count + 1, s.totalTime + duration, max s.maxTime duration⟩

/-- `category_stats`, a `defaultdict` of `{'count': 0, 'total_time': 0,
'max_time': 0}`. -/
def categoryStats (events : List TimelineEvent) : List (List Char × CategoryStats) :=
  upsertAll eventCategory (fun e s => s.add e.duration) ⟨0, 0, 0⟩ [] events

/-- `report['summary']` without its clock reading. -/
structure Summary where
  totalEvents : ℕ
  totalTimeMs : ℤ
  deriving DecidableEq, Repr

/-- `report['categories'][c]` without its rounded average. -/
structure CategoryReport where
  eventCount : ℕ
  totalTimeMs : ℤ
  maxTimeMs : ℤ
  deriving DecidableEq, Repr

/-- The report `generate_summary_report` writes. -/
structure PerformanceReport where
  summary : Summary
  categories : List (List Char × CategoryReport)
  deriving DecidableEq, Repr

/-- `generate_summary_report` -/
def generateSummaryReport (self : Generator) : PerformanceReport :=
  { summary := ⟨self.timelineData.length, (self.timelineData.map (·.duration)).sum⟩
    categories := (categoryStats self.timelineData).map fun p =>
      (p.1, ⟨p.2.count, p.2.totalTime, p.2.maxTime⟩) }

/-! ### Names of well-formed events -/

theorem categoryNames_clear : ∀ c ∈ categoryNames, '.' ∉ c ∧ ∀ x ∈ c, (x != ';') = true := by
  decide

/-- The category of a well-formed event is the part of its name before the
first dot. -/
theorem eventCategory_of_wellFormed {e : TimelineEvent} {c rest : List Char}
    (hc : c ∈ categoryNames) (hf : e.function = c ++ '.' :: rest) : eventCategory e = c := by
  rw [eventCategory, hf, splitOn_append_cons (categoryNames_clear c hc).1]
  rfl

/-- The folded line of a well-formed name joins its parts, and starts with
its category. -/
theorem foldedLine_of_wellFormed {c rest : List Char} (hc : c ∈ categoryNames) (total : ℤ) :
    foldedLine (c ++ '.' :: rest) total =
        ⟨[';'].intercalate (splitOn '.' (c ++ '.' :: rest)), total⟩ ∧
      (foldedLine (c ++ '.' :: rest) total).firstFrame = c := by
  have hsplit := splitOn_append_cons (categoryNames_clear c hc).1 rest
  obtain ⟨p, ps, hps⟩ : ∃ p ps, splitOn '.' rest = p :: ps :=
    List.exists_cons_of_ne_nil (List.splitOnP_ne_nil _ rest)
  have hlong : 2 ≤ (splitOn '.' (c ++ '.' :: rest)).length := by simp [hsplit, hps]
  refine ⟨if_pos hlong, ?_⟩
  rw [foldedLine, if_pos hlong, FoldedLine.firstFrame, hsplit, hps]
  simp only [List.intercalate, List.intersperse_cons_cons, List.flatten_cons, List.append_assoc]
  rw [List.takeWhile_append_of_pos (categoryNames_clear c hc).2]
  simp

theorem firstFrame_foldedLine (function : List Char) (total : ℤ) :
    (foldedLine function total).firstFrame = (foldedLine function 0).firstFrame := by
  dsimp only [foldedLine]
  split_ifs <;> rfl

/-- The first frame of a well-formed event's line is the event's category. -/
theorem firstFrame_eq_eventCategory {e : TimelineEvent} (he : e.WellFormed) (total : ℤ) :
    (foldedLine e.function total).firstFrame = eventCategory e := by
  obtain ⟨-, c, hc, rest, hf⟩ := he
  rw [hf, (foldedLine_of_wellFormed hc total).2, eventCategory_of_wellFormed hc hf]

/-! ### The groupings over the events -/

theorem sum_map_filter {β : Type} (p : β → Bool) (g : β → ℤ) (l : List β) :
    ((l.filter p).map g).sum = (l.map fun x => if p x then g x else 0).sum := by
  induction l with
  | nil => rfl
  | cons x t ih => by_cases hx : p x <;> simp [List.filter_cons, hx, ih]

/-- **The folded lines of a category add up to its events' durations.** -/
theorem sum_count_foldedLines {es : List TimelineEvent} (hes : ∀ e ∈ es, e.WellFormed)
    (c : List Char) :
    ((((functionStats es).map fun p => foldedLine p.1 p.2).filter (·.firstFrame == c)).map
        (·.count)).sum = ((es.filter (eventCategory · == c)).map (·.duration)).sum := by
  rw [sum_map_filter, sum_map_filter, List.map_map]
  have hsum := sum_upsertAll (·.function) (fun e total => total + e.duration) 0
    (fun k v => if (foldedLine k 0).firstFrame == c then v else 0)
    (fun e => if (foldedLine e.function 0).firstFrame == c then e.duration else 0)
    (fun e v => by dsimp only; split_ifs <;> simp) (fun e => by dsimp only; split_ifs <;> rfl) es []
  have hfold : ∀ p : List Char × ℤ, (foldedLine p.1 p.2).count = p.2 := fun p => by
    dsimp only [foldedLine]; split_ifs <;> rfl
  simp only [Function.comp_def, hfold, firstFrame_foldedLine _ (Prod.snd _)]
  refine hsum.trans ?_
  rw [List.map_nil, List.sum_nil, zero_add]
  congr 1
  refine List.map_congr_left fun e he => ?_
  rw [firstFrame_eq_eventCategory (hes e he)]

/-- Every name that `function_stats` holds is the name of a well-formed event. -/
theorem functionStats_key {es : List TimelineEvent} (hes : ∀ e ∈ es, e.WellFormed)
    {p : List Char × ℤ} (hp : p ∈ functionStats es) :
    ∃ c ∈ categoryNames, ∃ rest, p.1 = c ++ '.' :: rest := by
  rcases mem_upsertAll hp with h | ⟨e, he, hfe⟩
  · cases h
  · exact hfe ▸ (hes e he).function_eq

theorem lookup_map_snd {β γ : Type} (g : β → γ) (l : List (List Char × β)) (k : List Char) :
    (l.map fun p => (p.1, g p.2)).lookup k = (l.lookup k).map g := by
  induction l with
  | nil => rfl
  | cons p t ih =>
    obtain ⟨k', v⟩ := p
    by_cases hk : k = k'
    · subst hk; simp [lookup_cons_of_eq]
    · simp only [List.map_cons, lookup_cons_of_ne hk, ih]

theorem foldl_add (l : List TimelineEvent) (s : CategoryStats) :
    l.foldl (fun s e => s.add e.duration) s =
      ⟨s.count + l.length, s.totalTime + (l.map (·.duration)).sum,
        (l.map (·.duration)).foldl max s.maxTime⟩ := by
  induction l generalizing s with
  | nil => simp
  | cons e t ih =>
    rw [List.foldl_cons, ih]
    simp only [CategoryStats.add, List.length_cons, List.map_cons, List.sum_cons, List.foldl_cons,
      CategoryStats.mk.injEq, add_assoc, Nat.add_comm 1, and_true, true_and]

/-- The summary's entry of a category: its events' count, total and running
maximum from `0`. -/
theorem lookup_categoryStats (es : List TimelineEvent) (c : List Char) :
    (categoryStats es).lookup c =
      if es.any (eventCategory · == c) then
        some ⟨(es.filter (eventCategory · == c)).length,
          ((es.filter (eventCategory · == c)).map (·.duration)).sum,
          ((es.filter (eventCategory · == c)).map (·.duration)).foldl max 0⟩
      else none := by
  rw [categoryStats, lookup_upsertAll]
  split_ifs
  · rw [List.lookup_nil, Option.getD_none, foldl_add]
    simp
  · rfl

/-- An entry of the summary: its category has events, and the entry is their
count, total and running maximum from `0`. -/
theorem lookup_generateSummaryReport {g : Generator} {c : List Char} {s : CategoryReport}
    (h : (generateSummaryReport g).categories.lookup c = some s) :
    g.timelineData.any (eventCategory · == c) ∧
      s = ⟨(g.timelineData.filter (eventCategory · == c)).length,
        ((g.timelineData.filter (eventCategory · == c)).map (·.duration)).sum,
        ((g.timelineData.filter (eventCategory · == c)).map (·.duration)).foldl max 0⟩ := by
  dsimp only [generateSummaryReport] at h
  rw [lookup_map_snd fun s : CategoryStats => (⟨s.count, s.totalTime, s.maxTime⟩ : CategoryReport),
    lookup_categoryStats] at h
  split_ifs at h with hc
  · simp only [Option.map_some', Option.some.injEq] at h
    exact ⟨hc, h.symm⟩
  · cases h

/-- Every category with an event has an entry in the summary. -/
theorem lookup_generateSummaryReport_of_mem {g : Generator} {e : TimelineEvent}
    (he : e ∈ g.timelineData) :
    ∃ s, (generateSummaryReport g).categories.lookup (eventCategory e) = some s := by
  dsimp only [generateSummaryReport]
  rw [lookup_map_snd fun s : CategoryStats => (⟨s.count, s.totalTime, s.maxTime⟩ : CategoryReport),
    lookup_categoryStats,
    if_pos (List.any_eq_true.mpr ⟨e, he, beq_self_eq_true (eventCategory e)⟩)]
  exact ⟨_, rfl⟩

/-- Over durations of at least zero, the running maximum from `0` is the
largest. -/
theorem foldl_max_eq_max? {ds : List ℤ} (hne : ds ≠ []) (h : ∀ d ∈ ds, 0 ≤ d) :
    some (ds.foldl max 0) = ds.max? := by
  obtain ⟨d, ds, rfl⟩ := List.exists_cons_of_ne_nil hne
  rw [List.max?_cons', List.foldl_cons, max_eq_right (h d (List.mem_cons_self _ _))]

theorem sum_count_categoryStats (es : List TimelineEvent) :
    ((categoryStats es).map (·.2.count)).sum = es.length := by
  have := sum_upsertAll eventCategory (fun e s => s.add e.duration) ⟨0, 0, 0⟩
    (fun (_ : List Char) (v : CategoryStats) => v.count) (fun _ => 1) (fun _ _ => rfl) (fun _ => rfl)
    es []
  simpa using this

theorem sum_totalTime_categoryStats (es : List TimelineEvent) :
    ((categoryStats es).map (·.2.totalTime)).sum = (es.map (·.duration)).sum := by
  have := sum_upsertAll eventCategory (fun e s => s.add e.duration) ⟨0, 0, 0⟩
    (fun (_ : List Char) (v : CategoryStats) => v.totalTime) (·.duration) (fun _ _ => rfl)
    (fun _ => rfl) es []
  simpa using this

/-! ### The folded stacks against the summary -/

/-- What the folded stacks and the summary report built after
`generate_flame_graph_data` satisfy. -/
structure ReportsAgree (g : Generator) : Prop where
  /-- No line takes the `WebRTC;` fallback: every line joins its name's parts. -/
  no_fallback : (generateFlameGraphData g).2 =
    (functionStats (generateFlameGraphData g).1.timelineData).map fun p =>
      ⟨[';'].intercalate (splitOn '.' p.1), p.2⟩
  /-- The first frame of every line is a category. -/
  firstFrame_mem : ∀ l ∈ (generateFlameGraphData g).2, l.firstFrame ∈ categoryNames
  /-- The category of every event has an entry in the summary. -/
  entry_of_event : ∀ e ∈ g.timelineData,
    ∃ s, (generateSummaryReport (generateFlameGraphData g).1).categories.lookup (eventCategory e) =
      some s
  /-- The first frame of every line has an entry in the summary. -/
  entry_of_line : ∀ l ∈ (generateFlameGraphData g).2,
    ∃ s, (generateSummaryReport (generateFlameGraphData g).1).categories.lookup l.firstFrame =
      some s
  /-- The lines of a category add up to its `total_time_ms`. -/
  count_sum : ∀ c s, (generateSummaryReport (generateFlameGraphData g).1).categories.lookup c =
      some s → ((((generateFlameGraphData g).2).filter (·.firstFrame == c)).map (·.count)).sum =
        s.totalTimeMs
  /-- `total_events` and `total_time_ms` are the number and the total duration
  of the events. -/
  summary_eq : (generateSummaryReport (generateFlameGraphData g).1).summary =
    ⟨g.timelineData.length, (g.timelineData.map (·.duration)).sum⟩
  /-- The `event_count` values add up to `total_events`. -/
  eventCount_sum :
    ((generateSummaryReport (generateFlameGraphData g).1).categories.map (·.2.eventCount)).sum =
      (generateSummaryReport (generateFlameGraphData g).1).summary.totalEvents
  /-- The categories' `total_time_ms` add up to the summary's. -/
  totalTime_sum :
    ((generateSummaryReport (generateFlameGraphData g).1).categories.map (·.2.totalTimeMs)).sum =
      (generateSummaryReport (generateFlameGraphData g).1).summary.totalTimeMs
  /-- `max_time_ms` of a category is the largest of its durations. -/
  maxTime_eq : ∀ c s, (generateSummaryReport (generateFlameGraphData g).1).categories.lookup c =
      some s → some s.maxTimeMs =
        (((generateFlameGraphData g).1.timelineData.filter (eventCategory · == c)).map
          (·.duration)).max?

/-- **The folded stacks agree with the summary** on every generator whose
events are well formed. -/
theorem reportsAgree_of_valid {g : Generator} (hg : g.Valid) : ReportsAgree g := by
  have hperm := List.perm_insertionSort (fun a b : TimelineEvent => a.timestamp ≤ b.timestamp)
    g.timelineData
  have hsorted : ∀ e ∈ (generateFlameGraphData g).1.timelineData, e.WellFormed := fun e he =>
    hg e (hperm.subset he)
  have hentry : ∀ e ∈ g.timelineData, ∃ s,
      (generateSummaryReport (generateFlameGraphData g).1).categories.lookup (eventCategory e) =
        some s := fun e he => lookup_generateSummaryReport_of_mem (hperm.symm.subset he)
  set es := (generateFlameGraphData g).1.timelineData
  have hstacks : (generateFlameGraphData g).2 = (functionStats es).map fun p => foldedLine p.1 p.2 :=
    rfl
  refine ⟨?_, fun l hl => ?_, hentry, fun l hl => ?_, fun c s h => ?_, ?_, ?_, ?_, fun c s h => ?_⟩
  · rw [hstacks]
    refine List.map_congr_left fun p hp => ?_
    obtain ⟨c, hc, rest, hp1⟩ := functionStats_key hsorted hp
    rw [hp1]
    exact (foldedLine_of_wellFormed hc p.2).1
  · rw [hstacks] at hl
    obtain ⟨p, hp, rfl⟩ := List.mem_map.mp hl
    obtain ⟨c, hc, rest, hp1⟩ := functionStats_key hsorted hp
    rw [hp1, (foldedLine_of_wellFormed hc p.2).2]
    exact hc
  · -- a line is the line of an event's function, and its first frame is that event's category
    rw [hstacks] at hl
    obtain ⟨p, hp, rfl⟩ := List.mem_map.mp hl
    rcases mem_upsertAll hp with h | ⟨e, he, hfe⟩
    · cases h
    · rw [← hfe, firstFrame_eq_eventCategory (hsorted e he)]
      exact hentry e (hperm.subset he)
  · rw [(lookup_generateSummaryReport h).2, hstacks, sum_count_foldedLines hsorted]
  · exact congrArg₂ Summary.mk hperm.length_eq (hperm.map _).sum_eq
  · simp only [generateSummaryReport, List.map_map, Function.comp_def]
    exact sum_count_categoryStats es
  · simp only [generateSummaryReport, List.map_map, Function.comp_def]
    exact sum_totalTime_categoryStats es
  · obtain ⟨hany, rfl⟩ := lookup_generateSummaryReport h
    refine foldl_max_eq_max? ?_ fun d hd => ?_
    · obtain ⟨e, he, hce⟩ := List.any_eq_true.mp hany
      exact List.ne_nil_of_mem (List.mem_map_of_mem _ (List.mem_filter.mpr ⟨he, hce⟩))
    · obtain ⟨e, he, rfl⟩ := List.mem_map.mp hd
      exact (hsorted e (List.mem_filter.mp he).1).duration_nonneg

/-- **After `parse_webrtc_logs`, the flame graph and the summary agree.**
Every event has a duration of at least zero and a name with a dot whose first
part is one of the four categories.  In the folded stacks and the summary
built after it, no line takes the `WebRTC;` fallback, every line's first
frame is a category.  Every category of an event and every first frame has
an entry, and each category's lines add up to its `total_time_ms`.  The
summary gives the number and the total duration of the events, the
`event_count` and `total_time_ms` values add up to them, and `max_time_ms` is
the largest duration of the category. -/
theorem parse_webrtc_logs_flame_summary (log : List (List Char)) :
    (∀ e ∈ (parseWebrtcLogs .init log).timelineData,
      0 ≤ e.duration ∧ '.' ∈ e.function ∧ eventCategory e ∈ categoryNames) ∧
    ReportsAgree (parseWebrtcLogs .init log) := by
  have hv := valid_parseWebrtcLogs Generator.valid_init log
  refine ⟨fun e he => ?_, reportsAgree_of_valid hv⟩
  obtain ⟨hd, c, hc, rest, hf⟩ := hv e he
  exact ⟨hd, hf ▸ List.mem_append_right c (List.mem_cons_self _ _),
    (eventCategory_of_wellFormed hc hf).symm ▸ hc⟩

/-! ### Parsing more than once -/

/-- `parse_webrtc_logs` called `k` times on one new generator. -/
def parseRepeatedly (k : ℕ) (lines : List (List Char)) : Generator :=
  (fun g => parseWebrtcLogs g lines)^[k] .init

/-- `k` parses hold `k` copies of one parse's events. -/
theorem parseRepeatedly_timelineData (k : ℕ) (lines : List (List Char)) :
    (parseRepeatedly k lines).timelineData =
      (List.replicate k (parseWebrtcLogs .init lines).timelineData).flatten := by
  induction k with
  | zero => rfl
  | succ k ih =>
    rw [parseRepeatedly, Function.iterate_succ_apply', ← parseRepeatedly,
      parseWebrtcLogs_timelineData, ih, List.replicate_succ', List.flatten_append,
      List.flatten_singleton]

theorem valid_parseRepeatedly (k : ℕ) (lines : List (List Char)) :
    (parseRepeatedly k lines).Valid := by
  induction k with
  | zero => exact Generator.valid_init
  | succ k ih =>
    rw [parseRepeatedly, Function.iterate_succ_apply', ← parseRepeatedly]
    exact valid_parseWebrtcLogs ih lines

/-- The folded lines of a category add up to the durations of its events,
whatever their order. -/
theorem sum_count_generateFlameGraphData {g : Generator} (hg : g.Valid) (c : List Char) :
    ((((generateFlameGraphData g).2).filter (·.firstFrame == c)).map (·.count)).sum =
      ((g.timelineData.filter (eventCategory · == c)).map (·.duration)).sum := by
  have hperm := List.perm_insertionSort (fun a b : TimelineEvent => a.timestamp ≤ b.timestamp)
    g.timelineData
  rw [generateFlameGraphData, sum_count_foldedLines fun e he => hg e (hperm.subset he)]
  exact ((hperm.filter _).map _).sum_eq

theorem sum_filter_flatten_replicate (p : TimelineEvent → Bool) (k : ℕ) (es : List TimelineEvent) :
    ((((List.replicate k es).flatten).filter p).map (·.duration)).sum =
      k * ((es.filter p).map (·.duration)).sum := by
  induction k with
  | zero => simp
  | succ k ih =>
    rw [List.replicate_succ, List.flatten_cons, List.filter_append, List.map_append, List.sum_append,
      ih]
    push_cast
    ring

/-- **`parse_webrtc_logs` is not idempotent.**  Called `k` times on one
generator it leaves `k` copies of one call's events in `timeline_data`.  After
`k + 1` calls the timeline is the single call's exactly when `k = 0` or the
log yields no event.  The summary's event count and total time, and the counts
of each category's folded lines, are `k` times a single call's. -/
theorem parse_webrtc_logs_repeated (lines : List (List Char)) (k : ℕ) :
    (parseRepeatedly k lines).timelineData =
      (List.replicate k (parseRepeatedly 1 lines).timelineData).flatten ∧
    ((parseRepeatedly (k + 1) lines).timelineData = (parseRepeatedly 1 lines).timelineData ↔
      k = 0 ∨ (parseRepeatedly 1 lines).timelineData = []) ∧
    (generateSummaryReport (parseRepeatedly k lines)).summary =
      ⟨k * (generateSummaryReport (parseRepeatedly 1 lines)).summary.totalEvents,
        k * (generateSummaryReport (parseRepeatedly 1 lines)).summary.totalTimeMs⟩ ∧
    ∀ c, ((((generateFlameGraphData (parseRepeatedly k lines)).2).filter
        (·.firstFrame == c)).map (·.count)).sum =
      k * ((((generateFlameGraphData (parseRepeatedly 1 lines)).2).filter
        (·.firstFrame == c)).map (·.count)).sum := by
  have hrep : ∀ k, (parseRepeatedly k lines).timelineData =
      (List.replicate k (parseRepeatedly 1 lines).timelineData).flatten :=
    fun k => parseRepeatedly_timelineData k lines
  refine ⟨hrep k, ⟨fun h => ?_, ?_⟩, ?_, fun c => ?_⟩
  · have hlen := congrArg List.length h
    rw [hrep, List.length_flatten, List.map_replicate, List.sum_replicate, smul_eq_mul,
      Nat.succ_mul] at hlen
    rcases Nat.mul_eq_zero.mp
        (show k * (parseRepeatedly 1 lines).timelineData.length = 0 by omega) with hk | hn
    · exact .inl hk
    · exact .inr (List.eq_nil_of_length_eq_zero hn)
  · rintro (rfl | h)
    · rw [hrep, List.replicate_one, List.flatten_singleton]
    · rw [hrep, h, List.flatten_replicate_nil]
  · simp only [generateSummaryReport]
    rw [hrep k]
    simp only [List.length_flatten, List.map_flatten, List.sum_flatten, List.map_replicate,
      List.sum_replicate, smul_eq_mul, nsmul_eq_mul]
  · rw [sum_count_generateFlameGraphData (valid_parseRepeatedly k lines),
      sum_count_generateFlameGraphData (valid_parseRepeatedly 1 lines), hrep,
      sum_filter_flatten_replicate]

/-- A thread-timing line read twice is in the timeline twice. -/
example :
    (parseRepeatedly 2 ["(thread.cc:1): Message to Thread main took 5ms".toList]).timelineData =
      [⟨100, "Threading.MessageDispatch".toList, 5⟩, ⟨100, "Threading.MessageDispatch".toList, 5⟩] := by
  rfl

end WebrtcAnalysis.Flame
