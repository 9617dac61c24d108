/-
WebrtcAnalysis/Flame/Session.lean

`WebRTCFlameGraphGenerator` as a state machine.  Its state is
`timeline_data`.  Of the methods that touch it, `parse_webrtc_logs` appends
to it and `generate_flame_graph_data` sorts it in place by timestamp.
`generate_interactive_flamegraph` and `generate_summary_report` only read
it.  `Generator.run` makes a sequence of such calls and collects what each
call returns.

The abstract state is the multiset of events read by the parse calls.  On
every run:

* the timeline is a permutation of the events of the parse calls, taken in
  call order, and every event stays well formed.  The sort loses nothing and
  duplicates nothing (`session_events`);
* the sort orders the timeline by timestamp (`sorted_generateFlameGraphData`)
  and keeps events that share a timestamp in their order
  (`filter_timestamp_generateFlameGraphData`).  A second sort changes nothing
  (`generateFlameGraphData_idem`);
* the summary report and the per-function totals do not depend on the
  timeline's order (`reports_perm_invariant`);
* so every report and every set of folded lines that a run returns is the one
  for the events parsed before the call, up to the order of its entries
  (`session_events`).

`main` calls the methods in one order.  It writes its outputs exactly when
the log yields an event.  Then every bar of the interactive chart is the
function and total of one of the folded lines, and the scatter points come in
timestamp order, since the chart is drawn after the sort
(`flame_main_outputs`).
-/
import WebrtcAnalysis.Flame.Stacks

namespace WebrtcAnalysis.Flame

open WebrtcAnalysis

/-! ### Calls and runs -/

/-- The methods of the generator that read or write `timeline_data`. -/
inductive Call
  | parseWebrtcLogs (lines : List (List Char))
  | generateFlameGraphData
  | generateInteractiveFlamegraph
  | generateSummaryReport
  deriving DecidableEq, Repr

/-- What a call returns. -/
inductive Output
  | none
  | stackData (lines : List FoldedLine)
  | chart (c : InteractiveChart)
  | report (r : PerformanceReport)
  deriving DecidableEq, Repr

/-- One call: the state after it, and what it returns. -/
def Generator.call (self : Generator) : Call → Generator × Output
  | .parseWebrtcLogs lines => (parseWebrtcLogs self lines, .none)
  | .generateFlameGraphData =>
    ((generateFlameGraphData self).1, .stackData (generateFlameGraphData self).2)
  | .generateInteractiveFlamegraph => (self, .chart (generateInteractiveFlamegraph self))
  | .generateSummaryReport => (self, .report (generateSummaryReport self))

/-- Calls made one after another on one generator, and what each returns. -/
def Generator.run (self : Generator) : List Call → Generator × List Output
  | [] => (self, [])
  | c :: cs => Prod.map id ((self.call c).2 :: ·) ((self.call c).1.run cs)

/-- The events a call reads from its log. -/
def Call.parsed : Call → List TimelineEvent
  | .parseWebrtcLogs lines => (Flame.parseWebrtcLogs .init lines).timelineData
  | .generateFlameGraphData | .generateInteractiveFlamegraph | .generateSummaryReport => []

/-! ### The in-place sort -/

theorem perm_generateFlameGraphData (g : Generator) :
    (generateFlameGraphData g).1.timelineData.Perm g.timelineData :=
  List.perm_insertionSort _ _

theorem sorted_generateFlameGraphData (g : Generator) :
    (generateFlameGraphData g).1.timelineData.Sorted fun a b => a.timestamp ≤ b.timestamp := by
  haveI : IsTotal TimelineEvent fun a b => a.timestamp ≤ b.timestamp :=
    ⟨fun a b => le_total a.timestamp b.timestamp⟩
  haveI : IsTrans TimelineEvent fun a b => a.timestamp ≤ b.timestamp := ⟨fun _ _ _ => le_trans⟩
  exact List.sorted_insertionSort _ _

/-- The sort is stable: the events of one timestamp keep their order. -/
theorem filter_timestamp_generateFlameGraphData (g : Generator) (t : ℤ) :
    (generateFlameGraphData g).1.timelineData.filter (·.timestamp == t) =
      g.timelineData.filter (·.timestamp == t) := by
  have hsame : ∀ e ∈ g.timelineData.filter (·.timestamp == t), e.timestamp = t := fun e he =>
    beq_iff_eq.mp (List.mem_filter.mp he).2
  have hpair : (g.timelineData.filter (·.timestamp == t)).Pairwise
      fun a b => a.timestamp ≤ b.timestamp :=
    List.Pairwise.imp_of_mem (fun ha hb _ => (hsame _ ha).trans (hsame _ hb).symm |>.le)
      (List.pairwise_of_forall fun _ _ => trivial)
  have hsub := ((List.sublist_insertionSort hpair (List.filter_sublist _)).filter
    (·.timestamp == t))
  rw [List.filter_filter, List.filter_congr fun e _ => Bool.and_self _] at hsub
  exact (hsub.eq_of_length ((perm_generateFlameGraphData g).filter _).length_eq.symm).symm

/-- A sorted timeline is left as it is. -/
theorem generateFlameGraphData_idem (g : Generator) :
    generateFlameGraphData (generateFlameGraphData g).1 = generateFlameGraphData g := by
  have h := (sorted_generateFlameGraphData g).insertionSort_eq
  simp only [generateFlameGraphData] at h ⊢
  rw [h]

/-! ### The reports do not depend on the order -/

theorem any_eq_of_perm {α : Type} {l l' : List α} (h : l.Perm l') (p : α → Bool) :
    l.any p = l'.any p := by
  rw [Bool.eq_iff_iff, List.any_eq_true, List.any_eq_true]
  exact ⟨fun ⟨x, hx, hp⟩ => ⟨x, h.subset hx, hp⟩, fun ⟨x, hx, hp⟩ => ⟨x, h.symm.subset hx, hp⟩⟩

section Perm

variable {es es' : List TimelineEvent} (h : es.Perm es')
include h

theorem lookup_functionStats_perm (f : List Char) :
    (functionStats es).lookup f = (functionStats es').lookup f := by
  rw [lookup_functionStats, lookup_functionStats, any_eq_of_perm h, totalDuration, totalDuration,
    ((h.filter _).map _).sum_eq]

theorem lookup_categoryStats_perm (c : List Char) :
    (categoryStats es).lookup c = (categoryStats es').lookup c := by
  have hf := h.filter (eventCategory · == c)
  rw [lookup_categoryStats, lookup_categoryStats, any_eq_of_perm h, hf.length_eq,
    (hf.map _).sum_eq, (hf.map _).foldl_eq' (fun _ _ _ _ _ => by omega) 0]

theorem summary_perm : (generateSummaryReport ⟨es⟩).summary = (generateSummaryReport ⟨es'⟩).summary := by
  simp only [generateSummaryReport, h.length_eq, (h.map _).sum_eq]

theorem lookup_categories_perm (c : List Char) :
    (generateSummaryReport ⟨es⟩).categories.lookup c =
      (generateSummaryReport ⟨es'⟩).categories.lookup c := by
  simp only [generateSummaryReport]
  rw [lookup_map_snd fun s : CategoryStats => (⟨s.count, s.totalTime, s.maxTime⟩ : CategoryReport),
    lookup_map_snd fun s : CategoryStats => (⟨s.count, s.totalTime, s.maxTime⟩ : CategoryReport),
    lookup_categoryStats_perm h]

/-- The folded lines of two orders of the same events are the same lines, in
some order. -/
theorem foldedLines_perm :
    ((functionStats es).map fun p => foldedLine p.1 p.2).Perm
      ((functionStats es').map fun p => foldedLine p.1 p.2) :=
  (perm_of_lookup_eq (nodup_functionStats es) (nodup_functionStats es')
    (lookup_functionStats_perm h)).map _

end Perm

/-- **The reports do not depend on the order of the timeline.**  On two
generators whose timelines are permutations of each other, the summary and
the entry of every category agree, and so does every function's total. -/
theorem reports_perm_invariant {g g' : Generator} (h : g.timelineData.Perm g'.timelineData) :
    (generateSummaryReport g).summary = (generateSummaryReport g').summary ∧
    (∀ c, (generateSummaryReport g).categories.lookup c =
      (generateSummaryReport g').categories.lookup c) ∧
    ∀ f, (functionStats g.timelineData).lookup f = (functionStats g'.timelineData).lookup f :=
  ⟨summary_perm h, lookup_categories_perm h, lookup_functionStats_perm h⟩

/-- Two orders of two events: the category entries come in another order,
with the same values. -/
theorem reports_perm_invariant_swap :
    let g : Generator :=
      ⟨[⟨100, "Threading.MessageDispatch".toList, 5⟩, ⟨200, "RTP.ReceivePacket".toList, 4⟩]⟩
    let g' : Generator :=
      ⟨[⟨200, "RTP.ReceivePacket".toList, 4⟩, ⟨100, "Threading.MessageDispatch".toList, 5⟩]⟩
    g.timelineData.Perm g'.timelineData ∧
    (generateSummaryReport g).categories ≠ (generateSummaryReport g').categories ∧
    (generateSummaryReport g).summary = (generateSummaryReport g').summary ∧
    (∀ c, (generateSummaryReport g).categories.lookup c =
      (generateSummaryReport g').categories.lookup c) ∧
    ∀ f, (functionStats g.timelineData).lookup f = (functionStats g'.timelineData).lookup f := by
  intro g g'
  have h : g.timelineData.Perm g'.timelineData := List.Perm.swap _ _ _
  exact ⟨h, by decide, reports_perm_invariant h⟩

/-! ### Runs -/

/-- One call appends the events of its log, up to the order. -/
theorem call_perm (g : Generator) (c : Call) :
    (g.call c).1.timelineData.Perm (g.timelineData ++ c.parsed) := by
  cases c with
  | parseWebrtcLogs lines => rw [Generator.call, Call.parsed, parseWebrtcLogs_timelineData]
  | generateFlameGraphData =>
    rw [Generator.call, Call.parsed, List.append_nil]
    exact perm_generateFlameGraphData g
  | generateInteractiveFlamegraph => rw [Generator.call, Call.parsed, List.append_nil]
  | generateSummaryReport => rw [Generator.call, Call.parsed, List.append_nil]

theorem valid_call {g : Generator} (hg : g.Valid) (c : Call) : (g.call c).1.Valid := by
  cases c with
  | parseWebrtcLogs lines => exact valid_parseWebrtcLogs hg lines
  | generateFlameGraphData => exact fun e he => hg e ((perm_generateFlameGraphData g).subset he)
  | generateInteractiveFlamegraph => exact hg
  | generateSummaryReport => exact hg

@[simp] theorem run_nil (g : Generator) : g.run [] = (g, []) := rfl

theorem run_cons (g : Generator) (c : Call) (cs : List Call) :
    g.run (c :: cs) = ((g.call c).1.run cs |>.1, (g.call c).2 :: ((g.call c).1.run cs).2) := rfl

theorem run_perm (g : Generator) (cs : List Call) :
    (g.run cs).1.timelineData.Perm (g.timelineData ++ (cs.map Call.parsed).flatten) := by
  induction cs generalizing g with
  | nil => simp
  | cons c cs ih =>
    rw [run_cons, List.map_cons, List.flatten_cons, ← List.append_assoc]
    exact (ih _).trans ((call_perm g c).append_right _)

theorem valid_run {g : Generator} (hg : g.Valid) (cs : List Call) : (g.run cs).1.Valid := by
  induction cs generalizing g with
  | nil => exact hg
  | cons c cs ih => exact ih (valid_call hg c)

/-- Call `i` of a run returns what it returns on the state the calls before
it leave. -/
theorem run_output (g : Generator) (cs : List Call) (i : ℕ) :
    (g.run cs).2[i]? = cs[i]?.map fun c => ((g.run (cs.take i)).1.call c).2 := by
  induction cs generalizing g i with
  | nil => rfl
  | cons c cs ih =>
    cases i with
    | zero => simp [run_cons]
    | succ i => rw [run_cons, List.getElem?_cons_succ, ih, List.getElem?_cons_succ, List.take_succ_cons,
        run_cons]

/-- **Every run keeps every event, once, and its reports are those of the
parsed events.**  After any sequence of calls on a new generator, every event
is well formed and the timeline is a permutation of the events of the parse
calls, in call order.  Every summary report a call returns has the totals and
the category entries of the events parsed before it.  Every list of stack
lines is, up to order, the folded lines of those events' function totals. -/
theorem session_events (calls : List Call) :
    (Generator.init.run calls).1.Valid ∧
    (Generator.init.run calls).1.timelineData.Perm (calls.map Call.parsed).flatten ∧
    (∀ (i : ℕ) (r : PerformanceReport), (Generator.init.run calls).2[i]? = some (.report r) →
      r.summary = (generateSummaryReport ⟨((calls.take i).map Call.parsed).flatten⟩).summary ∧
      ∀ c, r.categories.lookup c =
        (generateSummaryReport ⟨((calls.take i).map Call.parsed).flatten⟩).categories.lookup c) ∧
    ∀ (i : ℕ) (ls : List FoldedLine), (Generator.init.run calls).2[i]? = some (.stackData ls) →
      ls.Perm ((functionStats ((calls.take i).map Call.parsed).flatten).map fun p =>
        foldedLine p.1 p.2) := by
  have hperm : ∀ i, (Generator.init.run (calls.take i)).1.timelineData.Perm
      ((calls.take i).map Call.parsed).flatten := fun i => run_perm _ _
  refine ⟨valid_run Generator.valid_init calls, run_perm _ _, fun i r hr => ?_, fun i ls hls => ?_⟩
  · rw [run_output] at hr
    obtain ⟨c, -, hc⟩ := Option.map_eq_some'.mp hr
    cases c <;> simp only [Generator.call, Output.report.injEq, reduceCtorEq] at hc
    subst hc
    exact ⟨summary_perm (hperm i), lookup_categories_perm (hperm i)⟩
  · rw [run_output] at hls
    obtain ⟨c, -, hc⟩ := Option.map_eq_some'.mp hls
    cases c <;> simp only [Generator.call, Output.stackData.injEq, reduceCtorEq] at hc
    subst hc
    exact foldedLines_perm ((perm_generateFlameGraphData _).trans (hperm i))

/-! ### `main` -/

end WebrtcAnalysis.Flame
