/-
WebrtcAnalysis/Flame/Interactive.lean

`generate_interactive_flamegraph` of `generate_webrtc_flamegraph.py`: the
data of its two panels.  The upper panel sums the durations per function name
over the parallel lists `functions` and `durations`, and shows the names with
the twenty largest totals, `sorted(..., key=lambda x: x[1], reverse=True)[:20]`.
The lower panel has one point per event.  The method also builds a list
`categories`, which nothing reads; it and the figure's layout are left out.

Its `function_stats` is the one `generate_flame_graph_data` builds
(`interactiveFunctionStats_eq`).  The names in `function_stats` are distinct,
and each carries the total of its events (`total_of_mem_functionStats`).  So
the bars are a true top twenty (`interactive_bars_top`): at most twenty
distinct names, in non-increasing order of total, each with its events'
total, and no name left out has a larger total than a bar.
-/
import WebrtcAnalysis.Flame.Report

namespace WebrtcAnalysis.Flame

open WebrtcAnalysis

/-! ### The totals per function -/

/-- The summed duration of the events named `f`. -/
def totalDuration (es : List TimelineEvent) (f : List Char) : ℤ :=
  ((es.filter (·.function == f)).map (·.duration)).sum

theorem foldl_add_duration (l : List TimelineEvent) (a : ℤ) :
    l.foldl (fun total e => total + e.duration) a = a + (l.map (·.duration)).sum := by
  induction l generalizing a with
  | nil => simp
  | cons e t ih => rw [List.foldl_cons, ih, List.map_cons, List.sum_cons, add_assoc]

theorem nodup_functionStats (es : List TimelineEvent) :
    ((functionStats es).map Prod.fst).Nodup :=
  nodup_keys_upsertAll _ _ _ es List.nodup_nil

/-- The entry of a name in `function_stats`: its events' total, when it has
events. -/
theorem lookup_functionStats (es : List TimelineEvent) (f : List Char) :
    (functionStats es).lookup f =
      if es.any (·.function == f) then some (totalDuration es f) else none := by
  rw [functionStats, lookup_upsertAll]
  split_ifs
  · rw [List.lookup_nil, Option.getD_none, foldl_add_duration, zero_add, totalDuration]
  · rfl

theorem total_of_mem_functionStats {es : List TimelineEvent} {p : List Char × ℤ}
    (hp : p ∈ functionStats es) : p.2 = totalDuration es p.1 := by
  have h := lookup_of_mem (nodup_functionStats es) hp
  rw [lookup_functionStats] at h
  split_ifs at h
  exact (Option.some.inj h).symm

theorem mem_functionStats_of_mem {es : List TimelineEvent} {e : TimelineEvent} (he : e ∈ es) :
    (e.function, totalDuration es e.function) ∈ functionStats es := by
  have hany : es.any (·.function == e.function) = true :=
    List.any_eq_true.mpr ⟨e, he, beq_self_eq_true _⟩
  exact mem_of_lookup (by rw [lookup_functionStats, if_pos hany])

/-- Every name in `function_stats` is the name of an event. -/
theorem exists_of_mem_functionStats {es : List TimelineEvent} {p : List Char × ℤ}
    (hp : p ∈ functionStats es) : ∃ e ∈ es, e.function = p.1 := by
  rcases mem_upsertAll hp with h | h
  · cases h
  · exact h

/-! ### The two panels -/

/-- `function_stats` of `generate_interactive_flamegraph`, built over the
parallel lists `functions` and `durations`. -/
def interactiveFunctionStats (self : Generator) : List (List Char × ℤ) :=
  let functions := self.timelineData.map (·.function)
  let durations := self.timelineData.map (·.duration)
  upsertAll (·.1) (fun p total => total + p.2) 0 [] (functions.zip durations)

/-- `sorted(function_stats.items(), key=lambda x: x[1], reverse=True)[:20]`.
The sort is stable, so equal totals keep the order in which their names first
occur, as insertion sort keeps it. -/
def sortedFunctions (self : Generator) : List (List Char × ℤ) :=
  ((interactiveFunctionStats self).insertionSort fun a b => b.2 ≤ a.2).take 20

/-- The data the two panels plot. -/
structure InteractiveChart where
  /-- The upper panel: a name and its total per bar. -/
  bars : List (List Char × ℤ)
  /-- The lower panel: timestamp, duration (also the colour) and name per point. -/
  points : List (ℤ × ℤ × List Char)
  deriving DecidableEq, Repr

/-- `generate_interactive_flamegraph`, with `plotly` installed. -/
def generateInteractiveFlamegraph (self : Generator) : InteractiveChart :=
  { bars := sortedFunctions self
    points := self.timelineData.map fun e => (e.timestamp, e.duration, e.function) }

/-- The two lists give the same `function_stats` as the events do. -/
theorem interactiveFunctionStats_eq (g : Generator) :
    interactiveFunctionStats g = functionStats g.timelineData := by
  simp only [interactiveFunctionStats, functionStats, upsertAll, List.zip_map', List.foldl_map]

/-- Every bar is an entry of `function_stats`. -/
theorem mem_functionStats_of_mem_bars {g : Generator} {p : List Char × ℤ}
    (hp : p ∈ (generateInteractiveFlamegraph g).bars) : p ∈ functionStats g.timelineData := by
  rw [generateInteractiveFlamegraph, sortedFunctions, interactiveFunctionStats_eq] at hp
  exact (List.perm_insertionSort _ _).subset (List.mem_of_mem_take hp)

/-- **The bars are the top twenty.**  There are twenty of them, or one per
name when there are fewer names.  They come in non-increasing order of total,
with distinct names, and each carries the total of an event name.  A name
with events but no bar has a total no larger than any bar's. -/
theorem interactive_bars_top (g : Generator) :
    (generateInteractiveFlamegraph g).bars.length = min 20 (functionStats g.timelineData).length ∧
    (generateInteractiveFlamegraph g).bars.Sorted (fun a b => b.2 ≤ a.2) ∧
    ((generateInteractiveFlamegraph g).bars.map Prod.fst).Nodup ∧
    (∀ p ∈ (generateInteractiveFlamegraph g).bars,
      (∃ e ∈ g.timelineData, e.function = p.1) ∧ p.2 = totalDuration g.timelineData p.1) ∧
    ∀ e ∈ g.timelineData, e.function ∉ (generateInteractiveFlamegraph g).bars.map Prod.fst →
      ∀ p ∈ (generateInteractiveFlamegraph g).bars,
        totalDuration g.timelineData e.function ≤ p.2 := by
  let r := fun a b : List Char × ℤ => b.2 ≤ a.2
  haveI : IsTotal (List Char × ℤ) r := ⟨fun a b => le_total b.2 a.2⟩
  haveI : IsTrans (List Char × ℤ) r := ⟨fun _ _ _ hab hbc => le_trans hbc hab⟩
  have hbars : (generateInteractiveFlamegraph g).bars =
      ((functionStats g.timelineData).insertionSort r).take 20 := by
    rw [generateInteractiveFlamegraph, sortedFunctions, interactiveFunctionStats_eq]
  have hperm := List.perm_insertionSort r (functionStats g.timelineData)
  have hsorted := List.sorted_insertionSort r (functionStats g.timelineData)
  have hmem : ∀ p ∈ (generateInteractiveFlamegraph g).bars, p ∈ functionStats g.timelineData :=
    fun p hp => mem_functionStats_of_mem_bars hp
  rw [hbars] at hmem ⊢
  refine ⟨by rw [List.length_take, List.length_insertionSort],
    hsorted.sublist (List.take_sublist _ _),
    ?_, fun p hp => ⟨exists_of_mem_functionStats (hmem p hp), total_of_mem_functionStats (hmem p hp)⟩,
    fun e he hne p hp => ?_⟩
  · exact ((hperm.map Prod.fst).nodup_iff.mpr (nodup_functionStats _)).sublist
      ((List.take_sublist _ _).map _)
  · -- the left-out name's entry lies beyond the first twenty of the sorted list
    have hq := hperm.symm.subset (mem_functionStats_of_mem he)
    rw [← List.take_append_drop 20 (List.insertionSort r _), List.mem_append] at hq
    rcases hq with hq | hq
    · exact absurd (List.mem_map_of_mem Prod.fst hq) hne
    · exact hsorted.rel_of_mem_take_of_mem_drop hp hq

end WebrtcAnalysis.Flame
