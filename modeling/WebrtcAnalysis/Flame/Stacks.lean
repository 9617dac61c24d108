/-
WebrtcAnalysis/Flame/Stacks.lean

The folded-stack file that `create_flamegraph_svg` writes to
`webrtc_stacks.txt` for `flamegraph.pl`: `'\n'.join(stack_data)`, one line per
function.  Each line holds a stack's frames joined by `;`, then a space, then a
count.  `readStackFile` reads such a file back the way the folded-stack format
is read: line by line, each line split at its last space into the stack and a
decimal count, and the stack split at `;` into frames.

A count `f"{total}"` of a total that is at least zero is its decimal digits
(`toDigits_ten`), so it reads back.  The stack of a dotted name is the name's
parts joined by `;`, and it reads back as those parts when no part holds a
`;`.  So the file round-trips (`stack_file_round_trip`) when the events are
well formed and no name holds a line break or a `;`.  For each function, in
order, the reader gets back the name's dot-separated parts and the function's
total duration, and no two functions give the same frames.  The `GCC` and
`VideoQuality` labels come from the log's text and may hold a `;`; such a name
reads back as more frames than it has parts.
-/
import WebrtcAnalysis.Flame.Interactive
import Mathlib.Algebra.Order.BigOperators.Group.List

namespace WebrtcAnalysis.Flame

open WebrtcAnalysis

/-! ### Writing and reading the file -/

/-- `'\n'.join(stack_data)`: the text of `webrtc_stacks.txt`. -/
def stackFileText (stackData : List FoldedLine) : List Char :=
  ['\n'].intercalate (stackData.map FoldedLine.text)

/-- One line of the folded-stack format, read back: the frames of the text
before its last space, and the decimal count after it. -/
def readFoldedLine (line : List Char) : Option (List (List Char) × ℕ) :=
  match line.reverse.span (· != ' ') with
  | (countRev, ' ' :: stackRev) =>
    if !countRev.isEmpty && countRev.all Char.isDigit then
      some (splitOn ';' stackRev.reverse, digitsValue countRev.reverse)
    else none
  | _ => none

/-- The file read back line by line; a blank line holds no stack. -/
def readStackFile (text : List Char) : Option (List (List (List Char) × ℕ)) :=
  ((splitOn '\n' text).filter (!·.isEmpty)).mapM readFoldedLine

/-! ### Counts -/

theorem digitChar_of_lt_ten :
    ∀ d < 10, (Nat.digitChar d).isDigit ∧ digitValue (Nat.digitChar d) = d := by
  decide

/-- `Nat.toDigitsCore` puts the decimal digits of `n` in front. -/
theorem toDigitsCore_ten {fuel n : ℕ} (h : n < fuel) (ds : List Char) :
    ∃ pre, Nat.toDigitsCore 10 fuel n ds = pre ++ ds ∧ pre ≠ [] ∧ (∀ c ∈ pre, c.isDigit) ∧
      digitsValue pre = n := by
  induction fuel generalizing n ds with
  | zero => omega
  | succ fuel ih =>
    obtain ⟨hdig, hval⟩ := digitChar_of_lt_ten (n % 10) (Nat.mod_lt n (by decide))
    have hstep : Nat.toDigitsCore 10 (fuel + 1) n ds =
        if n / 10 = 0 then Nat.digitChar (n % 10) :: ds
        else Nat.toDigitsCore 10 fuel (n / 10) (Nat.digitChar (n % 10) :: ds) := rfl
    rw [hstep]
    split_ifs with hn
    · refine ⟨[Nat.digitChar (n % 10)], rfl, List.cons_ne_nil _ _, by simpa using hdig, ?_⟩
      simp only [digitsValue, List.foldl_cons, List.foldl_nil, hval]
      omega
    · obtain ⟨pre, hpre, -, hall, hv⟩ :=
        ih (show n / 10 < fuel by omega) (Nat.digitChar (n % 10) :: ds)
      refine ⟨pre ++ [Nat.digitChar (n % 10)], by rw [hpre, List.append_assoc]; rfl,
        by simp, fun c hc => ?_, ?_⟩
      · rcases List.mem_append.mp hc with hc | hc
        · exact hall c hc
        · rw [List.mem_singleton.mp hc]; exact hdig
      · rw [digitsValue_append, hv]
        simp only [digitsValue, List.foldl_cons, List.foldl_nil, hval, List.length_singleton]
        omega

/-- The text of a count of at least zero: its decimal digits. -/
theorem toDigits_ten (c : ℤ) (hc : 0 ≤ c) :
    (toString c).toList ≠ [] ∧ (∀ x ∈ (toString c).toList, x.isDigit) ∧
      digitsValue (toString c).toList = c.toNat := by
  obtain ⟨n, rfl⟩ := Int.eq_ofNat_of_zero_le hc
  obtain ⟨pre, hpre, hne, hall, hv⟩ := toDigitsCore_ten (Nat.lt_succ_self n) []
  rw [List.append_nil] at hpre
  have htext : (toString (n : ℤ)).toList = pre := hpre
  rw [htext]
  exact ⟨hne, hall, hv⟩

/-! ### One line -/

/-- A folded line with a count of at least zero reads back as its stack's
frames and its count. -/
theorem readFoldedLine_text {l : FoldedLine} (hc : 0 ≤ l.count) :
    readFoldedLine l.text = some (splitOn ';' l.stack, l.count.toNat) := by
  obtain ⟨hne, hall, hv⟩ := toDigits_ten l.count hc
  set ds := (toString l.count).toList
  have hns : ∀ x ∈ ds.reverse, (x != ' ') = true := fun x hx => by
    have := hall x (List.mem_reverse.mp hx)
    exact bne_iff_ne.mpr fun h => by rw [h] at this; exact absurd this (by decide)
  have hrev : l.text.reverse = ds.reverse ++ ' ' :: l.stack.reverse := by
    simp [FoldedLine.text, ds]
  have hdigits : (!ds.reverse.isEmpty && ds.reverse.all Char.isDigit) = true := by
    simpa [List.all_eq_true] using ⟨hne, hall⟩
  rw [readFoldedLine, hrev, List.span_eq_take_drop, List.takeWhile_append_of_pos hns,
    dropWhile_append_of_all hns (by simp)]
  simp only [List.takeWhile_cons, bne_self_eq_false, Bool.false_eq_true, if_false,
    List.append_nil, hdigits, if_true, List.reverse_reverse, hv]

/-- Over lines free of line breaks, with counts of at least zero, the file
reads back line by line. -/
theorem readStackFile_text {ls : List FoldedLine} (hnl : ∀ l ∈ ls, '\n' ∉ l.stack)
    (hc : ∀ l ∈ ls, 0 ≤ l.count) :
    readStackFile (stackFileText ls) = some (ls.map fun l => (splitOn ';' l.stack, l.count.toNat)) := by
  by_cases hls : ls = []
  · subst hls; rfl
  have htext : ∀ t ∈ ls.map FoldedLine.text, '\n' ∉ t ∧ t ≠ [] := by
    intro t ht
    obtain ⟨l, hl, rfl⟩ := List.mem_map.mp ht
    obtain ⟨hne, hall, -⟩ := toDigits_ten l.count (hc l hl)
    refine ⟨fun h => ?_, by simp [FoldedLine.text]⟩
    rcases List.mem_append.mp h with h | h
    · exact hnl l hl h
    · rcases List.mem_cons.mp h with h | h
      · cases h
      · exact absurd (hall _ h) (by decide)
  have hsplit : splitOn '\n' (stackFileText ls) = ls.map FoldedLine.text :=
    List.splitOn_intercalate _ '\n' (fun t ht => (htext t ht).1) (by simpa using hls)
  rw [readStackFile, hsplit,
    List.filter_eq_self.mpr fun t ht => by simpa using (htext t ht).2]
  clear hsplit htext hls
  induction ls with
  | nil => rfl
  | cons l ls ih =>
    rw [List.map_cons, List.mapM_cons, readFoldedLine_text (hc l (List.mem_cons_self _ _)),
      ih (fun l' hl' => hnl l' (List.mem_cons_of_mem _ hl'))
        (fun l' hl' => hc l' (List.mem_cons_of_mem _ hl'))]
    rfl

/-! ### The round trip -/

@[simp] theorem foldedLine_count (function : List Char) (total : ℤ) :
    (foldedLine function total).count = total := by
  dsimp only [foldedLine]
  split_ifs <;> rfl

/-- The stack of a well-formed name free of `;` reads back as the name's
parts, and holds a line break only if the name does. -/
theorem foldedLine_stack {c rest : List Char} (hc : c ∈ categoryNames) (total : ℤ)
    (hsemi : ';' ∉ c ++ '.' :: rest) :
    splitOn ';' (foldedLine (c ++ '.' :: rest) total).stack = splitOn '.' (c ++ '.' :: rest) ∧
      ('\n' ∈ (foldedLine (c ++ '.' :: rest) total).stack → '\n' ∈ c ++ '.' :: rest) := by
  rw [(foldedLine_of_wellFormed hc total).1]
  refine ⟨List.splitOn_intercalate _ ';' (fun l hl h => hsemi (mem_of_mem_splitOn hl h))
    (List.splitOnP_ne_nil _ _), fun h => ?_⟩
  rcases mem_intercalate_singleton h with h | ⟨l, hl, h⟩
  · cases h
  · exact mem_of_mem_splitOn hl h

/-- **The stack file round-trips.**  On a generator whose events are well
formed and whose names hold neither a line break nor a `;`, reading back the
file of `generate_flame_graph_data`'s lines gives, for each function in order,
its name's dot-separated parts and its total duration.  The totals are at
least zero, and no two functions give the same frames. -/
theorem stack_file_round_trip {g : Generator} (hg : g.Valid)
    (hname : ∀ e ∈ g.timelineData, '\n' ∉ e.function ∧ ';' ∉ e.function) :
    readStackFile (stackFileText (generateFlameGraphData g).2) =
      some ((functionStats (generateFlameGraphData g).1.timelineData).map fun p =>
        (splitOn '.' p.1, (totalDuration g.timelineData p.1).toNat)) ∧
    (∀ e ∈ g.timelineData, 0 ≤ totalDuration g.timelineData e.function) ∧
    ((functionStats (generateFlameGraphData g).1.timelineData).map fun p => splitOn '.' p.1).Nodup := by
  have hperm := List.perm_insertionSort (fun a b : TimelineEvent => a.timestamp ≤ b.timestamp)
    g.timelineData
  set es := (generateFlameGraphData g).1.timelineData
  have hsorted : ∀ e ∈ es, e.WellFormed := fun e he => hg e (hperm.subset he)
  have htotal : ∀ f, totalDuration es f = totalDuration g.timelineData f := fun f =>
    ((hperm.filter _).map _).sum_eq
  have hnonneg : ∀ f, 0 ≤ totalDuration g.timelineData f := fun f =>
    List.sum_nonneg fun d hd => by
      obtain ⟨e, he, rfl⟩ := List.mem_map.mp hd
      exact (hg e (List.mem_filter.mp he).1).duration_nonneg
  -- every entry is a well-formed name of an event, with its total
  have hentry : ∀ name total, (name, total) ∈ functionStats es → ∃ c ∈ categoryNames, ∃ rest,
      name = c ++ '.' :: rest ∧ '\n' ∉ name ∧ ';' ∉ name ∧ total = totalDuration g.timelineData name :=
    fun name total hp => by
      obtain ⟨c, hc, rest, hp1⟩ := functionStats_key hsorted hp
      obtain ⟨e, he, hfe⟩ := exists_of_mem_functionStats hp
      obtain ⟨hnl, hsemi⟩ := hname e (hperm.subset he)
      rw [show e.function = name from hfe] at hnl hsemi
      exact ⟨c, hc, rest, hp1, hnl, hsemi, (total_of_mem_functionStats hp).trans (htotal _)⟩
  refine ⟨?_, fun e _ => hnonneg _, ?_⟩
  · have hstack : (generateFlameGraphData g).2 = (functionStats es).map fun p => foldedLine p.1 p.2 :=
      rfl
    rw [hstack, readStackFile_text, List.map_map]
    · refine congrArg some (List.map_congr_left fun ⟨name, total⟩ hp => ?_)
      obtain ⟨c, hc, rest, rfl, -, hsemi, rfl⟩ := hentry _ _ hp
      simp only [Function.comp_apply, foldedLine_count, (foldedLine_stack hc _ hsemi).1]
    · intro l hl
      obtain ⟨⟨name, total⟩, hp, rfl⟩ := List.mem_map.mp hl
      obtain ⟨c, hc, rest, rfl, hnl, hsemi, -⟩ := hentry _ _ hp
      exact fun h => hnl ((foldedLine_stack hc total hsemi).2 h)
    · intro l hl
      obtain ⟨⟨name, total⟩, hp, rfl⟩ := List.mem_map.mp hl
      obtain ⟨-, -, -, -, -, -, rfl⟩ := hentry _ _ hp
      rw [foldedLine_count]
      exact hnonneg _
  · have h := (nodup_functionStats es).map (splitOn_injective '.')
    rwa [List.map_map] at h

/-- A one-event timeline's file reads back as the event's two frames and its
duration. -/
theorem stack_file_round_trip_dispatch :
    let g : Generator := ⟨[⟨100, "Threading.MessageDispatch".toList, 5⟩]⟩
    g.Valid ∧ (∀ e ∈ g.timelineData, '\n' ∉ e.function ∧ ';' ∉ e.function) ∧
      readStackFile (stackFileText (generateFlameGraphData g).2) =
        some [(["Threading".toList, "MessageDispatch".toList], 5)] := by
  intro g
  have hg : g.Valid := fun e he => by
    rw [List.mem_singleton.mp he]
    exact @TimelineEvent.wellFormed_mk "Threading".toList (by decide) "MessageDispatch".toList _ _
      (by decide)
  have hname : ∀ e ∈ g.timelineData, '\n' ∉ e.function ∧ ';' ∉ e.function := by decide
  exact ⟨hg, hname, (stack_file_round_trip hg hname).1.trans (by decide)⟩

end WebrtcAnalysis.Flame
