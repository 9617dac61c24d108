/-
WebrtcAnalysis/Gcc/Resolver.lean

The timestamp resolver and the legacy probe blocks.  Before any block is
tried, the line passes through the resolver: the leftmost `Time: N ms` or
`at N ms` in the line replaces the last-known timestamp.  Over a run, the
resolver's value is therefore the occurrence in the last line that has one
(`lastAfter_eq_findSome`).

A line that reaches the `result_old` check yields a legacy row exactly when
the resolver's value is a positive number, and the row takes that value
(`classify_resultOld`, `Yields.resultOld_timestamp`).  The guard
`and last_timestamp` reads an observed `0` as no timestamp at all
(`legacy_probe_after_time_zero`).

The logger writes a line of a timestamped kind other than the decision
snapshot as its tag followed by ` Time: N ms`.  The resolver takes `N` from
such a line, whatever text free of `Time: ` and `at ` stands before the tag
(`resolveTimestamp_timeLine`, `headClear_append`).  So a legacy `result_old`
or `success_old` line that follows it, with no other timestamp in between,
carries `N` (`resolver_after_tagged_line`).  The snapshot writes `at Nms`,
with no space before `ms`.  The resolver's second alternative `at N ms` is
the only one that could take it, and it misses by that space, so the
last-known timestamp stays where it was (`legacy_probe_after_tagged_line`).
-/
import WebrtcAnalysis.Gcc.Candidates

namespace WebrtcAnalysis.Gcc

open WebrtcAnalysis

/-! ### The resolver over a run -/

/-- The timestamp the resolver reads from a line: `int(group(1) or group(2))`
of the leftmost occurrence, when the line has one. -/
def occurrence (line : List Char) : Option Nat :=
  (timestampPattern.search line).map fun m => digitsValue ((m.group 1 <|> m.group 2).getD [])

theorem resolveTimestamp_eq (line : List Char) (last : Option Nat) :
    resolveTimestamp line last = (occurrence line).or last := by
  unfold resolveTimestamp occurrence
  cases timestampPattern.search line <;> rfl

theorem lastAfter_cons (last : Option Nat) (l : List Char) (ls : List (List Char)) :
    lastAfter last (l :: ls) = lastAfter (resolveTimestamp l last) ls := rfl

/-- **The resolver's value after a run** is the occurrence in the last line
that has one, or the value it started from when no line has one. -/
theorem lastAfter_eq_findSome (last : Option Nat) (ls : List (List Char)) :
    lastAfter last ls = (ls.reverse.findSome? occurrence).or last := by
  induction ls generalizing last with
  | nil => rfl
  | cons l ls ih =>
    have hl : [l].findSome? occurrence = occurrence l := by
      simp only [List.findSome?_cons, List.findSome?_nil]
      cases occurrence l <;> rfl
    rw [lastAfter_cons, ih, resolveTimestamp_eq, List.reverse_cons, List.findSome?_append,
      Option.or_assoc, hl]

/-- Lines without an occurrence leave the resolver where it was. -/
theorem lastAfter_of_no_occurrence {ls : List (List Char)}
    (h : ∀ l ∈ ls, timestampPattern.search l = none) (last : Option Nat) :
    lastAfter last ls = last := by
  rw [lastAfter_eq_findSome, List.findSome?_eq_none_iff.mpr fun l hl => by
    simp [occurrence, h l (List.mem_reverse.mp hl)]]
  rfl

/-! ### The legacy blocks -/

/-- The grammars the loop tries before the legacy checks, in order. -/
def earlierPatterns : List Regex :=
  [trendlinePattern, rttBwePattern, lossBwePattern, lossCandidatesPattern, probeResultPattern,
    probeSuccessPattern]

/-- The line reaches the `result_old` check: it contains the legacy result
grammar and none of the grammars tried before it. -/
def ReachesResultOld (line : List Char) : Prop :=
  (∀ p ∈ earlierPatterns, p.search line = none) ∧ (probeResultOldPattern.search line).isSome

instance : DecidablePred ReachesResultOld := fun line =>
  inferInstanceAs (Decidable ((∀ p ∈ earlierPatterns, p.search line = none) ∧ _))

/-- On a line that reaches the `result_old` check, with a positive last-known
timestamp `t`, the legacy block fires and its row carries `t`. -/
theorem classify_resultOld {line : List Char} (h : ReachesResultOld line) {t : Nat}
    (ht : t ≠ 0) :
    classify (some t) line =
      .ok ((probeResultOldPattern.search line).map fun m => .probe (oldProbeRow .resultOld t m)) := by
  obtain ⟨hearly, hsome⟩ := h
  obtain ⟨m, hm⟩ := Option.isSome_iff_exists.mp hsome
  simp only [earlierPatterns, List.mem_cons, List.not_mem_nil, or_false, forall_eq_or_imp,
    forall_eq] at hearly
  obtain ⟨h1, h2, h3, h4, h5, h6⟩ := hearly
  simp only [classify, branches, List.findSome?_cons, searchBranch, guardedBranch, h1, h2, h3, h4,
    h5, h6, hm, Option.map_none', Option.map_some', truthy_some, bne_iff_ne, ne_eq, ht,
    not_false_eq_true, ↓reduceIte, Option.getD_some]
  rfl

/-- The line reaches the `success_old` check: it contains the legacy success
grammar and none of the grammars tried before it, the legacy result grammar
included. -/
def ReachesSuccessOld (line : List Char) : Prop :=
  (∀ p ∈ earlierPatterns ++ [probeResultOldPattern], p.search line = none) ∧
    (probeSuccessOldPattern.search line).isSome

instance : DecidablePred ReachesSuccessOld := fun line =>
  inferInstanceAs (Decidable ((∀ p ∈ earlierPatterns ++ [probeResultOldPattern],
    p.search line = none) ∧ _))

/-- On a line that reaches the `success_old` check, with a positive
last-known timestamp `t`, the legacy block fires and its row carries `t`. -/
theorem classify_successOld {line : List Char} (h : ReachesSuccessOld line) {t : Nat}
    (ht : t ≠ 0) :
    classify (some t) line =
      .ok ((probeSuccessOldPattern.search line).map fun m =>
        .probe (oldProbeRow .successOld t m)) := by
  obtain ⟨hearly, hsome⟩ := h
  obtain ⟨m, hm⟩ := Option.isSome_iff_exists.mp hsome
  simp only [earlierPatterns, List.cons_append, List.nil_append, List.mem_cons,
    List.not_mem_nil, or_false, forall_eq_or_imp, forall_eq] at hearly
  obtain ⟨h1, h2, h3, h4, h5, h6, h7⟩ := hearly
  simp only [classify, branches, List.findSome?_cons, searchBranch, guardedBranch, h1, h2, h3, h4,
    h5, h6, h7, hm, Option.map_none', Option.map_some', truthy_some, bne_iff_ne, ne_eq, ht,
    not_false_eq_true, ↓reduceIte, Option.getD_some]
  rfl

/-- A `result_old` row is only ever emitted with a positive last-known
timestamp, and it carries that timestamp. -/
theorem Yields.resultOld_timestamp {last : Option Nat} {line : List Char} {r : ProbeRow}
    (h : Yields last line (.probe r)) (hs : r.source = .resultOld) :
    ∃ t, last = some t ∧ t ≠ 0 ∧ r.timestamp = t := by
  cases h with
  | probeResultOld _ hl ht => exact ⟨_, hl, ht, rfl⟩
  | probeResult => cases hs
  | probeSuccess => cases hs
  | probeSuccessOld => cases hs

/-- A timestamp of `0` counts as none: the legacy line after `Time: 0 ms`
yields no row. -/
theorem legacy_probe_after_time_zero :
    parseLogFile ["Time: 0 ms".toList,
      "[ProbeBWE-Result] Cluster ID: 3, Final estimate: 5000 bps".toList] = .ok {} := by
  rfl

/-! ### Lines of the timestamped kinds -/

/-- The tags of the kinds other than the decision snapshot that carry an
explicit timestamp, each written before ` Time: N ms`. -/
def timeTags : List String :=
  ["[Trendline]", "[RttBWE-Update]", "[LossBWE-Estimate]", "[LossBWE-Candidates]",
    "[ProbeBWE-Result]", "[ProbeBWE-Success]", "[BWE-ConstraintApply]", "[BWE-DelayLimit]",
    "[BWE-ReceiverLimit]", "[BWE-CongestionWindowPushback]"]

/-- A line as the logger writes it for such a kind: the tag, ` Time: T ms`,
then the rest. -/
def taggedLine (tag : String) (T rest : List Char) : List Char :=
  tag.toList ++ " Time: ".toList ++ (T ++ " ms".toList ++ rest)

/-- No occurrence of the resolver's pattern starts inside `head` or the space
after it, in a line that goes on with ` Time: `. -/
def HeadClear (head : List Char) : Prop :=
  ∀ j < head.length + 1,
    ¬ "Time: ".toList <+: (head ++ " Time: ".toList).drop j ∧
    ¬ "at ".toList <+: (head ++ " Time: ".toList).drop j

instance : DecidablePred HeadClear := fun head =>
  inferInstanceAs (Decidable (∀ j < head.length + 1, _))

/-- Every tag is clear, and opens with `[`, which neither `Time: ` nor `at `
holds. -/
theorem timeTags_clear : ∀ tag ∈ timeTags, HeadClear tag.toList ∧ tag.toList.head? = some '[' := by
  decide

/-- A word without `c` that starts a text where `c` follows `a` lies in `a`. -/
theorem prefix_of_prefix_append_cons {w a x : List Char} {c : Char} (hc : c ∉ w)
    (h : w <+: a ++ c :: x) : w <+: a := by
  induction a generalizing w with
  | nil =>
    cases w with
    | nil => exact List.nil_prefix
    | cons d w => exact absurd (List.cons_prefix_cons.mp h).1 fun hd => hc (hd ▸ List.mem_cons_self _ _)
  | cons b a ih =>
    cases w with
    | nil => exact List.nil_prefix
    | cons d w =>
      obtain ⟨rfl, hw⟩ := List.cons_prefix_cons.mp h
      exact List.cons_prefix_cons.mpr ⟨rfl, ih (fun h => hc (List.mem_cons_of_mem _ h)) hw⟩

/-- Text free of `Time: ` and `at ` before a clear head that opens with `[`
keeps it clear. -/
theorem headClear_append {pre head : List Char} (hpre : ¬ "Time: ".toList <:+: pre)
    (hpre' : ¬ "at ".toList <:+: pre) (hhead : HeadClear head) (hopen : head.head? = some '[') :
    HeadClear (pre ++ head) := by
  obtain ⟨h', rfl⟩ : ∃ h', head = '[' :: h' := by
    cases head with
    | nil => cases hopen
    | cons c h' => exact ⟨h', by cases hopen; rfl⟩
  intro j hj
  by_cases hjp : j < pre.length
  · -- an occurrence starting in `pre` would end before the `[`
    have hin : ∀ w : List Char, '[' ∉ w → w <+: (pre ++ '[' :: h' ++ " Time: ".toList).drop j →
        w <:+: pre := fun w hw h => by
      rw [List.append_assoc, List.drop_append_of_le_length hjp.le, List.cons_append] at h
      exact (prefix_of_prefix_append_cons hw h).isInfix.trans (List.drop_suffix j pre).isInfix
    exact ⟨fun h => hpre (hin _ (by decide) h), fun h => hpre' (hin _ (by decide) h)⟩
  · rw [List.append_assoc, List.drop_append_eq_append_drop, List.drop_eq_nil_of_le (by omega),
      List.nil_append]
    exact hhead (j - pre.length) (by simp only [List.length_append] at hj; omega)

/-- The resolver finds the ` Time: T ms` that follows a clear head first. -/
theorem resolveTimestamp_timeLine {head : List Char} (hhead : HeadClear head) {T : List Char}
    (hT : IsNumeral T) (rest : List Char) (last : Option Nat) :
    resolveTimestamp (head ++ " Time: ".toList ++ (T ++ " ms".toList ++ rest)) last =
      some (digitsValue T) := by
  set F := head ++ " Time: ".toList
  set X := T ++ " ms".toList ++ rest
  set caps := ((({} : Caps).openAt 1 (T ++ (" ms".toList ++ rest))).closeAt 1
    (" ms".toList ++ rest))
  have hF : F.length = head.length + 7 := by simp [F]
  have hmatch : timestampPattern.matchHere ((F ++ X).drop (head.length + 1)) =
      some (rest, caps) := by
    have hdrop : (F ++ X).drop (head.length + 1) = "Time: ".toList ++ T ++ (" ms".toList ++ rest) := by
      simp only [F, X, List.append_assoc]
      rw [List.drop_append]
      rfl
    have hm : matchNodes (lit "Time: " ++ grp 1 digits ++ lit " ms")
        ("Time: ".toList ++ T ++ (" ms".toList ++ rest)) {} = some (rest, caps) :=
      matchNodes_lit_grp hT.1 (fun x hx => isDecimal_of_isDigit (hT.2 x hx))
        (by simp [CharClass.test, show isDecimal ' ' = false by decide]) (by
          rw [← List.append_nil (lit " ms"), matchNodes_lit, if_pos (List.prefix_append _ _),
            List.drop_left, matchNodes_nil])
    rw [hdrop, Regex.matchHere, timestampPattern, List.findSome?_cons, hm]
  have hbefore : ∀ j < head.length + 1, timestampPattern.matchHere ((F ++ X).drop j) = none := by
    intro j hj
    obtain ⟨h1, h2⟩ := hhead j hj
    have hlen : 6 ≤ (F.drop j).length := by rw [List.length_drop, hF]; omega
    rw [List.drop_append_of_le_length (by omega)]
    simp only [Regex.matchHere, timestampPattern, List.findSome?_cons, List.findSome?_nil,
      List.append_assoc, matchNodes_lit]
    rw [if_neg (not_prefix_append (le_trans (by decide) hlen) h1),
      if_neg (not_prefix_append (le_trans (by decide) hlen) h2)]
  have hsearch : timestampPattern.search (F ++ X) = some ⟨head.length + 1, caps⟩ :=
    search_eq_some_iff.mpr ⟨by simp [F], ⟨rest, hmatch⟩, hbefore⟩
  change resolveTimestamp (F ++ X) last = _
  simp [resolveTimestamp, hsearch, Match.group, caps]

/-- **The resolver after a timestamped line, and the legacy line after it.**
Take a line of a timestamped kind other than the snapshot: text free of
`Time: ` and `at `, the kind's tag, ` Time: N ms`, and any rest.  After it
the resolver's value is `N`, whatever it was before.  A legacy line that
follows, with no occurrence of the resolver's pattern in it or in the lines
between, yields a `result_old` or a `success_old` row carrying `N` when it
reaches that check and `N` is positive. -/
theorem resolver_after_tagged_line {tag : String} (htag : tag ∈ timeTags) {pre T : List Char}
    (hpre : ¬ "Time: ".toList <:+: pre) (hpre' : ¬ "at ".toList <:+: pre) (hT : IsNumeral T)
    (rest : List Char) {mid : List (List Char)}
    (hmid : ∀ l ∈ mid, timestampPattern.search l = none) {p : List Char}
    (hpt : timestampPattern.search p = none) (last : Option Nat) :
    lastAfter last ((pre ++ taggedLine tag T rest) :: mid) = some (digitsValue T) ∧
    (digitsValue T ≠ 0 → ReachesResultOld p →
      classify (lastAfter last ((pre ++ taggedLine tag T rest) :: mid ++ [p])) p =
        .ok ((probeResultOldPattern.search p).map fun m =>
          .probe (oldProbeRow .resultOld (digitsValue T) m))) ∧
    (digitsValue T ≠ 0 → ReachesSuccessOld p →
      classify (lastAfter last ((pre ++ taggedLine tag T rest) :: mid ++ [p])) p =
        .ok ((probeSuccessOldPattern.search p).map fun m =>
          .probe (oldProbeRow .successOld (digitsValue T) m))) := by
  obtain ⟨hclear, hopen⟩ := timeTags_clear tag htag
  have hline : pre ++ taggedLine tag T rest =
      (pre ++ tag.toList) ++ " Time: ".toList ++ (T ++ " ms".toList ++ rest) := by
    simp only [taggedLine, List.append_assoc]
  have hafter : lastAfter last ((pre ++ taggedLine tag T rest) :: mid) = some (digitsValue T) := by
    rw [lastAfter_cons, hline,
      resolveTimestamp_timeLine (headClear_append hpre hpre' hclear hopen) hT,
      lastAfter_of_no_occurrence hmid]
  have hp : lastAfter last ((pre ++ taggedLine tag T rest) :: mid ++ [p]) = some (digitsValue T) := by
    rw [show lastAfter last ((pre ++ taggedLine tag T rest) :: mid ++ [p]) =
        lastAfter (lastAfter last ((pre ++ taggedLine tag T rest) :: mid)) [p] from
        List.foldl_append _ _ _ _,
      hafter, lastAfter_of_no_occurrence (by simpa using hpt)]
  exact ⟨hafter, fun hT0 hr => hp ▸ classify_resultOld hr hT0,
    fun hT0 hs => hp ▸ classify_successOld hs hT0⟩

set_option maxRecDepth 2000 in
/-- **The resolver misses the snapshot's timestamp.**  For every line of a
timestamped kind other than the snapshot, the resolver takes the line's own
timestamp, and a legacy `result_old` or `success_old` line after it carries
it.  The snapshot writes `at 5ms`, with no space before `ms`, so the
resolver's `at N ms` misses it: the legacy line right after it finds no
last-known timestamp and yields no row. -/
theorem legacy_probe_after_tagged_line :
    (∀ tag ∈ timeTags, ∀ pre T rest : List Char, ¬ "Time: ".toList <:+: pre →
      ¬ "at ".toList <:+: pre → IsNumeral T →
      ∀ mid : List (List Char), (∀ l ∈ mid, timestampPattern.search l = none) →
      ∀ p, timestampPattern.search p = none → ∀ last : Option Nat,
        lastAfter last ((pre ++ taggedLine tag T rest) :: mid) = some (digitsValue T) ∧
        (digitsValue T ≠ 0 → ReachesResultOld p →
          classify (lastAfter last ((pre ++ taggedLine tag T rest) :: mid ++ [p])) p =
            .ok ((probeResultOldPattern.search p).map fun m =>
              .probe (oldProbeRow .resultOld (digitsValue T) m))) ∧
        (digitsValue T ≠ 0 → ReachesSuccessOld p →
          classify (lastAfter last ((pre ++ taggedLine tag T rest) :: mid ++ [p])) p =
            .ok ((probeSuccessOldPattern.search p).map fun m =>
              .probe (oldProbeRow .successOld (digitsValue T) m)))) ∧
    parseLogFile ["[GCC-DECISION-SNAPSHOT] at 5ms | DelayState: Normal, DelayTargetBps: 1 | RttBackoff: false | ProbeResultBps: 2 | BweTargetBps: 3 | AckedBitrateBps: 4 | FinalTargetBps: 5 | DecisionReason: DelayBased | Updated: true".toList,
      "[ProbeBWE-Result] Cluster ID: 3, Final estimate: 5000 bps".toList] =
      .ok { decision := [⟨5, "DelayBased"⟩] } :=
  ⟨fun _ htag _ _ rest hpre hpre' hT _ hmid _ hpt last =>
    resolver_after_tagged_line htag hpre hpre' hT rest hmid hpt last, by rfl⟩

end WebrtcAnalysis.Gcc
