/-
WebrtcAnalysis/Cpu/Ranking.lean

The summary's top consumer against the chart's first function.  The summary
takes `hotspots[0]`, the first hotspot line of the report.  The chart sorts
by `children_percent`, largest first, keeping equal shares in report order.

A parsed share is never NaN: group 1 starts with a decimal digit
(`hotspotPattern_group_one`), and such text does not read as NaN
(`pyFloat_ne_nan`).  Without NaN, `<` on the shares is the order of the
extended rationals.  The chart's first function therefore has a maximal
share, and it is `hotspots[0]` exactly when `hotspots[0]` has a maximal share
(`chart_top_is_maximal`).  A report that lists a smaller share first makes
the two disagree (`summary_top_not_chart_top`).

On the parsed shares the chart's comparison is the extended order, which is
total and transitive, so the two sorts agree (`insertionSort_congr`) and the
chart's fifteen are a true top fifteen (`chart_top_fifteen`).
-/
import WebrtcAnalysis.Cpu.Report

namespace WebrtcAnalysis.Cpu

open WebrtcAnalysis

/-! ### Parsed shares are never NaN -/

theorem decimalGroup_one_append (ns : List Node) :
    decimalGroup 1 ++ ns =
      .groupOpen 1 :: .rep .digit 1 false :: .char '.' :: .rep .digit 1 false :: .groupClose 1 :: ns :=
  rfl

/-- Group 1 of a hotspot match starts with a decimal digit. -/
theorem hotspotPattern_group_one {line : List Char} {m : Match}
    (h : hotspotPattern.matchStart line = some m) : ∃ d t, m.chars 1 = d :: t ∧ isDecimal d := by
  obtain ⟨⟨rest, caps⟩, hm, rfl⟩ := Option.map_eq_some'.mp h
  rw [hotspotPattern, Regex.matchHere_single, List.singleton_append, List.cons_append,
    decimalGroup_one_append] at hm
  obtain ⟨j₀, -, -, h₀⟩ := matchNodes_rep_inv hm
  rw [matchNodes_groupOpen] at h₀
  set s := line.drop j₀
  obtain ⟨j₁, hj₁, hj₁', h₁⟩ := matchNodes_rep_inv h₀
  obtain ⟨d, t, hs⟩ : ∃ d t, s = d :: t := List.exists_cons_of_ne_nil fun hs => by
    simp [hs] at hj₁'; omega
  have hd : isDecimal d := by
    have : 0 < (s.takeWhile CharClass.digit.test).length := by omega
    rw [hs, List.takeWhile_cons] at this
    split at this
    · assumption
    · simp at this
  cases hu : s.drop j₁ with
  | nil => rw [hu] at h₁; cases h₁
  | cons c u =>
    rw [hu, matchNodes_char_cons] at h₁
    split at h₁
    · obtain ⟨j₂, -, -, h₂⟩ := matchNodes_rep_inv h₁
      rw [matchNodes_groupClose] at h₂
      have hframe := matchNodes_group_frame
        (by decide : ∀ n ∈ hotspotTail, n ≠ .groupOpen 1 ∧ n ≠ .groupClose 1) h₂
      rw [Caps.group_closeAt_of_lookup (rfl : (({} : Caps).openAt 1 s).opened.lookup 1 = some s)]
        at hframe
      have hlen : (u.drop j₂).length < s.length := by
        have := congrArg List.length hu
        simp only [List.length_drop, List.length_cons] at this
        simp only [List.length_drop]
        omega
      obtain ⟨k, hk⟩ : ∃ k, s.length - (u.drop j₂).length = k + 1 := ⟨_, (Nat.succ_pred_eq_of_pos (by omega)).symm⟩
      refine ⟨d, t.take k, ?_, hd⟩
      simp only [Match.chars, Match.group, hframe, Option.getD_some, hk]
      rw [hs]
      rfl
    · cases h₁

theorem hotspotOfMatch_childrenPercent {m : Match} {h : Hotspot} (hh : hotspotOfMatch m = .ok h) :
    pyFloatE (m.chars 1) = .ok h.childrenPercent := by
  obtain ⟨c, hc, hh⟩ := bind_eq_ok hh
  obtain ⟨_, _, hh⟩ := bind_eq_ok hh
  obtain ⟨_, _, hh⟩ := bind_eq_ok hh
  cases hh
  exact hc

theorem pyFloatE_ne_nan {d : Char} (hd : isDecimal d) {t : List Char} {v : PyFloat}
    (h : pyFloatE (d :: t) = .ok v) : v ≠ .nan := by
  rintro rfl
  unfold pyFloatE at h
  split at h
  · cases h; exact pyFloat_ne_nan hd t ‹_›
  · cases h

/-- One turn of the loop: the line is skipped, or it matches and its hotspot
heads the rest. -/
theorem hotspotLines_cons_ok {inSection : Bool} {line : List Char} {rest : List (List Char)}
    {hs : List Hotspot} (h : hotspotLines inSection (line :: rest) = .ok hs) :
    (∃ s, hotspotLines s rest = .ok hs) ∨
    ∃ m x xs, hotspotPattern.matchStart line = some m ∧ hotspotOfMatch m = .ok x ∧
      hotspotLines inSection rest = .ok xs ∧ hs = x :: xs := by
  unfold hotspotLines at h
  split at h
  · exact .inl ⟨_, h⟩
  · split at h
    · exact .inl ⟨_, h⟩
    · split at h
      · split at h
        · obtain ⟨x, hx, h⟩ := bind_eq_ok h
          obtain ⟨xs, hxs, h⟩ := bind_eq_ok h
          cases h
          exact .inr ⟨_, x, xs, ‹_›, hx, hxs, rfl⟩
        · exact .inl ⟨_, h⟩
      · exact .inl ⟨_, h⟩

/-- Every hotspot the loop emits has a share other than NaN. -/
theorem hotspotLines_ne_nan {inSection : Bool} {lines : List (List Char)} {hs : List Hotspot}
    (hl : hotspotLines inSection lines = .ok hs) : ∀ h ∈ hs, h.childrenPercent ≠ .nan := by
  induction lines generalizing inSection hs with
  | nil => cases hl; simp
  | cons line rest ih =>
    rcases hotspotLines_cons_ok hl with ⟨s, hl⟩ | ⟨m, x, xs, hm, hx, hxs, rfl⟩
    · exact ih hl
    · intro h hh
      rcases List.mem_cons.mp hh with rfl | hh
      · obtain ⟨d, t, ht, hd⟩ := hotspotPattern_group_one hm
        exact pyFloatE_ne_nan hd (ht ▸ hotspotOfMatch_childrenPercent hx)
      · exact ih hxs h hh

theorem parseCpuAnalysisReport_ne_nan {report : List Char} {hs : List Hotspot}
    (h : parseCpuAnalysisReport report = .ok hs) : ∀ x ∈ hs, x.childrenPercent ≠ .nan := by
  unfold parseCpuAnalysisReport at h
  cases hl : hotspotLines false (splitOn '\n' report) with
  | error e => simp [hl, Except.map] at h
  | ok all =>
    simp only [hl, Except.map, Except.ok.injEq] at h
    subst h
    exact fun x hx => hotspotLines_ne_nan hl x (List.mem_of_mem_take hx)

/-! ### The first of the chart -/

theorem PyFloat.lt_self (a : PyFloat) : a.lt a = false := by
  rcases a with p | ⟨_ | _⟩ | _ <;> simp [PyFloat.lt]

/-- The first of the stable descending sort has a maximal share, when no share
is NaN. -/
theorem head_insertionSort_maximal :
    ∀ {l : List Hotspot}, (∀ x ∈ l, x.childrenPercent ≠ .nan) → l ≠ [] →
      ∃ top ∈ l, (l.insertionSort RanksBefore).head? = some top ∧ ∀ x ∈ l, RanksBefore top x
  | [], _, hne => absurd rfl hne
  | [a], _, _ => ⟨a, List.mem_singleton_self a, rfl, by simp [RanksBefore, PyFloat.lt_self]⟩
  | a :: b :: l, hnan, _ => by
    obtain ⟨top, htop, hhead, hmax⟩ :=
      head_insertionSort_maximal (fun x hx => hnan x (List.mem_cons_of_mem a hx)) (List.cons_ne_nil b l)
    obtain ⟨rest, hsort⟩ := List.head?_eq_some_iff.mp hhead
    have hins : (a :: b :: l).insertionSort RanksBefore =
        ((b :: l).insertionSort RanksBefore).orderedInsert RanksBefore a := rfl
    rw [hins, hsort, List.orderedInsert]
    by_cases hat : RanksBefore a top
    · refine ⟨a, List.mem_cons_self a _, by simp [hat], fun x hx => ?_⟩
      rcases List.mem_cons.mp hx with rfl | hx
      · exact PyFloat.lt_self _
      · exact PyFloat.lt_eq_false_trans (hnan a (List.mem_cons_self a _))
          (hnan top (List.mem_cons_of_mem a htop)) (hnan x (List.mem_cons_of_mem a hx)) hat (hmax x hx)
    · refine ⟨top, List.mem_cons_of_mem a htop, by simp [hat], fun x hx => ?_⟩
      rcases List.mem_cons.mp hx with rfl | hx
      · exact PyFloat.lt_eq_false_of_lt (by simpa [RanksBefore] using hat)
      · exact hmax x hx

/-- A first element with a maximal share stays first. -/
theorem head_insertionSort_of_maximal {a : Hotspot} {l : List Hotspot} (h : ∀ x ∈ l, RanksBefore a x) :
    ((a :: l).insertionSort RanksBefore).head? = some a := by
  rw [List.insertionSort_cons RanksBefore h]
  rfl

theorem head?_topFunctions (hs : List Hotspot) :
    (topFunctions hs).head? = (hs.insertionSort RanksBefore).head? := by
  simp [topFunctions, List.head?_take]

/-- **The chart's first against the summary's top consumer.**  For every
report that parses to a non-empty hotspot list, the chart ranks first a
hotspot with a maximal share; the summary reports the first hotspot of the
list; and the two are the same hotspot exactly when the first hotspot has a
maximal share. -/
theorem chart_top_is_maximal {report : List Char} {first : Hotspot} {rest : List Hotspot}
    (h : parseCpuAnalysisReport report = .ok (first :: rest)) :
    (∃ top ∈ first :: rest, (topFunctions (first :: rest)).head? = some top ∧
      ∀ x ∈ first :: rest, top.childrenPercent.lt x.childrenPercent = false) ∧
    topCpuConsumer (first :: rest) = (first.symbol, first.childrenPercent) ∧
    ((topFunctions (first :: rest)).head? = some first ↔
      ∀ x ∈ first :: rest, first.childrenPercent.lt x.childrenPercent = false) := by
  obtain ⟨top, htop, hhead, hmax⟩ :=
    head_insertionSort_maximal (parseCpuAnalysisReport_ne_nan h) (List.cons_ne_nil first rest)
  refine ⟨⟨top, htop, by rw [head?_topFunctions, hhead], hmax⟩, rfl, ⟨fun hfirst => ?_, fun hmax' => ?_⟩⟩
  · rw [head?_topFunctions, hhead, Option.some.injEq] at hfirst
    exact hfirst ▸ hmax
  · rw [head?_topFunctions]
    exact head_insertionSort_of_maximal fun x hx => hmax' x (List.mem_cons_of_mem first hx)

theorem chart_top_sorted_report :
    parseCpuAnalysisReport
        "Children      Self  Command\n 5.00% 5.00% app libwebrtc.so encode\n 1.00% 1.00% app libc.so memcpy".toList =
      .ok [⟨.finite 5, .finite 5, "app".toList, "libwebrtc.so".toList, "encode".toList⟩,
        ⟨.finite 1, .finite 1, "app".toList, "libc.so".toList, "memcpy".toList⟩] ∧
    ((∃ top ∈ [(⟨.finite 5, .finite 5, "app".toList, "libwebrtc.so".toList, "encode".toList⟩ : Hotspot),
        ⟨.finite 1, .finite 1, "app".toList, "libc.so".toList, "memcpy".toList⟩],
      (topFunctions [⟨.finite 5, .finite 5, "app".toList, "libwebrtc.so".toList, "encode".toList⟩,
        ⟨.finite 1, .finite 1, "app".toList, "libc.so".toList, "memcpy".toList⟩]).head? = some top ∧
      ∀ x ∈ [(⟨.finite 5, .finite 5, "app".toList, "libwebrtc.so".toList, "encode".toList⟩ : Hotspot),
        ⟨.finite 1, .finite 1, "app".toList, "libc.so".toList, "memcpy".toList⟩],
        top.childrenPercent.lt x.childrenPercent = false) ∧
    topCpuConsumer [⟨.finite 5, .finite 5, "app".toList, "libwebrtc.so".toList, "encode".toList⟩,
        ⟨.finite 1, .finite 1, "app".toList, "libc.so".toList, "memcpy".toList⟩] =
      ("encode".toList, .finite 5) ∧
    ((topFunctions [⟨.finite 5, .finite 5, "app".toList, "libwebrtc.so".toList, "encode".toList⟩,
        ⟨.finite 1, .finite 1, "app".toList, "libc.so".toList, "memcpy".toList⟩]).head? =
        some ⟨.finite 5, .finite 5, "app".toList, "libwebrtc.so".toList, "encode".toList⟩ ↔
      ∀ x ∈ [(⟨.finite 5, .finite 5, "app".toList, "libwebrtc.so".toList, "encode".toList⟩ : Hotspot),
        ⟨.finite 1, .finite 1, "app".toList, "libc.so".toList, "memcpy".toList⟩],
        PyFloat.lt (.finite 5) x.childrenPercent = false)) :=
  ⟨by rfl, @chart_top_is_maximal
    "Children      Self  Command\n 5.00% 5.00% app libwebrtc.so encode\n 1.00% 1.00% app libc.so memcpy".toList
    _ _ (by rfl)⟩

/-- A report that lists the smaller share first: the summary names `memcpy`,
the chart ranks `encode` first. -/
theorem summary_top_not_chart_top :
    parseCpuAnalysisReport
        "Children      Self  Command\n 1.00% 1.00% app libc.so memcpy\n 5.00% 5.00% app libwebrtc.so encode".toList =
      .ok [⟨.finite 1, .finite 1, "app".toList, "libc.so".toList, "memcpy".toList⟩,
        ⟨.finite 5, .finite 5, "app".toList, "libwebrtc.so".toList, "encode".toList⟩] ∧
    topCpuConsumer [⟨.finite 1, .finite 1, "app".toList, "libc.so".toList, "memcpy".toList⟩,
        ⟨.finite 5, .finite 5, "app".toList, "libwebrtc.so".toList, "encode".toList⟩] =
      ("memcpy".toList, .finite 1) ∧
    (topFunctions [⟨.finite 1, .finite 1, "app".toList, "libc.so".toList, "memcpy".toList⟩,
        ⟨.finite 5, .finite 5, "app".toList, "libwebrtc.so".toList, "encode".toList⟩]).head? =
      some ⟨.finite 5, .finite 5, "app".toList, "libwebrtc.so".toList, "encode".toList⟩ := by
  exact ⟨by rfl, rfl, by decide⟩

/-! ### The chart's fifteen -/

/-- Away from NaN, `a < b` fails exactly when `b ≤ a` in the extended order. -/
theorem PyFloat.lt_eq_false_iff {a b : PyFloat} (ha : a ≠ .nan) (hb : b ≠ .nan) :
    a.lt b = false ↔ b.toExt ≤ a.toExt := by
  rw [← Bool.not_eq_true, PyFloat.lt_iff_toExt ha hb, not_lt]

/-- The chart's order on shares read in the extended order: larger first. -/
def ShareGe (a b : Hotspot) : Prop := b.childrenPercent.toExt ≤ a.childrenPercent.toExt

instance : DecidableRel ShareGe := fun a b =>
  inferInstanceAs (Decidable (b.childrenPercent.toExt ≤ a.childrenPercent.toExt))

instance : IsTotal Hotspot ShareGe := ⟨fun _ _ => le_total _ _⟩

instance : IsTrans Hotspot ShareGe := ⟨fun _ _ _ hab hbc => le_trans hbc hab⟩

section SortCongr

variable {α : Type} {r s : α → α → Prop} [DecidableRel r] [DecidableRel s]

theorem orderedInsert_congr {a : α} {l : List α} (h : ∀ b ∈ l, r a b ↔ s a b) :
    l.orderedInsert r a = l.orderedInsert s a := by
  induction l with
  | nil => rfl
  | cons b l ih =>
    have hcons : ∀ (t : α → α → Prop) [DecidableRel t], (b :: l).orderedInsert t a =
        if t a b then a :: b :: l else b :: l.orderedInsert t a := fun _ _ => rfl
    have hb := h b (List.mem_cons_self b l)
    rw [hcons r, hcons s]
    by_cases hab : r a b
    · rw [if_pos hab, if_pos (hb.mp hab)]
    · rw [if_neg hab, if_neg fun hs => hab (hb.mpr hs), ih fun c hc => h c (List.mem_cons_of_mem b hc)]

/-- Two orders that agree on a list's items sort it the same way. -/
theorem insertionSort_congr {l : List α} (h : ∀ a ∈ l, ∀ b ∈ l, r a b ↔ s a b) :
    l.insertionSort r = l.insertionSort s := by
  induction l with
  | nil => rfl
  | cons a l ih =>
    have hcons : ∀ (t : α → α → Prop) [DecidableRel t],
        (a :: l).insertionSort t = (l.insertionSort t).orderedInsert t a := fun _ _ => rfl
    rw [hcons r, hcons s,
      ih fun b hb c hc => h b (List.mem_cons_of_mem a hb) c (List.mem_cons_of_mem a hc)]
    exact orderedInsert_congr fun b hb =>
      h a (List.mem_cons_self a l) b (List.mem_cons_of_mem a ((List.perm_insertionSort s l).subset hb))

end SortCongr

/-- **The chart's functions are a true top fifteen.**  For every report that
parses, `top_functions` holds fifteen hotspots, or all of them when there are
fewer, with no share larger than the share before it.  With the hotspots left
out they are the report's hotspots, and no left-out hotspot has a larger
share than any chart function. -/
theorem chart_top_fifteen {report : List Char} {hs : List Hotspot}
    (h : parseCpuAnalysisReport report = .ok hs) :
    (topFunctions hs).length = min 15 hs.length ∧ (topFunctions hs).Sorted RanksBefore ∧
    ∃ rest, (topFunctions hs ++ rest).Perm hs ∧ ∀ x ∈ topFunctions hs, ∀ y ∈ rest, RanksBefore x y := by
  have hnan := parseCpuAnalysisReport_ne_nan h
  have hperm := List.perm_insertionSort ShareGe hs
  have hsorted := List.sorted_insertionSort ShareGe hs
  -- on the report's shares the chart's comparison is the extended order
  have hiff : ∀ a ∈ hs.insertionSort ShareGe, ∀ b ∈ hs.insertionSort ShareGe,
      ShareGe a b ↔ RanksBefore a b := fun a ha b hb =>
    (PyFloat.lt_eq_false_iff (hnan a (hperm.subset ha)) (hnan b (hperm.subset hb))).symm
  rw [topFunctions, insertionSort_congr fun a ha b hb =>
    (hiff a (hperm.symm.subset ha) b (hperm.symm.subset hb)).symm]
  refine ⟨by rw [List.length_take, List.length_insertionSort],
    (hsorted.sublist (List.take_sublist _ _)).imp_of_mem fun ha hb hab =>
      (hiff _ (List.mem_of_mem_take ha) _ (List.mem_of_mem_take hb)).mp hab,
    _, by rw [List.take_append_drop]; exact hperm, fun x hx y hy =>
      (hiff x (List.mem_of_mem_take hx) y (List.mem_of_mem_drop hy)).mp
        (hsorted.rel_of_mem_take_of_mem_drop hx hy)⟩

/-- A report with two hotspots, the smaller first: both are charted, larger
first. -/
theorem chart_top_fifteen_two_lines :
    parseCpuAnalysisReport
        "Children      Self  Command\n 1.00% 1.00% app libc.so memcpy\n 5.00% 5.00% app libwebrtc.so encode".toList =
      .ok [⟨.finite 1, .finite 1, "app".toList, "libc.so".toList, "memcpy".toList⟩,
        ⟨.finite 5, .finite 5, "app".toList, "libwebrtc.so".toList, "encode".toList⟩] ∧
    ((topFunctions [⟨.finite 1, .finite 1, "app".toList, "libc.so".toList, "memcpy".toList⟩,
        ⟨.finite 5, .finite 5, "app".toList, "libwebrtc.so".toList, "encode".toList⟩]).length =
      min 15 2 ∧
    (topFunctions [⟨.finite 1, .finite 1, "app".toList, "libc.so".toList, "memcpy".toList⟩,
        ⟨.finite 5, .finite 5, "app".toList, "libwebrtc.so".toList, "encode".toList⟩]).Sorted
      RanksBefore ∧
    ∃ rest, (topFunctions [⟨.finite 1, .finite 1, "app".toList, "libc.so".toList, "memcpy".toList⟩,
        ⟨.finite 5, .finite 5, "app".toList, "libwebrtc.so".toList, "encode".toList⟩] ++ rest).Perm
        [⟨.finite 1, .finite 1, "app".toList, "libc.so".toList, "memcpy".toList⟩,
          ⟨.finite 5, .finite 5, "app".toList, "libwebrtc.so".toList, "encode".toList⟩] ∧
      ∀ x ∈ topFunctions [⟨.finite 1, .finite 1, "app".toList, "libc.so".toList, "memcpy".toList⟩,
        ⟨.finite 5, .finite 5, "app".toList, "libwebrtc.so".toList, "encode".toList⟩],
        ∀ y ∈ rest, RanksBefore x y) :=
  have h : parseCpuAnalysisReport
      "Children      Self  Command\n 1.00% 1.00% app libc.so memcpy\n 5.00% 5.00% app libwebrtc.so encode".toList =
      .ok [⟨.finite 1, .finite 1, "app".toList, "libc.so".toList, "memcpy".toList⟩,
        ⟨.finite 5, .finite 5, "app".toList, "libwebrtc.so".toList, "encode".toList⟩] := by
    rfl
  ⟨h, chart_top_fifteen h⟩

end WebrtcAnalysis.Cpu
