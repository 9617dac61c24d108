/-
WebrtcAnalysis/Gcc/Candidates.lean

The `LossBWE-Candidates` block read back.  The logger writes a candidate list
as the numbers separated by `", "`, often with a trailing `", "`; the block
splits the captured text at commas, strips each piece, drops the empty ones,
and reads the rest with `float`.  For every timestamp and every non-empty list
of numbers below `2 ^ 53 / 1000`, where the float arithmetic is exact, the line
yields exactly one row, and that row gives back the timestamp, the numbers in
order, their count and `1000` times the largest (`classify_candidatesLine`).
-/
import WebrtcAnalysis.Gcc.Dispatch

namespace WebrtcAnalysis.Gcc

open WebrtcAnalysis

/-- The numbers of a candidate list as the logger writes them, separated by
`", "`. -/
def joinCandidates : List (List Char) → List Char
  | [] => []
  | [c] => c
  | c :: c' :: cs => c ++ ", ".toList ++ joinCandidates (c' :: cs)

/-- A `LossBWE-Candidates` line: timestamp `T`, candidate list `cs`, a tail
`sep` of commas and spaces, and the line break when `nl`. -/
def candidatesLine (T : List Char) (cs : List (List Char)) (sep : List Char) (nl : Bool) :
    List Char :=
  "[LossBWE-Candidates] Time: ".toList ++ T ++ " ms, Candidate Bandwidths (kbps): ".toList ++
    (joinCandidates cs ++ sep ++ if nl then ['\n'] else [])

/-- A decimal numeral: a non-empty string of digits. -/
def IsNumeral (c : List Char) : Prop := c ≠ [] ∧ ∀ x ∈ c, x.isDigit

instance : DecidablePred IsNumeral := fun c =>
  inferInstanceAs (Decidable (c ≠ [] ∧ ∀ x ∈ c, x.isDigit))

/-- The row the line describes: timestamp `T`, the sentinel state `-1`, the
numbers in order, their count, and `1000` times the largest. -/
def candidatesLineRow (T : List Char) (cs : List (List Char)) : LossRow :=
  { timestamp := digitsValue T, state := -1
    bandwidth := ((1000 * (cs.map digitsValue).foldl max 0 : ℕ) : ℤ)
    observations := cs.length, candidates := some (cs.map fun c => .finite (digitsValue c)) }

/-! ### The pieces of a candidate list -/

theorem strip_spaces {p : List Char} (h : ∀ x ∈ p, x = ' ') : strip p = [] := by
  have : p.dropWhile isSpace = [] :=
    List.dropWhile_eq_nil_iff.mpr fun x hx => by rw [h x hx]; rfl
  simp [strip, stripWith, this]

theorem splitOn_commas_spaces {sep : List Char} (hsep : ∀ x ∈ sep, x = ',' ∨ x = ' ') :
    ∀ p ∈ splitOn ',' sep, ∀ x ∈ p, x = ' ' := by
  induction sep with
  | nil => simp [splitOn, List.splitOn, List.splitOnP_nil]
  | cons y sep ih =>
    have ih := ih fun x hx => hsep x (List.mem_cons_of_mem y hx)
    simp only [splitOn, List.splitOn] at ih ⊢
    rw [List.splitOnP_cons]
    rcases hsep y (List.mem_cons_self y sep) with rfl | rfl
    · simpa using ih
    · simp only [show (' ' == ',') = false by decide, Bool.false_eq_true, ↓reduceIte]
      cases hs : List.splitOnP (· == ',') sep with
      | nil => simp
      | cons p₀ ps =>
        rw [hs] at ih
        intro p hp x hx
        simp only [List.modifyHead_cons, List.mem_cons] at hp
        rcases hp with rfl | hp
        · simp only [List.mem_cons] at hx
          exact hx.elim id (ih p₀ (by simp) x)
        · exact ih p (by simp [hp]) x hx

theorem isSpace_numeral {c : List Char} (hc : IsNumeral c) : ∀ x ∈ c, isSpace x = false :=
  fun x hx => isSpace_of_isDigit (hc.2 x hx)

theorem comma_not_mem_numeral {c : List Char} (hc : IsNumeral c) : ',' ∉ c :=
  fun h => absurd (hc.2 ',' h) (by decide)

/-- A piece made of spaces around a numeral is kept as the numeral. -/
theorem candidatePiece_numeral {lead c trail : List Char} (hlead : ∀ x ∈ lead, x = ' ')
    (hc : IsNumeral c) (htrail : ∀ x ∈ trail, x = ' ') :
    candidatePiece (lead ++ c ++ trail) = some c := by
  have hsp : ∀ {l : List Char}, (∀ x ∈ l, x = ' ') → ∀ x ∈ l, isSpace x := fun h x hx => by
    rw [h x hx]; rfl
  have hlast : ∀ x ∈ c.getLast?, x ≠ ',' := fun x hx h =>
    comma_not_mem_numeral hc (h ▸ List.mem_of_getLast?_eq_some hx)
  unfold candidatePiece
  rw [strip_around (hsp hlead) (isSpace_numeral hc) hc.1 (hsp htrail), rstripChar_of_last hlast]
  simp [List.isEmpty_iff, hc.1]

/-- **The pieces of a written candidate list are its numerals.** -/
theorem candidatePieces_join {cs : List (List Char)} (hne : cs ≠ [])
    (hcs : ∀ c ∈ cs, IsNumeral c) {lead sep : List Char} (hlead : ∀ x ∈ lead, x = ' ')
    (hsep : ∀ x ∈ sep, x = ',' ∨ x = ' ') :
    candidatePieces (lead ++ joinCandidates cs ++ sep) = cs := by
  induction cs generalizing lead with
  | nil => exact absurd rfl hne
  | cons c cs ih =>
    have hc := hcs c (List.mem_cons_self c cs)
    have hnot : ',' ∉ lead ++ c := by
      simp only [List.mem_append, not_or]
      exact ⟨fun h => by simpa using hlead ',' h, comma_not_mem_numeral hc⟩
    cases cs with
    | nil =>
      have hspl := splitOn_commas_spaces hsep
      obtain ⟨p₀, ps, hps⟩ : ∃ p₀ ps, splitOn ',' sep = p₀ :: ps :=
        List.exists_cons_of_ne_nil (List.splitOnP_ne_nil (· == ',') sep)
      rw [hps] at hspl
      have hrest : ps.filterMap candidatePiece = [] :=
        List.filterMap_eq_nil_iff.mpr fun p hp => by
          simp [candidatePiece, strip_spaces (hspl p (List.mem_cons_of_mem p₀ hp)), rstripChar]
      rw [candidatePieces, joinCandidates, splitOn_append_of_not_mem hnot, hps,
        List.modifyHead_cons, List.filterMap_cons,
        candidatePiece_numeral hlead hc (hspl p₀ (List.mem_cons_self p₀ ps)), hrest]
    | cons c' cs =>
      have ih : candidatePieces ([' '] ++ joinCandidates (c' :: cs) ++ sep) = c' :: cs :=
        ih (List.cons_ne_nil c' cs) (fun x hx => hcs x (List.mem_cons_of_mem c hx)) (by simp)
      have hsplit : lead ++ joinCandidates (c :: c' :: cs) ++ sep =
          (lead ++ c) ++ ',' :: ([' '] ++ joinCandidates (c' :: cs) ++ sep) := by
        simp [joinCandidates]
      rw [hsplit, candidatePieces, splitOn_append_cons hnot, List.filterMap_cons,
        show lead ++ c = lead ++ c ++ [] by simp, candidatePiece_numeral hlead hc (by simp)]
      exact congrArg (c :: ·) ih

/-! ### The line matches only the candidates pattern -/

theorem mem_joinCandidates {cs : List (List Char)} {x : Char} (hx : x ∈ joinCandidates cs) :
    (∃ c ∈ cs, x ∈ c) ∨ x = ',' ∨ x = ' ' := by
  induction cs with
  | nil => simp [joinCandidates] at hx
  | cons c cs ih =>
    cases cs with
    | nil => exact .inl ⟨c, by simp, by simpa [joinCandidates] using hx⟩
    | cons c' cs =>
      simp only [joinCandidates, List.mem_append] at hx
      rcases hx with (hx | hx) | hx
      · exact .inl ⟨c, by simp, hx⟩
      · simp only [String.toList, List.mem_cons, List.not_mem_nil, or_false] at hx
        exact .inr (by simpa using hx)
      · rcases ih hx with ⟨c'', hc'', hx''⟩ | h
        · exact .inl ⟨c'', List.mem_cons_of_mem c hc'', hx''⟩
        · exact .inr h

theorem joinCandidates_ne_nil {cs : List (List Char)} (hne : cs ≠ [])
    (hcs : ∀ c ∈ cs, IsNumeral c) : joinCandidates cs ≠ [] := by
  cases cs with
  | nil => exact absurd rfl hne
  | cons c cs =>
    have := (hcs c (List.mem_cons_self c cs)).1
    cases cs <;> simp [joinCandidates, this]

section Line

variable {T : List Char} {cs : List (List Char)} {sep : List Char} {nl : Bool}

/-- The line spelled with its three parts: the tag, the timestamp, and the rest. -/
theorem candidatesLine_eq :
    candidatesLine T cs sep nl = "[LossBWE-Candidates] Time: ".toList ++ T ++
      (" ms, Candidate Bandwidths (kbps): ".toList ++ (joinCandidates cs ++ sep) ++
        if nl then ['\n'] else []) := by
  simp only [candidatesLine, List.append_assoc]

/-- A character other than a digit does not occur in a numeral. -/
theorem not_mem_numeral {y : Char} (hy : y.isDigit = false) {c : List Char} (hc : IsNumeral c) :
    y ∉ c := fun h => absurd (hc.2 y h) (by simp [hy])

/-- A character other than a digit, a comma or a space does not occur in a
written list and its tail. -/
theorem not_mem_join_sep {y : Char} (hy : y.isDigit = false) (hcomma : y ≠ ',') (hspace : y ≠ ' ')
    {cs : List (List Char)} {sep : List Char} (hcs : ∀ c ∈ cs, IsNumeral c)
    (hsep : ∀ x ∈ sep, x = ',' ∨ x = ' ') : y ∉ joinCandidates cs ++ sep := by
  intro h
  rcases List.mem_append.mp h with h | h
  · rcases mem_joinCandidates h with ⟨c, hc, hx⟩ | h | h
    · exact not_mem_numeral hy (hcs c hc) hx
    · exact hcomma h
    · exact hspace h
  · rcases hsep y h with h | h
    · exact hcomma h
    · exact hspace h

/-- The characters of the line after its opening bracket. -/
theorem bracket_not_mem_tail (hT : IsNumeral T) (hcs : ∀ c ∈ cs, IsNumeral c)
    (hsep : ∀ x ∈ sep, x = ',' ∨ x = ' ') : '[' ∉ (candidatesLine T cs sep nl).tail := by
  rw [candidatesLine_eq, List.append_assoc, List.tail_append_of_ne_nil (by simp)]
  simp only [List.mem_append, not_or]
  exact ⟨by decide, not_mem_numeral (by decide) hT,
    ⟨by decide, by simpa [not_or] using not_mem_join_sep (by decide) (by decide) (by decide) hcs hsep⟩,
    by cases nl <;> simp⟩

/-- A pattern that starts with `[` and a tag other than `LossBWE-Candidates`
does not match the line. -/
theorem search_candidatesLine_eq_none (w : String) {r : Regex} {ns : List Node}
    (hr : r.alts = [lit w ++ ns]) (hw : '[' ∈ w.toList.head?)
    (hlen : w.toList.length ≤ "[LossBWE-Candidates] Time: ".toList.length)
    (hpre : ¬ w.toList <+: "[LossBWE-Candidates] Time: ".toList)
    (hT : IsNumeral T) (hcs : ∀ c ∈ cs, IsNumeral c) (hsep : ∀ x ∈ sep, x = ',' ∨ x = ' ') :
    r.search (candidatesLine T cs sep nl) = none := by
  obtain ⟨alts⟩ := r
  cases hr
  refine search_eq_none_of_head hw (bracket_not_mem_tail hT hcs hsep) ?_
  rw [candidatesLine_eq, List.append_assoc]
  exact not_prefix_append hlen hpre

/-- A numeral, then text that starts with a non-digit. -/
theorem numeral_head_not_digit {J eol : List Char} :
    ∀ c ∈ (" ms, Candidate Bandwidths (kbps): ".toList ++ J ++ eol).head?,
      CharClass.digit.test c = false := by
  simp [CharClass.test, show isDecimal ' ' = false by decide]

/-- The candidates pattern matches the line at its head, capturing the
timestamp and the whole written list. -/
theorem search_lossCandidates (hT : IsNumeral T) (hne : cs ≠ []) (hcs : ∀ c ∈ cs, IsNumeral c)
    (hsep : ∀ x ∈ sep, x = ',' ∨ x = ' ') :
    ∃ m, lossCandidatesPattern.search (candidatesLine T cs sep nl) = some m ∧
      m.chars 1 = T ∧ m.chars 2 = joinCandidates cs ++ sep := by
  set J := joinCandidates cs ++ sep
  set eol : List Char := if nl then ['\n'] else []
  set P := " ms, Candidate Bandwidths (kbps): ".toList
  set caps₁ := ({} : Caps).openAt 1 (T ++ (P ++ J ++ eol)) |>.closeAt 1 (P ++ J ++ eol)
  set caps₂ := (caps₁.openAt 2 (J ++ eol)).closeAt 2 eol
  have hJ : J ≠ [] := by simp [J, joinCandidates_ne_nil hne hcs]
  have hJnl : ∀ x ∈ J, CharClass.notNewline.test x := fun x hx => by
    have : x ≠ '\n' := by
      rintro rfl
      exact not_mem_join_sep (by decide) (by decide) (by decide) hcs hsep hx
    simpa [CharClass.test] using this
  have heol : ∀ c ∈ eol.head?, CharClass.notNewline.test c = false := by
    cases nl <;> simp [eol, CharClass.test]
  have hinner : matchNodes (lit " ms, Candidate Bandwidths (kbps): " ++ grp 2 anyPlus ++ [])
      (P ++ J ++ eol) caps₁ = some (eol, caps₂) :=
    matchNodes_lit_grp hJ hJnl heol rfl
  have hmatch : matchNodes (lit "[LossBWE-Candidates] Time: " ++ grp 1 digits ++
      (lit " ms, Candidate Bandwidths (kbps): " ++ grp 2 anyPlus ++ []))
      ("[LossBWE-Candidates] Time: ".toList ++ T ++ (P ++ J ++ eol)) {} = some (eol, caps₂) :=
    matchNodes_lit_grp hT.1 (fun x hx => isDecimal_of_isDigit (hT.2 x hx))
      numeral_head_not_digit hinner
  refine ⟨⟨0, caps₂⟩,
    search_of_matchHere (?_ : lossCandidatesPattern.matchHere _ = some (eol, caps₂)), ?_, ?_⟩
  · rw [candidatesLine_eq, Regex.matchHere, lossCandidatesPattern, List.findSome?_cons]
    simp only [List.append_assoc, List.append_nil, J, eol, P] at hmatch ⊢
    rw [hmatch]
  · simp [Match.chars, Match.group, caps₂, Caps.group_closeAt_openAt_ne _ (by decide : 2 ≠ 1),
      caps₁]
  · simp [Match.chars, Match.group, caps₂]

end Line

/-! ### The row -/

/-- `float` reads every numeral of the list as its value. -/
theorem mapM_pyFloatE_numerals {cs : List (List Char)}
    (hc : ∀ c ∈ cs, IsNumeral c ∧ digitsValue c < 2 ^ 53) :
    cs.mapM pyFloatE = .ok (cs.map fun c => .finite (digitsValue c)) := by
  induction cs with
  | nil => rfl
  | cons c cs ih =>
    obtain ⟨⟨hne, hd⟩, hs⟩ := hc c (List.mem_cons_self c cs)
    rw [List.mapM_cons, pyFloatE, pyFloat_digits hne hd hs,
      ih fun x hx => hc x (List.mem_cons_of_mem c hx)]
    rfl

theorem natCast_foldl_max (a : ℕ) (xs : List ℕ) :
    ((xs.foldl max a : ℕ) : ℚ) = (xs.map fun x : ℕ => (x : ℚ)).foldl max (a : ℚ) := by
  induction xs generalizing a with
  | nil => rfl
  | cons x xs ih => simp [ih, Nat.cast_max]

/-- The largest of a list keeps a bound every element has. -/
theorem foldl_max_lt {b a : ℕ} {xs : List ℕ} (ha : a < b) (hxs : ∀ x ∈ xs, x < b) :
    xs.foldl max a < b := by
  induction xs generalizing a with
  | nil => exact ha
  | cons x xs ih =>
    exact ih (max_lt ha (hxs x (List.mem_cons_self x xs))) fun y hy =>
      hxs y (List.mem_cons_of_mem x hy)

/-- The body's `int(max(candidates) * 1000)` on numerals small enough for
exact float arithmetic. -/
theorem candidates_bandwidth {c : List Char} {cs : List (List Char)}
    (hc : ∀ x ∈ c :: cs, 1000 * digitsValue x < 2 ^ 53) :
    ((pyMax (.finite (digitsValue c)) (cs.map fun x => .finite (digitsValue x))).mul
        (.finite 1000)).toInt =
      .ok ((1000 * ((c :: cs).map digitsValue).foldl max 0 : ℕ) : ℤ) := by
  set M := (cs.map digitsValue).foldl max (digitsValue c)
  have hM : M < 2 ^ 53 / 1000 + 1 :=
    foldl_max_lt (by have := hc c (List.mem_cons_self c cs); omega) (by
      simp only [List.mem_map]
      rintro _ ⟨x, hx, rfl⟩
      have := hc x (List.mem_cons_of_mem c hx); omega)
  have hmap : (cs.map fun x => PyFloat.finite (digitsValue x)) =
      ((cs.map digitsValue).map fun x : ℕ => (x : ℚ)).map .finite := by simp
  have h1000 : PyFloat.finite 1000 = .finite ((1000 : ℕ) : ℚ) := by norm_num
  rw [hmap, pyMax_finite, ← natCast_foldl_max, h1000, mul_natCast (by omega), toInt_natCast]
  simp [M, Nat.mul_comm]

/-- The body on a match of the line reads back its row. -/
theorem candidatesRow_eq {m : Match} {T : List Char} {cs : List (List Char)} {sep : List Char}
    (h1 : m.chars 1 = T) (h2 : m.chars 2 = joinCandidates cs ++ sep) (hne : cs ≠ [])
    (hc : ∀ c ∈ cs, IsNumeral c ∧ 1000 * digitsValue c < 2 ^ 53)
    (hsep : ∀ x ∈ sep, x = ',' ∨ x = ' ') :
    candidatesRow m = .ok (candidatesLineRow T cs) := by
  have hpieces : candidatePieces (m.chars 2) = cs := by
    simpa [h2] using candidatePieces_join hne (fun c hc' => (hc c hc').1)
      (by simp : ∀ x ∈ ([] : List Char), x = ' ') hsep
  have hfloat := mapM_pyFloatE_numerals fun c hc' =>
    And.intro (hc c hc').1 (by have := (hc c hc').2; omega)
  obtain ⟨c, cs, rfl⟩ := List.exists_cons_of_ne_nil hne
  simp only [candidatesRow, hpieces, hfloat, bind, Except.bind, List.map_cons,
    candidates_bandwidth fun x hx => (hc x hx).2, Match.int, h1]
  simp [candidatesLineRow, pure, Except.pure]

/-- **A candidates line yields exactly its row.**  Whatever the last-known
timestamp, the loop body turns the line into one `LossBWE-Candidates` event
(so at every position of every log the line adds one row to `loss` and no row
elsewhere), and the log of that line alone parses to that row. -/
theorem classify_candidatesLine {T : List Char} {cs : List (List Char)} {sep : List Char}
    {nl : Bool} (hT : IsNumeral T) (hne : cs ≠ [])
    (hc : ∀ c ∈ cs, IsNumeral c ∧ 1000 * digitsValue c < 2 ^ 53)
    (hsep : ∀ x ∈ sep, x = ',' ∨ x = ' ') :
    (∀ last, classify last (candidatesLine T cs sep nl) =
      .ok (some (.lossCandidates (candidatesLineRow T cs)))) ∧
    parseLogFile [candidatesLine T cs sep nl] = .ok { loss := [candidatesLineRow T cs] } := by
  have hcs : ∀ c ∈ cs, IsNumeral c := fun c h => (hc c h).1
  obtain ⟨m, hm, h1, h2⟩ := @search_lossCandidates T cs sep nl hT hne hcs hsep
  have htr : trendlinePattern.search (candidatesLine T cs sep nl) = none :=
    search_candidatesLine_eq_none "[Trendline] Time: "
      (by simp only [trendlinePattern, List.append_assoc]; rfl) (by decide) (by decide) (by decide)
      hT hcs hsep
  have hrtt : rttBwePattern.search (candidatesLine T cs sep nl) = none :=
    search_candidatesLine_eq_none "[RttBWE-Update] Time: "
      (by simp only [rttBwePattern, List.append_assoc]; rfl) (by decide) (by decide) (by decide)
      hT hcs hsep
  have hloss : lossBwePattern.search (candidatesLine T cs sep nl) = none :=
    search_candidatesLine_eq_none "[LossBWE-Estimate] Time: "
      (by simp only [lossBwePattern, List.append_assoc]; rfl) (by decide) (by decide) (by decide)
      hT hcs hsep
  have hcl : ∀ last, classify last (candidatesLine T cs sep nl) =
      .ok (some (.lossCandidates (candidatesLineRow T cs))) := fun last => by
    simp only [classify, branches, List.findSome?_cons, searchBranch, htr, hrtt, hloss, hm,
      Option.map_none', Option.map_some', candidatesRow_eq h1 h2 hne hc hsep]
    rfl
  refine ⟨hcl, ?_⟩
  rw [parseLogFile_eq]
  simp only [lineEvents, hcl]
  rfl

theorem candidates_line_100_200_300 :
    parseLogFile [candidatesLine "1000".toList ["100".toList, "200".toList, "300".toList]
        ", ".toList true] =
      .ok { loss := [candidatesLineRow "1000".toList ["100".toList, "200".toList, "300".toList]] } ∧
    candidatesLineRow "1000".toList ["100".toList, "200".toList, "300".toList] =
      ⟨1000, -1, 300000, 3, some [.finite 100, .finite 200, .finite 300]⟩ :=
  ⟨(classify_candidatesLine (by decide) (by simp) (by decide) (by decide)).2, by decide⟩

end WebrtcAnalysis.Gcc
