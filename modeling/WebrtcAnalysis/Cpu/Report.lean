/-
WebrtcAnalysis/Cpu/Report.lean

`WebRTCCPUAnalyzer` of `analyze_cpu_usage.py`: the perf report parser and the
two consumers of its hotspot list.

`parse_cpu_analysis_report` splits the report at `'\n'`.  A line that
contains the `Children      Self  Command` header opens the hotspot section.
Inside it, lines starting with `#` after `strip()` and blank lines are
skipped, and every other line is matched with `re.match` against

    \s*(\d+\.\d+)%\s+(\d+\.\d+)%\s+(\w+)\s+([^\s]+)\s+(.+)

A matching line gives one hotspot.  Its two percentages are read with
`float`, and its symbol is `symbol.split()[0]`, unguarded.  The first twenty
hotspots are returned.  The `info` fields the function also returns are read
by neither consumer and are left out.

The flag `in_hotspot_section` is never cleared.  Before the first header line
the loop reads nothing (`hotspotLines_before_header`), and after it each line
is read alone (`hotspotLines_section`), so the parse is the hotspots of the
lines after the first header, line by line, cut to twenty
(`parse_cpu_report_section`).

`generate_summary_report` names the first hotspot as the top consumer.
`create_cpu_usage_charts` ranks the hotspots with
`sorted(..., key=children_percent, reverse=True)[:15]`.

The final `\s+(.+)` can match trailing whitespace only.  `\s+` gives back one
character to `(.+)`, the captured symbol is blank, `split()` returns `[]`,
and the parse raises `IndexError` (`blank_symbol_raises`).
-/
import WebrtcAnalysis.Regex
import WebrtcAnalysis.PyFloat
import Mathlib.Data.List.Sort

namespace WebrtcAnalysis.Cpu

open WebrtcAnalysis

/-! ### The hotspot pattern -/

/-- `(\d+\.\d+)` as group `i`. -/
def decimalGroup (i : Nat) : List Node :=
  [.groupOpen i, .rep .digit 1 false, .char '.', .rep .digit 1 false, .groupClose i]

/-- `%\s+(\d+\.\d+)%\s+(\w+)\s+([^\s]+)\s+(.+)`: the pattern after its first
group. -/
def hotspotTail : List Node :=
  lit "%" ++ [.rep .space 1 false] ++ decimalGroup 2 ++ lit "%" ++ [.rep .space 1 false] ++
    grp 3 (.rep .word 1 false) ++ [.rep .space 1 false] ++ grp 4 (.rep .notSpace 1 false) ++
    [.rep .space 1 false] ++ grp 5 (.rep .notNewline 1 false)

/-- `\s*(\d+\.\d+)%\s+(\d+\.\d+)%\s+(\w+)\s+([^\s]+)\s+(.+)` -/
def hotspotPattern : Regex :=
  ⟨[[.rep .space 0 false] ++ decimalGroup 1 ++ hotspotTail]⟩

/-- The header that opens the hotspot section. -/
def headerText : List Char := "Children      Self  Command".toList

/-! ### Parsing the report -/

/-- One entry of `cpu_hotspots`. -/
structure Hotspot where
  childrenPercent : PyFloat
  selfPercent : PyFloat
  command : List Char
  sharedObject : List Char
  symbol : List Char
  deriving DecidableEq, Repr

/-- `s.split()[0]`: `IndexError` when `s` is blank. -/
def firstWord (s : List Char) : Except PyError (List Char) :=
  match splitWhitespace s with
  | w :: _ => .ok w
  | [] => .error .indexError

/-- The hotspot of a matching line: `float` on the two percentages, then
`symbol.split()[0]`. -/
def hotspotOfMatch (m : Match) : Except PyError Hotspot := do
  let childrenPercent ← pyFloatE (m.chars 1)
  let selfPercent ← pyFloatE (m.chars 2)
  let symbol ← firstWord (m.chars 5)
  pure { childrenPercent, selfPercent, command := m.chars 3, sharedObject := m.chars 4, symbol }

/-- The loop over `content.split('\n')`; `inSection` is `in_hotspot_section`. -/
def hotspotLines : Bool → List (List Char) → Except PyError (List Hotspot)
  | _, [] => .ok []
  | inSection, line :: rest =>
    if isInfix headerText line then hotspotLines true rest
    else if inSection && (strip line).head? = some '#' then hotspotLines inSection rest
    else if inSection && !(strip line).isEmpty then
      match hotspotPattern.matchStart line with
      | some m => do
        let h ← hotspotOfMatch m
        let hs ← hotspotLines inSection rest
        pure (h :: hs)
      | none => hotspotLines inSection rest
    else hotspotLines inSection rest

/-- `parse_cpu_analysis_report(...)['hotspots']`: the first twenty hotspots. -/
def parseCpuAnalysisReport (content : List Char) : Except PyError (List Hotspot) :=
  (hotspotLines false (splitOn '\n' content)).map (·.take 20)

/-- A hotspot line whose last field is only whitespace ends the parse with
`IndexError`. -/
theorem blank_symbol_raises :
    parseCpuAnalysisReport "Children      Self  Command\n  1.00%  2.00%  cmd  obj  ".toList =
      .error .indexError := by
  rfl

/-! ### The section, line by line -/

/-- What the loop body appends on one line of the hotspot section: nothing
for a header, comment or blank line, the line's hotspot when it matches. -/
def sectionHotspots (line : List Char) : Except PyError (List Hotspot) :=
  if isInfix headerText line then .ok []
  else if (strip line).head? = some '#' then .ok []
  else if !(strip line).isEmpty then
    match hotspotPattern.matchStart line with
    | some m => (hotspotOfMatch m).map ([·])
    | none => .ok []
  else .ok []

/-- Inside the section the loop keeps no state: each line is read alone. -/
theorem hotspotLines_section (ls : List (List Char)) :
    hotspotLines true ls = (ls.mapM sectionHotspots).map List.flatten := by
  induction ls with
  | nil => rfl
  | cons l rest ih =>
    -- a line that appends nothing leaves the rest of the loop as it is
    have hnil : hotspotLines true rest = ((.ok [] : Except PyError (List Hotspot)) >>= fun x =>
        rest.mapM sectionHotspots >>= fun xs => pure (x :: xs)).map List.flatten := by
      rw [ih]; cases rest.mapM sectionHotspots <;> rfl
    rw [hotspotLines, List.mapM_cons, sectionHotspots]
    simp only [Bool.true_and, decide_eq_true_eq]
    split_ifs
    · exact hnil
    · exact hnil
    · split
      · rename_i m _
        cases hotspotOfMatch m with
        | error e => rfl
        | ok h => rw [ih]; cases rest.mapM sectionHotspots <;> rfl
      · exact hnil
    · exact hnil

/-- Before the first header line the loop reads nothing. -/
theorem hotspotLines_before_header (ls : List (List Char)) :
    hotspotLines false ls =
      match ls.dropWhile fun l => !isInfix headerText l with
      | [] => .ok []
      | _ :: post => hotspotLines true post := by
  induction ls with
  | nil => rfl
  | cons l rest ih =>
    by_cases h : isInfix headerText l
    · simp only [hotspotLines, h, List.dropWhile_cons, Bool.not_true, Bool.false_eq_true,
        ↓reduceIte]
    · simp only [hotspotLines, h, List.dropWhile_cons, Bool.not_false, Bool.false_and,
        Bool.false_eq_true, ↓reduceIte, ih]

/-- **The report, line by line.**  `parse_cpu_analysis_report` reads nothing
up to and including the first line that contains the header.  After it each
line is read alone, and the first twenty hotspots are kept.  A report without
a header has no hotspot. -/
theorem parse_cpu_report_section (content : List Char) :
    parseCpuAnalysisReport content =
      match (splitOn '\n' content).dropWhile fun l => !isInfix headerText l with
      | [] => .ok []
      | _ :: post => (post.mapM sectionHotspots).map fun hss => hss.flatten.take 20 := by
  rw [parseCpuAnalysisReport, hotspotLines_before_header]
  cases (splitOn '\n' content).dropWhile fun l => !isInfix headerText l with
  | nil => rfl
  | cons _ post => dsimp only; rw [hotspotLines_section]; cases post.mapM sectionHotspots <;> rfl

/-! ### The two consumers -/

/-- `top_cpu_consumer` and `top_cpu_percent` of `generate_summary_report`: the
first hotspot's symbol and share, or `'N/A'` and `0`. -/
def topCpuConsumer : List Hotspot → List Char × PyFloat
  | h :: _ => (h.symbol, h.childrenPercent)
  | [] => ("N/A".toList, .finite 0)

/-- `a` stays ahead of `b` in `sorted(..., key=children_percent, reverse=True)`
unless `b`'s share is larger. -/
def RanksBefore (a b : Hotspot) : Prop := a.childrenPercent.lt b.childrenPercent = false

instance : DecidableRel RanksBefore := fun a b =>
  inferInstanceAs (Decidable (a.childrenPercent.lt b.childrenPercent = false))

/-- `sorted(hotspots, key=lambda x: x['children_percent'], reverse=True)[:15]`
of `create_cpu_usage_charts`.  The sort is stable, and so is insertion sort:
on keys without NaN both return the one stable arrangement. -/
def topFunctions (hs : List Hotspot) : List Hotspot := (hs.insertionSort RanksBefore).take 15

end WebrtcAnalysis.Cpu
