/-
WebrtcAnalysis/Gcc/Split.lean

A log cut into two files.  The loop of `parse_log_file` carries one value
from line to line, the resolver's last-known timestamp, so the parse of a
log is, in Kleisli form, the parse of its first part followed by the parse of
the rest with the resolver started where the first part left it:

    lineEvents last (a ++ b)  =  lineEvents last a >>= (· ++ ·) <$> lineEvents (lastAfter last a) b

(`lineEvents_append`).  Only the two legacy probe blocks read that value, and
a line with an occurrence of the resolver's pattern overwrites it.  So a file
whose lines before its first occurrence match neither legacy grammar parses
the same from any resolver value (`lineEvents_of_legacyFreeHead`), and parsing
the two files apart and appending their series, series by series, gives the
parse of the whole log (`parse_log_file_split`).  When the second file starts
with a legacy line instead, that line has lost the timestamp of the first
file's last timestamped line (`lastAfter_eq_findSome`).
-/
import WebrtcAnalysis.Gcc.Resolver

namespace WebrtcAnalysis.Gcc

open WebrtcAnalysis

theorem GccData.ofEvents_append (es es' : List Event) :
    ofEvents (es ++ es') = (ofEvents es).append (ofEvents es') := by
  simp [ofEvents, append]

/-- **The loop over a concatenation** runs the second part from the
resolver's value after the first. -/
theorem lineEvents_append (last : Option Nat) (a b : List (List Char)) :
    lineEvents last (a ++ b) = (do
      let es ← lineEvents last a
      let es' ← lineEvents (lastAfter last a) b
      pure (es ++ es')) := by
  induction a generalizing last with
  | nil => exact (bind_pure (lineEvents last b)).symm
  | cons l a ih => simp [lineEvents, ih, lastAfter_cons]

/-- A line that matches neither legacy grammar is classified the same way
whatever the resolver's value. -/
theorem classify_of_no_legacy {line : List Char} (hr : probeResultOldPattern.search line = none)
    (hs : probeSuccessOldPattern.search line = none) (last last' : Option Nat) :
    classify last line = classify last' line := by
  simp only [classify, branches, List.findSome?_cons, List.findSome?_nil, searchBranch,
    guardedBranch, hr, hs]

/-- The lines of a log before its first occurrence of the resolver's pattern
match neither legacy grammar. -/
def LegacyFreeHead (log : List (List Char)) : Prop :=
  ∀ l ∈ log.takeWhile fun l => (timestampPattern.search l).isNone,
    probeResultOldPattern.search l = none ∧ probeSuccessOldPattern.search l = none

instance : DecidablePred LegacyFreeHead := fun log =>
  inferInstanceAs (Decidable (∀ l ∈ log.takeWhile _, _))

/-- A log with a legacy-free head parses the same from any resolver value. -/
theorem lineEvents_of_legacyFreeHead {log : List (List Char)} (h : LegacyFreeHead log)
    (last last' : Option Nat) : lineEvents last log = lineEvents last' log := by
  induction log generalizing last last' with
  | nil => rfl
  | cons l ls ih =>
    simp only [lineEvents]
    cases ht : timestampPattern.search l with
    | some m =>
      -- the line's own occurrence overwrites the resolver
      have hres : ∀ t, resolveTimestamp l t = occurrence l := fun t => by
        rw [resolveTimestamp_eq, occurrence, ht]; rfl
      rw [hres, hres]
    | none =>
      obtain ⟨hr, hs⟩ := h l (by simp [List.takeWhile_cons, ht])
      have hrest : LegacyFreeHead ls := fun l' hl' => h l' (by simp [List.takeWhile_cons, ht, hl'])
      have hres : ∀ t, resolveTimestamp l t = t := fun t => by
        rw [resolveTimestamp_eq, occurrence, ht]; rfl
      rw [hres, hres, classify_of_no_legacy hr hs last last', ih hrest last last']

/-- **A log split in two files.**  When the second file has no legacy probe
line before its first timestamped line, parsing the two files apart and
appending their series gives the parse of the whole log, errors included. -/
theorem parse_log_file_split (a b : List (List Char)) (hb : LegacyFreeHead b) :
    parseLogFile (a ++ b) = (do
      let d ← parseLogFile a
      let d' ← parseLogFile b
      pure (d.append d')) := by
  rw [parseLogFile_eq, parseLogFile_eq, parseLogFile_eq, lineEvents_append,
    lineEvents_of_legacyFreeHead hb _ none]
  cases lineEvents none a with
  | error e => rfl
  | ok es =>
    cases lineEvents none b with
    | error e => rfl
    | ok es' => exact congrArg Except.ok (by simp only [List.filterMap_append, GccData.ofEvents_append])

/-- The second file opens with its own timestamp, so its legacy line takes
that one, parsed apart or not. -/
theorem parse_log_file_split_rotated :
    LegacyFreeHead ["Time: 7 ms".toList,
      "[ProbeBWE-Result] Cluster ID: 3, Final estimate: 5000 bps".toList] ∧
    parseLogFile (["Time: 5 ms".toList] ++ ["Time: 7 ms".toList,
      "[ProbeBWE-Result] Cluster ID: 3, Final estimate: 5000 bps".toList]) = (do
        let d ← parseLogFile ["Time: 5 ms".toList]
        let d' ← parseLogFile ["Time: 7 ms".toList,
          "[ProbeBWE-Result] Cluster ID: 3, Final estimate: 5000 bps".toList]
        pure (d.append d')) :=
  have hb : LegacyFreeHead ["Time: 7 ms".toList,
      "[ProbeBWE-Result] Cluster ID: 3, Final estimate: 5000 bps".toList] := by decide
  ⟨hb, parse_log_file_split _ _ hb⟩

end WebrtcAnalysis.Gcc
