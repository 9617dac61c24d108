/-
WebrtcAnalysis/Gcc/Parse.lean

`GccDecisionAnalyzer.parse_log_file`: one forward pass over the lines of the
log.  For each line the resolver first updates the last-known timestamp from
`Time: N ms` or `at N ms`; then the thirteen `if ..._match: ...; continue`
blocks are tried in the source's order and the first that fires appends one
row to its series.  The two legacy probe blocks also test the last-known
timestamp (`and last_timestamp`), and fall through when it is `None` or `0`.

A block is a function from the last-known timestamp and the line to `none`
(it does not fire) or the event it appends; `branches` lists them in the
source's order and `classify` takes the first that fires.  The bodies of the
`LossBWE-Candidates` and pushback blocks call `float` and `int` without a
guard, so an event is an `Except PyError`: an exception ends the whole parse.

A line is a list of characters, as the file iteration yields it; the ten
returned data frames are the ten lists of `GccData`.
-/
import WebrtcAnalysis.Gcc.Patterns
import WebrtcAnalysis.PyFloat

namespace WebrtcAnalysis.Gcc

open WebrtcAnalysis

/-! ### Rows -/

/-- A row of `trendline_data`. -/
structure TrendlineRow where
  timestamp : Nat
  modifiedTrend : PyFloat
  threshold : PyFloat
  state : String
  deriving DecidableEq, Repr

/-- A row of `rtt_data`. -/
structure RttRow where
  timestamp : Nat
  correctedRtt : Nat
  rttLimit : Nat
  aboveLimit : Bool
  deriving DecidableEq, Repr

/-- A row of `loss_data`: an estimate, or a candidate list marked by
`state = -1` (only candidate rows carry `candidates`). -/
structure LossRow where
  timestamp : Nat
  state : Int
  bandwidth : Int
  observations : Nat
  candidates : Option (List PyFloat)
  deriving DecidableEq, Repr

/-- The `source` column of `probe_data`. -/
inductive ProbeSource
  | result
  | success
  | resultOld
  | successOld
  deriving DecidableEq, Repr

/-- A row of `probe_data`. -/
structure ProbeRow where
  timestamp : Nat
  clusterId : Nat
  estimate : Nat
  source : ProbeSource
  deriving DecidableEq, Repr

/-- A row of `decision_data`. -/
structure DecisionRow where
  timestamp : Nat
  decisionReason : String
  deriving DecidableEq, Repr

/-- A row of `constraint_apply_data`. -/
structure ConstraintRow where
  timestamp : Nat
  original : Nat
  upperLimit : Nat
  afterUpper : Nat
  minConfig : Nat
  final : Nat
  delayLimit : Nat
  receiverLimit : Nat
  maxConfig : Nat
  deriving DecidableEq, Repr

/-- A row of `delay_limit_data` or `receiver_limit_data`. -/
structure LimitRow where
  timestamp : Nat
  oldLimit : Nat
  newLimit : Nat
  currentTarget : Nat
  deriving DecidableEq, Repr

/-- The fields the `config_limit` pattern captures; the loop never builds one. -/
structure ConfigLimitRow where
  minOld : Nat
  minNew : Nat
  maxOld : Nat
  maxNew : Nat
  currentTarget : Nat
  deriving DecidableEq, Repr

/-- A row of `pushback_data`. -/
structure PushbackRow where
  timestamp : Nat
  originalRate : Nat
  pushbackRate : Nat
  minBitrate : Nat
  reduction : Nat
  reductionRatio : PyFloat
  deriving DecidableEq, Repr

/-- The ten series `parse_log_file` returns. -/
structure GccData where
  trendline : List TrendlineRow := []
  rtt : List RttRow := []
  loss : List LossRow := []
  probe : List ProbeRow := []
  decision : List DecisionRow := []
  constraintApply : List ConstraintRow := []
  delayLimit : List LimitRow := []
  receiverLimit : List LimitRow := []
  configLimit : List ConfigLimitRow := []
  pushback : List PushbackRow := []
  deriving DecidableEq, Repr

/-! ### The bodies of the blocks -/

/-- The `Trendline` body: `'nan'` and text `float` refuses read as `0.0` for
the trend, refused text as `0.0` for the threshold. -/
def trendlineRow (m : Match) : TrendlineRow :=
  { timestamp := m.int 1
    modifiedTrend :=
      if m.chars 2 = "nan".toList then .finite 0 else (pyFloat (m.chars 2)).getD (.finite 0)
    threshold := (pyFloat (m.chars 3)).getD (.finite 0)
    state := m.str 4 }

/-- The `RttBWE-Update` body. -/
def rttRow (m : Match) : RttRow :=
  { timestamp := m.int 1, correctedRtt := m.int 3, rttLimit := m.int 4
    aboveLimit := m.chars 5 = "true".toList }

/-- The `LossBWE-Estimate` body. -/
def lossEstimateRow (m : Match) : LossRow :=
  { timestamp := m.int 1, state := m.int 2, bandwidth := m.int 3, observations := m.int 4
    candidates := none }

/-- One piece `x` of `split(',')` in the comprehension: `x.strip().rstrip(',')`,
kept when non-empty. -/
def candidatePiece (x : List Char) : Option (List Char) :=
  let y := rstripChar ',' (strip x)
  if y.isEmpty then none else some y

/-- The pieces of the candidate list the comprehension reads with `float`. -/
def candidatePieces (s : List Char) : List (List Char) :=
  (splitOn ',' s).filterMap candidatePiece

/-- The `LossBWE-Candidates` body: `float` on every piece, then
`int(max(candidates) * 1000)`, both unguarded. -/
def candidatesRow (m : Match) : Except PyError LossRow := do
  let candidates ← (candidatePieces (m.chars 2)).mapM pyFloatE
  let bandwidth ← match candidates with
    | [] => pure 0
    | c :: cs => ((pyMax c cs).mul (.finite 1000)).toInt
  pure { timestamp := m.int 1, state := -1, bandwidth, observations := candidates.length
         candidates := some candidates }

/-- The timestamped `ProbeBWE-Result` and `ProbeBWE-Success` bodies. -/
def probeRow (source : ProbeSource) (m : Match) : ProbeRow :=
  { timestamp := m.int 1, clusterId := m.int 2, estimate := m.int 3, source }

/-- The legacy probe bodies: the row takes the last-known timestamp. -/
def oldProbeRow (source : ProbeSource) (last : Nat) (m : Match) : ProbeRow :=
  { timestamp := last, clusterId := m.int 1, estimate := m.int 2, source }

/-- The `GCC-DECISION-SNAPSHOT` body. -/
def decisionRow (m : Match) : DecisionRow :=
  { timestamp := m.int 1, decisionReason := m.str 9 }

/-- The `BWE-ConstraintApply` body. -/
def constraintRow (m : Match) : ConstraintRow :=
  { timestamp := m.int 1, original := m.int 2, upperLimit := m.int 3, afterUpper := m.int 4
    minConfig := m.int 5, final := m.int 6, delayLimit := m.int 7, receiverLimit := m.int 8
    maxConfig := m.int 9 }

/-- The `BWE-DelayLimit` and `BWE-ReceiverLimit` bodies. -/
def limitRow (m : Match) : LimitRow :=
  { timestamp := m.int 1, oldLimit := m.int 2, newLimit := m.int 3, currentTarget := m.int 4 }

/-- The pushback body: `float` on the ratio, unguarded. -/
def pushbackRow (m : Match) : Except PyError PushbackRow := do
  let reductionRatio ← pyFloatE (m.chars 6)
  pure { timestamp := m.int 1, originalRate := m.int 2, pushbackRate := m.int 3
         minBitrate := m.int 4, reduction := m.int 5, reductionRatio }

theorem candidatesRow_fields {m : Match} {r : LossRow} (h : candidatesRow m = .ok r) :
    r.timestamp = m.int 1 ∧ r.state = -1 := by
  simp only [candidatesRow, bind, Except.bind, pure, Except.pure] at h
  split at h
  · cases h
  · split at h
    · cases h; exact ⟨rfl, rfl⟩
    · split at h
      · cases h
      · cases h; exact ⟨rfl, rfl⟩

theorem pushbackRow_timestamp {m : Match} {r : PushbackRow} (h : pushbackRow m = .ok r) :
    r.timestamp = m.int 1 := by
  simp only [pushbackRow, bind, Except.bind] at h
  split at h
  · cases h
  · cases h; rfl

/-! ### Events and blocks -/

/-- The row one block appends, tagged with the block. -/
inductive Event
  | trendline (r : TrendlineRow)
  | rtt (r : RttRow)
  | lossEstimate (r : LossRow)
  | lossCandidates (r : LossRow)
  | probe (r : ProbeRow)
  | decision (r : DecisionRow)
  | constraintApply (r : ConstraintRow)
  | delayLimit (r : LimitRow)
  | receiverLimit (r : LimitRow)
  | pushback (r : PushbackRow)
  deriving DecidableEq, Repr

/-- A block that fires when its pattern is found in the line. -/
def searchBranch (p : Regex) (body : Match → Except PyError Event) :
    Option Nat → List Char → Option (Except PyError Event) :=
  fun _ line => (p.search line).map body

/-- A legacy probe block: `if ..._match and last_timestamp:`. -/
def guardedBranch (p : Regex) (body : Nat → Match → Event) :
    Option Nat → List Char → Option (Except PyError Event) :=
  fun last line =>
    match p.search line with
    | some m => if truthy last then some (.ok (body (last.getD 0) m)) else none
    | none => none

/-- The blocks of the loop, in the source's order. -/
def branches : List (Option Nat → List Char → Option (Except PyError Event)) :=
  [searchBranch trendlinePattern fun m => .ok (.trendline (trendlineRow m)),
   searchBranch rttBwePattern fun m => .ok (.rtt (rttRow m)),
   searchBranch lossBwePattern fun m => .ok (.lossEstimate (lossEstimateRow m)),
   searchBranch lossCandidatesPattern fun m => .lossCandidates <$> candidatesRow m,
   searchBranch probeResultPattern fun m => .ok (.probe (probeRow .result m)),
   searchBranch probeSuccessPattern fun m => .ok (.probe (probeRow .success m)),
   guardedBranch probeResultOldPattern fun t m => .probe (oldProbeRow .resultOld t m),
   guardedBranch probeSuccessOldPattern fun t m => .probe (oldProbeRow .successOld t m),
   searchBranch decisionPattern fun m => .ok (.decision (decisionRow m)),
   searchBranch constraintApplyPattern fun m => .ok (.constraintApply (constraintRow m)),
   searchBranch delayLimitPattern fun m => .ok (.delayLimit (limitRow m)),
   searchBranch receiverLimitPattern fun m => .ok (.receiverLimit (limitRow m)),
   searchBranch pushbackPattern fun m => .pushback <$> pushbackRow m]

/-- The loop body after the resolver: the event of the first block that
fires, if any. -/
def classify (last : Option Nat) (line : List Char) : Except PyError (Option Event) :=
  match branches.findSome? fun b => b last line with
  | some r => some <$> r
  | none => .ok none

/-! ### The pass -/

/-- The resolver: `int(group(1) or group(2))` of the first `Time: N ms` or
`at N ms` in the line, or the previous value when there is none. -/
def resolveTimestamp (line : List Char) (last : Option Nat) : Option Nat :=
  match timestampPattern.search line with
  | some m => some (digitsValue ((m.group 1 <|> m.group 2).getD []))
  | none => last

/-- Append the row of an event to its series. -/
def GccData.push (d : GccData) : Event → GccData
  | .trendline r => { d with trendline := d.trendline ++ [r] }
  | .rtt r => { d with rtt := d.rtt ++ [r] }
  | .lossEstimate r | .lossCandidates r => { d with loss := d.loss ++ [r] }
  | .probe r => { d with probe := d.probe ++ [r] }
  | .decision r => { d with decision := d.decision ++ [r] }
  | .constraintApply r => { d with constraintApply := d.constraintApply ++ [r] }
  | .delayLimit r => { d with delayLimit := d.delayLimit ++ [r] }
  | .receiverLimit r => { d with receiverLimit := d.receiverLimit ++ [r] }
  | .pushback r => { d with pushback := d.pushback ++ [r] }

/-- The loop's state: `last_timestamp` and the ten lists. -/
structure ParseState where
  lastTimestamp : Option Nat
  data : GccData
  deriving DecidableEq, Repr

/-- One iteration of `for line in f`. -/
def parseLine (st : ParseState) (line : List Char) : Except PyError ParseState := do
  let last := resolveTimestamp line st.lastTimestamp
  let e? ← classify last line
  pure ⟨last, e?.elim st.data st.data.push⟩

/-- The loop over the remaining lines. -/
def parseLines : ParseState → List (List Char) → Except PyError ParseState
  | st, [] => .ok st
  | st, l :: ls => parseLine st l >>= fun st' => parseLines st' ls

/-- `parse_log_file` on the lines of a log. -/
def parseLogFile (log : List (List Char)) : Except PyError GccData :=
  (parseLines ⟨none, {}⟩ log).map ParseState.data

end WebrtcAnalysis.Gcc
