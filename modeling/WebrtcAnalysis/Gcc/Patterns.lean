/-
WebrtcAnalysis/Gcc/Patterns.lean

The pattern registry of `GccDecisionAnalyzer.__init__` and the timestamp
resolver of `parse_log_file`, written as `Regex` values node by node from the
source's regular expressions.  `Trendline` and the `.+`, `[^,]+`, `[^%]+`
captures are the permissive ones; every other capture is `\d+` or `\w+`.

The registry's `delay_bwe` pattern is read by no method of the analyzer and is
left out.  `config_limit` is kept: `parse_log_file` never tries it, and that is
a fact about the loop proved in `WebrtcAnalysis.Gcc.Dispatch`.
-/
import WebrtcAnalysis.Regex

namespace WebrtcAnalysis.Gcc

open WebrtcAnalysis

/-- `\d+` -/
def digits : Node := .rep .digit 1 false
/-- `\w+` -/
def word : Node := .rep .word 1 false
/-- `.*?` -/
def lazyAny : Node := .rep .notNewline 0 true
/-- `.+` -/
def anyPlus : Node := .rep .notNewline 1 false
/-- `[^c]+` -/
def noneOf (c : Char) : Node := .rep (.noneOf [c]) 1 false

/-- `Time: (\d+) ms|at (\d+) ms`, the resolver's pattern. -/
def timestampPattern : Regex :=
  ⟨[lit "Time: " ++ grp 1 digits ++ lit " ms", lit "at " ++ grp 2 digits ++ lit " ms"]⟩

/-- `'decision'` -/
def decisionPattern : Regex :=
  ⟨[lit "[GCC-DECISION-SNAPSHOT] at " ++ grp 1 digits ++ lit "ms | DelayState: " ++ grp 2 word ++
    lit ", DelayTargetBps: " ++ grp 3 digits ++ lit " | RttBackoff: " ++ grp 4 word ++
    lit " | ProbeResultBps: " ++ grp 5 digits ++ lit " | BweTargetBps: " ++ grp 6 digits ++
    lit " | AckedBitrateBps: " ++ grp 7 digits ++ lit " | FinalTargetBps: " ++ grp 8 digits ++
    lit " | DecisionReason: " ++ grp 9 word ++ lit " | Updated: " ++ grp 10 word]⟩

/-- `'trendline'` -/
def trendlinePattern : Regex :=
  ⟨[lit "[Trendline] Time: " ++ grp 1 digits ++ lit " ms" ++ [lazyAny] ++
    lit "Modified trend: " ++ grp 2 (noneOf ',') ++ lit ", Threshold: " ++ grp 3 (noneOf ',') ++
    lit ", State: " ++ grp 4 word]⟩

/-- `'rtt_bwe'` -/
def rttBwePattern : Regex :=
  ⟨[lit "[RttBWE-Update] Time: " ++ grp 1 digits ++ lit " ms, PropagationRtt: " ++ grp 2 digits ++
    lit " ms, CorrectedRtt: " ++ grp 3 digits ++ lit " ms, RttLimit: " ++ grp 4 digits ++
    lit " ms, AboveLimit: " ++ grp 5 word]⟩

/-- `'loss_bwe'` -/
def lossBwePattern : Regex :=
  ⟨[lit "[LossBWE-Estimate] Time: " ++ grp 1 digits ++ lit " ms, State: " ++ grp 2 digits ++
    lit ", Bandwidth: " ++ grp 3 digits ++ lit " bps, Observations: " ++ grp 4 digits]⟩

/-- `'loss_candidates'` -/
def lossCandidatesPattern : Regex :=
  ⟨[lit "[LossBWE-Candidates] Time: " ++ grp 1 digits ++
    lit " ms, Candidate Bandwidths (kbps): " ++ grp 2 anyPlus]⟩

/-- `'probe_result'` -/
def probeResultPattern : Regex :=
  ⟨[lit "[ProbeBWE-Result] Time: " ++ grp 1 digits ++ lit " ms, Cluster ID: " ++ grp 2 digits ++
    lit ", Final estimate: " ++ grp 3 digits ++ lit " bps"]⟩

/-- `'probe_success'` -/
def probeSuccessPattern : Regex :=
  ⟨[lit "[ProbeBWE-Success] Time: " ++ grp 1 digits ++ lit " ms, Cluster ID: " ++ grp 2 digits ++
    lit ", Send rate: " ++ grp 3 digits ++ lit " bps"]⟩

/-- `'probe_result_old'` -/
def probeResultOldPattern : Regex :=
  ⟨[lit "[ProbeBWE-Result] Cluster ID: " ++ grp 1 digits ++ lit ", Final estimate: " ++
    grp 2 digits ++ lit " bps"]⟩

/-- `'probe_success_old'` -/
def probeSuccessOldPattern : Regex :=
  ⟨[lit "[ProbeBWE-Success] Cluster ID: " ++ grp 1 digits ++ lit ", Send rate: " ++
    grp 2 digits ++ lit " bps"]⟩

/-- `'constraint_apply'` -/
def constraintApplyPattern : Regex :=
  ⟨[lit "[BWE-ConstraintApply] Time: " ++ grp 1 digits ++ lit " ms, Original: " ++ grp 2 digits ++
    lit " bps, UpperLimit: " ++ grp 3 digits ++ lit " bps, AfterUpper: " ++ grp 4 digits ++
    lit " bps, MinConfig: " ++ grp 5 digits ++ lit " bps, Final: " ++ grp 6 digits ++
    lit " bps, DelayLimit: " ++ grp 7 digits ++ lit " bps, ReceiverLimit: " ++ grp 8 digits ++
    lit " bps, MaxConfig: " ++ grp 9 digits ++ lit " bps"]⟩

/-- `'delay_limit'` and `'receiver_limit'`: one shape under two tags. -/
def limitPattern (tag : String) : Regex :=
  ⟨[lit tag ++ lit " Time: " ++ grp 1 digits ++ lit " ms, OldLimit: " ++ grp 2 digits ++
    lit " bps, NewLimit: " ++ grp 3 digits ++ lit " bps, CurrentTarget: " ++ grp 4 digits ++
    lit " bps"]⟩

/-- `'delay_limit'` -/
def delayLimitPattern : Regex := limitPattern "[BWE-DelayLimit]"

/-- `'receiver_limit'` -/
def receiverLimitPattern : Regex := limitPattern "[BWE-ReceiverLimit]"

/-- `'config_limit'` -/
def configLimitPattern : Regex :=
  ⟨[lit "[BWE-ConfigLimit] MinBitrate: " ++ grp 1 digits ++ lit " -> " ++ grp 2 digits ++
    lit " bps, MaxBitrate: " ++ grp 3 digits ++ lit " -> " ++ grp 4 digits ++
    lit " bps, CurrentTarget: " ++ grp 5 digits ++ lit " bps"]⟩

/-- `'pushback'` -/
def pushbackPattern : Regex :=
  ⟨[lit "[BWE-CongestionWindowPushback] Time: " ++ grp 1 digits ++ lit " ms, OriginalRate: " ++
    grp 2 digits ++ lit " bps, PushbackRate: " ++ grp 3 digits ++ lit " bps, MinBitrate: " ++
    grp 4 digits ++ lit " bps, Reduction: " ++ grp 5 digits ++ lit " bps, ReductionRatio: " ++
    grp 6 (noneOf '%') ++ lit "%"]⟩

end WebrtcAnalysis.Gcc
