/-
WebrtcAnalysis/Gcc/Run.lean

The pass line by line.  `lineEvents` lists, for each line of the log, the event
the loop body yields on it (or `none`), each computed from the line and the
resolver's value after it; `parseLines_eq` shows that the loop over the ten
accumulators is that list sorted into series:

    parseLogFile log = (lineEvents none log).map fun es => GccData.ofEvents (es.filterMap id)

so every series keeps the order of the lines, and a line adds at most one row
to at most one series.  `Yields last line e` says once what a firing block can
append (`classify_yields`); the later modules never unfold `classify` again.
-/
import WebrtcAnalysis.Gcc.Parse

namespace WebrtcAnalysis.Gcc

open WebrtcAnalysis

/-! ### Series of events -/

/-- The ten series. -/
inductive Series
  | trendline
  | rtt
  | loss
  | probe
  | decision
  | constraintApply
  | delayLimit
  | receiverLimit
  | configLimit
  | pushback
  deriving DecidableEq, Repr

/-- The series an event's row goes to. -/
def Event.series : Event → Series
  | .trendline _ => .trendline
  | .rtt _ => .rtt
  | .lossEstimate _ | .lossCandidates _ => .loss
  | .probe _ => .probe
  | .decision _ => .decision
  | .constraintApply _ => .constraintApply
  | .delayLimit _ => .delayLimit
  | .receiverLimit _ => .receiverLimit
  | .pushback _ => .pushback

/-- The `timestamp` of an event's row. -/
def Event.timestamp : Event → Nat
  | .trendline r => r.timestamp
  | .rtt r => r.timestamp
  | .lossEstimate r | .lossCandidates r => r.timestamp
  | .probe r => r.timestamp
  | .decision r => r.timestamp
  | .constraintApply r => r.timestamp
  | .delayLimit r | .receiverLimit r => r.timestamp
  | .pushback r => r.timestamp

/-- The row of a `trendline` event. -/
def Event.trendline? : Event → Option TrendlineRow
  | .trendline r => some r
  | _ => none

/-- The row of an `rtt` event. -/
def Event.rtt? : Event → Option RttRow
  | .rtt r => some r
  | _ => none

/-- The row of a loss event, estimate or candidates. -/
def Event.loss? : Event → Option LossRow
  | .lossEstimate r | .lossCandidates r => some r
  | _ => none

/-- The row of a probe event. -/
def Event.probe? : Event → Option ProbeRow
  | .probe r => some r
  | _ => none

/-- The row of a decision event. -/
def Event.decision? : Event → Option DecisionRow
  | .decision r => some r
  | _ => none

/-- The row of a constraint event. -/
def Event.constraintApply? : Event → Option ConstraintRow
  | .constraintApply r => some r
  | _ => none

/-- The row of a delay-limit event. -/
def Event.delayLimit? : Event → Option LimitRow
  | .delayLimit r => some r
  | _ => none

/-- The row of a receiver-limit event. -/
def Event.receiverLimit? : Event → Option LimitRow
  | .receiverLimit r => some r
  | _ => none

/-- The row of a pushback event. -/
def Event.pushback? : Event → Option PushbackRow
  | .pushback r => some r
  | _ => none

/-- Events sorted into the ten series, each in the events' order. -/
def GccData.ofEvents (es : List Event) : GccData :=
  { trendline := es.filterMap Event.trendline?, rtt := es.filterMap Event.rtt?
    loss := es.filterMap Event.loss?, probe := es.filterMap Event.probe?
    decision := es.filterMap Event.decision?
    constraintApply := es.filterMap Event.constraintApply?
    delayLimit := es.filterMap Event.delayLimit?
    receiverLimit := es.filterMap Event.receiverLimit?
    configLimit := [], pushback := es.filterMap Event.pushback? }

/-- Series by series concatenation. -/
def GccData.append (d d' : GccData) : GccData :=
  { trendline := d.trendline ++ d'.trendline, rtt := d.rtt ++ d'.rtt, loss := d.loss ++ d'.loss
    probe := d.probe ++ d'.probe, decision := d.decision ++ d'.decision
    constraintApply := d.constraintApply ++ d'.constraintApply
    delayLimit := d.delayLimit ++ d'.delayLimit
    receiverLimit := d.receiverLimit ++ d'.receiverLimit
    configLimit := d.configLimit ++ d'.configLimit, pushback := d.pushback ++ d'.pushback }

theorem GccData.push_eq_append (d : GccData) (e : Event) :
    d.push e = d.append (ofEvents [e]) := by
  cases e <;>
    simp [push, append, ofEvents, Event.trendline?, Event.rtt?, Event.loss?, Event.probe?,
      Event.decision?, Event.constraintApply?, Event.delayLimit?, Event.receiverLimit?,
      Event.pushback?]

theorem GccData.append_assoc (d d' d'' : GccData) :
    (d.append d').append d'' = d.append (d'.append d'') := by
  simp [append]

@[simp] theorem GccData.append_ofEvents_nil (d : GccData) : d.append (ofEvents []) = d := by
  simp [append, ofEvents]

@[simp] theorem GccData.empty_append (d : GccData) : ({} : GccData).append d = d := by
  simp [append]

theorem GccData.ofEvents_cons (e : Event) (es : List Event) :
    ofEvents (e :: es) = (ofEvents [e]).append (ofEvents es) := by
  simp only [ofEvents, append, List.filterMap_cons, List.filterMap_nil]
  cases e <;> rfl

/-! ### The pass as a list of per-line events -/

/-- The resolver's value after the lines `ls`, starting from `last`. -/
def lastAfter (last : Option Nat) (ls : List (List Char)) : Option Nat :=
  ls.foldl (fun t l => resolveTimestamp l t) last

/-- The event the loop body yields on each line, in order. -/
def lineEvents : Option Nat → List (List Char) → Except PyError (List (Option Event))
  | _, [] => .ok []
  | last, l :: ls => do
    let e ← classify (resolveTimestamp l last) l
    let es ← lineEvents (resolveTimestamp l last) ls
    pure (e :: es)

/-- **The loop is the per-line events sorted into series.** -/
theorem parseLines_eq (last : Option Nat) (d : GccData) (ls : List (List Char)) :
    parseLines ⟨last, d⟩ ls = (lineEvents last ls).map fun es =>
      ⟨lastAfter last ls, d.append (GccData.ofEvents (es.filterMap id))⟩ := by
  induction ls generalizing last d with
  | nil => simp [parseLines, lineEvents, lastAfter, Except.map]
  | cons l ls ih =>
    simp only [parseLines, parseLine, lineEvents]
    cases hc : classify (resolveTimestamp l last) l with
    | error err => rfl
    | ok e? =>
      simp only [bind, Except.bind, pure, Except.pure, ih]
      cases hl : lineEvents (resolveTimestamp l last) ls with
      | error err => rfl
      | ok es =>
        cases e? with
        | none => rfl
        | some e =>
          simp only [Except.map, Option.elim, List.filterMap_cons_some, id,
            GccData.push_eq_append, GccData.append_assoc, ← GccData.ofEvents_cons]
          rfl

theorem parseLogFile_eq (log : List (List Char)) :
    parseLogFile log = (lineEvents none log).map fun es => GccData.ofEvents (es.filterMap id) := by
  simp only [parseLogFile, parseLines_eq, GccData.empty_append]
  cases lineEvents none log <;> rfl

theorem lineEvents_length {last : Option Nat} {ls : List (List Char)}
    {es : List (Option Event)} (h : lineEvents last ls = .ok es) : es.length = ls.length := by
  induction ls generalizing last es with
  | nil => cases h; rfl
  | cons l ls ih =>
    simp only [lineEvents, bind, Except.bind] at h
    split at h
    · cases h
    · split at h
      · cases h
      · cases h; simp [ih ‹_›]

/-! ### What a firing block appends -/

/-- `Yields last line e`: a block of the loop fires on `line`, with last-known
timestamp `last`, and appends the row of `e`. -/
inductive Yields (last : Option Nat) (line : List Char) : Event → Prop
  | trendline {m} : trendlinePattern.search line = some m →
      Yields last line (.trendline (trendlineRow m))
  | rtt {m} : rttBwePattern.search line = some m → Yields last line (.rtt (rttRow m))
  | lossEstimate {m} : lossBwePattern.search line = some m →
      Yields last line (.lossEstimate (lossEstimateRow m))
  | lossCandidates {m r} : lossCandidatesPattern.search line = some m → candidatesRow m = .ok r →
      Yields last line (.lossCandidates r)
  | probeResult {m} : probeResultPattern.search line = some m →
      Yields last line (.probe (probeRow .result m))
  | probeSuccess {m} : probeSuccessPattern.search line = some m →
      Yields last line (.probe (probeRow .success m))
  | probeResultOld {m t} : probeResultOldPattern.search line = some m → last = some t → t ≠ 0 →
      Yields last line (.probe (oldProbeRow .resultOld t m))
  | probeSuccessOld {m t} : probeSuccessOldPattern.search line = some m → last = some t → t ≠ 0 →
      Yields last line (.probe (oldProbeRow .successOld t m))
  | decision {m} : decisionPattern.search line = some m →
      Yields last line (.decision (decisionRow m))
  | constraintApply {m} : constraintApplyPattern.search line = some m →
      Yields last line (.constraintApply (constraintRow m))
  | delayLimit {m} : delayLimitPattern.search line = some m →
      Yields last line (.delayLimit (limitRow m))
  | receiverLimit {m} : receiverLimitPattern.search line = some m →
      Yields last line (.receiverLimit (limitRow m))
  | pushback {m r} : pushbackPattern.search line = some m → pushbackRow m = .ok r →
      Yields last line (.pushback r)

theorem searchBranch_eq_some {p : Regex} {body : Match → Except PyError Event}
    {last : Option Nat} {line : List Char} {r : Except PyError Event} :
    searchBranch p body last line = some r ↔ ∃ m, p.search line = some m ∧ body m = r := by
  simp [searchBranch]

theorem guardedBranch_eq_some {p : Regex} {body : Nat → Match → Event}
    {last : Option Nat} {line : List Char} {r : Except PyError Event} :
    guardedBranch p body last line = some r ↔
      ∃ m t, p.search line = some m ∧ last = some t ∧ t ≠ 0 ∧ r = .ok (body t m) := by
  unfold guardedBranch
  split
  · rename_i m hm
    cases last with
    | none => simp
    | some t =>
      by_cases ht : t = 0
      · simp [ht]
      · simp only [truthy_some, bne_iff_ne, ne_eq, ht, not_false_eq_true, ↓reduceIte,
          Option.getD_some, Option.some.injEq, hm, exists_and_left, exists_eq_left', true_and]
        exact eq_comm
  · simp_all

theorem map_eq_ok {α β : Type} {f : α → β} {x : Except PyError α} {b : β}
    (h : f <$> x = .ok b) : ∃ a, x = .ok a ∧ f a = b := by
  cases x <;> simp_all [Functor.map, Except.map]

/-- **What a line can yield**: the event of the first firing block is one of
the thirteen kinds of `Yields`. -/
theorem classify_yields {last : Option Nat} {line : List Char} {e : Event}
    (h : classify last line = .ok (some e)) : Yields last line e := by
  simp only [classify] at h
  split at h
  · rename_i r hr
    obtain ⟨a, hra, hae⟩ := map_eq_ok h
    cases hae
    obtain ⟨b, hb, hbr⟩ := List.exists_of_findSome?_eq_some hr
    subst hra
    simp only [branches, List.mem_cons, List.not_mem_nil, or_false] at hb
    rcases hb with rfl | rfl | rfl | rfl | rfl | rfl | rfl | rfl | rfl | rfl | rfl | rfl | rfl
    · obtain ⟨m, hm, he⟩ := searchBranch_eq_some.mp hbr; cases he; exact .trendline hm
    · obtain ⟨m, hm, he⟩ := searchBranch_eq_some.mp hbr; cases he; exact .rtt hm
    · obtain ⟨m, hm, he⟩ := searchBranch_eq_some.mp hbr; cases he; exact .lossEstimate hm
    · obtain ⟨m, hm, he⟩ := searchBranch_eq_some.mp hbr
      obtain ⟨row, hrow, rfl⟩ := map_eq_ok he
      exact .lossCandidates hm hrow
    · obtain ⟨m, hm, he⟩ := searchBranch_eq_some.mp hbr; cases he; exact .probeResult hm
    · obtain ⟨m, hm, he⟩ := searchBranch_eq_some.mp hbr; cases he; exact .probeSuccess hm
    · obtain ⟨m, t, hm, ht, ht0, he⟩ := guardedBranch_eq_some.mp hbr
      cases he; exact .probeResultOld hm ht ht0
    · obtain ⟨m, t, hm, ht, ht0, he⟩ := guardedBranch_eq_some.mp hbr
      cases he; exact .probeSuccessOld hm ht ht0
    · obtain ⟨m, hm, he⟩ := searchBranch_eq_some.mp hbr; cases he; exact .decision hm
    · obtain ⟨m, hm, he⟩ := searchBranch_eq_some.mp hbr; cases he; exact .constraintApply hm
    · obtain ⟨m, hm, he⟩ := searchBranch_eq_some.mp hbr; cases he; exact .delayLimit hm
    · obtain ⟨m, hm, he⟩ := searchBranch_eq_some.mp hbr; cases he; exact .receiverLimit hm
    · obtain ⟨m, hm, he⟩ := searchBranch_eq_some.mp hbr
      obtain ⟨row, hrow, rfl⟩ := map_eq_ok he
      exact .pushback hm hrow
  · cases h

theorem lineEvents_forall₂ {last : Option Nat} {ls : List (List Char)}
    {es : List (Option Event)} (h : lineEvents last ls = .ok es) :
    List.Forall₂ (fun l o => ∃ t, classify t l = .ok o) ls es := by
  induction ls generalizing last es with
  | nil => cases h; exact .nil
  | cons l ls ih =>
    simp only [lineEvents, bind, Except.bind] at h
    split at h
    · cases h
    · split at h
      · cases h
      · cases h; exact .cons ⟨_, ‹_›⟩ (ih ‹_›)

/-- Every event of a run was yielded by a firing block on a line of the log. -/
theorem lineEvents_yields {last : Option Nat} {ls : List (List Char)}
    {es : List (Option Event)} (h : lineEvents last ls = .ok es) {e : Event}
    (he : e ∈ es.filterMap id) : ∃ l ∈ ls, ∃ t, Yields t l e := by
  induction ls generalizing last es with
  | nil => cases h; simp at he
  | cons l ls ih =>
    simp only [lineEvents, bind, Except.bind] at h
    split at h
    · cases h
    · rename_i o ho
      split at h
      · cases h
      · rename_i es' hes
        cases h
        cases o with
        | none =>
          obtain ⟨l', hl', t, hy⟩ := ih hes (by simpa using he)
          exact ⟨l', List.mem_cons_of_mem l hl', t, hy⟩
        | some e' =>
          rcases (by simpa using he : e = e' ∨ e ∈ es'.filterMap id) with rfl | he'
          · exact ⟨l, List.mem_cons_self l ls, _, classify_yields ho⟩
          · obtain ⟨l', hl', t, hy⟩ := ih hes he'
            exact ⟨l', List.mem_cons_of_mem l hl', t, hy⟩

end WebrtcAnalysis.Gcc
