/-
WebrtcAnalysis/Cpu/Categories.lean

`categorize_functions` of `analyze_cpu_usage.py`, and the category statistics
`generate_summary_report` builds from it.

`categorize_functions` starts from eight empty lists, keyed in the order

    Network I/O, System Calls, WebRTC Core, Video Processing,
    Audio Processing, Memory Management, Threading, Other,

and appends each hotspot to the list of the first branch of an `if/elif`
chain whose keyword test holds: a keyword of the branch occurs in
`symbol.lower()`, or, for WebRTC Core, in `shared_object.lower()`.  `Other`
takes the rest.  `str.lower` is the full Unicode lowering of
`WebrtcAnalysis.Builtins`, so a symbol written with the Kelvin sign `K`
holds the keyword `lock` once lowered.

The loop appends to one list per hotspot (`appendTo`).  Over a whole run the
loop is a filter: list `c` holds the input's hotspots of category `c`, in
input order (`categorizeFunctions_eq_filter`).  Each append moves one
hotspot from the input to the end of one list, so the eight lists together
are a permutation of the input (`perm_foldl_appendTo`).  Counts and exact
sums over the lists therefore add up to the same over the input.  For
`generate_summary_report` these are the `function_count` values against
`total_hotspots`, and the category totals before rounding against the total
share (`categorize_functions_partition`).
-/
import WebrtcAnalysis.Cpu.Report
import Mathlib.Algebra.BigOperators.Group.List

namespace WebrtcAnalysis.Cpu

open WebrtcAnalysis

/-! ### The keyword chain -/

/-- The keys of the `categories` dict. -/
inductive Category
  | network
  | systemCalls
  | webrtcCore
  | videoProcessing
  | audioProcessing
  | memoryManagement
  | threading
  | other
  deriving DecidableEq, Repr

/-- The keys in the order of the dict literal, which `.items()` follows. -/
def Category.all : List Category :=
  [.network, .systemCalls, .webrtcCore, .videoProcessing, .audioProcessing,
    .memoryManagement, .threading, .other]

/-- The dict key of each category. -/
def Category.name : Category → String
  | .network => "Network I/O"
  | .systemCalls => "System Calls"
  | .webrtcCore => "WebRTC Core"
  | .videoProcessing => "Video Processing"
  | .audioProcessing => "Audio Processing"
  | .memoryManagement => "Memory Management"
  | .threading => "Threading"
  | .other => "Other"

theorem Category.mem_all (c : Category) : c ∈ Category.all := by
  cases c <;> decide

theorem Category.nodup_all : Category.all.Nodup := by decide

/-- The keyword test of each branch of the chain; `Other` is the `else`. -/
def Category.test : Category → Hotspot → Bool
  | .network, h =>
    anyKeywordIn ["recvmsg", "sendmsg", "recv", "send", "socket", "net"] (pyLower h.symbol)
  | .systemCalls, h =>
    anyKeywordIn ["syscall", "sys_", "__sys", "entry_", "kernel"] (pyLower h.symbol)
  | .webrtcCore, h => anyKeywordIn ["webrtc", "peerconnection"] (pyLower h.sharedObject)
  | .videoProcessing, h =>
    anyKeywordIn ["video", "frame", "decode", "encode", "vp8", "vp9", "h264"] (pyLower h.symbol)
  | .audioProcessing, h => anyKeywordIn ["audio", "sound", "pcm", "opus"] (pyLower h.symbol)
  | .memoryManagement, h =>
    anyKeywordIn ["malloc", "free", "alloc", "mem", "copy"] (pyLower h.symbol)
  | .threading, h => anyKeywordIn ["thread", "pthread", "lock", "mutex"] (pyLower h.symbol)
  | .other, _ => true

@[simp] theorem Category.test_other (h : Hotspot) : Category.other.test h = true := rfl

/-- The `if/elif` chain of the loop body: the category a hotspot is appended to. -/
def categoryOf (h : Hotspot) : Category :=
  if Category.network.test h then .network
  else if Category.systemCalls.test h then .systemCalls
  else if Category.webrtcCore.test h then .webrtcCore
  else if Category.videoProcessing.test h then .videoProcessing
  else if Category.audioProcessing.test h then .audioProcessing
  else if Category.memoryManagement.test h then .memoryManagement
  else if Category.threading.test h then .threading
  else .other

/-- The chain picks the first category, in the dict's order, whose test holds. -/
theorem find?_test_eq_categoryOf (h : Hotspot) :
    Category.all.find? (·.test h) = some (categoryOf h) := by
  simp only [Category.all, List.find?_cons, Category.test_other, categoryOf]
  -- the two agree whatever the seven tests return
  generalize Category.network.test h = b₁
  generalize Category.systemCalls.test h = b₂
  generalize Category.webrtcCore.test h = b₃
  generalize Category.videoProcessing.test h = b₄
  generalize Category.audioProcessing.test h = b₅
  generalize Category.memoryManagement.test h = b₆
  generalize Category.threading.test h = b₇
  revert b₁ b₂ b₃ b₄ b₅ b₆ b₇
  decide

/-- A symbol that names both a send and a frame goes to Network I/O, the
earlier branch, even in a WebRTC library. -/
example :
    categoryOf ⟨.finite 1, .finite 1, "app".toList, "libwebrtc.so".toList, "SendFrame".toList⟩ =
      .network := by
  decide

/-! ### The loop -/

/-- `categories[c].append(hotspot)` -/
def appendTo (categories : Category → List Hotspot) (c : Category) (h : Hotspot) :
    Category → List Hotspot :=
  fun c' => if c' = c then categories c' ++ [h] else categories c'

/-- `categorize_functions(hotspots)`: the dict, as the list of each key. -/
def categorizeFunctions (hotspots : List Hotspot) : Category → List Hotspot :=
  hotspots.foldl (fun categories h => appendTo categories (categoryOf h) h) fun _ => []

/-- A run of the loop from any dict appends to each list the run's hotspots
of its category. -/
theorem foldl_appendTo_apply (hs : List Hotspot) (cats : Category → List Hotspot) (c : Category) :
    hs.foldl (fun categories h => appendTo categories (categoryOf h) h) cats c =
      cats c ++ hs.filter (categoryOf · = c) := by
  induction hs generalizing cats with
  | nil => simp
  | cons a t ih =>
    rw [List.foldl_cons, ih, List.filter_cons]
    by_cases ha : categoryOf a = c
    · simp [appendTo, ha]
    · simp [appendTo, ha, Ne.symm ha]

/-- **Each list is the input's hotspots of its category, in input order.** -/
theorem categorizeFunctions_eq_filter (hs : List Hotspot) (c : Category) :
    categorizeFunctions hs c = hs.filter (categoryOf · = c) := by
  rw [categorizeFunctions, foldl_appendTo_apply]
  rfl

/-- One append moves the hotspot to the end of the lists taken together. -/
theorem flatten_appendTo {keys : List Category} (hnd : keys.Nodup) {c : Category}
    (hc : c ∈ keys) (cats : Category → List Hotspot) (h : Hotspot) :
    (keys.map (appendTo cats c h)).flatten.Perm ((keys.map cats).flatten ++ [h]) := by
  induction keys with
  | nil => cases hc
  | cons k ks ih =>
    obtain ⟨hk, hks⟩ := List.nodup_cons.mp hnd
    simp only [List.map_cons, List.flatten_cons, List.append_assoc]
    by_cases hkc : k = c
    · subst hkc
      have hrest : ks.map (appendTo cats k h) = ks.map cats :=
        List.map_congr_left fun c' hc' => if_neg fun hck : c' = k => hk (hck ▸ hc')
      rw [hrest, appendTo, if_pos rfl, List.append_assoc]
      exact List.Perm.append_left _ List.perm_append_comm
    · have hc' : c ∈ ks := (List.mem_cons.mp hc).resolve_left (Ne.symm hkc)
      rw [appendTo, if_neg hkc]
      exact List.Perm.append_left _ (ih hks hc')

/-- **The lists of a run are a permutation of the dict's lists and the run.** -/
theorem perm_foldl_appendTo (hs : List Hotspot) (cats : Category → List Hotspot) :
    (Category.all.map
        (hs.foldl (fun categories h => appendTo categories (categoryOf h) h) cats)).flatten.Perm
      ((Category.all.map cats).flatten ++ hs) := by
  induction hs generalizing cats with
  | nil => simp
  | cons a t ih =>
    rw [List.foldl_cons]
    refine (ih _).trans ?_
    rw [← List.singleton_append, ← List.append_assoc]
    exact List.Perm.append_right _
      (flatten_appendTo Category.nodup_all (Category.mem_all _) cats a)

/-! ### The category statistics of `generate_summary_report` -/

/-- One entry of `category_stats`: `function_count`, and the shares whose sum is
`total_cpu`, the value `total_cpu_percent` rounds.  The float summation itself
is left abstract: CPython 3.12 made `sum` over floats a compensated sum, so
only its exact value is version-independent. -/
structure CategoryStat where
  functionCount : Nat
  shares : List PyFloat
  deriving DecidableEq, Repr

/-- The statistics of a non-empty category's list. -/
def categoryStat (funcs : List Hotspot) : CategoryStat :=
  { functionCount := funcs.length, shares := funcs.map (·.childrenPercent) }

/-- `category_stats`: one entry for each category whose list is not empty
(`if funcs:`), in the dict's order. -/
def categoryStats (hotspots : List Hotspot) : List (Category × CategoryStat) :=
  let categories := categorizeFunctions hotspots
  Category.all.filterMap fun c =>
    if (categories c).isEmpty then none else some (c, categoryStat (categories c))

/-- A sum over `category_stats` is the sum over all eight lists of a quantity
that vanishes on an empty list. -/
theorem sum_filterMap_categoryStat {M : Type} [AddCommMonoid M] (F : CategoryStat → M)
    (G : List Hotspot → M) (hFG : ∀ l, F (categoryStat l) = G l) (hG : G [] = 0)
    (keys : List Category) (cats : Category → List Hotspot) :
    ((keys.filterMap fun c =>
        if (cats c).isEmpty then none else some (c, categoryStat (cats c))).map
      (F ∘ Prod.snd)).sum = (keys.map (G ∘ cats)).sum := by
  induction keys with
  | nil => rfl
  | cons k ks ih =>
    rw [List.filterMap_cons, List.map_cons, List.sum_cons, ← ih]
    cases hk : cats k with
    | nil => simp [hk, hG]
    | cons x xs => simp [hk, hFG]

/-- **`categorize_functions` partitions its input.**  For every list of
hotspots: each category's list is the input's hotspots of that category in
input order; the category of a hotspot is the first, in the dict's order,
whose keyword test holds; the eight lists together are a permutation of the
input, so every hotspot is in exactly one of them.  Hence the
`function_count` values of `generate_summary_report` sum to
`total_hotspots`, and in any exact arithmetic the category totals before
rounding sum to the total share. -/
theorem categorize_functions_partition (hs : List Hotspot) :
    (∀ c, categorizeFunctions hs c = hs.filter (categoryOf · = c)) ∧
    (∀ h, Category.all.find? (·.test h) = some (categoryOf h)) ∧
    (Category.all.map (categorizeFunctions hs)).flatten.Perm hs ∧
    ((categoryStats hs).map (·.2.functionCount)).sum = hs.length ∧
    ∀ {M : Type} [AddCommMonoid M] (v : PyFloat → M),
      ((categoryStats hs).map fun s => (s.2.shares.map v).sum).sum =
        ((hs.map (·.childrenPercent)).map v).sum := by
  have hperm : (Category.all.map (categorizeFunctions hs)).flatten.Perm hs := by
    simpa using perm_foldl_appendTo hs fun _ => []
  refine ⟨categorizeFunctions_eq_filter hs, find?_test_eq_categoryOf, hperm, ?_, fun v => ?_⟩
  · rw [categoryStats, ← hperm.length_eq, List.length_flatten, List.map_map]
    exact sum_filterMap_categoryStat _ List.length (fun _ => rfl) rfl _ _
  · have hsum := (hperm.map (v ∘ Hotspot.childrenPercent)).sum_eq
    rw [List.map_flatten, List.sum_flatten, List.map_map] at hsum
    rw [List.map_map]
    refine Eq.trans ?_ hsum
    exact sum_filterMap_categoryStat (fun s => (s.shares.map v).sum)
      (fun l => (l.map (v ∘ Hotspot.childrenPercent)).sum) (fun l => by simp [categoryStat]) rfl _ _

end WebrtcAnalysis.Cpu
