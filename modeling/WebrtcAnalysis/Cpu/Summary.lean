/-
WebrtcAnalysis/Cpu/Summary.lean

The two fields of a `category_stats` entry of `generate_summary_report` that
come from `max`: `max_cpu_percent`, from `max(f['children_percent'] for f in
funcs)`, and `top_function`, from `max(funcs, key=lambda x:
x['children_percent'])['symbol']`.  The builtin `max` walks its items from the
first and lets an item replace the running maximum only when it is larger.
With a key it compares the keys (`pyMaxBy`).

The two calls are one loop read two ways, so the share of the top function
is `max_cpu_percent` (`childrenPercent_pyMaxBy`).  The shares that the
parser returns are never NaN.  On such keys the loop returns the first item
whose key is maximal (`pyMaxBy_first_maximal`).  So for every parsed report,
each non-empty category names as its top function the first of its hotspots,
in report order, with the largest share (`category_top_function`).  The
rounding of `round(max_cpu, 2)` is left out.
-/
import WebrtcAnalysis.Cpu.Categories
import WebrtcAnalysis.Cpu.Ranking

namespace WebrtcAnalysis.Cpu

open WebrtcAnalysis

/-! ### `max` with a key -/

/-- `max(items, key=key)` over `m :: xs`: an item replaces the running maximum
when `key(item) > key(maximum)`. -/
def pyMaxBy {α : Type} (key : α → PyFloat) : α → List α → α
  | m, [] => m
  | m, x :: xs => pyMaxBy key (if (key m).lt (key x) then x else m) xs

/-- The fields `max_cpu_percent`, before rounding, and `top_function` of a
category's entry; `none` for an empty category, which gets no entry. -/
structure CategoryTop where
  maxCpuPercent : PyFloat
  topFunction : List Char
  deriving DecidableEq, Repr

/-- `max(f['children_percent'] for f in funcs)` and
`max(funcs, key=lambda x: x['children_percent'])['symbol']`. -/
def categoryTop : List Hotspot → Option CategoryTop
  | [] => none
  | f :: fs =>
    some ⟨pyMax f.childrenPercent (fs.map (·.childrenPercent)),
      (pyMaxBy (·.childrenPercent) f fs).symbol⟩

/-- The key of `max(items, key=key)` is `max` of the keys: the two calls run
the same comparisons. -/
theorem childrenPercent_pyMaxBy {α : Type} (key : α → PyFloat) (m : α) (xs : List α) :
    key (pyMaxBy key m xs) = pyMax (key m) (xs.map key) := by
  induction xs generalizing m with
  | nil => rfl
  | cons x xs ih => rw [pyMaxBy, ih, List.map_cons, pyMax, apply_ite key]

section FirstMaximal

variable {α : Type} (key : α → PyFloat)

theorem pyMaxBy_append_singleton (m : α) (xs : List α) (x : α) :
    pyMaxBy key m (xs ++ [x]) =
      if (key (pyMaxBy key m xs)).lt (key x) then x else pyMaxBy key m xs := by
  induction xs generalizing m with
  | nil => rfl
  | cons y xs ih => exact ih _

/-- **On keys other than NaN, `max` with a key returns the first item with a
maximal key**: every item before it has a smaller key, and no item has a
larger one. -/
theorem pyMaxBy_first_maximal (m : α) (xs : List α) (hnan : ∀ x ∈ m :: xs, key x ≠ .nan) :
    ∃ pre post, m :: xs = pre ++ pyMaxBy key m xs :: post ∧
      (∀ x ∈ pre, (key x).lt (key (pyMaxBy key m xs)) = true) ∧
      ∀ x ∈ m :: xs, (key (pyMaxBy key m xs)).lt (key x) = false := by
  induction xs using List.reverseRecOn with
  | nil => exact ⟨[], [], rfl, by simp, by simpa using PyFloat.lt_self (key m)⟩
  | append_singleton xs x ih =>
    have hinit : ∀ y ∈ m :: xs, key y ≠ .nan := fun y hy =>
      hnan y (by rw [← List.cons_append]; exact List.mem_append_left _ hy)
    have hx : key x ≠ .nan := hnan x (by simp)
    obtain ⟨pre, post, hsplit, hpre, hmax⟩ := ih hinit
    have ht : key (pyMaxBy key m xs) ≠ .nan := hinit _ (by rw [hsplit]; simp)
    -- every item so far is at most the running maximum
    have hle : ∀ y ∈ m :: xs, (key y).toExt ≤ (key (pyMaxBy key m xs)).toExt := fun y hy =>
      (PyFloat.lt_eq_false_iff ht (hinit y hy)).mp (hmax y hy)
    rw [pyMaxBy_append_singleton, ← List.cons_append]
    split_ifs with htx
    · -- `x` is larger than the running maximum, and so than every item before it
      have htx' := (PyFloat.lt_iff_toExt ht hx).mp htx
      refine ⟨m :: xs, [], rfl, fun y hy => ?_, fun y hy => ?_⟩
      · exact (PyFloat.lt_iff_toExt (hinit y hy) hx).mpr ((hle y hy).trans_lt htx')
      · rcases List.mem_append.mp hy with hy | hy
        · exact PyFloat.lt_eq_false_of_lt
            ((PyFloat.lt_iff_toExt (hinit y hy) hx).mpr ((hle y hy).trans_lt htx'))
        · rw [List.mem_singleton.mp hy]; exact PyFloat.lt_self _
    · refine ⟨pre, post ++ [x], by rw [hsplit]; simp, hpre, fun y hy => ?_⟩
      rcases List.mem_append.mp hy with hy | hy
      · exact hmax y hy
      · rw [List.mem_singleton.mp hy]; exact Bool.eq_false_iff.mpr htx

end FirstMaximal

/-- **The top function of a category is its first hotspot with the largest
share.**  For every report that parses, and every category with hotspots,
`top_function` is the symbol of a hotspot of the category that comes after
only hotspots of smaller share and has a share no other hotspot of the
category exceeds, and `max_cpu_percent` (before rounding) is its share. -/
theorem category_top_function {report : List Char} {hs : List Hotspot}
    (h : parseCpuAnalysisReport report = .ok hs) (c : Category) (hc : categorizeFunctions hs c ≠ []) :
    ∃ t pre post, categorizeFunctions hs c = pre ++ t :: post ∧
      (∀ x ∈ pre, x.childrenPercent.lt t.childrenPercent = true) ∧
      (∀ x ∈ categorizeFunctions hs c, t.childrenPercent.lt x.childrenPercent = false) ∧
      categoryTop (categorizeFunctions hs c) = some ⟨t.childrenPercent, t.symbol⟩ := by
  obtain ⟨f, fs, hf⟩ := List.exists_cons_of_ne_nil hc
  have hnan : ∀ x ∈ f :: fs, x.childrenPercent ≠ .nan := fun x hx =>
    parseCpuAnalysisReport_ne_nan h x
      (List.mem_of_mem_filter (by rw [← categorizeFunctions_eq_filter, hf]; exact hx))
  obtain ⟨pre, post, hsplit, hpre, hmax⟩ := pyMaxBy_first_maximal (·.childrenPercent) f fs hnan
  refine ⟨_, pre, post, hf ▸ hsplit, hpre, hf ▸ hmax, ?_⟩
  rw [hf, categoryTop, ← childrenPercent_pyMaxBy (·.childrenPercent) f fs]

/-- Two memory functions tie at the largest share: the first of them,
`memset`, is the category's top function. -/
theorem category_top_function_memset :
    let hs : List Hotspot := [⟨.finite 1, .finite 1, "app".toList, "libc.so".toList, "memcpy".toList⟩,
      ⟨.finite 2, .finite 1, "app".toList, "libc.so".toList, "memset".toList⟩,
      ⟨.finite 2, .finite 1, "app".toList, "libc.so".toList, "malloc".toList⟩]
    parseCpuAnalysisReport ("Children      Self  Command\n 1.00% 1.00% app libc.so memcpy\n" ++
        " 2.00% 1.00% app libc.so memset\n 2.00% 1.00% app libc.so malloc").toList = .ok hs ∧
    categorizeFunctions hs .memoryManagement ≠ [] ∧
    (∃ t pre post, categorizeFunctions hs .memoryManagement = pre ++ t :: post ∧
      (∀ x ∈ pre, x.childrenPercent.lt t.childrenPercent = true) ∧
      (∀ x ∈ categorizeFunctions hs .memoryManagement,
        t.childrenPercent.lt x.childrenPercent = false) ∧
      categoryTop (categorizeFunctions hs .memoryManagement) = some ⟨t.childrenPercent, t.symbol⟩) ∧
    categoryTop (categorizeFunctions hs .memoryManagement) = some ⟨.finite 2, "memset".toList⟩ := by
  intro hs
  have h : parseCpuAnalysisReport ("Children      Self  Command\n 1.00% 1.00% app libc.so memcpy\n" ++
      " 2.00% 1.00% app libc.so memset\n 2.00% 1.00% app libc.so malloc").toList = .ok hs := by
    rfl
  have hc : categorizeFunctions hs .memoryManagement ≠ [] := by decide
  exact ⟨h, hc, category_top_function h _ hc, by decide⟩

end WebrtcAnalysis.Cpu
