/-
WebrtcAnalysis/Dict.lean

Python's insertion-ordered `dict` under the `defaultdict` update
`d[k] = f(d[k])`, as a list of entries: the entry of `k` is updated in place,
or appended with the factory's value when `k` is new (`upsert`).  The flame
graph generator folds such updates over its events (`upsertAll`) to group
them by function and by category.

Three facts about a whole loop of updates are proved once, for any key and
update: the entry of each key is the update folded over that key's items
(`lookup_upsertAll`); a quantity that every update raises by a fixed amount
sums over the entries to that amount summed over the items (`sum_upsertAll`);
and every key comes from the start dict or from an item (`mem_upsertAll`).
The keys stay distinct (`nodup_keys_upsertAll`), so an entry is what its key
looks up (`lookup_of_mem`, `mem_of_lookup`).
-/
import WebrtcAnalysis.Builtins
import Mathlib.Algebra.BigOperators.Group.List

namespace WebrtcAnalysis

variable {K V α M : Type} [BEq K] [LawfulBEq K]

/-! ### One update -/

/-- `d[k] = f(d[k])` on a `defaultdict` whose factory gives `v₀`. -/
def upsert (k : K) (f : V → V) (v₀ : V) : List (K × V) → List (K × V)
  | [] => [(k, f v₀)]
  | (k', v) :: rest => if k' == k then (k', f v) :: rest else (k', v) :: upsert k f v₀ rest

/-- The loop `for x in items: d[key(x)] = f(x, d[key(x)])`. -/
def upsertAll (key : α → K) (f : α → V → V) (v₀ : V) (d : List (K × V)) (items : List α) :
    List (K × V) :=
  items.foldl (fun d x => upsert (key x) (f x) v₀ d) d

theorem lookup_cons_of_eq {k : K} {v : V} {rest : List (K × V)} :
    ((k, v) :: rest).lookup k = some v := by
  rw [List.lookup_cons, beq_self_eq_true]

theorem lookup_cons_of_ne {k k' : K} (h : k' ≠ k) {v : V} {rest : List (K × V)} :
    ((k, v) :: rest).lookup k' = rest.lookup k' := by
  rw [List.lookup_cons, beq_false_of_ne h]

/-- The update changes the entry of its key only. -/
theorem lookup_upsert (k k' : K) (f : V → V) (v₀ : V) (d : List (K × V)) :
    (upsert k f v₀ d).lookup k' =
      if k' == k then some (f ((d.lookup k).getD v₀)) else d.lookup k' := by
  induction d with
  | nil =>
    by_cases h : k' = k
    · subst h; simp [upsert, lookup_cons_of_eq]
    · simp [upsert, lookup_cons_of_ne h, h]
  | cons e rest ih =>
    obtain ⟨k'', v⟩ := e
    by_cases hk : k'' = k
    · subst hk
      by_cases h : k' = k''
      · subst h; simp [upsert, lookup_cons_of_eq]
      · simp [upsert, lookup_cons_of_ne h, h]
    · rw [upsert, if_neg (by simpa using hk), lookup_cons_of_ne (Ne.symm hk)]
      by_cases h : k' = k''
      · subst h; simp [lookup_cons_of_eq, hk]
      · rw [lookup_cons_of_ne h, lookup_cons_of_ne h, ih]

omit [LawfulBEq K] in
/-- Each entry of the update is the updated entry or an entry of the dict. -/
theorem mem_upsert {k : K} {f : V → V} {v₀ : V} {d : List (K × V)} {p : K × V}
    (h : p ∈ upsert k f v₀ d) : p.1 = k ∨ p.1 ∈ d.map Prod.fst := by
  induction d with
  | nil => simp_all [upsert]
  | cons e rest ih =>
    obtain ⟨k', v⟩ := e
    unfold upsert at h
    split at h
    · rcases List.mem_cons.mp h with rfl | h
      · exact .inr (List.mem_cons_self _ _)
      · exact .inr (List.mem_cons_of_mem _ (List.mem_map_of_mem Prod.fst h))
    · rcases List.mem_cons.mp h with rfl | h
      · exact .inr (List.mem_cons_self _ _)
      · exact (ih h).imp_right (List.mem_cons_of_mem _)

/-- A quantity that the update raises by `δ`, and that is zero on the
factory's value, rises by `δ` over the whole dict. -/
theorem sum_upsert [AddCommMonoid M] (F : K → V → M) (k : K) (f : V → V) (v₀ : V) (δ : M)
    (hf : ∀ v, F k (f v) = F k v + δ) (h₀ : F k v₀ = 0) (d : List (K × V)) :
    ((upsert k f v₀ d).map fun p => F p.1 p.2).sum = (d.map fun p => F p.1 p.2).sum + δ := by
  induction d with
  | nil => simp [upsert, hf, h₀]
  | cons e rest ih =>
    obtain ⟨k', v⟩ := e
    by_cases hk : k' = k
    · subst hk
      rw [upsert, if_pos (beq_self_eq_true k')]
      simp only [List.map_cons, List.sum_cons, hf]
      rw [add_right_comm]
    · simp only [upsert, beq_false_of_ne hk, Bool.false_eq_true, if_false, List.map_cons,
        List.sum_cons, ih, add_assoc]

/-- The value a key looks up is the value of an entry with that key. -/
theorem mem_of_lookup {d : List (K × V)} {k : K} {v : V} (h : d.lookup k = some v) :
    (k, v) ∈ d := by
  induction d with
  | nil => cases h
  | cons e rest ih =>
    obtain ⟨k', v'⟩ := e
    rw [List.lookup_cons] at h
    split at h
    · rename_i hk
      cases h; rw [eq_of_beq hk]; exact List.mem_cons_self _ _
    · exact List.mem_cons_of_mem _ (ih h)

/-- In a dict whose keys are distinct, an entry is what its key looks up. -/
theorem lookup_of_mem {d : List (K × V)} (hd : (d.map Prod.fst).Nodup) {p : K × V}
    (hp : p ∈ d) : d.lookup p.1 = some p.2 := by
  induction d with
  | nil => cases hp
  | cons e rest ih =>
    obtain ⟨k', v⟩ := e
    simp only [List.map_cons, List.nodup_cons] at hd
    rcases List.mem_cons.mp hp with rfl | hp
    · exact lookup_cons_of_eq
    · have hne : p.1 ≠ k' := fun h => hd.1 (by rw [← h]; exact List.mem_map_of_mem Prod.fst hp)
      rw [lookup_cons_of_ne hne, ih hd.2 hp]

/-- Two dicts with distinct keys and the same lookups hold the same entries,
in some order. -/
theorem perm_of_lookup_eq {d d' : List (K × V)} (hd : (d.map Prod.fst).Nodup)
    (hd' : (d'.map Prod.fst).Nodup) (h : ∀ k, d.lookup k = d'.lookup k) : d.Perm d' :=
  (List.perm_ext_iff_of_nodup (hd.of_map _) (hd'.of_map _)).mpr fun p =>
    ⟨fun hp => mem_of_lookup ((h p.1) ▸ lookup_of_mem hd hp),
      fun hp => mem_of_lookup ((h p.1).symm ▸ lookup_of_mem hd' hp)⟩

/-- The update keeps the keys in place, and appends its key when it is new. -/
theorem keys_upsert (k : K) (f : V → V) (v₀ : V) (d : List (K × V)) :
    (upsert k f v₀ d).map Prod.fst =
      if k ∈ d.map Prod.fst then d.map Prod.fst else d.map Prod.fst ++ [k] := by
  induction d with
  | nil => rfl
  | cons e rest ih =>
    obtain ⟨k', v⟩ := e
    by_cases hk : k' = k
    · subst hk
      rw [upsert, if_pos (beq_self_eq_true k'), List.map_cons, List.map_cons,
        if_pos (List.mem_cons_self _ _)]
    · rw [upsert, if_neg (by simpa using hk), List.map_cons, ih]
      by_cases hmem : k ∈ rest.map Prod.fst <;> simp [hmem, Ne.symm hk]

/-! ### A loop of updates -/

/-- **The entry of a key after the loop** is the update folded over the items
with that key, from the entry the key had before, or from the factory's
value. -/
theorem lookup_upsertAll (key : α → K) (f : α → V → V) (v₀ : V) (items : List α)
    (d : List (K × V)) (k : K) :
    (upsertAll key f v₀ d items).lookup k =
      if items.any (key · == k) then
        some ((items.filter (key · == k)).foldl (fun v x => f x v) ((d.lookup k).getD v₀))
      else d.lookup k := by
  induction items generalizing d with
  | nil => rfl
  | cons x t ih =>
    rw [upsertAll, List.foldl_cons, ← upsertAll, ih, lookup_upsert]
    by_cases hx : key x = k
    · have hnil : t.any (key · == k) = false → t.filter (key · == k) = [] := fun h =>
        List.filter_eq_nil_iff.mpr fun y hy hk => by simp_all [List.any_eq_false]
      cases ht : t.any (key · == k) <;> simp [hx, ht, hnil, List.filter_cons]
    · simp only [beq_false_of_ne hx, beq_false_of_ne (Ne.symm hx), Bool.false_eq_true, if_false,
        List.any_cons, Bool.false_or, List.filter_cons]

/-- **What every update raises by a fixed amount sums, over the entries, to
those amounts summed over the items.** -/
theorem sum_upsertAll [AddCommMonoid M] (key : α → K) (f : α → V → V) (v₀ : V)
    (F : K → V → M) (δ : α → M) (hf : ∀ x v, F (key x) (f x v) = F (key x) v + δ x)
    (h₀ : ∀ x, F (key x) v₀ = 0) (items : List α) (d : List (K × V)) :
    ((upsertAll key f v₀ d items).map fun p => F p.1 p.2).sum =
      (d.map fun p => F p.1 p.2).sum + (items.map δ).sum := by
  induction items generalizing d with
  | nil => simp [upsertAll]
  | cons x t ih =>
    rw [upsertAll, List.foldl_cons, ← upsertAll, ih,
      sum_upsert F (key x) (f x) v₀ (δ x) (hf x) (h₀ x), List.map_cons, List.sum_cons, add_assoc]

/-- The keys stay distinct over the loop. -/
theorem nodup_keys_upsertAll (key : α → K) (f : α → V → V) (v₀ : V) (items : List α)
    {d : List (K × V)} (hd : (d.map Prod.fst).Nodup) :
    ((upsertAll key f v₀ d items).map Prod.fst).Nodup := by
  induction items generalizing d with
  | nil => exact hd
  | cons x t ih =>
    rw [upsertAll, List.foldl_cons, ← upsertAll]
    refine ih ?_
    rw [keys_upsert]
    split_ifs with hmem
    · exact hd
    · exact hd.append (List.nodup_singleton _) (List.disjoint_singleton.mpr hmem)

omit [LawfulBEq K] in
/-- Every key after the loop was in the dict or is the key of an item. -/
theorem mem_upsertAll {key : α → K} {f : α → V → V} {v₀ : V} {items : List α}
    {d : List (K × V)} {p : K × V} (h : p ∈ upsertAll key f v₀ d items) :
    p.1 ∈ d.map Prod.fst ∨ ∃ x ∈ items, key x = p.1 := by
  induction items generalizing d with
  | nil => exact .inl (List.mem_map_of_mem Prod.fst h)
  | cons x t ih =>
    rw [upsertAll, List.foldl_cons, ← upsertAll] at h
    rcases ih h with h | ⟨y, hy, hky⟩
    · obtain ⟨q, hq, hqp⟩ := List.mem_map.mp h
      rcases mem_upsert hq with hq | hq
      · exact .inr ⟨x, List.mem_cons_self _ _, hq.symm.trans hqp⟩
      · exact .inl (hqp ▸ hq)
    · exact .inr ⟨y, List.mem_cons_of_mem _ hy, hky⟩

end WebrtcAnalysis
