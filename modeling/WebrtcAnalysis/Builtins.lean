/-
WebrtcAnalysis/Builtins.lean

The Python builtins the analysis scripts call on text: whitespace (`str.isspace`),
`str.strip`, `str.rstrip(c)`, `str.split(sep)`, `str.split()`, `int` on a run of
decimal digits of any script, `str.lower` with the full lowercase mapping and
the Final_Sigma rule of `WebrtcAnalysis.Unicode`, the substring test
`sub in s`, and the truthiness test `x and y` applies to an optional integer.
Text is a list of characters throughout; the exceptions a modelled call can
raise are the constructors of `PyError`.

`int` is read as unbounded: CPython 3.11 and later also refuse digit strings
longer than `sys.get_int_max_str_digits()`, a configurable limit the model
leaves out.
-/
import WebrtcAnalysis.Unicode
import Mathlib.Tactic.Ring

namespace WebrtcAnalysis

/-- The exceptions the modelled code can raise. -/
inductive PyError
  | valueError
  | overflowError
  | indexError
  deriving DecidableEq, Repr

/-- A computation that returned: its first step returned, and the rest
returned from that value. -/
theorem bind_eq_ok {α β : Type} {x : Except PyError α} {f : α → Except PyError β} {b : β}
    (h : x >>= f = .ok b) : ∃ a, x = .ok a ∧ f a = .ok b := by
  cases x with
  | error e => cases h
  | ok a => exact ⟨a, rfl, h⟩

/-- `str.isspace` on one character: the characters that `\s`, `str.split()`
and `str.strip()` treat as whitespace. -/
def isSpace (c : Char) : Bool :=
  let n := c.toNat
  (9 ≤ n && n ≤ 13) || (28 ≤ n && n ≤ 32) || n == 0x85 || n == 0xA0 ||
    n == 0x1680 || (0x2000 ≤ n && n ≤ 0x200A) || n == 0x2028 || n == 0x2029 ||
    n == 0x202F || n == 0x205F || n == 0x3000

/-- The text without the characters `p` accepts at either end. -/
def stripWith (p : Char → Bool) (s : List Char) : List Char :=
  ((s.dropWhile p).reverse.dropWhile p).reverse

/-- `str.strip()`. -/
def strip (s : List Char) : List Char := stripWith isSpace s

/-- `str.rstrip(c)`. -/
def rstripChar (c : Char) (s : List Char) : List Char :=
  (s.reverse.dropWhile (· == c)).reverse

/-- `str.split(sep)` for a one-character separator. -/
def splitOn (sep : Char) (s : List Char) : List (List Char) := s.splitOn sep

/-- `str.split()`: the words between runs of whitespace. -/
def splitWhitespace (s : List Char) : List (List Char) :=
  (s.splitOnP isSpace).filter fun w => !w.isEmpty

/-- The value `int` gives a decimal digit. -/
def digitValue (c : Char) : Nat := (decimalDigit? c).getD 0

/-- `int(s)` for a string of decimal digits, which `int` reads in any script. -/
def digitsValue (s : List Char) : Nat :=
  s.foldl (fun n c => 10 * n + digitValue c) 0

/-- `str.lower` after the text `before`, held nearest first: each character
lowered by its full mapping, and `Σ` by its Final_Sigma context. -/
def lowerFrom : List Char → List Char → List Char
  | _, [] => []
  | before, c :: s =>
    (if c = 'Σ' then [if finalSigma before s then 'ς' else 'σ'] else lowerChar c) ++
      lowerFrom (c :: before) s

/-- `s.lower()` -/
def pyLower (s : List Char) : List Char := lowerFrom [] s

/-- `sub in s` -/
def isInfix (sub : List Char) : List Char → Bool
  | [] => sub.isEmpty
  | c :: t => sub.isPrefixOf (c :: t) || isInfix sub t

/-- `any(keyword in s for keyword in keywords)` -/
def anyKeywordIn (keywords : List String) (s : List Char) : Bool :=
  keywords.any fun k => isInfix k.toList s

/-- Python truthiness of an optional `int`: `None` and `0` are false. -/
def truthy : Option Nat → Bool
  | none => false
  | some n => n != 0

/-! ### Lemmas -/

@[simp] theorem truthy_none : truthy none = false := rfl

@[simp] theorem truthy_some (n : Nat) : truthy (some n) = (n != 0) := rfl

theorem isSpace_of_isDigit {c : Char} (h : c.isDigit) : isSpace c = false := by
  simp only [Char.isDigit, Bool.and_eq_true, decide_eq_true_eq] at h
  have h1 : 48 ≤ c.toNat := h.1
  have h2 : c.toNat ≤ 57 := h.2
  simp only [isSpace]
  simp only [Bool.or_eq_false_iff, Bool.and_eq_false_iff, decide_eq_false_iff_not,
    beq_eq_false_iff_ne, ne_eq]
  omega

/-- No decimal digit is whitespace. -/
theorem isSpace_of_isDecimal {c : Char} (h : isDecimal c) : isSpace c = false := by
  by_cases hc : c.toNat < 128
  · exact isSpace_of_isDigit (isDigit_of_isDecimal h hc)
  · -- the runs of digits above ASCII miss the whitespace there
    have hruns : ∀ z ∈ decimalStarts,
        0xA0 < z ∧ (z + 10 ≤ 0x1680 ∨ (0x1680 < z ∧ z + 10 ≤ 0x2000) ∨ 0x3000 < z) := by
      decide
    rw [isDecimal, decimalDigit?, if_neg hc, Option.isSome_iff_exists] at h
    obtain ⟨v, hv⟩ := h
    obtain ⟨z, hz, hzc⟩ := List.exists_of_findSome?_eq_some hv
    have hin : z ≤ c.toNat ∧ c.toNat < z + 10 := by
      by_contra hout
      rw [if_neg (by simpa using hout)] at hzc
      cases hzc
    have := hruns z hz
    simp only [isSpace, Bool.or_eq_false_iff, Bool.and_eq_false_iff, decide_eq_false_iff_not,
      beq_eq_false_iff_ne, ne_eq]
    omega

/-- Stripping leaves a string without stripped characters unchanged. -/
theorem stripWith_eq_self {p : Char → Bool} {s : List Char} (h : ∀ c ∈ s, p c = false) :
    stripWith p s = s := by
  have hd : ∀ {t : List Char}, (∀ c ∈ t, p c = false) → t.dropWhile p = t := by
    intro t ht
    cases t with
    | nil => rfl
    | cons c t => simp [List.dropWhile_cons, ht c (by simp)]
  rw [stripWith, hd h, hd (by simpa using h), List.reverse_reverse]

/-- Text without `Σ` lowers character by character. -/
theorem lowerFrom_of_not_sigma {s : List Char} (h : 'Σ' ∉ s) (before : List Char) :
    lowerFrom before s = s.flatMap lowerChar := by
  induction s generalizing before with
  | nil => rfl
  | cons c s ih =>
    have hc : c ≠ 'Σ' := fun hc => h (hc ▸ List.mem_cons_self c s)
    rw [lowerFrom, if_neg hc, ih (fun hs => h (List.mem_cons_of_mem c hs)), List.flatMap_cons]

theorem digitValue_of_isDigit {c : Char} (h : c.isDigit) : digitValue c = c.toNat - '0'.toNat := by
  rw [digitValue, decimalDigit?_of_isDigit h]
  rfl

@[simp] theorem digitsValue_nil : digitsValue [] = 0 := rfl

@[simp] theorem digitsValue_append (s t : List Char) :
    digitsValue (s ++ t) = 10 ^ t.length * digitsValue s + digitsValue t := by
  have key : ∀ (t : List Char) (n : Nat),
      t.foldl (fun n c => 10 * n + digitValue c) n =
        10 ^ t.length * n + t.foldl (fun n c => 10 * n + digitValue c) 0 := by
    intro t
    induction t with
    | nil => simp
    | cons c t ih =>
      intro n
      simp only [List.foldl_cons, List.length_cons, Nat.mul_zero, Nat.zero_add]
      rw [ih, ih (digitValue c)]
      ring
  simp only [digitsValue, List.foldl_append]
  exact key t _

theorem dropWhile_append_of_all {p : Char → Bool} {l l' : List Char} (hl : ∀ x ∈ l, p x)
    (hl' : ∀ x ∈ l'.head?, p x = false) : (l ++ l').dropWhile p = l' := by
  induction l with
  | nil =>
    cases l' with
    | nil => rfl
    | cons x t => simp [List.dropWhile_cons, hl' x (by simp)]
  | cons x t ih => simp [List.dropWhile_cons, hl x (by simp), ih fun y hy => hl y (by simp [hy])]

/-- Stripping whitespace around a word without whitespace gives the word. -/
theorem strip_around {lead c trail : List Char} (hlead : ∀ x ∈ lead, isSpace x)
    (hc : ∀ x ∈ c, isSpace x = false) (hne : c ≠ []) (htrail : ∀ x ∈ trail, isSpace x) :
    strip (lead ++ c ++ trail) = c := by
  obtain ⟨x, t, rfl⟩ := List.exists_cons_of_ne_nil hne
  have h1 : (lead ++ (x :: t) ++ trail).dropWhile isSpace = x :: t ++ trail := by
    rw [List.append_assoc]
    exact dropWhile_append_of_all hlead (by simpa using hc x (by simp))
  have hrev : (x :: t).reverse ≠ [] := by simp
  obtain ⟨y, u, hyu⟩ := List.exists_cons_of_ne_nil hrev
  have hy : isSpace y = false := hc y (by rw [← List.mem_reverse, hyu]; simp)
  have h2 : (trail.reverse ++ (x :: t).reverse).dropWhile isSpace = (x :: t).reverse :=
    dropWhile_append_of_all (by simpa using htrail) (by rw [hyu]; simpa using hy)
  simp only [strip, stripWith, h1, List.reverse_append, h2, List.reverse_reverse]

/-- A text that starts with a character `p` refuses keeps it after stripping. -/
theorem stripWith_cons {p : Char → Bool} {d : Char} (hd : p d = false) (t : List Char) :
    ∃ t', stripWith p (d :: t) = d :: t' := by
  obtain ⟨X, hX⟩ : ∃ X, (t.reverse ++ [d]).dropWhile p = X ++ [d] := by
    rw [List.dropWhile_append]
    split
    · exact ⟨[], by simp [List.dropWhile_cons, hd]⟩
    · exact ⟨_, rfl⟩
  refine ⟨X.reverse, ?_⟩
  rw [stripWith, List.dropWhile_cons_of_neg (by simp [hd]), List.reverse_cons, hX,
    List.reverse_append]
  rfl

theorem rstripChar_of_last {c : Char} {s : List Char} (h : ∀ x ∈ s.getLast?, x ≠ c) :
    rstripChar c s = s := by
  unfold rstripChar
  cases hs : s.reverse with
  | nil => simp_all
  | cons x t =>
    have hx : x ≠ c := h x (by rw [List.getLast?_eq_head?_reverse, hs]; rfl)
    rw [List.dropWhile_cons, if_neg (by simpa using hx), ← hs, List.reverse_reverse]

/-- Splitting at `sep` after a piece free of `sep` extends the first piece. -/
theorem splitOn_append_of_not_mem {sep : Char} {xs : List Char} (hx : sep ∉ xs) (ys : List Char) :
    splitOn sep (xs ++ ys) = (splitOn sep ys).modifyHead (xs ++ ·) := by
  induction xs with
  | nil => cases h : splitOn sep ys <;> simp [h]
  | cons x xs ih =>
    have hne : (x == sep) = false := by
      simpa using fun h : x = sep => hx (h ▸ List.mem_cons_self x xs)
    simp only [splitOn, List.splitOn] at ih ⊢
    rw [List.cons_append, List.splitOnP_cons, hne, ih (fun h => hx (List.mem_cons_of_mem x h))]
    simp [Function.comp_def]

theorem splitOn_append_cons {sep : Char} {xs : List Char} (hx : sep ∉ xs) (ys : List Char) :
    splitOn sep (xs ++ sep :: ys) = xs :: splitOn sep ys :=
  List.splitOnP_first _ xs (fun x hmem h => hx (by simpa using (beq_iff_eq.mp h) ▸ hmem)) sep
    (by simp) ys

/-- `sep.join(s.split(sep))` is `s`, so splitting loses nothing. -/
theorem splitOn_injective (c : Char) : Function.Injective (splitOn c) := fun x y h =>
  (List.intercalate_splitOn x c).symm.trans ((congrArg ([c].intercalate) h).trans
    (List.intercalate_splitOn y c))

/-- The pieces of a split hold only characters of the text. -/
theorem mem_of_mem_splitOn {c : Char} {s l : List Char} (hl : l ∈ splitOn c s) {x : Char}
    (hx : x ∈ l) : x ∈ s := by
  induction s generalizing l with
  | nil => simp only [splitOn, List.splitOn_nil, List.mem_singleton] at hl; subst hl; cases hx
  | cons y ys ih =>
    simp only [splitOn, List.splitOn] at hl ih
    rw [List.splitOnP_cons] at hl
    split_ifs at hl
    · rcases List.mem_cons.mp hl with rfl | hl
      · cases hx
      · exact List.mem_cons_of_mem _ (ih hl hx)
    · obtain ⟨h, t, ht⟩ := List.exists_cons_of_ne_nil (List.splitOnP_ne_nil (· == c) ys)
      rw [ht] at hl ih
      rcases List.mem_cons.mp hl with rfl | hl
      · rcases List.mem_cons.mp hx with rfl | hx
        · exact List.mem_cons_self _ _
        · exact List.mem_cons_of_mem _ (ih (List.mem_cons_self _ _) hx)
      · exact List.mem_cons_of_mem _ (ih (List.mem_cons_of_mem _ hl) hx)

/-- A character of `sep.join(pieces)` is the separator or a character of a
piece. -/
theorem mem_intercalate_singleton {c x : Char} {L : List (List Char)} (hx : x ∈ [c].intercalate L) :
    x = c ∨ ∃ l ∈ L, x ∈ l := by
  induction L with
  | nil => cases hx
  | cons a t ih =>
    cases t with
    | nil => exact .inr ⟨a, List.mem_singleton_self a, by simpa [List.intercalate] using hx⟩
    | cons b t =>
      simp only [List.intercalate, List.intersperse_cons_cons, List.flatten_cons, List.mem_append,
        List.mem_singleton] at hx ih
      rcases hx with hx | hx | hx
      · exact .inr ⟨a, List.mem_cons_self _ _, hx⟩
      · exact .inl hx
      · exact (ih hx).imp_right fun ⟨l, hl, hxl⟩ => ⟨l, List.mem_cons_of_mem _ hl, hxl⟩

end WebrtcAnalysis
