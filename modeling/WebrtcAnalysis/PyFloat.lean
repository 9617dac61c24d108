/-
WebrtcAnalysis/PyFloat.lean

Python's `float`.  A value is an IEEE 754 binary64 number: a finite value is
kept as the exact rational it denotes, next to the two infinities and NaN (the
sign of zero is not tracked; no modelled code reads it).  Rounding is
`roundDouble`: to the nearest double, ties to even, with overflow to an
infinity, the rounding CPython's correctly rounded `float(str)` and float
arithmetic perform.

`pyFloat` is the `float(str)` constructor as CPython runs it.  It first turns
the text into ASCII: white space other than ASCII becomes a space, a decimal
digit of another script becomes its ASCII digit, and any other character
outside ASCII makes the text invalid (`floatChar`).  It then reads the ASCII
text on the grammar of the Python reference (`floatOfAscii`): surrounding
ASCII whitespace (`Py_ISSPACE`, so not the separators `\x1c`–`\x1f` that
`str.isspace` accepts), an optional sign, then `inf`, `infinity` or `nan` in
any case, or a decimal `number [exponent]` whose digit parts may hold single
underscores between digits.  `none` is the `ValueError` it raises.

Besides the constructor: `*`, `+`, division by a positive constant,
`float(n)` of an integer, the comparisons `<` and `<=` (every comparison with
NaN is false), the builtin `max`, and `int(x)`, which raises `OverflowError`
on an infinity and `ValueError` on NaN.

Main result: `pyFloat_digits` — a string of digits below `2 ^ 53` is read
exactly — with the exactness facts of `roundDouble` it rests on.
-/
import WebrtcAnalysis.Builtins
import Mathlib.Data.Rat.Floor

namespace WebrtcAnalysis

/-- A Python `float`. -/
inductive PyFloat
  | finite (q : ℚ)
  | inf (neg : Bool)
  | nan
  deriving DecidableEq, Repr

/-! ### Rounding -/

/-- `a / b` rounded to the nearest natural, ties to even. -/
def roundHalfEven (a b : Nat) : Nat :=
  if 2 * (a % b) < b then a / b
  else if b < 2 * (a % b) then a / b + 1
  else if a / b % 2 = 0 then a / b else a / b + 1

/-- `⌊log₂ n⌋` for `n ≥ 1`, halving at most `fuel` times. -/
def log2Floor : Nat → Nat → Nat
  | 0, _ => 0
  | fuel + 1, n => if n < 2 then 0 else log2Floor fuel (n / 2) + 1

/-- The exponent of the binade of `a / b`, `⌊log₂ (a / b)⌋` for `a, b > 0`: the
difference of the two logarithms, less one when `a / b` lies below that
power of two. -/
def binade (a b : Nat) : Int :=
  let k : Int := (log2Floor a a : Int) - log2Floor b b
  if (if 0 ≤ k then 2 ^ k.toNat * b ≤ a else b ≤ a * 2 ^ (-k).toNat) then k else k - 1

/-- The double nearest to `a / b` (`b > 0`), ties to even, or `none` when it
overflows: the significand is rounded at the exponent of the binade (at
least the subnormal exponent `-1074`), and `2 ^ 1024` or more overflows. -/
def roundMagnitude (a b : Nat) : Option ℚ :=
  let e := max (binade a b - 52) (-1074)
  if 0 ≤ e then
    let m := roundHalfEven a (b * 2 ^ e.toNat) * 2 ^ e.toNat
    if m < 2 ^ 1024 then some (m : ℚ) else none
  else some (mkRat (roundHalfEven (a * 2 ^ (-e).toNat) b) (2 ^ (-e).toNat))

/-- `q` rounded to a binary64 value, as CPython's correctly rounded `float(str)`
and float arithmetic do. -/
def roundDouble (q : ℚ) : PyFloat :=
  if q.num = 0 then .finite 0 else
    match roundMagnitude q.num.natAbs q.den with
    | some v => .finite (if q.num < 0 then -v else v)
    | none => .inf (decide (q.num < 0))

/-! ### `float(str)` -/

/-- The optional sign in front of a number. -/
def takeSign : List Char → Bool × List Char
  | '-' :: t => (true, t)
  | '+' :: t => (false, t)
  | t => (false, t)

/-- The run of digits and underscores at the head of `s`, read as a
`digitpart` (`digit (["_"] digit)*`): its digits and the rest of `s`.  An empty
run reads as no digits; a run that is not a `digitpart` is an error. -/
def digitPart (s : List Char) : Option (List Char × List Char) :=
  let run := s.takeWhile fun c => c.isDigit || c == '_'
  let rest := s.dropWhile fun c => c.isDigit || c == '_'
  if run.isEmpty then some ([], rest)
  else if run.head?.all Char.isDigit && run.getLast?.all Char.isDigit &&
      !(run.zip run.tail).any fun p => p.1 == '_' && p.2 == '_' then
    some (run.filter Char.isDigit, rest)
  else none

/-- The exponent `("e" | "E") [sign] digitpart` that ends a number; `0` when
the number ends without one. -/
def exponentPart : List Char → Option ℤ
  | [] => some 0
  | c :: t =>
    if c = 'e' ∨ c = 'E' then
      match digitPart (takeSign t).2 with
      | some (ds, []) =>
        if ds.isEmpty then none
        else some (if (takeSign t).1 then -(digitsValue ds : ℤ) else digitsValue ds)
      | _ => none
    else none

/-- The exact value of `number [exponent]`, where
`number ::= [digitpart] "." digitpart | digitpart ["."]`. -/
def decimalValue (s : List Char) : Option ℚ := do
  let (ip, r₁) ← digitPart s
  let (fp, r₂) ← match r₁ with
    | '.' :: t => digitPart t
    | _ => some ([], r₁)
  if ip.isEmpty && fp.isEmpty then none
  else
    let ex ← exponentPart r₂
    let d := digitsValue (ip ++ fp)
    if fp.length ≤ ex then some ((d * 10 ^ (ex - fp.length).toNat : ℕ) : ℚ)
    else some (mkRat d (10 ^ (fp.length - ex).toNat))

/-- `Py_ISSPACE`: the ASCII whitespace `float` strips. -/
def isAsciiSpace (c : Char) : Bool :=
  c == ' ' || c == '\t' || c == '\n' || c == '\x0b' || c == '\x0c' || c == '\r'

/-- The ASCII text of `float(str)`, read after stripping ASCII whitespace. -/
def floatOfAscii (s : List Char) : Option PyFloat :=
  let (neg, body) := takeSign (stripWith isAsciiSpace s)
  let word := body.map Char.toLower
  if word = "inf".toList ∨ word = "infinity".toList then some (.inf neg)
  else if word = "nan".toList then some .nan
  else (decimalValue body).map fun q => roundDouble (if neg then -q else q)

/-- `_PyUnicode_TransformDecimalAndSpaceToASCII` on one character: ASCII below
`DEL` is kept, other whitespace becomes a space and other decimal digits their
ASCII digit.  Any other character cuts the text at a `?`, which no float
literal holds: `none`. -/
def floatChar (c : Char) : Option Char :=
  if c.toNat < 127 then some c
  else if isSpace c then some ' '
  else (decimalDigit? c).map fun d => Char.ofNat ('0'.toNat + d)

/-- `float(s)` on a string. -/
def pyFloat (s : List Char) : Option PyFloat :=
  (s.mapM floatChar).bind floatOfAscii

/-- `float` as a computation that raises `ValueError`. -/
def pyFloatE (s : List Char) : Except PyError PyFloat :=
  match pyFloat s with
  | some v => .ok v
  | none => .error .valueError

/-! ### Operations -/

/-- `x * y`; the exact product of two finite values is formed as
`mkRat (a.num * b.num) (a.den * b.den)`, which is `a * b`
(`Rat.mul_eq_mkRat`). -/
def PyFloat.mul : PyFloat → PyFloat → PyFloat
  | .finite a, .finite b => roundDouble (mkRat (a.num * b.num) (a.den * b.den))
  | .inf s, .inf t => .inf (s != t)
  | .inf s, .finite b | .finite b, .inf s => if b = 0 then .nan else .inf (s != decide (b < 0))
  | _, _ => .nan

/-- `float(n)` of an integer, as `n / 1000.0` converts its integer operand
first.  CPython raises `OverflowError` from `2 ^ 1024` on, where this gives an
infinity; numpy's `int64` never gets there. -/
def PyFloat.ofInt (n : ℤ) : PyFloat := roundDouble n

/-- `x + y`. -/
def PyFloat.add : PyFloat → PyFloat → PyFloat
  | .finite a, .finite b => roundDouble (a + b)
  | .inf s, .inf t => if s = t then .inf s else .nan
  | .inf s, .finite _ | .finite _, .inf s => .inf s
  | _, _ => .nan

/-- `x / d` for a positive finite divisor `d` such as `1000.0`: the exact
quotient, rounded; an infinity keeps its sign. -/
def PyFloat.divPos : PyFloat → ℚ → PyFloat
  | .finite a, d => roundDouble (a / d)
  | .inf s, _ => .inf s
  | .nan, _ => .nan

/-- `x < y`. -/
def PyFloat.lt : PyFloat → PyFloat → Bool
  | .finite a, .finite b => decide (a < b)
  | .finite _, .inf neg => !neg
  | .inf neg, .finite _ => neg
  | .inf a, .inf b => a && !b
  | _, _ => false

/-- `x <= y`. -/
def PyFloat.le : PyFloat → PyFloat → Bool
  | .finite a, .finite b => decide (a ≤ b)
  | .finite _, .inf neg => !neg
  | .inf neg, .finite _ => neg
  | .inf a, .inf b => a || !b
  | _, _ => false

/-- The builtin `max` over `m :: xs`: an item replaces the running maximum when
`item > maximum`. -/
def pyMax : PyFloat → List PyFloat → PyFloat
  | m, [] => m
  | m, x :: xs => pyMax (if m.lt x then x else m) xs

/-- `int(x)`: truncation toward zero. -/
def PyFloat.toInt : PyFloat → Except PyError ℤ
  | .finite q => .ok (if 0 ≤ q then ⌊q⌋ else ⌈q⌉)
  | .inf _ => .error .overflowError
  | .nan => .error .valueError

/-! ### Exactness on integers -/

theorem log2Floor_lt {fuel n j : Nat} (hj : 0 < j) (h : n < 2 ^ j) : log2Floor fuel n < j := by
  induction fuel generalizing n j with
  | zero => exact hj
  | succ fuel ih =>
    simp only [log2Floor]
    split
    · exact hj
    · obtain ⟨j, rfl⟩ : ∃ i, j = i + 1 := ⟨j - 1, by omega⟩
      have hj' : 0 < j := by
        rcases Nat.eq_zero_or_pos j with rfl | hj'
        · simp at h; omega
        · exact hj'
      have := ih hj' (show n / 2 < 2 ^ j by rw [Nat.pow_succ] at h; omega)
      omega

@[simp] theorem roundHalfEven_one (k : Nat) : roundHalfEven k 1 = k := by
  simp [roundHalfEven, Nat.mod_one]

theorem binade_le {n : Nat} (h : n < 2 ^ 53) : binade n 1 ≤ 52 := by
  have hlog : log2Floor n n < 53 := log2Floor_lt (by norm_num) h
  simp only [binade]
  split <;> simp [log2Floor] <;> omega

/-- An integer below `2 ^ 53` is a double. -/
theorem roundDouble_natCast {n : ℕ} (h : n < 2 ^ 53) : roundDouble n = .finite n := by
  rcases Nat.eq_zero_or_pos n with rfl | hn
  · rfl
  obtain ⟨j, hj⟩ : ∃ j : ℕ, max (binade n 1 - 52) (-1074) = -(j : ℤ) :=
    ⟨(-max (binade n 1 - 52) (-1074)).toNat, by have := binade_le h; omega⟩
  have hback : mkRat ((n * 2 ^ j : ℕ) : ℤ) (2 ^ j) = n := by
    rw [Rat.mkRat_eq_div]; push_cast; field_simp
  have hmag : roundMagnitude n 1 = some (n : ℚ) := by
    cases j with
    | zero =>
      have hbig : n < 2 ^ 1024 := h.trans (Nat.pow_lt_pow_right (by norm_num) (by norm_num))
      simp [roundMagnitude, hj, hbig]
    | succ j =>
      simp only [roundMagnitude, hj, show ¬ (0 : ℤ) ≤ -((j + 1 : ℕ) : ℤ) by omega, ↓reduceIte,
        neg_neg, Int.toNat_natCast, roundHalfEven_one]
      exact congrArg some hback
  have hn' : (n : ℚ).num ≠ 0 := by simpa using hn.ne'
  have hneg : ¬ (n : ℚ).num < 0 := by simp
  have habs : (n : ℚ).num.natAbs = n := by simp
  simp only [roundDouble, hn', hneg, habs, Rat.den_natCast, hmag, ↓reduceIte]

/-- The product of two integers is exact while it stays below `2 ^ 53`. -/
theorem mul_natCast {a b : ℕ} (h : a * b < 2 ^ 53) :
    (PyFloat.finite a).mul (.finite b) = .finite ((a * b : ℕ) : ℚ) := by
  rw [← roundDouble_natCast h, Nat.cast_mul, Rat.mul_eq_mkRat]; rfl

theorem toInt_natCast (n : ℕ) : (PyFloat.finite n).toInt = .ok n := by
  simp [PyFloat.toInt]

/-- `max` over finite values is the largest of them. -/
theorem pyMax_finite (a : ℚ) (xs : List ℚ) :
    pyMax (.finite a) (xs.map .finite) = .finite (xs.foldl max a) := by
  induction xs generalizing a with
  | nil => rfl
  | cons x xs ih =>
    simp only [List.map_cons, pyMax, PyFloat.lt, List.foldl_cons]
    by_cases hax : a < x
    · simp [hax, max_eq_right hax.le, ih]
    · simp [hax, max_eq_left (not_lt.mp hax), ih]

/-! ### Reading a string of digits -/

theorem toLower_of_isDigit {c : Char} (h : c.isDigit) : c.toLower = c := by
  simp only [Char.isDigit, Bool.and_eq_true, decide_eq_true_eq] at h
  simp only [Char.toLower, Char.isUpper, Bool.and_eq_true, decide_eq_true_eq]
  rw [if_neg]
  rintro ⟨h1, -⟩
  exact absurd (UInt32.le_trans (show (65 : UInt32) ≤ c.val from h1) h.2) (by decide)

theorem takeSign_of_isDigit {d : Char} (t : List Char) (h : d.isDigit) :
    takeSign (d :: t) = (false, d :: t) := by
  unfold takeSign
  split
  · simp_all [show ¬ ('-' : Char).isDigit by decide]
  · simp_all [show ¬ ('+' : Char).isDigit by decide]
  · rfl

theorem isAsciiSpace_of_isDigit {c : Char} (h : c.isDigit) : isAsciiSpace c = false := by
  simp only [isAsciiSpace, Bool.or_eq_false_iff, beq_eq_false_iff_ne, ne_eq]
  refine ⟨⟨⟨⟨⟨?_, ?_⟩, ?_⟩, ?_⟩, ?_⟩, ?_⟩ <;> rintro rfl <;> exact absurd h (by decide)

/-- ASCII text below `DEL` passes the transformation unchanged. -/
theorem mapM_floatChar_of_lt {s : List Char} (h : ∀ c ∈ s, c.toNat < 127) :
    s.mapM floatChar = some s := by
  induction s with
  | nil => rfl
  | cons c s ih =>
    rw [List.mapM_cons, floatChar, if_pos (h c (List.mem_cons_self c s)),
      ih fun x hx => h x (List.mem_cons_of_mem c hx)]
    rfl

/-- A decimal digit of any script becomes an ASCII digit. -/
theorem floatChar_of_isDecimal {c : Char} (h : isDecimal c) : ∃ d, floatChar c = some d ∧ d.isDigit := by
  unfold floatChar
  split
  · exact ⟨c, rfl, isDigit_of_isDecimal h (by omega)⟩
  · rw [if_neg (by simp [isSpace_of_isDecimal h])]
    obtain ⟨v, hv⟩ := Option.isSome_iff_exists.mp h
    have hdigit : ∀ v < 10, (Char.ofNat ('0'.toNat + v)).isDigit := by decide
    exact ⟨_, by rw [hv]; rfl, hdigit v (decimalDigit?_lt_ten hv)⟩

/-- A non-empty string of digits is a whole `digitpart`. -/
theorem digitPart_digits {ds : List Char} (hne : ds ≠ []) (hd : ∀ c ∈ ds, c.isDigit) :
    digitPart ds = some (ds, []) := by
  have hrun : ∀ c ∈ ds, (c.isDigit || c == '_') = true := fun c hc => by simp [hd c hc]
  have hhead : ds.head?.all Char.isDigit := by
    cases ds with
    | nil => exact absurd rfl hne
    | cons d t => simpa using hd d (by simp)
  have hlast : ds.getLast?.all Char.isDigit := by
    cases h : ds.getLast? with
    | none => rfl
    | some x => simpa using hd x (List.mem_of_getLast?_eq_some h)
  have hpairs : (ds.zip ds.tail).any (fun p => p.1 == '_' && p.2 == '_') = false := by
    refine List.any_eq_false.mpr fun p hp => ?_
    have h1 := hd p.1 (List.of_mem_zip hp).1
    intro hu
    simp only [Bool.and_eq_true, beq_iff_eq] at hu
    simp [hu.1] at h1
  simp [digitPart, List.takeWhile_eq_self_iff.mpr hrun, List.dropWhile_eq_nil_iff.mpr hrun,
    hne, hhead, hlast, hpairs, List.filter_eq_self.mpr hd]

/-- **A string of digits below `2 ^ 53` reads exactly**: `float(ds)` is the
number `ds` denotes. -/
theorem pyFloat_digits {ds : List Char} (hne : ds ≠ []) (hd : ∀ c ∈ ds, c.isDigit)
    (hsmall : digitsValue ds < 2 ^ 53) :
    pyFloat ds = some (.finite (digitsValue ds)) := by
  obtain ⟨d, t, rfl⟩ := List.exists_cons_of_ne_nil hne
  have hd0 : d.isDigit := hd d (by simp)
  have hascii : (d :: t).mapM floatChar = some (d :: t) :=
    mapM_floatChar_of_lt fun c hc => by have := toNat_lt_of_isDigit (hd c hc); omega
  have hstrip : stripWith isAsciiSpace (d :: t) = d :: t :=
    stripWith_eq_self fun c hc => isAsciiSpace_of_isDigit (hd c hc)
  have hword : ∀ (c : Char) (w : List Char), c.isDigit = false →
      (d :: t).map Char.toLower ≠ c :: w := by
    intro c w hc heq
    rw [List.map_cons, toLower_of_isDigit hd0, List.cons.injEq] at heq
    rw [← heq.1, hd0] at hc
    cases hc
  have hinf : (d :: t).map Char.toLower ≠ "inf".toList := hword 'i' _ (by decide)
  have hinfinity : (d :: t).map Char.toLower ≠ "infinity".toList := hword 'i' _ (by decide)
  have hnan : (d :: t).map Char.toLower ≠ "nan".toList := hword 'n' _ (by decide)
  have hdec : decimalValue (d :: t) = some ((digitsValue (d :: t) : ℕ) : ℚ) := by
    simp only [decimalValue, digitPart_digits hne hd, exponentPart, Option.bind_eq_bind,
      Option.some_bind, List.isEmpty_cons, Bool.false_and, Bool.false_eq_true, ↓reduceIte,
      List.append_nil, List.length_nil, Nat.cast_zero, le_refl, sub_self, Int.toNat_zero, pow_zero,
      mul_one]
  simp only [pyFloat, hascii, Option.some_bind, floatOfAscii, hstrip, takeSign_of_isDigit t hd0,
    hinf, hinfinity, hnan, or_self, ↓reduceIte, hdec, Option.map_some', Bool.false_eq_true,
    roundDouble_natCast hsmall]

/-! ### NaN, and the order of the other values -/

theorem roundDouble_ne_nan (q : ℚ) : roundDouble q ≠ .nan := by
  unfold roundDouble
  split
  · simp
  · split <;> simp

/-- ASCII text that starts with a digit never reads as NaN. -/
theorem floatOfAscii_ne_nan {d : Char} (hd : d.isDigit) (t : List Char) :
    floatOfAscii (d :: t) ≠ some .nan := by
  obtain ⟨t', ht'⟩ := stripWith_cons (isAsciiSpace_of_isDigit hd) t
  have hnan : (d :: t').map Char.toLower ≠ "nan".toList := by
    rw [List.map_cons, toLower_of_isDigit hd]
    intro h
    have : d = 'n' := (List.cons.inj h).1
    exact absurd (this ▸ hd) (by decide)
  intro h
  simp only [floatOfAscii, ht', takeSign_of_isDigit t' hd, hnan, if_false] at h
  split at h
  · cases h
  · cases hdv : decimalValue (d :: t') <;> simp [hdv, roundDouble_ne_nan] at h

/-- Text that starts with a decimal digit, of any script, never reads as
NaN. -/
theorem pyFloat_ne_nan {d : Char} (hd : isDecimal d) (t : List Char) :
    pyFloat (d :: t) ≠ some .nan := by
  obtain ⟨d', hd', hdigit⟩ := floatChar_of_isDecimal hd
  intro h
  rw [pyFloat, List.mapM_cons, hd'] at h
  cases ht : t.mapM floatChar with
  | none => rw [ht] at h; cases h
  | some t' => rw [ht] at h; exact floatOfAscii_ne_nan hdigit t' h

/-- The values other than NaN in the order of `<`: `-inf`, the finite values,
`inf`. -/
def PyFloat.toExt : PyFloat → WithBot (WithTop ℚ)
  | .finite q => ((q : WithTop ℚ) : WithBot (WithTop ℚ))
  | .inf false => ((⊤ : WithTop ℚ) : WithBot (WithTop ℚ))
  | .inf true => ⊥
  | .nan => ⊥

@[simp]
theorem PyFloat.toExt_finite_le {a b : ℚ} : (PyFloat.finite a).toExt ≤ (PyFloat.finite b).toExt ↔ a ≤ b :=
  WithBot.coe_le_coe.trans WithTop.coe_le_coe

@[simp]
theorem PyFloat.toExt_finite_lt {a b : ℚ} : (PyFloat.finite a).toExt < (PyFloat.finite b).toExt ↔ a < b :=
  WithBot.coe_lt_coe.trans WithTop.coe_lt_coe

/-- Away from NaN, `x < y` is the order of the extended rationals. -/
theorem PyFloat.lt_iff_toExt {a b : PyFloat} (ha : a ≠ .nan) (hb : b ≠ .nan) :
    a.lt b = true ↔ a.toExt < b.toExt := by
  rcases a with p | ⟨_ | _⟩ | _ <;> rcases b with q | ⟨_ | _⟩ | _ <;>
    simp_all [PyFloat.lt, PyFloat.toExt]
  exact WithBot.coe_lt_coe.mpr (WithTop.coe_lt_top p)

/-- Away from NaN, `x <= y` is the order of the extended rationals. -/
theorem PyFloat.le_iff_toExt {a b : PyFloat} (ha : a ≠ .nan) (hb : b ≠ .nan) :
    a.le b = true ↔ a.toExt ≤ b.toExt := by
  rcases a with p | ⟨_ | _⟩ | _ <;> rcases b with q | ⟨_ | _⟩ | _ <;>
    simp_all [PyFloat.le, PyFloat.toExt]

/-- Away from NaN, "not below" is transitive. -/
theorem PyFloat.lt_eq_false_trans {a b c : PyFloat} (ha : a ≠ .nan) (hb : b ≠ .nan)
    (hc : c ≠ .nan) (hab : a.lt b = false) (hbc : b.lt c = false) : a.lt c = false := by
  rw [← Bool.not_eq_true, PyFloat.lt_iff_toExt ha hb, not_lt] at hab
  rw [← Bool.not_eq_true, PyFloat.lt_iff_toExt hb hc, not_lt] at hbc
  rw [← Bool.not_eq_true, PyFloat.lt_iff_toExt ha hc, not_lt]
  exact hbc.trans hab

/-- `<` is asymmetric. -/
theorem PyFloat.lt_eq_false_of_lt {a b : PyFloat} (h : a.lt b = true) : b.lt a = false := by
  rcases a with p | ⟨_ | _⟩ | _ <;> rcases b with q | ⟨_ | _⟩ | _ <;> simp_all [PyFloat.lt]
  exact le_of_lt h

end WebrtcAnalysis
