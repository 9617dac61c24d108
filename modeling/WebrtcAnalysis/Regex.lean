/-
WebrtcAnalysis/Regex.lean

The fragment of Python's `re` that the three analysis scripts compile.  Every
pattern they use is a sequence of literal characters, capture-group brackets
and *single-character repeats* (`\d+`, `\w+`, `[^,]+`, `.*?`, `\s*`, ...), with
one top-level alternation (`Time: (\d+) ms|at (\d+) ms`).  For that fragment
the backtracking engine has a direct functional reading:

* a repeat of a character class first measures the longest run of class
  characters, then tries the counts from the longest down (greedy) or from the
  least up (lazy), continuing with the rest of the pattern after each;
* a pattern tries its alternatives in order;
* `re.search` tries the start positions from the left, `re.match` only 0.

Groups are recorded by bracket markers, so a failed branch drops the captures
it made.  Matching recurses structurally on the pattern, and `search` on the
text, so both are plain computable functions.

The classes are those of a `str` pattern: `\d` is a decimal digit of any
script and `\w` a character `str.isalnum` accepts or `_`
(`WebrtcAnalysis.Unicode`), and `\s` is `str.isspace`, which is also what
`str.split()` and `str.strip()` test.

Main results: `matchNodes_lit` (a literal prefix is checked and consumed),
`matchNodes_rep_longest` (a greedy repeat keeps the longest run when the rest
matches after it), and `search_eq_some_iff` (`search` returns the leftmost
position at which the pattern matches).
-/
import WebrtcAnalysis.Builtins

namespace WebrtcAnalysis

/-! ### Character classes -/

/-- The character classes that occur in the scripts' patterns. -/
inductive CharClass
  | digit
  | word
  | space
  | notSpace
  | notNewline
  | noneOf (cs : List Char)
  deriving DecidableEq, Repr

/-- Membership in a class: `\d`, `\w`, `\s`, `[^\s]`, `.` and `[^...]`. -/
def CharClass.test : CharClass → Char → Bool
  | .digit, c => isDecimal c
  | .word, c => isWordChar c
  | .space, c => isSpace c
  | .notSpace, c => !isSpace c
  | .notNewline, c => c != '\n'
  | .noneOf cs, c => !cs.contains c

/-! ### Patterns and captures -/

/-- One element of a pattern: a literal character, a repeat `k{least,}` of a
class (greedy, or lazy when `lazy`), or the bracket opening or closing group
`i`. -/
inductive Node
  | char (c : Char)
  | rep (k : CharClass) (least : Nat) (lazy : Bool)
  | groupOpen (i : Nat)
  | groupClose (i : Nat)
  deriving DecidableEq, Repr

/-- A compiled pattern: its top-level alternatives, tried in order. -/
structure Regex where
  alts : List (List Node)
  deriving DecidableEq, Repr

/-- The literal string `w` as a node sequence. -/
def lit (w : String) : List Node := w.toList.map .char

/-- The group `(n)` numbered `i`. -/
def grp (i : Nat) (n : Node) : List Node := [.groupOpen i, n, .groupClose i]

/-- Captures: the text remaining where each open group started, and the text
of each closed group. -/
structure Caps where
  opened : List (Nat × List Char) := []
  closed : List (Nat × List Char) := []
  deriving DecidableEq, Repr

/-- Open group `i` with `s` still to be read. -/
def Caps.openAt (c : Caps) (i : Nat) (s : List Char) : Caps :=
  { c with opened := (i, s) :: c.opened }

/-- Close group `i` with `s` still to be read: its text is what was consumed
since it opened. -/
def Caps.closeAt (c : Caps) (i : Nat) (s : List Char) : Caps :=
  match c.opened.lookup i with
  | some t => { c with closed := (i, t.take (t.length - s.length)) :: c.closed }
  | none => c

/-- `m.group(i)`: the text of group `i`, `none` when it did not take part. -/
def Caps.group (c : Caps) (i : Nat) : Option (List Char) := c.closed.lookup i

/-! ### The matcher -/

/-- The repeat counts a single-character repeat tries, in the engine's order:
greedy from the longest run of class characters down to `least`, lazy from
`least` up. -/
def repCounts (k : CharClass) (least : Nat) (lazy : Bool) (s : List Char) : List Nat :=
  let counts := List.range' least ((s.takeWhile k.test).length + 1 - least)
  if lazy then counts else counts.reverse

/-- Backtracking match of a node sequence at the head of `s`: the first
success in the engine's order, with the unread rest of `s` and the captures. -/
def matchNodes : List Node → List Char → Caps → Option (List Char × Caps)
  | [], s, caps => some (s, caps)
  | .char c :: ns, s, caps =>
      match s with
      | d :: t => if d = c then matchNodes ns t caps else none
      | [] => none
  | .rep k least lazy :: ns, s, caps =>
      (repCounts k least lazy s).findSome? fun j => matchNodes ns (s.drop j) caps
  | .groupOpen i :: ns, s, caps => matchNodes ns s (caps.openAt i s)
  | .groupClose i :: ns, s, caps => matchNodes ns s (caps.closeAt i s)

/-- A match of pattern `r` starting exactly at the head of `s`. -/
def Regex.matchHere (r : Regex) (s : List Char) : Option (List Char × Caps) :=
  r.alts.findSome? fun ns => matchNodes ns s {}

/-- A successful search: where the match starts, and its captures. -/
structure Match where
  start : Nat
  caps : Caps
  deriving DecidableEq, Repr

/-- `m.group(i)`. -/
def Match.group (m : Match) (i : Nat) : Option (List Char) := m.caps.group i

/-- The text of group `i`, empty when the group did not take part. -/
def Match.chars (m : Match) (i : Nat) : List Char := (m.group i).getD []

/-- `int(m.group(i))` for a group of decimal digits. -/
def Match.int (m : Match) (i : Nat) : Nat := digitsValue (m.chars i)

/-- `m.group(i)` as a string. -/
def Match.str (m : Match) (i : Nat) : String := ⟨m.chars i⟩

/-- Try every start position of `s` from the left; `i` counts the positions
already passed. -/
def Regex.searchFrom (r : Regex) : Nat → List Char → Option Match
  | i, [] => (r.matchHere []).map fun m => ⟨i, m.2⟩
  | i, c :: t =>
      match r.matchHere (c :: t) with
      | some m => some ⟨i, m.2⟩
      | none => r.searchFrom (i + 1) t

/-- `re.search(r, s)`. -/
def Regex.search (r : Regex) (s : List Char) : Option Match := r.searchFrom 0 s

/-- `re.match(r, s)`: the pattern must match at position 0. -/
def Regex.matchStart (r : Regex) (s : List Char) : Option Match :=
  (r.matchHere s).map fun m => ⟨0, m.2⟩

/-! ### Equations of the matcher -/

@[simp] theorem matchNodes_nil (s : List Char) (caps : Caps) :
    matchNodes [] s caps = some (s, caps) := rfl

@[simp] theorem matchNodes_groupOpen (i : Nat) (ns : List Node) (s : List Char) (caps : Caps) :
    matchNodes (.groupOpen i :: ns) s caps = matchNodes ns s (caps.openAt i s) := rfl

@[simp] theorem matchNodes_groupClose (i : Nat) (ns : List Node) (s : List Char) (caps : Caps) :
    matchNodes (.groupClose i :: ns) s caps = matchNodes ns s (caps.closeAt i s) := rfl

theorem matchNodes_char_cons (c d : Char) (ns : List Node) (t : List Char) (caps : Caps) :
    matchNodes (.char c :: ns) (d :: t) caps = if d = c then matchNodes ns t caps else none := rfl

theorem Regex.matchHere_single (ns : List Node) (s : List Char) :
    (⟨[ns]⟩ : Regex).matchHere s = matchNodes ns s {} := by
  simp only [Regex.matchHere, List.findSome?_cons, List.findSome?_nil]
  cases matchNodes ns s {} <;> rfl

/-- A literal prefix is compared with the head of the text and consumed. -/
theorem matchNodes_chars (w : List Char) (ns : List Node) (s : List Char) (caps : Caps) :
    matchNodes (w.map .char ++ ns) s caps =
      if w <+: s then matchNodes ns (s.drop w.length) caps else none := by
  induction w generalizing s with
  | nil => simp
  | cons c w ih =>
    cases s with
    | nil => simp [matchNodes]
    | cons d t =>
      by_cases hd : d = c
      · subst hd
        simp [matchNodes, ih, List.cons_prefix_cons]
      · simp [matchNodes, hd, List.cons_prefix_cons, Ne.symm hd]

theorem matchNodes_lit (w : String) (ns : List Node) (s : List Char) (caps : Caps) :
    matchNodes (lit w ++ ns) s caps =
      if w.toList <+: s then matchNodes ns (s.drop w.toList.length) caps else none :=
  matchNodes_chars w.toList ns s caps

/-- A greedy repeat first tries the whole run of class characters. -/
theorem matchNodes_rep_longest {k : CharClass} {least : Nat} {ns : List Node}
    {s : List Char} {caps : Caps} {res : List Char × Caps}
    (hleast : least ≤ (s.takeWhile k.test).length)
    (hrest : matchNodes ns (s.drop (s.takeWhile k.test).length) caps = some res) :
    matchNodes (.rep k least false :: ns) s caps = some res := by
  obtain ⟨m, hm⟩ := Nat.exists_eq_add_of_le hleast
  have hcount : (s.takeWhile k.test).length + 1 - least = m + 1 := by omega
  simp only [matchNodes, repCounts, hcount, List.range'_concat, List.reverse_append,
    Bool.false_eq_true, ↓reduceIte]
  simp [← hm, hrest]

/-! ### Search -/

/-- When the pattern matches at the first position, that match is the only
leftmost one. -/
theorem leftmost_of_matchHere {r : Regex} {i : Nat} {s : List Char} {res : List Char × Caps}
    {m : Match} (hr : r.matchHere s = some res) :
    (⟨i, res.2⟩ : Match) = m ↔
      ∃ k, m.start = i + k ∧ k ≤ s.length ∧
        (∃ rest, r.matchHere (s.drop k) = some (rest, m.caps)) ∧
        ∀ j < k, r.matchHere (s.drop j) = none := by
  constructor
  · rintro rfl
    exact ⟨0, rfl, Nat.zero_le _, ⟨res.1, by rw [List.drop_zero, hr]⟩, fun j hj => absurd hj (by omega)⟩
  · rintro ⟨k, hk, -, ⟨rest, hm⟩, hbefore⟩
    obtain rfl : k = 0 := Nat.eq_zero_of_not_pos fun hk0 => by simpa [hr] using hbefore 0 hk0
    obtain ⟨start, caps⟩ := m
    rw [List.drop_zero, hr] at hm
    cases hm
    cases hk
    rfl

theorem searchFrom_eq_some_iff {r : Regex} {i : Nat} {s : List Char} {m : Match} :
    r.searchFrom i s = some m ↔
      ∃ k, m.start = i + k ∧ k ≤ s.length ∧
        (∃ rest, r.matchHere (s.drop k) = some (rest, m.caps)) ∧
        ∀ j < k, r.matchHere (s.drop j) = none := by
  induction s generalizing i with
  | nil =>
    cases hr : r.matchHere [] with
    | none => simp [Regex.searchFrom, hr]
    | some res =>
      rw [Regex.searchFrom, hr, Option.map_some', Option.some.injEq]
      exact leftmost_of_matchHere hr
  | cons c t ih =>
    cases hr : r.matchHere (c :: t) with
    | some res =>
      simp only [Regex.searchFrom, hr, Option.some.injEq]
      exact leftmost_of_matchHere hr
    | none =>
      simp only [Regex.searchFrom, hr, ih]
      constructor
      · rintro ⟨k, hk, hkl, hm, hbefore⟩
        refine ⟨k + 1, by omega, by simpa using hkl, by simpa using hm, ?_⟩
        intro j hj
        cases j with
        | zero => simpa using hr
        | succ j => simpa using hbefore j (by omega)
      · rintro ⟨k, hk, hkl, hm, hbefore⟩
        cases k with
        | zero => simp [hr] at hm
        | succ k =>
          exact ⟨k, by omega, by simpa using hkl, by simpa using hm,
            fun j hj => by simpa using hbefore (j + 1) (by omega)⟩

/-- **`re.search` finds the leftmost match**: it starts at the first position
of the text at which one of the alternatives matches. -/
theorem search_eq_some_iff {r : Regex} {s : List Char} {m : Match} :
    r.search s = some m ↔
      m.start ≤ s.length ∧ (∃ rest, r.matchHere (s.drop m.start) = some (rest, m.caps)) ∧
        ∀ j < m.start, r.matchHere (s.drop j) = none := by
  simp only [Regex.search, searchFrom_eq_some_iff, Nat.zero_add]
  constructor
  · rintro ⟨k, hk, h⟩; rw [hk]; exact h
  · intro h; exact ⟨m.start, rfl, h⟩

theorem searchFrom_eq_none_iff {r : Regex} {i : Nat} {s : List Char} :
    r.searchFrom i s = none ↔ ∀ j ≤ s.length, r.matchHere (s.drop j) = none := by
  induction s generalizing i with
  | nil => simp [Regex.searchFrom]
  | cons c t ih =>
    cases hr : r.matchHere (c :: t) with
    | some res => simpa [Regex.searchFrom, hr] using ⟨0, by simp, by simp [hr]⟩
    | none =>
      simp only [Regex.searchFrom, hr, ih]
      constructor
      · intro h j hj
        cases j with
        | zero => simpa using hr
        | succ j => simpa using h j (by simpa using hj)
      · intro h j hj
        simpa using h (j + 1) (by simpa using hj)

/-- `re.search` fails exactly when the pattern matches at no position. -/
theorem search_eq_none_iff {r : Regex} {s : List Char} :
    r.search s = none ↔ ∀ j ≤ s.length, r.matchHere (s.drop j) = none :=
  searchFrom_eq_none_iff

/-- A match at the head of the text is the search result. -/
theorem search_of_matchHere {r : Regex} {s rest : List Char} {caps : Caps}
    (h : r.matchHere s = some (rest, caps)) : r.search s = some ⟨0, caps⟩ := by
  cases s <;> simp [Regex.search, Regex.searchFrom, h]

/-- A pattern that starts with a literal whose first character occurs in the
text only at its head can match only there. -/
theorem search_eq_none_of_head {c : Char} {w : List Char} {ns : List Node} {s : List Char}
    (hw : c ∈ w.head?) (hs : c ∉ s.tail) (h0 : ¬ w <+: s) :
    (⟨[w.map .char ++ ns]⟩ : Regex).search s = none := by
  refine search_eq_none_iff.mpr fun j _ => ?_
  simp only [Regex.matchHere, List.findSome?_cons, List.findSome?_nil, matchNodes_chars]
  cases j with
  | zero => simp [h0]
  | succ j =>
    have hpre : ¬ w <+: s.drop (j + 1) := by
      intro hp
      have hmem : c ∈ s.drop (j + 1) := by
        cases w with
        | nil => simp at hw
        | cons c' w' =>
          obtain rfl : c' = c := by simpa using hw
          exact hp.subset (List.mem_cons_self _ w')
      cases s with
      | nil => simp at hmem
      | cons x t => exact hs (List.mem_of_mem_drop (by simpa using hmem))
    simp [hpre]

/-- A literal that is not a prefix of the fixed head of a text, and no longer
than it, is not a prefix of the text. -/
theorem not_prefix_append {w F X : List Char} (hlen : w.length ≤ F.length) (h : ¬ w <+: F) :
    ¬ w <+: F ++ X := fun hw =>
  h (List.prefix_of_prefix_length_le hw (List.prefix_append F X) hlen)

/-! ### Captures -/

/-- A literal, then a group holding a greedy repeat of at least one class
character, read off a text that has exactly that literal and run: the group
captures the run. -/
theorem matchNodes_lit_grp {w : List Char} {i : Nat} {k : CharClass} {ns : List Node}
    {d rest : List Char} {caps : Caps} {res : List Char × Caps}
    (hd : d ≠ []) (hdk : ∀ c ∈ d, k.test c) (hrest : ∀ c ∈ rest.head?, k.test c = false)
    (h : matchNodes ns rest ((caps.openAt i (d ++ rest)).closeAt i rest) = some res) :
    matchNodes (w.map .char ++ grp i (.rep k 1 false) ++ ns) (w ++ d ++ rest) caps =
      some res := by
  have hrun : (d ++ rest).takeWhile k.test = d := by
    rw [List.takeWhile_append_of_pos hdk]
    cases rest with
    | nil => simp
    | cons c t => simp [List.takeWhile_cons, hrest c (by simp)]
  simp only [List.append_assoc, matchNodes_chars, List.prefix_append, ↓reduceIte,
    List.drop_left, grp, List.cons_append, matchNodes_groupOpen, List.nil_append]
  refine matchNodes_rep_longest ?_ ?_
  · rw [hrun]; exact List.length_pos.mpr hd
  · rw [hrun, List.drop_left]; exact h

@[simp] theorem Caps.group_closeAt_openAt (caps : Caps) (i : Nat) (d rest : List Char) :
    ((caps.openAt i (d ++ rest)).closeAt i rest).group i = some d := by
  simp [Caps.closeAt, Caps.openAt, Caps.group, List.lookup_cons]

theorem Caps.group_closeAt_openAt_ne (caps : Caps) {i j : Nat} (hij : i ≠ j) (s rest : List Char) :
    ((caps.openAt i s).closeAt i rest).group j = caps.group j := by
  have : (j == i) = false := beq_false_of_ne (Ne.symm hij)
  simp [Caps.closeAt, Caps.openAt, Caps.group, List.lookup_cons, this]

@[simp] theorem Caps.group_openAt (caps : Caps) (i j : Nat) (s : List Char) :
    (caps.openAt i s).group j = caps.group j := rfl

theorem Caps.group_closeAt_of_ne (caps : Caps) {i j : Nat} (hij : i ≠ j) (s : List Char) :
    (caps.closeAt i s).group j = caps.group j := by
  have : (j == i) = false := beq_false_of_ne (Ne.symm hij)
  unfold Caps.closeAt
  split <;> simp [Caps.group, List.lookup_cons, this]

theorem Caps.group_closeAt_of_lookup {caps : Caps} {i : Nat} {t : List Char}
    (h : caps.opened.lookup i = some t) (s : List Char) :
    (caps.closeAt i s).group i = some (t.take (t.length - s.length)) := by
  simp [Caps.closeAt, h, Caps.group, List.lookup_cons]

/-! ### Inversion -/

/-- A repeat that matched consumed between `least` characters and the whole run
of class characters at the head of the text. -/
theorem matchNodes_rep_inv {k : CharClass} {least : Nat} {lazy : Bool} {ns : List Node}
    {s : List Char} {caps : Caps} {res : List Char × Caps}
    (h : matchNodes (.rep k least lazy :: ns) s caps = some res) :
    ∃ j, least ≤ j ∧ j ≤ (s.takeWhile k.test).length ∧ matchNodes ns (s.drop j) caps = some res := by
  obtain ⟨j, hj, hm⟩ := List.exists_of_findSome?_eq_some h
  have hr : least ≤ j ∧ j < least + ((s.takeWhile k.test).length + 1 - least) := by
    unfold repCounts at hj
    split at hj <;> simpa [List.mem_range'_1] using hj
  exact ⟨j, hr.1, by omega, hm⟩

/-- Nodes that neither open nor close group `i` leave its capture as it was. -/
theorem matchNodes_group_frame {i : Nat} :
    ∀ {ns : List Node} {s : List Char} {caps : Caps} {res : List Char × Caps},
      (∀ n ∈ ns, n ≠ .groupOpen i ∧ n ≠ .groupClose i) →
      matchNodes ns s caps = some res → res.2.group i = caps.group i
  | [], _, _, _, _, h => by cases h; rfl
  | .char c :: ns, s, caps, res, hns, h => by
    cases s with
    | nil => cases h
    | cons d t =>
      simp only [matchNodes] at h
      split at h
      · exact matchNodes_group_frame (fun n hn => hns n (List.mem_cons_of_mem _ hn)) h
      · cases h
  | .rep k least lazy :: ns, s, caps, res, hns, h => by
    obtain ⟨j, -, -, hm⟩ := matchNodes_rep_inv h
    exact matchNodes_group_frame (fun n hn => hns n (List.mem_cons_of_mem _ hn)) hm
  | .groupOpen j :: ns, s, caps, res, hns, h => by
    rw [matchNodes_groupOpen] at h
    rw [matchNodes_group_frame (fun n hn => hns n (List.mem_cons_of_mem _ hn)) h,
      Caps.group_openAt]
  | .groupClose j :: ns, s, caps, res, hns, h => by
    rw [matchNodes_groupClose] at h
    have hj : j ≠ i := fun hji => (hns _ (List.mem_cons_self _ _)).2 (by rw [hji])
    rw [matchNodes_group_frame (fun n hn => hns n (List.mem_cons_of_mem _ hn)) h,
      Caps.group_closeAt_of_ne _ hj]

end WebrtcAnalysis
