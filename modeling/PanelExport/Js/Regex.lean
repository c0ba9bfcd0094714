import PanelExport.Js.Value

/-
  The regular expressions and string methods the project-name
  lookups use.

  A pattern here is a sequence of terms: one character of a
  class, a greedy `class+`, or a greedy `(class+)` that is capture
  group 1.  The engine tries each start position from the left and,
  at a start, backtracks through the lengths of each greedy run
  from the longest down, as the ECMAScript matcher does.  With the
  `i` flag characters compare after `Char.toUpper`; the classes of
  these patterns hold ASCII characters only, and against those this
  is `Canonicalize`.

  Main declarations:
    * `CharClass`, `Term`, `Regex`
    * `matchTerms`, `regexMatch` (`String.prototype.match`)
    * `jsTrim` (`String.prototype.trim`)
    * `mem_of_regexMatch`, `mem_of_mem_jsTrim`, `jsTrim_of_no_space`
    * `matchTerms_literal`, `matchTerms_capture`, `matchTerms_literal_capture`
    * `findSome?_range_first`
-/

------------------------------------------------------------
-- Patterns
------------------------------------------------------------

namespace PanelExport

/- A character class: one character, `[...]` or `[^...]`. -/
inductive CharClass where
  | char (c : Char)
  | oneOf (cs : List Char)
  | noneOf (cs : List Char)
deriving DecidableEq, Repr

/- One term of a pattern: a class once, `class+`, or `(class+)` as group 1. -/
inductive Term where
  | one (k : CharClass)
  | many (k : CharClass)
  | capture (k : CharClass)
deriving DecidableEq, Repr

/- A regular expression literal: its terms and its `i` flag. -/
structure Regex where
  terms : List Term
  ignoreCase : Bool
deriving DecidableEq, Repr

/- The terms of a literal text. -/
def literal (s : String) : List Term :=
  s.data.map fun c => .one (.char c)

/- The character a comparison sees under the `i` flag. -/
def canonicalize (ignoreCase : Bool) (c : Char) : Char :=
  if ignoreCase then c.toUpper else c

/- Whether a class holds a character. -/
def CharClass.accepts (ignoreCase : Bool) (c : Char) : CharClass → Bool
  | .char d => canonicalize ignoreCase c == canonicalize ignoreCase d
  | .oneOf ds => ds.any fun d => canonicalize ignoreCase c == canonicalize ignoreCase d
  | .noneOf ds => !ds.any fun d => canonicalize ignoreCase c == canonicalize ignoreCase d

------------------------------------------------------------
-- Matching
------------------------------------------------------------

/- The length of the run of characters a class holds at the head of a text. -/
def runLength (ignoreCase : Bool) (k : CharClass) : List Char → Nat
  | [] => 0
  | c :: cs => if k.accepts ignoreCase c then runLength ignoreCase k cs + 1 else 0

/-
  Matching terms at the head of a text: `none` when they fail,
  else the capture of group 1 if it took part.  A greedy run tries
  its longest length first.
-/
def matchTerms (ignoreCase : Bool) : List Term → List Char → Option (Option (List Char))
  | [], _ => some none
  | .one _ :: _, [] => none
  | .one k :: ts, c :: cs => if k.accepts ignoreCase c then matchTerms ignoreCase ts cs else none
  | .many k :: ts, cs =>
      (List.range (runLength ignoreCase k cs)).reverse.findSome? fun n =>
        matchTerms ignoreCase ts (cs.drop (n + 1))
  | .capture k :: ts, cs =>
      (List.range (runLength ignoreCase k cs)).reverse.findSome? fun n =>
        (matchTerms ignoreCase ts (cs.drop (n + 1))).map fun _ => some (cs.take (n + 1))

/-
  `s.match(re)` for a pattern without the `g` flag: `none` for
  `null`, else `match[1]`, the capture of group 1 if any, from the
  leftmost start position where the pattern matches.
-/
def regexMatch (re : Regex) (s : String) : Option (Option String) :=
  (List.range (s.length + 1)).findSome? fun i =>
    (matchTerms re.ignoreCase re.terms (s.data.drop i)).map (·.map String.mk)

/- A capture is made of characters of the text it was taken from. -/
theorem mem_of_matchTerms
    {ignoreCase : Bool}
    {terms : List Term}
    {cs capture : List Char}
    (hMatch : matchTerms ignoreCase terms cs = some (some capture)) :
    ∀ c ∈ capture, c ∈ cs := by
  induction terms generalizing cs with
  | nil => simp [matchTerms] at hMatch
  | cons t ts ih =>
      cases t with
      | one k =>
          cases cs with
          | nil => simp [matchTerms] at hMatch
          | cons d ds =>
              simp only [matchTerms] at hMatch
              split at hMatch
              · exact fun c hc => List.mem_cons_of_mem d (ih hMatch c hc)
              · simp at hMatch
      | many k =>
          obtain ⟨n, -, hn⟩ := List.exists_of_findSome?_eq_some hMatch
          exact fun c hc => List.mem_of_mem_drop (ih hn c hc)
      | capture k =>
          obtain ⟨n, -, hn⟩ := List.exists_of_findSome?_eq_some hMatch
          obtain ⟨_, -, hTake⟩ := Option.map_eq_some'.1 hn
          cases hTake
          exact fun c hc => List.mem_of_mem_take hc

theorem mem_of_regexMatch
    {re : Regex}
    {s capture : String}
    (hMatch : regexMatch re s = some (some capture)) :
    ∀ c ∈ capture.data, c ∈ s.data := by
  obtain ⟨i, -, hi⟩ := List.exists_of_findSome?_eq_some hMatch
  obtain ⟨cs, hcs, hCapture⟩ := Option.map_eq_some'.1 hi
  obtain ⟨cap, rfl, rfl⟩ := Option.map_eq_some'.1 hCapture
  exact fun c hc => List.mem_of_mem_drop (mem_of_matchTerms hcs c hc)

------------------------------------------------------------
-- Literals, Runs and Leftmost Starts
------------------------------------------------------------

/- A literal text matches exactly at the texts it starts. -/
theorem matchTerms_literal (lit : List Char) (ts : List Term) (cs : List Char) :
    matchTerms false (lit.map (fun c => Term.one (.char c)) ++ ts) cs =
      if lit <+: cs then matchTerms false ts (cs.drop lit.length) else none := by
  induction lit generalizing cs with
  | nil => simp
  | cons d lit ih =>
      cases cs with
      | nil => simp [matchTerms]
      | cons c cs =>
          by_cases hSame : c = d
          · subst hSame
            simp [matchTerms, CharClass.accepts, canonicalize, ih]
          · have hNe : d ≠ c := Ne.symm hSame
            simp [matchTerms, CharClass.accepts, canonicalize, hSame, hNe]

/- A final capture takes the longest run of its class, and fails on none. -/
theorem matchTerms_capture (k : CharClass) (cs : List Char) :
    matchTerms false [.capture k] cs =
      if 0 < runLength false k cs then some (some (cs.take (runLength false k cs))) else none := by
  unfold matchTerms
  cases runLength false k cs with
  | zero => rfl
  | succ n =>
      simp [List.range_succ, matchTerms]

/- A literal followed by a final capture captures some characters when it matches. -/
theorem matchTerms_literal_capture {lit cs : List Char} {k : CharClass} {x : Option (List Char)}
    (hMatch : matchTerms false (lit.map (fun c => Term.one (.char c)) ++ [.capture k]) cs = some x) :
    ∃ c, x = some c ∧ c ≠ [] := by
  rw [matchTerms_literal] at hMatch
  split at hMatch
  · rw [matchTerms_capture] at hMatch
    split at hMatch
    · rename_i hRun
      cases hMatch
      refine ⟨_, rfl, fun hNil => ?_⟩
      rw [List.take_eq_nil_iff] at hNil
      rcases hNil with h | h
      · omega
      · rw [h] at hRun; simp [runLength] at hRun
    · cases hMatch
  · cases hMatch

/- A run of characters outside `/`, then the end or a `/`. -/
theorem runLength_segment {seg rest : List Char} (hSeg : '/' ∉ seg)
    (hRest : rest.head? = none ∨ rest.head? = some '/') :
    runLength false (.noneOf ['/']) (seg ++ rest) = seg.length := by
  induction seg with
  | nil =>
      rcases rest with _ | ⟨c, rest⟩
      · rfl
      · simp only [List.head?_cons, Option.some.injEq, reduceCtorEq, false_or] at hRest
        subst hRest
        rfl
  | cons c seg ih =>
      simp only [List.mem_cons, not_or] at hSeg
      simp [runLength, CharClass.accepts, canonicalize, Ne.symm hSeg.1, ih hSeg.2]

/- The leftmost start of a search: no earlier start succeeds, this one does. -/
theorem findSome?_range_first {β : Type} {f : Nat → Option β} {k n : Nat} {b : β}
    (hEarlier : ∀ i < k, f i = none) (hAt : f k = some b) (hk : k < n) :
    (List.range n).findSome? f = some b := by
  induction n with
  | zero => omega
  | succ n ih =>
      rw [List.range_succ, List.findSome?_append]
      rcases Nat.lt_succ_iff_lt_or_eq.1 hk with hLt | rfl
      · rw [ih hLt]
        rfl
      · have hNone : (List.range k).findSome? f = none :=
          List.findSome?_eq_none_iff.2 fun i hi => hEarlier i (List.mem_range.1 hi)
        simp [hNone, hAt]


------------------------------------------------------------
-- Trim
------------------------------------------------------------

/- `s.trim()`. -/
def jsTrim (s : String) : String :=
  ⟨((s.data.dropWhile isJsSpace).reverse.dropWhile isJsSpace).reverse⟩

example : jsTrim " 　cpu\n" = "cpu" := rfl

theorem jsTrim_empty : jsTrim "" = "" := rfl

theorem mem_of_mem_jsTrim {s : String} {c : Char} (hc : c ∈ (jsTrim s).data) : c ∈ s.data :=
  List.dropWhile_subset _
    (List.mem_reverse.1 (List.dropWhile_subset _ (List.mem_reverse.1 hc)))

/- Text without JS whitespace is its own trim. -/
theorem jsTrim_of_no_space {s : String} (hNoSpace : ∀ c ∈ s.data, isJsSpace c = false) :
    jsTrim s = s := by
  have hKeep : ∀ l : List Char, (∀ c ∈ l, isJsSpace c = false) → l.dropWhile isJsSpace = l
    | [], _ => rfl
    | c :: l, h => List.dropWhile_cons_of_neg (by simp [h c (List.mem_cons_self c l)])
  rw [jsTrim, hKeep _ hNoSpace, hKeep _ (by simpa using hNoSpace), List.reverse_reverse]

end PanelExport
