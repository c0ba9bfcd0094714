import PanelExport.Panel.ProjectName
import Mathlib.Data.String.Basic

/-
  When the project-name lookups throw.

  Reading the definition returns, the query and hash steps catch
  what they raise, and `decodeURIComponent` raises only `URIError`.
  So the one exception either lookup can raise is the `URIError` of
  decoding the path's capture, and a path without `%` never makes
  it throw.  A path such as `/projects/%E0` does, and both lookups
  run in a `useMemo` during render.

  Main declarations:
    * `getProjectName_error`, `getProjectName_returns`
    * `Enhanced.getProjectNameFromContext_error`
    * `Enhanced.getProjectNameFromContext_returns`
    * `regexMatch_projects`, `project_name_from_projects_segment`
    * `firstCapture_take_five`, `orgs_pattern_never_decides`
    * `project_name_raises_on_malformed_escape`
-/

------------------------------------------------------------
-- Reads That Return
------------------------------------------------------------

namespace PanelExport

namespace JsVal

/- The value `v?.[key]` reads. -/
def optValue (v : JsVal) (key : String) : JsVal :=
  match v.getOpt key with
  | .ok w => w
  | .error _ => .undefined

@[simp] theorem getOpt_eq_ok (v : JsVal) (key : String) : v.getOpt key = .ok (v.optValue key) := by
  cases v <;> rfl

/- A property read on a truthy value returns what `?.` reads. -/
theorem get_eq_ok_of_truthy {v : JsVal} (hTruthy : v.truthy = true) (key : String) :
    v.get key = .ok (v.optValue key) := by
  cases v <;> first | rfl | simp [truthy] at hTruthy

end JsVal

/- Reading a definition returns. -/
theorem definitionProjectName_returns (definition : JsVal) :
    ∃ name, definitionProjectName definition = .ok name := by
  cases hTruthy : definition.truthy
  · simp [definitionProjectName, hTruthy]
  · simp only [definitionProjectName, hTruthy, Bool.not_true, Bool.false_eq_true, if_false,
      JsVal.get_eq_ok_of_truthy hTruthy, JsVal.getOpt_eq_ok, except_ok_bind]
    split
    · exact ⟨_, rfl⟩
    · split
      · split <;> exact ⟨_, rfl⟩
      · exact ⟨_, rfl⟩

------------------------------------------------------------
-- Path Captures
------------------------------------------------------------

theorem truthyText_sub {t u : String} (hText : truthyText t = some u) :
    ∀ c ∈ u.data, c ∈ t.data := by
  unfold truthyText at hText
  split at hText <;> simp_all

theorem trimmedText_sub {t u : String} (hText : trimmedText t = some u) :
    ∀ c ∈ u.data, c ∈ t.data :=
  fun c hc => mem_of_mem_jsTrim (truthyText_sub hText c hc)

/- The capture the path loop hands on is made of characters of the path. -/
theorem mem_of_firstCapture
    {guard : String → Option String}
    (hGuard : ∀ {t u}, guard t = some u → ∀ c ∈ u.data, c ∈ t.data)
    {patterns : List Regex}
    {path capture : String}
    (hCapture : firstCapture guard patterns path = some capture) :
    ∀ c ∈ capture.data, c ∈ path.data := by
  induction patterns with
  | nil => simp [firstCapture] at hCapture
  | cons re rest ih =>
      simp only [firstCapture] at hCapture
      split at hCapture
      · rename_i hGuarded
        cases hCapture
        obtain ⟨m, hm, hg⟩ := Option.bind_eq_some.1 hGuarded
        obtain ⟨o, ho, rfl⟩ := Option.bind_eq_some.1 hm
        exact fun c hc => mem_of_regexMatch ho c (hGuard hg c hc)
      · exact ih hCapture

/- A capture of a path without `%` decodes to itself. -/
theorem decode_firstCapture
    {guard : String → Option String}
    (hGuard : ∀ {t u}, guard t = some u → ∀ c ∈ u.data, c ∈ t.data)
    {path capture : String}
    (hPlain : '%' ∉ path.data)
    (hCapture : firstCapture guard urlPatterns path = some capture) :
    decodeURIComponent capture = .ok capture :=
  decodeURIComponent_plain fun h => hPlain (mem_of_firstCapture hGuard hCapture _ h)

------------------------------------------------------------
-- Lookups
------------------------------------------------------------

section Lookups

variable {searchParams : String → String → Except JsError (Option String)}
variable {location : Location}
variable {explicitProjectName : Option String}

/- `getProjectName` throws only the `URIError` of decoding the path's capture. -/
theorem getProjectName_error
    {definition : JsVal}
    {e : JsError}
    (hError : getProjectName searchParams location explicitProjectName definition = .error e) :
    e = .uriError ∧ ∃ capture, firstCapture truthyText urlPatterns location.pathname = some capture ∧
      decodeURIComponent capture = .error .uriError := by
  obtain ⟨fromDefinition, hFrom⟩ := definitionProjectName_returns definition
  unfold getProjectName at hError
  split at hError
  · cases hError
  · rw [hFrom, except_ok_bind] at hError
    split at hError
    · cases hError
    · split at hError
      · rename_i capture hCapture
        have hDecode := (except_map_eq_error _ _ _).1 hError
        obtain rfl := decodeURIComponent_error hDecode
        exact ⟨rfl, capture, hCapture, hDecode⟩
      · cases hError

/- `getProjectName` returns on every path without `%`. -/
theorem getProjectName_returns
    (definition : JsVal)
    (hPlain : '%' ∉ location.pathname.data) :
    ∃ name, getProjectName searchParams location explicitProjectName definition = .ok name := by
  cases hResult : getProjectName searchParams location explicitProjectName definition with
  | ok name => exact ⟨name, rfl⟩
  | error e =>
      obtain ⟨-, capture, hCapture, hDecode⟩ := getProjectName_error hResult
      rw [decode_firstCapture truthyText_sub hPlain hCapture] at hDecode
      cases hDecode

namespace Enhanced

/- `getProjectNameFromContext` throws only the `URIError` of decoding the path's capture. -/
theorem getProjectNameFromContext_error
    {e : JsError}
    (hError : getProjectNameFromContext searchParams location explicitProjectName = .error e) :
    e = .uriError ∧ ∃ capture, firstCapture trimmedText urlPatterns location.pathname = some capture ∧
      decodeURIComponent capture = .error .uriError := by
  unfold getProjectNameFromContext at hError
  split at hError
  · cases hError
  · split at hError
    · rename_i capture hCapture
      obtain rfl := decodeURIComponent_error hError
      exact ⟨rfl, capture, hCapture, hError⟩
    · cases hError

/- `getProjectNameFromContext` returns on every path without `%`. -/
theorem getProjectNameFromContext_returns (hPlain : '%' ∉ location.pathname.data) :
    ∃ name, getProjectNameFromContext searchParams location explicitProjectName = .ok name := by
  cases hResult : getProjectNameFromContext searchParams location explicitProjectName with
  | ok name => exact ⟨name, rfl⟩
  | error e =>
      obtain ⟨-, capture, hCapture, hDecode⟩ := getProjectNameFromContext_error hResult
      rw [decode_firstCapture trimmedText_sub hPlain hCapture] at hDecode
      cases hDecode

end Enhanced

end Lookups

------------------------------------------------------------
-- The Projects Segment
------------------------------------------------------------

/-
  On a path whose first `/projects/` is followed by a segment, the
  `/projects/([^/]+)/` pattern captures that whole segment.
-/
theorem regexMatch_projects
    {pre seg rest : String}
    (hFirst : ¬ "/projects/".data <:+: (pre ++ "/projects").data)
    (hSeg : seg ≠ "")
    (hSlash : '/' ∉ seg.data)
    (hRest : rest.data.head? = none ∨ rest.data.head? = some '/') :
    regexMatch ⟨literal "/projects/" ++ [.capture (.noneOf ['/'])], false⟩
      (pre ++ "/projects/" ++ seg ++ rest) = some (some seg) := by
  have hLit : "/projects/".data = "/projects".data ++ ['/'] := rfl
  have hData : (pre ++ "/projects/" ++ seg ++ rest).data =
      pre.data ++ ("/projects/".data ++ (seg.data ++ rest.data)) := by simp
  have hSegLength : 0 < seg.data.length := by
    rcases seg with ⟨_ | ⟨c, cs⟩⟩
    · exact absurd rfl hSeg
    · simp
  refine findSome?_range_first (k := pre.length) (fun i hi => ?_) ?_ ?_
  · simp only [regexMatch, literal, hData, matchTerms_literal]
    rw [if_neg fun hPrefix => hFirst ?_]
    · rfl
    have hDrop : (pre.data ++ ("/projects/".data ++ (seg.data ++ rest.data))).drop i =
        (pre.data.drop i ++ "/projects".data) ++ ('/' :: (seg.data ++ rest.data)) := by
      rw [List.drop_append_of_le_length (Nat.le_of_lt hi), hLit]
      simp
    rw [hDrop] at hPrefix
    have hShort : "/projects/".data <+: pre.data.drop i ++ "/projects".data :=
      List.prefix_of_prefix_length_le hPrefix (List.prefix_append _ _) (by
        have hi' : i < pre.data.length := hi
        simp only [List.length_append, List.length_drop]
        change 10 ≤ pre.data.length - i + 9
        omega)
    refine hShort.isInfix.trans ⟨pre.data.take i, [], ?_⟩
    rw [List.append_nil, ← List.append_assoc, List.take_append_drop]
    simp
  · have hDropAt : (pre.data ++ ("/projects/".data ++ (seg.data ++ rest.data))).drop pre.length =
        "/projects/".data ++ (seg.data ++ rest.data) := List.drop_left' rfl
    simp only [regexMatch, literal, hData, hDropAt, matchTerms_literal, List.prefix_append,
      if_true, List.drop_left, matchTerms_capture, runLength_segment hSlash hRest, hSegLength,
      List.take_left]
    rfl
  · have hLength : pre.length ≤ (pre ++ "/projects/" ++ seg ++ rest).length := by
      simp only [String.length_append]
      omega
    omega


/- Both path guards hand on the `/projects/` segment. -/
theorem firstCapture_projects
    {guard : String → Option String}
    {pre seg rest name : String}
    (hFirst : ¬ "/projects/".data <:+: (pre ++ "/projects").data)
    (hSeg : seg ≠ "")
    (hSlash : '/' ∉ seg.data)
    (hRest : rest.data.head? = none ∨ rest.data.head? = some '/')
    (hGuard : guard seg = some name) :
    firstCapture guard urlPatterns (pre ++ "/projects/" ++ seg ++ rest) = some name := by
  simp only [urlPatterns, firstCapture, regexMatch_projects hFirst hSeg hSlash hRest,
    Option.some_bind, id, hGuard]

/-
  When neither an explicit name nor the definition names a project,
  both lookups take the segment after the path's first
  `/projects/`: `Panel.tsx` decodes it, the enhanced header decodes
  it trimmed.
-/
theorem project_name_from_projects_segment
    (searchParams : String → String → Except JsError (Option String))
    (location : Location)
    (definition : JsVal)
    {pre seg rest : String}
    (hPath : location.pathname = pre ++ "/projects/" ++ seg ++ rest)
    (hFirst : ¬ "/projects/".data <:+: (pre ++ "/projects").data)
    (hSeg : jsTrim seg ≠ "")
    (hSlash : '/' ∉ seg.data)
    (hRest : rest.data.head? = none ∨ rest.data.head? = some '/')
    (hDefinition : definitionProjectName definition = .ok none) :
    getProjectName searchParams location none definition = some <$> decodeURIComponent seg ∧
      Enhanced.getProjectNameFromContext searchParams location none =
        decodeURIComponent (jsTrim seg) := by
  have hNonempty : seg ≠ "" := fun h => hSeg (h ▸ jsTrim_empty)
  have hTruthy : truthyText seg = some seg := by
    simpa [truthyText] using fun h => hNonempty ((String.isEmpty_iff _).1 h)
  have hTrimmed : trimmedText seg = some (jsTrim seg) := by
    simpa [trimmedText, truthyText] using fun h => hSeg ((String.isEmpty_iff _).1 h)
  constructor
  · simp only [getProjectName, Option.none_bind, hDefinition, except_ok_bind, hPath,
      firstCapture_projects hFirst hNonempty hSlash hRest hTruthy]
  · simp only [Enhanced.getProjectNameFromContext, Option.none_bind, hPath,
      firstCapture_projects hFirst hNonempty hSlash hRest hTrimmed]

/- A Perses dashboard path. -/
theorem project_name_from_projects_segment_on_sample :
    getProjectName (fun _ _ => .ok none) ⟨"/projects/demo/dashboards/cpu", "", ""⟩ none
        .undefined = .ok (some "demo") ∧
      Enhanced.getProjectNameFromContext (fun _ _ => .ok none)
        ⟨"/projects/demo/dashboards/cpu", "", ""⟩ none = .ok "demo" :=
  @project_name_from_projects_segment (fun _ _ => .ok none)
    ⟨"/projects/demo/dashboards/cpu", "", ""⟩ .undefined "" "demo" "/dashboards/cpu" rfl
    (by decide) (by decide) (by decide) (.inr rfl) rfl

------------------------------------------------------------
-- The Orgs Pattern
------------------------------------------------------------

/-
  Where `/orgs/[^/]+/projects/([^/]+)` matches, `/projects/([^/]+)`
  matches too, at the `/projects/` it went through, with the same capture.
-/
theorem matchTerms_orgs {cs : List Char} {x : Option (List Char)}
    (hMatch : matchTerms false (literal "/orgs/" ++ [.many (.noneOf ['/'])] ++
      literal "/projects/" ++ [.capture (.noneOf ['/'])]) cs = some x) :
    ∃ j, matchTerms false (literal "/projects/" ++ [.capture (.noneOf ['/'])]) (cs.drop j) =
      some x := by
  simp only [literal, List.append_assoc, List.singleton_append] at hMatch
  rw [matchTerms_literal] at hMatch
  split at hMatch
  · simp only [matchTerms] at hMatch
    obtain ⟨n, -, hn⟩ := List.exists_of_findSome?_eq_some hMatch
    refine ⟨"/orgs/".data.length + (n + 1), ?_⟩
    rw [← List.drop_drop]
    simpa [literal] using hn
  · cases hMatch

/- The `/projects/` pattern needs a character to match. -/
theorem matchTerms_projects_nil :
    matchTerms false (literal "/projects/" ++ [.capture (.noneOf ['/'])]) [] = none := rfl

/-
  Where the `/orgs/` pattern captures, the `/projects/` pattern
  captures too, some characters.
-/
theorem regexMatch_projects_of_orgs {path c : String}
    (hOrgs : regexMatch ⟨literal "/orgs/" ++ [.many (.noneOf ['/'])] ++ literal "/projects/" ++
      [.capture (.noneOf ['/'])], false⟩ path = some (some c)) :
    ∃ c', regexMatch ⟨literal "/projects/" ++ [.capture (.noneOf ['/'])], false⟩ path =
      some (some c') ∧ c' ≠ "" := by
  obtain ⟨i, -, hi⟩ := List.exists_of_findSome?_eq_some hOrgs
  obtain ⟨x, hx, -⟩ := Option.map_eq_some'.1 hi
  obtain ⟨j, hj⟩ := matchTerms_orgs hx
  rw [List.drop_drop] at hj
  have hStart : i + j < path.length + 1 := by
    by_contra hLate
    rw [List.drop_eq_nil_of_le (show path.data.length ≤ i + j by
        change ¬ i + j < path.data.length + 1 at hLate; omega),
      matchTerms_projects_nil] at hj
    cases hj
  obtain ⟨y, hy⟩ := Option.isSome_iff_exists.1 (List.findSome?_isSome_iff.2
    ⟨i + j, List.mem_range.2 hStart, by simp [hj]⟩ :
      (regexMatch ⟨literal "/projects/" ++ [.capture (.noneOf ['/'])], false⟩ path).isSome)
  obtain ⟨i', -, hi'⟩ := List.exists_of_findSome?_eq_some hy
  obtain ⟨z, hz, rfl⟩ := Option.map_eq_some'.1 hi'
  obtain ⟨c', rfl, hNonempty⟩ := @matchTerms_literal_capture "/projects/".data _ _ _ hz
  exact ⟨⟨c'⟩, hy, fun h => hNonempty (congrArg String.data h)⟩

/- A pattern whose guarded capture is `none` can be dropped from the end of the loop. -/
theorem firstCapture_append_of_none
    {guard : String → Option String}
    {re : Regex}
    {path : String}
    (hNone : ((regexMatch re path).bind id).bind guard = none)
    (patterns : List Regex) :
    firstCapture guard (patterns ++ [re]) path = firstCapture guard patterns path := by
  induction patterns with
  | nil => simp only [List.nil_append, firstCapture, hNone]
  | cons p rest ih => rw [List.cons_append, firstCapture, firstCapture, ih]

/-
  For a guard that hands on every capture that is not empty, the
  sixth pattern never decides the capture: wherever it matches, the
  first pattern does.
-/
theorem firstCapture_take_five
    {guard : String → Option String}
    {path : String}
    (hGuard : ∀ c, c ≠ "" → (∀ ch ∈ c.data, ch ∈ path.data) → (guard c).isSome) :
    firstCapture guard urlPatterns path = firstCapture guard (urlPatterns.take 5) path := by
  cases hFirst : ((regexMatch ⟨literal "/projects/" ++ [.capture (.noneOf ['/'])], false⟩
      path).bind id).bind guard with
  | some name =>
      simp only [urlPatterns, List.take, firstCapture, hFirst]
  | none =>
      have hOrgs : ((regexMatch ⟨literal "/orgs/" ++ [.many (.noneOf ['/'])] ++
          literal "/projects/" ++ [.capture (.noneOf ['/'])], false⟩ path).bind id).bind
            guard = none := by
        cases hMatch : regexMatch ⟨literal "/orgs/" ++ [.many (.noneOf ['/'])] ++
            literal "/projects/" ++ [.capture (.noneOf ['/'])], false⟩ path with
        | none => rfl
        | some capture =>
            cases capture with
            | none => rfl
            | some c =>
                obtain ⟨c', hProjects, hNonempty⟩ := regexMatch_projects_of_orgs hMatch
                obtain ⟨name, hName⟩ := Option.isSome_iff_exists.1
                  (hGuard c' hNonempty (mem_of_regexMatch hProjects))
                simp [hProjects, hName] at hFirst
      exact firstCapture_append_of_none hOrgs (urlPatterns.take 5)

/-
  The sixth URL pattern, `/orgs/[^/]+/projects/([^/]+)`, never
  decides the project name of a path in `Panel.tsx`: the first
  pattern matches wherever it does and its capture passes the
  truthiness guard.  The enhanced header trims the capture first, so
  there the same holds for paths without JS whitespace.
-/
theorem orgs_pattern_never_decides (path : String) :
    firstCapture truthyText urlPatterns path = firstCapture truthyText (urlPatterns.take 5) path ∧
      ((∀ ch ∈ path.data, isJsSpace ch = false) →
        firstCapture trimmedText urlPatterns path =
          firstCapture trimmedText (urlPatterns.take 5) path) := by
  have hTruthy : ∀ c : String, c ≠ "" → (truthyText c).isSome := fun c hc => by
    simp [truthyText, String.isEmpty_iff, hc]
  refine ⟨firstCapture_take_five fun c hc _ => hTruthy c hc, fun hNoSpace => ?_⟩
  refine firstCapture_take_five fun c hc hSub => ?_
  rw [trimmedText, jsTrim_of_no_space fun ch hch => hNoSpace ch (hSub ch hch)]
  exact hTruthy c hc

/- An organisation's project path. -/
theorem orgs_pattern_never_decides_on_sample :
    (∀ ch ∈ "/orgs/o/projects/p".data, isJsSpace ch = false) ∧
      firstCapture trimmedText urlPatterns "/orgs/o/projects/p" = some "p" := by
  have hNoSpace : ∀ ch ∈ "/orgs/o/projects/p".data, isJsSpace ch = false := by decide
  exact ⟨hNoSpace, by rw [(orgs_pattern_never_decides _).2 hNoSpace]; rfl⟩

/-
  With whitespace the enhanced header can reach the sixth pattern: a
  blank first `/projects/` segment trims to nothing.
-/
example :
    firstCapture trimmedText urlPatterns "/projects/ /orgs/o/projects/p" = some "p" ∧
      firstCapture trimmedText (urlPatterns.take 5) "/projects/ /orgs/o/projects/p" = none := by
  decide

------------------------------------------------------------
-- Malformed Escapes
------------------------------------------------------------

/-
  A project segment that is a malformed escape: both lookups throw
  `URIError`, whatever the query string and the hash hold.  On a
  path without `%` both return.
-/
theorem project_name_raises_on_malformed_escape
    (searchParams : String → String → Except JsError (Option String))
    (search hash : String) :
    getProjectName searchParams ⟨"/projects/%E0", search, hash⟩ none .undefined =
        .error .uriError ∧
      Enhanced.getProjectNameFromContext searchParams ⟨"/projects/%E0", search, hash⟩ none =
        .error .uriError ∧
      (∀ location explicitProjectName definition, '%' ∉ location.pathname.data →
        ∃ name, getProjectName searchParams location explicitProjectName definition = .ok name) ∧
      (∀ location explicitProjectName, '%' ∉ location.pathname.data →
        ∃ name, Enhanced.getProjectNameFromContext searchParams location explicitProjectName =
          .ok name) :=
  ⟨rfl, rfl, fun _ _ definition hPlain => getProjectName_returns definition hPlain,
    fun _ _ hPlain => Enhanced.getProjectNameFromContext_returns hPlain⟩

end PanelExport
