import PanelExport.Js.Regex
import PanelExport.Js.Uri

/-
  The project name a panel is exported under, as `getProjectName`
  of `Panel.tsx` and `getProjectNameFromContext` of the enhanced
  `PanelHeader` compute it during render.

  Both look for an explicit name first and then try six patterns on
  `window.location.pathname`, decoding the first capture with
  `decodeURIComponent` outside any `try`.  `Panel.tsx` also reads
  the panel definition before the path and tries the hash after
  the query, the hash inside `try`; the enhanced header trims what
  it finds and falls back on `Dashboard`.  The query string is read
  by the platform's `URLSearchParams`, taken here as a parameter
  that may answer a value, `null` or an exception; both lookups
  read it inside `try`.

  Main declarations:
    * `Location`, `urlPatterns`, `hashPattern`
    * `firstCapture`, `queryProjectName`, `hashProjectName`
    * `definitionProjectName`, `getProjectName`
    * `Enhanced.getProjectNameFromContext`
-/

------------------------------------------------------------
-- Locations and Patterns
------------------------------------------------------------

namespace PanelExport

/- `window.location`: the parts the lookups read. -/
structure Location where
  pathname : String
  search : String
  hash : String
deriving DecidableEq, Repr

/- The path patterns, in the order both lookups try them. -/
def urlPatterns : List Regex :=
  [⟨literal "/projects/" ++ [.capture (.noneOf ['/'])], false⟩,
    ⟨literal "/project/" ++ [.capture (.noneOf ['/'])], false⟩,
    ⟨literal "/p/" ++ [.capture (.noneOf ['/'])], false⟩,
    ⟨literal "/" ++ [.capture (.noneOf ['/'])] ++ literal "/dashboards", false⟩,
    ⟨literal "/" ++ [.capture (.noneOf ['/'])] ++ literal "/panels", false⟩,
    ⟨literal "/orgs/" ++ [.many (.noneOf ['/'])] ++ literal "/projects/" ++
      [.capture (.noneOf ['/'])], false⟩]

/- `/project[=/]([^&/#]+)/i`. -/
def hashPattern : Regex :=
  ⟨literal "project" ++ [.one (.oneOf ['=', '/']), .capture (.noneOf ['&', '/', '#'])], true⟩

/- A text used as a condition: handed on when it is not empty. -/
def truthyText (t : String) : Option String :=
  if t.isEmpty then none else some t

/- `t && t.trim()`: the trimmed text, when that is not empty. -/
def trimmedText (t : String) : Option String :=
  truthyText (jsTrim t)

/-
  The `for (const pattern of urlPatterns)` loop's choice: the
  capture of the first pattern whose match the guard accepts, as
  the guard hands it on.
-/
def firstCapture (guard : String → Option String) : List Regex → String → Option String
  | [], _ => none
  | re :: rest, path =>
      match ((regexMatch re path).bind id).bind guard with
      | some capture => some capture
      | none => firstCapture guard rest path

------------------------------------------------------------
-- Query, Hash and Definition
------------------------------------------------------------

/-
  `urlParams.get('project') || urlParams.get('projectName')` inside
  `try`, handed on when the guard accepts it; an exception is
  caught.
-/
def queryProjectName
    (guard : String → Option String)
    (searchParams : String → String → Except JsError (Option String))
    (search : String) : Option String :=
  let attempt : Except JsError (Option String) := do
    let project ← searchParams search "project"
    let projectFromQuery ←
      if (project.bind truthyText).isSome then pure project
      else searchParams search "projectName"
    pure (projectFromQuery.bind guard)
  match attempt with
  | .ok name => name
  | .error _ => none

/- The hash lookup of `Panel.tsx` inside `try`: the capture, decoded; an exception is caught. -/
def hashProjectName (hash : String) : Option String :=
  let attempt : Except JsError (Option String) :=
    match ((regexMatch hashPattern hash).bind id).bind truthyText with
    | some capture => some <$> decodeURIComponent capture
    | none => pure none
  match attempt with
  | .ok name => name
  | .error _ => none

example : hashProjectName "#/view?project=%E0" = none := rfl

/- `typeof path === 'string' && path.trim()`: the trimmed string, if any. -/
def trimmedString : JsVal → Option String
  | .str s => trimmedText s
  | _ => none

/- The separators of `name.split(/[-._]/)`. -/
def isNameSeparator (c : Char) : Bool :=
  c = '-' || c = '.' || c = '_'

/-
  The definition step of `getProjectName`, taken when the
  definition is truthy: the first of the nine metadata paths
  holding a string that is not blank, else the part of
  `metadata.name` before its first separator.
-/
def definitionProjectName (definition : JsVal) : Except JsError (Option String) :=
  if !definition.truthy then pure none
  else do
    let metadata ← definition.get "metadata"
    let annotations ← metadata.getOpt "annotations"
    let spec ← definition.get "spec"
    let metadataPaths := [← metadata.getOpt "project",
      ← (← metadata.getOpt "labels").getOpt "project",
      ← annotations.getOpt "project",
      ← annotations.getOpt "project.name",
      ← annotations.getOpt "perses.dev/project",
      ← (← spec.getOpt "metadata").getOpt "project",
      ← spec.getOpt "project",
      ← definition.get "project",
      ← definition.get "projectName"]
    match metadataPaths.findSome? trimmedString with
    | some name => pure (some name)
    | none =>
        match ← metadata.getOpt "name" with
        | .str name =>
            let nameParts := name.data.splitOnP isNameSeparator
            if !name.isEmpty && 1 < nameParts.length then pure (some ⟨nameParts.headD []⟩)
            else pure none
        | _ => pure none

------------------------------------------------------------
-- Lookups
------------------------------------------------------------

/- `getProjectName(explicitProjectName, definition)` of `Panel.tsx`. -/
def getProjectName
    (searchParams : String → String → Except JsError (Option String))
    (location : Location)
    (explicitProjectName : Option String)
    (definition : JsVal) : Except JsError (Option String) :=
  match explicitProjectName.bind truthyText with
  | some name => pure (some name)
  | none => do
      match ← definitionProjectName definition with
      | some name => pure (some name)
      | none =>
          match firstCapture truthyText urlPatterns location.pathname with
          | some capture => some <$> decodeURIComponent capture
          | none =>
              pure ((queryProjectName truthyText searchParams location.search).orElse
                fun _ => hashProjectName location.hash)

namespace Enhanced

/- `getProjectNameFromContext(explicitProjectName)` of the enhanced `PanelHeader`. -/
def getProjectNameFromContext
    (searchParams : String → String → Except JsError (Option String))
    (location : Location)
    (explicitProjectName : Option String) : Except JsError String :=
  match explicitProjectName.bind trimmedText with
  | some name => pure name
  | none =>
      match firstCapture trimmedText urlPatterns location.pathname with
      | some capture => decodeURIComponent capture
      | none => pure ((queryProjectName trimmedText searchParams location.search).getD "Dashboard")

end Enhanced

end PanelExport
