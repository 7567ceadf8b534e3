import TracerConfig.Filter.Spec
import TracerConfig.Pattern.Search

/-!
# Transaction filters

A specification that passes all checks becomes a filter. Of an ordered list of filters the first
one that matches a url decides its tracing mode; a list with one bad specification gives no
filters at all.

Main definitions:
* `compile`, `compileAll`: the filters of specifications.
* `matchesUrl`: whether a filter matches a url.
* `modeFor`: the mode that a list of filters forces.
-/

namespace TracerConfig

/-- How a filter recognizes urls. -/
inductive Filter.Matcher where
  | pattern (expression : Pattern.Expression)
  | extensions (extensions : List String)

/-- A checked transaction filter. -/
structure Filter where
  matcher : Filter.Matcher
  mode : TracingMode

namespace Filter

/-- Why a specification is refused. -/
inductive Error where
  | regexAndExtensions
  | unknownKind (kind : String)
  | unknownTracing (tracing : String)
  | badPattern (pattern : String) (cause : Pattern.Error)
deriving DecidableEq, Repr

/-- The wording of each cause. -/
def Error.message : Error → String
  | regexAndExtensions => "invalid transaction filter: RegEx and Extensions cannot be set together"
  | unknownKind kind =>
    "invalid transaction filter type: " ++ Text.quoted kind ++ ", only \"url\" is supported"
  | unknownTracing tracing =>
    "invalid transaction filter tracing mode: " ++ Text.quoted tracing ++
      ", should be enabled or disabled"
  | badPattern pattern cause =>
    "invalid transaction filter RegEx " ++ Text.quoted pattern ++ ": " ++ cause.message pattern

/-- The filter of a specification. A specification without pattern and extensions matches
nothing. -/
def compile (s : Spec) : Except Error Filter :=
  if s.pattern?.isSome && !s.extensions.isEmpty then .error .regexAndExtensions
  else if s.kind ≠ Spec.urlKind then .error (.unknownKind s.kind)
  else
    match TracingMode.readCanonical? s.tracing with
    | none => .error (.unknownTracing s.tracing)
    | some mode =>
      match s.pattern? with
      | none => .ok ⟨.extensions s.extensions, mode⟩
      | some p =>
        match Pattern.Expression.parse p with
        | .ok e => .ok ⟨.pattern e, mode⟩
        | .error cause => .error (.badPattern p cause)

/-- The filters of specifications, or what is wrong with the first bad one. -/
def compileAll : List Spec → Except Error (List Filter)
  | [] => .ok []
  | s :: rest =>
    match compile s with
    | .error e => .error e
    | .ok f => (compileAll rest).map (f :: ·)

/-- The part of a url before its query and fragment. -/
def pathOf (url : List Char) : List Char := url.takeWhile fun c => c ≠ '?' && c ≠ '#'

/-- Whether a filter matches a url: a pattern anywhere in it, an extension at the end of its
path. An empty extension matches nothing. -/
def matchesUrl (f : Filter) (url : String) : Bool :=
  match f.matcher with
  | .pattern e => e.isFoundIn url
  | .extensions es =>
    let path := pathOf url.toList
    es.any fun e => e ≠ "" && Text.endsWith e.toList path

/-- The mode forced on a url by the first filter that matches it. -/
def modeFor (filters : List Filter) (url : String) : Option TracingMode :=
  (filters.find? (·.matchesUrl url)).map (·.mode)

end Filter

end TracerConfig
