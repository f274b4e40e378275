import Routing.Log.Directive

/-!
# Log filters

A filter is a set of directives, the most specific first. Of several directives with the same scope
the latest counts.
-/

namespace Routing.Log

/-- A filter; either list is in order of decreasing specificity. -/
structure Filter where
  /-- The directives that can be decided without the values of a span. -/
  statics : List Directive
  /-- The directives that depend on the span that is entered. -/
  dynamics : List Directive
  deriving Repr, DecidableEq

namespace Filter

/-- The filter without directives. -/
def empty : Filter := ⟨[], []⟩

/-- Puts a directive into its place; one with the same scope is replaced. -/
def insert (directive : Directive) : List Directive → List Directive
  | [] => [directive]
  | d :: ds =>
    if directive.sameScope d then directive :: ds
    else if directive.precedes d then directive :: d :: ds
    else d :: insert directive ds

/-- The filter with one more directive. -/
def add (filter : Filter) (directive : Directive) : Filter :=
  if directive.isStatic then { filter with statics := insert directive filter.statics }
  else { filter with dynamics := insert directive filter.dynamics }

/-- The filter made from several directives. One that names fields but no values counts both for
spans and without them, there behind the others. -/
def ofDirectives (directives : List Directive) : Filter :=
  let (dynamic, static) := directives.partition (·.isDynamic)
  { statics :=
      (static ++ dynamic.filter (·.isStatic)).foldl (fun ds directive => insert directive ds) []
    dynamics := dynamic.foldl (fun ds directive => insert directive ds) [] }

/-- Reads a filter: directives separated by commas, of which empty ones do not count. There is none
if some directive cannot be read. -/
def ofText? (text : String) : Option Filter :=
  (((Text.pieces (· = ',') text.toList).filter (!·.isEmpty)).mapM Directive.ofText?).map
    ofDirectives

/-- The filter with the directives of a list, separated by commas, added one after the other. Blanks
around a directive do not count, and what cannot be read is skipped. -/
def addAll (filter : Filter) (text : String) : Filter :=
  ((Text.pieces (· = ',') text.toList).filterMap fun piece =>
    Directive.ofText? (Text.stripWhile Text.isBlank piece)).foldl add filter

/-- The filter in its written form. -/
def render (filter : Filter) : String :=
  ",".intercalate ((filter.statics ++ filter.dynamics).map (·.render))

end Filter

end Routing.Log
