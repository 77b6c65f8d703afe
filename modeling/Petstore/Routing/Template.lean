import Petstore.Text.Pieces
import Petstore.Text.Percent
import Std.Data.ExtTreeMap

/-!
# Path templates

A template such as `/store/order/{orderId}` is a list of segments, each a literal or a parameter
that fills a whole segment. A path matches when it has as many parts as the template has segments,
literals byte for byte and parameters by any part that is not empty; what a parameter captures is
percent-decoded.
-/

namespace Petstore

/-! ## Templates -/

/-- One segment of a template. -/
inductive Segment where
  | literal (text : String)
  | param (name : String)
  deriving DecidableEq, Repr

/-- A segment as it is written. -/
def Segment.text : Segment → String
  | literal text => text
  | param name => String.ofList ('{' :: name.toList ++ ['}'])

/-- The name of a parameter. -/
def Segment.paramName? : Segment → Option String
  | literal _ => none
  | param name => some name

/-- Why a text is no template. -/
inductive TemplateError where
  | missingLeadingSlash
  | emptySegment (position : Nat)
  | malformedParam (segment : String)
  | duplicateParam (name : String)
  deriving DecidableEq, Repr

/-- The wording of a template error. -/
def TemplateError.text : TemplateError → String
  | missingLeadingSlash => "template must start with '/'"
  | emptySegment position => s!"empty segment at position {position}"
  | malformedParam segment => s!"malformed parameter segment `{segment}`"
  | duplicateParam name => s!"parameter `{name}` appears more than once"

/-- A path template. -/
structure PathTemplate where
  segments : List Segment
  deriving DecidableEq, Repr

namespace PathTemplate

/-- The template as it is written. -/
def text (template : PathTemplate) : String :=
  "/" ++ Text.join "/" (template.segments.map Segment.text)

/-- The names of the parameters, left to right. -/
def paramNames (template : PathTemplate) : List String :=
  template.segments.filterMap Segment.paramName?

/-! ## Reading -/

/-- A letter, a digit or an underscore. -/
def isParamChar (c : Char) : Bool :=
  c.isAlphanum || c == '_'

/-- A name that a parameter may have. -/
def isParamName (name : List Char) : Bool :=
  !name.isEmpty && name.all isParamChar

/-- One segment by itself, at a position counted from zero. -/
def readSegment (position : Nat) (raw : List Char) : Except TemplateError Segment :=
  match raw with
  | [] => .error (.emptySegment position)
  | '{' :: inner =>
    if inner.getLast? = some '}' && isParamName inner.dropLast then
      .ok (.param (String.ofList inner.dropLast))
    else .error (.malformedParam (String.ofList raw))
  | raw =>
    if raw.contains '{' || raw.contains '}' then .error (.malformedParam (String.ofList raw))
    else .ok (.literal (String.ofList raw))

/-- The segments from a position on, where `seen` holds the names of the parameters before it. -/
def readSegments (position : Nat) (seen : List String) :
    List (List Char) → Except TemplateError (List Segment)
  | [] => .ok []
  | raw :: rest => do
    let segment ← readSegment position raw
    match segment with
    | .literal _ =>
      return segment :: (← readSegments (position + 1) seen rest)
    | .param name =>
      if seen.contains name then throw (.duplicateParam name)
      return segment :: (← readSegments (position + 1) (name :: seen) rest)

/-- The template that a text stands for, or its leftmost fault. -/
def parse (text : String) : Except TemplateError PathTemplate :=
  match text.toList with
  | ['/'] => .ok ⟨[]⟩
  | '/' :: rest => (readSegments 0 [] (Text.pieces '/' rest)).map PathTemplate.mk
  | _ => .error .missingLeadingSlash

/-! ## Shapes -/

/-- Two segments that accept the same parts. -/
def sameSegmentShape : Segment → Segment → Bool
  | .literal a, .literal b => a == b
  | .param _, .param _ => true
  | _, _ => false

/-- Two lists of segments that accept the same parts. -/
def sameShapes : List Segment → List Segment → Bool
  | [], [] => true
  | a :: as, b :: bs => sameSegmentShape a b && sameShapes as bs
  | _, _ => false

/-- The templates match the same paths, however their parameters are named. -/
def sameShape (a b : PathTemplate) : Bool :=
  sameShapes a.segments b.segments

end PathTemplate

/-! ## Matching -/

/-- Captured parameters by name. -/
abbrev PathParams := Std.ExtTreeMap String String

/-- The parameters of a list of pairs; of pairs with one name the last counts. -/
def PathParams.ofPairs (pairs : List (String × String)) : PathParams :=
  pairs.foldl (fun params pair => params.insert pair.1 pair.2) ∅

namespace PathTemplate

/-- The parts of a path between its slashes; the root has none. -/
def parts? (path : String) : Option (List (List Char)) :=
  match path.toList with
  | ['/'] => some []
  | '/' :: rest => some (Text.pieces '/' rest)
  | _ => none

/-- What the segments capture from the parts, added to the parameters captured before. -/
def capture : List Segment → List (List Char) → PathParams → Option PathParams
  | [], [], params => some params
  | .literal text :: segments, part :: parts, params =>
    if text.toList = part then capture segments parts params else none
  | .param name :: segments, part :: parts, params =>
    if part.isEmpty then none
    else capture segments parts (params.insert name (Percent.decode (String.ofList part)))
  | _, _, _ => none

/-- The parameters captured from a path that matches. -/
def matches? (template : PathTemplate) (path : String) : Option PathParams :=
  (parts? path).bind fun parts => capture template.segments parts ∅

end PathTemplate

end Petstore
