import Petstore.Http.Method
import Petstore.Routing.Mount
import Petstore.Routing.Template

/-!
# Route tables

The routes of one resource, mounted under one path. A table is built from declarations, and every
declaration is checked: its template has to be well formed, to lie under the mount, and to differ
in method or shape from the routes accepted before it. All faults are reported, in declaration
order.
-/

namespace Petstore

/-- A route: requests of a method on the paths of a template run an operation. What is to be run is
left open; `name` is how the operation is called. -/
structure Route (α : Type) where
  method : Method
  template : PathTemplate
  name : String
  action : α

/-- A route as it is declared, with its template still a text. -/
structure Declaration (α : Type) where
  method : Method
  template : String
  name : String
  action : α

/-- Why a declaration is refused. -/
inductive TableIssue where
  | duplicateRoute (method : Method) (template : String)
  | malformedTemplate (template : String) (reason : TemplateError)
  | outsideMount (template : String) (mount : Mount)
  deriving DecidableEq

/-- The wording of an issue. -/
def TableIssue.text : TableIssue → String
  | duplicateRoute method template => s!"duplicate route {method.name} {template}"
  | malformedTemplate template reason => s!"malformed template `{template}`: {reason.text}"
  | outsideMount template mount =>
    s!"template `{template}` lies outside mount prefix `{mount.text}`"

/-- The issues of a table that could not be built. -/
structure TableError where
  resource : String
  issues : List TableIssue
  deriving DecidableEq

/-- The wording of a table error. -/
def TableError.text (error : TableError) : String :=
  let issues := Text.join ", " (error.issues.map TableIssue.text)
  s!"invalid route table `{error.resource}`: {issues}"

/-- The routes of a resource under their mount. -/
structure RouteTable (α : Type) where
  resource : String
  mount : Mount
  routes : List (Route α)

namespace RouteTable

/-- Check one declaration against the routes accepted before it. -/
def accept (mount : Mount) (accepted : List (Route α)) (declared : Declaration α) :
    Except TableIssue (Route α) :=
  match PathTemplate.parse declared.template with
  | .error reason => .error (.malformedTemplate declared.template reason)
  | .ok template =>
    if !mount.covers declared.template then .error (.outsideMount declared.template mount)
    else if accepted.any fun route =>
        route.method == declared.method && route.template.sameShape template then
      .error (.duplicateRoute declared.method declared.template)
    else .ok ⟨declared.method, template, declared.name, declared.action⟩

/-- The accepted routes and the issues of a list of declarations, in order, behind those of the
declarations before them. -/
def sift (mount : Mount) (accepted : List (Route α)) (issues : List TableIssue) :
    List (Declaration α) → List (Route α) × List TableIssue
  | [] => (accepted, issues)
  | declared :: rest =>
    match accept mount accepted declared with
    | .ok route => sift mount (accepted ++ [route]) issues rest
    | .error issue => sift mount accepted (issues ++ [issue]) rest

/-- The table of the declarations, if all of them are accepted. -/
def build (resource mountPath : String) (declarations : List (Declaration α)) :
    Except TableError (RouteTable α) :=
  let mount := Mount.ofText mountPath
  match sift mount [] [] declarations with
  | (routes, []) => .ok ⟨resource, mount, routes⟩
  | (_, issues) => .error ⟨resource, issues⟩

end RouteTable

end Petstore
