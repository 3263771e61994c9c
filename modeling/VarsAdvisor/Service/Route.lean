import VarsAdvisor.Chat.Model

/-!
# Routes

Which methods at which paths ask for which actions. Main definition: `route`.
-/

namespace VarsAdvisor

/-- What the service does. -/
inductive Action where
  | validate
  | annotations
  | close
  | health
  deriving DecidableEq, Repr

/-- The actions by path and method. -/
def routes : List (String × String × Action) :=
  [("/api/validate", "POST", .validate),
    ("/api/annotations", "GET", .annotations),
    ("/api/annotations", "DELETE", .close),
    ("/api/health", "GET", .health)]

/-- Why a method at a path asks for nothing: there is no such path, the path has other methods, or
it has slashes too many at its end. -/
inductive Stray where
  | unknownPath
  | wrongMethod
  | slashed
  deriving DecidableEq, Repr

/-- There is an action at a path. -/
def isKnownPath (path : String) : Bool :=
  routes.any fun (known, _) => known == path

/-- The action that a method at a path asks for. -/
def route (method path : String) : Except Stray Action :=
  match routes.find? fun (p, m, _) => p == path && m == method with
  | some (_, _, action) => .ok action
  | none =>
    if isKnownPath path then .error .wrongMethod
    else if isKnownPath (withoutSlashes path) then .error .slashed
    else .error .unknownPath

end VarsAdvisor
