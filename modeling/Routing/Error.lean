import Routing.Template.Defect

/-!
# Errors

What can go wrong when routes are registered, requests are built and handlers are called. A request
that no route matches is no error.
-/

namespace Routing

/-- A reason for which the target of a request cannot be read as a URL. -/
inductive UrlDefect where
  /-- The host is missing where the scheme needs one. -/
  | emptyHost
  /-- The port is not a number below 2^16. -/
  | invalidPort
  /-- The host ends in a number but is no IPv4 address. -/
  | invalidIpv4
  /-- The host is in brackets but is no IPv6 address. -/
  | invalidIpv6
  /-- The host holds a character that no host may hold. -/
  | invalidHostCharacter
  /-- The host is no domain name. -/
  | invalidDomain
  deriving Repr, DecidableEq

namespace UrlDefect

/-- The defect in words. -/
def message : UrlDefect → String
  | emptyHost => "empty host"
  | invalidPort => "invalid port number"
  | invalidIpv4 => "invalid IPv4 address"
  | invalidIpv6 => "invalid IPv6 address"
  | invalidHostCharacter => "invalid domain character"
  | invalidDomain => "invalid international domain name"

end UrlDefect

/-- A reason for which data cannot form a request. -/
inductive RequestDefect where
  /-- The method is blank. -/
  | blankMethod
  /-- The target is no URL. -/
  | badTarget (target : String) (defect : UrlDefect)
  /-- The target has a path that does not begin with a slash. -/
  | rootlessTarget (target : String)
  /-- The source of the request has failed. -/
  | sourceFailed (reason : String)
  deriving Repr, DecidableEq

namespace RequestDefect

/-- The defect in words. -/
def message : RequestDefect → String
  | blankMethod => "request method must not be empty"
  | badTarget target defect => "invalid request target '" ++ target ++ "': " ++ defect.message
  | rootlessTarget target => "invalid request target '" ++ target ++ "': path must start with '/'"
  | sourceFailed reason => reason

end RequestDefect

/-- An error of the router and its parts. -/
inductive Error where
  /-- The method of a route is none of the allowed ones. -/
  | invalidMethod (method : String)
  /-- No handler has been registered under the name. -/
  | invalidHandler (name : String)
  /-- The template of a route cannot be compiled. -/
  | malformedTemplate (template : String) (defect : TemplateDefect)
  /-- The parameter has a value that must not be replaced. -/
  | duplicateParam (key : String)
  /-- The handler of a route has failed. -/
  | notInvocable (url reason : String)
  /-- The data cannot form a request. -/
  | invalidRequest (defect : RequestDefect)
  deriving Repr, DecidableEq

namespace Error

/-- The error in words. -/
def message : Error → String
  | invalidMethod method => "HTTP method '" ++ method ++ "' is not allowed"
  | invalidHandler name => "no invocable handler registered as '" ++ name ++ "'"
  | malformedTemplate template defect =>
    "malformed route template '" ++ template ++ "': " ++ defect.message
  | duplicateParam key => "parameter '" ++ key ++ "' is already defined"
  | notInvocable url reason => "handler for route '" ++ url ++ "' could not be invoked: " ++ reason
  | invalidRequest defect => "invalid request: " ++ defect.message

end Error

end Routing
