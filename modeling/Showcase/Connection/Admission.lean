/-!
# Admission to the web-socket endpoint

A request is admitted if it asks for the path of the endpoint and comes from an origin on the list.
An empty list admits every origin, and then a request need not name one.
-/

namespace Showcase.Connection

structure UpgradePolicy where
  path : String
  allowedOrigins : List String
  deriving DecidableEq

/-- What an admission looks at. -/
structure UpgradeRequest where
  /-- What the request asks for: a path, an address, or a star. -/
  target : String
  /-- The bytes of the header that names the origin. -/
  origin : Option (List UInt8) := none
  deriving DecidableEq

def isBlankByte (byte : UInt8) : Bool := byte = 32 || byte = 9

/-- A request as it arrives: blanks around a header are lost on the way. -/
def UpgradeRequest.received (request : UpgradeRequest) : UpgradeRequest :=
  { request with
    origin := request.origin.map fun bytes =>
      ((bytes.dropWhile isBlankByte).reverse.dropWhile isBlankByte).reverse }

inductive Rejection where
  | wrongPath (path : String)
  | missingOrigin
  | forbiddenOrigin (origin : String)
  deriving DecidableEq

namespace Rejection

/-- The status code of the answer. -/
def status : Rejection → Nat
  | wrongPath _ => 404
  | missingOrigin => 403
  | forbiddenOrigin _ => 403

/-- The body of the answer. -/
def body : Rejection → String
  | wrongPath path => "no endpoint at " ++ path
  | missingOrigin => "origin header required"
  | forbiddenOrigin origin => "origin " ++ origin ++ " not allowed"

end Rejection

/-- What stands before a query or a fragment. -/
def beforeQuery (target : List Char) : List Char :=
  target.takeWhile fun c => c != '?' && c != '#'

/-- What stands after the scheme of an address. -/
def afterScheme? : List Char → Option (List Char)
  | ':' :: '/' :: '/' :: rest => some rest
  | _ :: rest => afterScheme? rest
  | [] => none

/-- The path of a target. An address has the path `/` if it gives none; a host alone has no path. -/
def targetPath (target : String) : String :=
  match target.toList with
  | '/' :: rest => String.ofList (beforeQuery ('/' :: rest))
  | ['*'] => "*"
  | chars =>
      match afterScheme? chars with
      | none => ""
      | some rest =>
          match beforeQuery (rest.dropWhile fun c => c != '/' && c != '?' && c != '#') with
          | [] => "/"
          | path => String.ofList path

/-- The text of a header; it has one only if all bytes are tabs or printable ASCII. -/
def headerText? (bytes : List UInt8) : Option String :=
  if bytes.all fun byte => byte = 9 || (32 ≤ byte && byte < 127) then
    some (String.ofList (bytes.map fun byte => Char.ofNat byte.toNat))
  else none

/-- Why a request is not admitted; nothing if it is. -/
def UpgradePolicy.check (policy : UpgradePolicy) (request : UpgradeRequest) : Option Rejection :=
  let path := targetPath request.target
  if path != policy.path then some (.wrongPath path)
  else if policy.allowedOrigins.isEmpty then none
  else match request.origin.bind headerText? with
    | none => some .missingOrigin
    | some origin =>
        if policy.allowedOrigins.contains origin then none else some (.forbiddenOrigin origin)

end Showcase.Connection
