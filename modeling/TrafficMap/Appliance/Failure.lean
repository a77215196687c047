import TrafficMap.Web.Host

/-!
# Failures

A request to the appliance fails in one of the ways of `RequestError`; what the user sees is a
`Failure`, in which the details of the transport are folded away. `Failure.ofRequest` does the
folding.
-/

namespace TrafficMap

open Web (UrlError)

/-- Why a request got no answer. -/
inductive TransportCause where
  /-- No connection could be made. -/
  | connect
  /-- No answer came in time. -/
  | timeout
  /-- The chain of redirects was too long or led nowhere. -/
  | redirect
  /-- Anything else. -/
  | other
  deriving DecidableEq, Repr

/-- Why a request to the appliance failed. -/
inductive RequestError where
  /-- The login was refused, or the session is gone. -/
  | authentication (message : String)
  /-- No answer came; the text names the URL. -/
  | transport (cause : TransportCause) (text : String)
  | invalidUrl (cause : UrlError)
  | tls (message : String)
  /-- The answer's status was not a success. -/
  | status (code : Nat) (endpoint : String)
  /-- The answer's body was not of the expected form. -/
  | malformed (message : String) (body : String)
  deriving DecidableEq, Repr

namespace RequestError

/-- The text of an error. -/
def message : RequestError → String
  | authentication m => "Authentication failed: " ++ m
  | transport _ text => "HTTP transport error: " ++ text
  | invalidUrl cause => "Invalid URL: " ++ cause.message
  | tls m => "TLS error: " ++ m
  | status code endpoint => endpoint ++ " returned HTTP " ++ toString code
  | malformed m _ => "Deserialization error: " ++ m

/-- Whether logging in again may help. -/
def isAuthExpired : RequestError → Bool
  | authentication _ => true
  | _ => false

/-- Whether the next refresh may succeed. -/
def isTransient : RequestError → Bool
  | transport cause _ => cause = .timeout || cause = .connect
  | status code _ => 500 ≤ code
  | _ => false

/-- Whether the appliance has no such page. -/
def isNotFound : RequestError → Bool
  | status code _ => code = 404
  | _ => false

end RequestError

/-- Why a refresh, an icon or a configuration failed. -/
inductive Failure where
  | unreachable (reason : String)
  | authenticationFailed (message : String)
  | timeout
  | status (code : Nat) (endpoint : String)
  | malformedResponse (message : String)
  | icon (path : String) (message : String)
  | configuration (message : String)
  deriving DecidableEq, Repr

namespace Failure

/-- The text of a failure. -/
def message : Failure → String
  | unreachable reason => "Cannot reach appliance: " ++ reason
  | authenticationFailed m => "Authentication failed: " ++ m
  | timeout => "Appliance request timed out"
  | status code endpoint => endpoint ++ " returned HTTP " ++ toString code
  | malformedResponse m => "Malformed appliance response: " ++ m
  | icon path m => "Cannot load icon " ++ path ++ ": " ++ m
  | configuration m => "Configuration error: " ++ m

/-- Whether the next refresh may succeed. -/
def isTransient : Failure → Bool
  | unreachable _ => true
  | timeout => true
  | status code _ => 500 ≤ code
  | _ => false

/-- The failure that a failed request shows as. -/
def ofRequest : RequestError → Failure
  | .authentication m => authenticationFailed m
  | .transport .timeout _ => timeout
  | .transport _ text => unreachable text
  | .invalidUrl cause => configuration ("Invalid URL: " ++ cause.message)
  | .tls m => unreachable ("TLS error: " ++ m)
  | .status code endpoint => status code endpoint
  | .malformed m _ => malformedResponse m

end Failure

end TrafficMap
