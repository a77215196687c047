import TrafficMap.Web.Cookie
import TrafficMap.Web.Reference

/-!
# Sessions

A session sends requests to a server, keeps the cookies that it sets, and follows its redirects. A
server is any function from requests to what becomes of them, with a state of its own.
-/

namespace TrafficMap.Web

/-- How a page is asked for. -/
inductive Method where
  | get | post
  deriving DecidableEq, Repr

/-- A request as it reaches a server. -/
structure Request where
  method : Method
  page : Url
  /-- The path and the query, as they were written. -/
  target : String
  cookies : List Cookie
  /-- The fields of a form as text, if one is sent. -/
  form : Option String
  deriving DecidableEq, Repr

/-- An answer of a server. -/
structure Response where
  status : Nat
  headers : List (String × String)
  body : String
  deriving DecidableEq, Repr

namespace Response

/-- The values of a header, whose name is written in any case. -/
def headerValues (r : Response) (name : String) : List String :=
  (r.headers.filter fun h => Text.asciiLower h.1.toList = Text.asciiLower name.toList).map (·.2)

/-- Whether the status is one of success. -/
def isSuccess (r : Response) : Bool :=
  decide (200 ≤ r.status) && decide (r.status < 300)

/-- The text of an answer; some statuses come without one. -/
def content (r : Response) : String :=
  if r.status = 204 || r.status = 304 then "" else r.body

end Response

/-- What becomes of a request. -/
inductive Delivery where
  /-- No connection could be made. -/
  | refused
  /-- No answer came in time. -/
  | silent
  | answered (response : Response)
  deriving DecidableEq, Repr

/-- How a server reacts to requests, depending on its state. -/
abbrev Server (σ : Type) := σ → Request → σ × Delivery

/-- Why a session has no answer to give. -/
inductive SessionError where
  /-- No connection could be made; the page that was asked for first. -/
  | refused (page : Url)
  /-- No answer came in time; the page that was asked for first. -/
  | silent (page : Url)
  /-- There were too many redirects; the page of the last answer. -/
  | tooManyRedirects (page : Url)
  /-- The scheme of the page is not that of a web server. -/
  | unsupported (page : Url)
  deriving DecidableEq, Repr

namespace SessionError

/-- The text of an error. -/
def message : SessionError → String
  | refused page => "error sending request for url (" ++ page.text ++ ")"
  | silent page => "error sending request for url (" ++ page.text ++ ")"
  | tooManyRedirects page => "error following redirect for url (" ++ page.text ++ ")"
  | unsupported page => "builder error for url (" ++ page.text ++ ")"

end SessionError

/-- The answer to a request, with the page that gave it. -/
structure Answer where
  page : Url
  response : Response
  deriving DecidableEq, Repr

/-- The state of a session: that of the server, the cookies, and the time in seconds from 1970. -/
structure Session (σ : Type) where
  server : σ
  jar : CookieJar := []
  now : Nat := 0

namespace Session

variable {σ : Type}

/-- How many redirects are followed. -/
def redirectLimit : Nat := 10

/-- Sends one request with the cookies for its page, and keeps those that the answer sets. -/
def deliver (server : Server σ) (s : Session σ) (method : Method) (page : Url) (target : String)
    (form : Option String) : Session σ × Delivery :=
  let request : Request := { method, page, target, cookies := s.jar.sent page, form }
  let (state, delivery) := server s.server request
  let jar := match delivery with
    | .answered r => (r.headerValues "Set-Cookie").foldl (fun jar c => jar.set s.now page c) s.jar
    | _ => s.jar
  ({ s with server := state, jar }, delivery)

/-- The method and the form of the request that a redirect leads to: a redirect of one kind repeats
the request, one of the other kind asks for a page. -/
def redirected? (status : Nat) (method : Method) (form : Option String) :
    Option (Method × Option String) :=
  if status = 301 || status = 302 || status = 303 then
    some (.get, if method = .post || status = 303 then none else form)
  else if status = 307 || status = 308 then some (method, form)
  else none

/-- The request that an answer redirects to. -/
def next? (at0 : Reference) (method : Method) (form : Option String) (r : Response) :
    Option (Reference × Method × Option String) :=
  match redirected? r.status method form, (r.headerValues "Location").head? with
  | some (method, form), some location =>
    (at0.follow? location).map fun target => (target, method, form)
  | _, _ => none

/-- Whether a page is one of a web server. -/
def isSupported (page : Url) : Bool :=
  page.scheme = "http" || page.scheme = "https"

/-- Sends a request and follows up to `limit` redirects. -/
def follow (server : Server σ) (first : Url) :
    Nat → Session σ → Reference → Url → Method → Option String →
      Session σ × Except SessionError Answer
  | limit, s, at0, page, method, form =>
    match deliver server s method page at0.target form with
    | (s, .refused) => (s, .error (.refused first))
    | (s, .silent) => (s, .error (.silent first))
    | (s, .answered response) =>
      match next? at0 method form response with
      | none => (s, .ok { page, response })
      | some (target, method, form) =>
        match limit, Url.parse? target.text with
        | 0, _ => (s, .error (.tooManyRedirects page))
        | _ + 1, .error _ => (s, .error (.unsupported first))
        | limit + 1, .ok page =>
          if isSupported page then follow server first limit s target page method form
          else (s, .error (.unsupported page))

/-- Asks for a page. The user name and the password of its URL are not part of the request's
page. -/
def send (server : Server σ) (s : Session σ) (method : Method) (page : Url)
    (form : Option String) : Session σ × Except SessionError Answer :=
  let page := page.withoutUser
  match isSupported page, Reference.parse? page.text.toList with
  | true, some at0 => follow server page redirectLimit s at0 page method form
  | _, _ => (s, .error (.unsupported page))

end Session

end TrafficMap.Web
