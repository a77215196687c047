import TrafficMap.Appliance.Decode
import TrafficMap.Refresh.Fetch
import TrafficMap.Web.Form
import TrafficMap.Web.Session

/-!
# The client of the appliance

The appliance answers questions about its configuration, its traffic and the devices behind it, and
keeps them behind a login. A session that is missing or has expired shows as a refusal or as a
redirect to the login page, so an answer that redirects ended on that page is never read as data.
-/

namespace TrafficMap

open Web

/-- A client of the appliance at a URL. -/
structure Client where
  base : Url
  deriving DecidableEq, Repr

namespace Client

variable {σ β : Type}

/-- The path of the login page. -/
def loginPath : List String := ["login"]

/-- A path as text. -/
def pathText (path : List String) : String :=
  String.join (path.map ("/" ++ ·))

/-- The error of a request without an answer. -/
def ofSessionError (e : SessionError) : RequestError :=
  match e with
  | .refused _ => .transport .connect e.message
  | .silent _ => .transport .timeout e.message
  | .tooManyRedirects _ => .transport .redirect e.message
  | .unsupported _ => .transport .other e.message

/-- Whether an answer was reached by redirects that ended on the login page. An answer of the page
that was asked for is not. -/
def redirectedToLogin (asked : Url) (a : Answer) : Bool :=
  a.page != asked && a.page.pathText = pathText loginPath

/-- The status of an answer as an error: a missing login, or anything but success. -/
def check (asked : Url) (path : List String) (refusal : String) (a : Answer) :
    Except RequestError Response :=
  if a.response.status = 401 || redirectedToLogin asked a then .error (.authentication refusal)
  else if !a.response.isSuccess then .error (.status a.response.status (pathText path))
  else .ok a.response

/-- Logs in with a name and a password. -/
def login (client : Client) (server : Server σ) (s : Session σ) (username password : String) :
    Session σ × Except RequestError Unit :=
  match client.base.page loginPath with
  | .error e => (s, .error (.invalidUrl e))
  | .ok page =>
    let form := Form.encode [("username", username), ("password", password)]
    let (s, result) := s.send server .post page (some form)
    match result with
    | .error e => (s, .error (ofSessionError e))
    | .ok a => (s, (check page loginPath "invalid credentials" a).map fun _ => ())

/-- Asks for a page with some query, and reads its text. -/
def ask (client : Client) (server : Server σ) (s : Session σ) (path : List String)
    (query : List (String × String)) (read : String → Option β) :
    Session σ × Except RequestError β :=
  match client.base.page path with
  | .error e => (s, .error (.invalidUrl e))
  | .ok page =>
    let page := { page with query := if query.isEmpty then none else some (Form.encode query) }
    let (s, result) := s.send server .get page none
    match result with
    | .error e => (s, .error (ofSessionError e))
    | .ok a =>
      match check page path "session expired or missing" a with
      | .error e => (s, .error e)
      | .ok r =>
        match read r.content with
        | some b => (s, .ok b)
        | none => (s, .error (.malformed "" r.content))

/-- The configuration. -/
def configuration (client : Client) (server : Server σ) (s : Session σ) :
    Session σ × Except RequestError Configuration :=
  client.ask server s ["api", "config"] [] Configuration.ofText?

/-- The statistics. -/
def statistics (client : Client) (server : Server σ) (s : Session σ) :
    Session σ × Except RequestError Statistics :=
  client.ask server s ["api", "stats"] [] Statistics.ofText?

/-- The host name of an address. -/
def hostname (client : Client) (server : Server σ) (s : Session σ) (ip : String) :
    Session σ × Except RequestError HostnameAnswer :=
  client.ask server s ["api", "resolve-hostname"] [("ip", ip)] HostnameAnswer.ofText?

/-- The fingerprint of an address. -/
def deviceInfo (client : Client) (server : Server σ) (s : Session σ) (ip : String) :
    Session σ × Except RequestError DeviceInfo :=
  client.ask server s ["api", "device-info"] [("ip", ip)] DeviceInfo.ofText?

/-- The identity of an address that nothing is known about yet. -/
def identify (client : Client) (server : Server σ) (s : Session σ) (ip : String) :
    Session σ × Identity :=
  let (s, answer) := client.hostname server s ip
  match Resolution.afterHostname ip (answer.map (·.hostname)) with
  | .found identity => (s, identity)
  | _ =>
    let (s, answer) := client.deviceInfo server s ip
    match Resolution.afterInfo ip answer with
    | .found identity => (s, identity)
    | _ => (s, Identity.fallback ip)

/-- The identities of addresses. -/
def identifyEach (client : Client) (server : Server σ) (s : Session σ) :
    List String → Session σ × IdentityMap
  | [] => (s, [])
  | ip :: ips =>
    let (s, identity) := client.identify server s ip
    let (s, rest) := client.identifyEach server s ips
    (s, (ip, identity) :: rest)

/-- The time after which an answer is known: nothing but silence takes time. -/
def delayOf (timeoutMillis : Nat) (result : Except RequestError β) : Nat :=
  match result with
  | .error (.transport .timeout _) => timeoutMillis
  | _ => 0

/-- Fetches a snapshot. -/
def snapshot (client : Client) (server : Server σ) (s : Session σ) (timeoutMillis : Nat) :
    Session σ × Except Failure Snapshot :=
  let (s, config) := client.configuration server s
  let (s, stats) := client.statistics server s
  let joined :=
    Fetch.join ⟨delayOf timeoutMillis config, config⟩ ⟨delayOf timeoutMillis stats, stats⟩
  match joined.2 with
  | .error e => (s, .error (.ofRequest e))
  | .ok (config, stats) =>
    let (s, identities) :=
      client.identifyEach server s (Resolver.sorted (stats.sources.map (·.sourceIp)))
    (s, .ok { config, stats, identities })

end Client

end TrafficMap
