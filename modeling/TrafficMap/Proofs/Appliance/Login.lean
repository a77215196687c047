import Mathlib
import TrafficMap.Appliance.Client
import TrafficMap.Proofs.Web.Redirects

/-!
# What a login ends with

The appliance shows the login page to those whom it refuses, so a login is refused by a redirect back
to that page as much as by status 401. The client knows that it was redirected from the URL of the
answer, which must not be the one that it posted to. `Client.login_iff` tells what comes of that: a
login ends as its answer says, unless the redirects end at the very URL that was posted to, and then
they go unnoticed; or the URL of the appliance names a user, which that of an answer without redirects
never does, and then such an answer counts as one with redirects.
-/

namespace TrafficMap.Client

open Web

variable {σ : Type}

/-! ## The status of an answer -/

theorem redirectedToLogin_iff (asked : Url) (a : Answer) :
    redirectedToLogin asked a = true ↔
      a.page ≠ asked ∧ a.page.pathText = pathText loginPath := by
  simp [redirectedToLogin]

/-- An answer is accepted when it is a success and was not redirected to the login page. -/
theorem exists_check_eq_ok_iff (asked : Url) (path : List String) (refusal : String) (a : Answer) :
    (∃ response, check asked path refusal a = .ok response) ↔
      a.response.isSuccess = true ∧ ¬redirectedToLogin asked a = true := by
  unfold check
  split
  · next hrefused =>
    -- no status of success is 401
    rw [Bool.or_eq_true, decide_eq_true_eq] at hrefused
    simp only [reduceCtorEq, exists_false, false_iff, not_and, not_not]
    intro hsuccess
    refine hrefused.resolve_left fun hstatus => ?_
    simp [Response.isSuccess, hstatus] at hsuccess
  · next hrefused =>
    rw [Bool.or_eq_true, decide_eq_true_eq, not_or] at hrefused
    split
    · next hfailed =>
      rw [Bool.not_eq_true'] at hfailed
      simp [hfailed]
    · next hsuccess =>
      rw [Bool.not_eq_true', Bool.not_eq_false] at hsuccess
      simp [hsuccess, hrefused.2]

/-- An answer is refused for want of a login when its status says so or it was redirected to the
login page. -/
theorem check_eq_authentication_iff (asked : Url) (path : List String) (refusal message : String)
    (a : Answer) :
    check asked path refusal a = .error (.authentication message) ↔
      refusal = message ∧ (a.response.status = 401 ∨ redirectedToLogin asked a = true) := by
  unfold check
  split
  · next hrefused =>
    rw [Bool.or_eq_true, decide_eq_true_eq] at hrefused
    simp [hrefused]
  · next hrefused =>
    rw [Bool.or_eq_true, decide_eq_true_eq] at hrefused
    split <;> simp [hrefused]

/-! ## Logging in -/

/-- The answer that a login at a URL gets, after a number of redirects. -/
def LoginAnswered (client : Client) (server : Server σ) (s : Session σ)
    (username password : String) (asked : Url) (hops : Nat) (a : Answer) : Prop :=
  client.base.page loginPath = .ok asked ∧
    s.Answered server .post asked
      (some (Form.encode [("username", username), ("password", password)])) hops a

/-- An answer was reached by redirects that ended on the path of the login page. -/
def BackAtLogin (hops : Nat) (a : Answer) : Prop :=
  0 < hops ∧ a.page.pathText = pathText loginPath

variable {client : Client} {server : Server σ} {s : Session σ} {username password : String}
  {asked : Url} {hops : Nat} {a : Answer}

/-- A page of a server is at the path that it was asked for by. -/
theorem pathText_of_page {base page : Url} {path : List String} (h : base.page path = .ok page) :
    page.pathText = pathText path := by
  unfold Url.page at h
  split at h
  · cases h
  · cases h
    rfl

/-- The client takes an answer for one of the login page when redirects ended there and its URL is
not the one that was posted to, or when there were none and the URL names a user. -/
theorem LoginAnswered.redirectedToLogin_iff
    (h : client.LoginAnswered server s username password asked hops a) :
    redirectedToLogin asked a = true ↔
      (hops = 0 ∧ asked.withoutUser ≠ asked) ∨ (BackAtLogin hops a ∧ a.page ≠ asked) := by
  rw [Client.redirectedToLogin_iff]
  obtain ⟨hasked, hanswered⟩ := h
  cases hops with
  | zero =>
    have hpath : asked.withoutUser.pathText = pathText loginPath := by
      rw [← pathText_of_page hasked]
      rfl
    simp [BackAtLogin, hanswered.page_eq, hpath]
  | succ hops => simp [BackAtLogin, and_comm]

/-- A login has one answer at most. -/
theorem LoginAnswered.exists_iff
    (h : client.LoginAnswered server s username password asked hops a)
    {P : Url → Nat → Answer → Prop} :
    (∃ asked hops a, client.LoginAnswered server s username password asked hops a ∧ P asked hops a) ↔
      P asked hops a := by
  constructor
  · rintro ⟨asked', hops', a', h', hP⟩
    cases h.1.symm.trans h'.1
    obtain ⟨rfl, rfl⟩ := h.2.unique h'.2
    exact hP
  · exact fun hP => ⟨asked, hops, a, h, hP⟩

/-- A login ends as its answer says. -/
theorem login_of_answered (h : client.LoginAnswered server s username password asked hops a) :
    (client.login server s username password).2 =
      (check asked loginPath "invalid credentials" a).map fun _ => () := by
  obtain ⟨hasked, hanswered⟩ := h
  have hsent := Session.send_eq_ok_iff.2 ⟨hops, hanswered⟩
  simp only [login, hasked, hsent]

theorem login_eq_ok_iff (h : client.LoginAnswered server s username password asked hops a) :
    (client.login server s username password).2 = .ok () ↔
      a.response.isSuccess = true ∧ ¬redirectedToLogin asked a = true := by
  rw [login_of_answered h, ← exists_check_eq_ok_iff asked loginPath "invalid credentials"]
  cases check asked loginPath "invalid credentials" a <;> simp [Except.map]

theorem login_eq_authentication_iff
    (h : client.LoginAnswered server s username password asked hops a) (message : String) :
    (client.login server s username password).2 = .error (.authentication message) ↔
      "invalid credentials" = message ∧
        (a.response.status = 401 ∨ redirectedToLogin asked a = true) := by
  rw [login_of_answered h, ← check_eq_authentication_iff asked loginPath]
  cases check asked loginPath "invalid credentials" a <;> simp [Except.map]

/-- A login without an answer neither succeeds nor is refused. -/
theorem login_of_unanswered
    (h : ∀ asked hops a, ¬client.LoginAnswered server s username password asked hops a) :
    (client.login server s username password).2 ≠ .ok () ∧
      ∀ message, (client.login server s username password).2 ≠ .error (.authentication message) := by
  unfold login
  split
  · simp
  · next asked hasked =>
    dsimp only
    split
    · next error _ => cases error <;> simp [ofSessionError]
    · next a hsent =>
      obtain ⟨hops, hanswered⟩ := Session.send_eq_ok_iff.1 hsent
      exact absurd ⟨hasked, hanswered⟩ (h asked hops a)

/-- A login succeeds exactly when its answer is a success and is not taken for the login page; it is
refused exactly when its answer has status 401 or is taken for the login page. It is when redirects
ended on that path at another URL than was posted to, or when there were none and that URL names a
user. -/
theorem login_iff (client : Client) (server : Server σ) (s : Session σ)
    (username password : String) :
    let result := (client.login server s username password).2
    let Answered := client.LoginAnswered server s username password
    (result = .ok () ↔
        ∃ asked hops a, Answered asked hops a ∧ a.response.isSuccess = true ∧
          (BackAtLogin hops a → a.page = asked) ∧ (hops = 0 → asked.withoutUser = asked)) ∧
      ((∃ message, result = .error (.authentication message)) ↔
        ∃ asked hops a, Answered asked hops a ∧
          (a.response.status = 401 ∨ (BackAtLogin hops a ∧ a.page ≠ asked) ∨
            (hops = 0 ∧ asked.withoutUser ≠ asked))) := by
  intro result Answered
  by_cases hanswered : ∃ asked hops a, Answered asked hops a
  · obtain ⟨asked, hops, a, h⟩ := hanswered
    rw [h.exists_iff, h.exists_iff]
    constructor
    · rw [login_eq_ok_iff h, h.redirectedToLogin_iff]
      tauto
    · simp only [result, login_eq_authentication_iff h, h.redirectedToLogin_iff, exists_and_right,
        exists_eq', true_and]
      tauto
  · simp only [not_exists] at hanswered
    obtain ⟨hok, hrefused⟩ := login_of_unanswered hanswered
    constructor
    · refine ⟨fun h => absurd h hok, ?_⟩
      rintro ⟨asked, hops, a, h, -⟩
      exact absurd h (hanswered asked hops a)
    · refine ⟨fun ⟨message, h⟩ => absurd h (hrefused message), ?_⟩
      rintro ⟨asked, hops, a, h, -⟩
      exact absurd h (hanswered asked hops a)

/-- An appliance refuses a login by sending the browser back to the login page: the redirect leads to
the URL that was posted to, and the login counts as a success. -/
theorem login_of_redirect_to_itself :
    let sentBack : Response := { status := 302, headers := [("Location", "/login")], body := "" }
    let shown : Response := { status := 200, headers := [], body := "<form>login</form>" }
    let server : Server Unit := fun state request =>
      (state, .answered (if request.method = .post then sentBack else shown))
    let client : Client :=
      { base :=
          { scheme := "http", authority := some { host := .domain "appliance" }
            path := .segments [""] } }
    let s : Session Unit := { server := () }
    ¬((client.login server s "admin" "secret").2 = .ok () ↔
      ∃ asked hops a, client.LoginAnswered server s "admin" "secret" asked hops a ∧
        a.response.isSuccess = true ∧ ¬BackAtLogin hops a) := by
  intro sentBack shown server client s
  let page : Url := { client.base with path := .segments loginPath }
  let reference : Reference :=
    { scheme := some "http".toList, authority := some "appliance".toList, path := "/login".toList
      query := none, fragment := none }
  have hread : Reference.parse? page.text.toList = some reference := by decide +kernel
  let form := some (Form.encode [("username", "admin"), ("password", "secret")])
  have hnext : Session.next? reference .post form sentBack = some (reference, .get, none) := by
    decide +kernel
  have hpage : Url.parse? reference.text = .ok page := by decide +kernel
  have hanswered :
      client.LoginAnswered server s "admin" "secret" page 1 { page, response := shown } :=
    ⟨rfl, by decide +kernel, by decide, reference, s, hread,
      .redirect rfl hnext hpage (by decide +kernel) (.direct rfl (by decide +kernel))⟩
  have hok : (client.login server s "admin" "secret").2 = .ok () := by decide +kernel
  rw [hanswered.exists_iff]
  exact fun hclaim => (hclaim.1 hok).2 ⟨Nat.one_pos, by decide +kernel⟩

end TrafficMap.Client
