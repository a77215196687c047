import Mathlib
import TrafficMap.Web.Session

/-!
# Redirects

A request is answered after a number of redirects: `Session.Reaches` relates a request that a session
is about to send to the answer in the end, however many redirects lie between them, and is a function
of the request (`Reaches.unique`). Following redirects up to a limit gives an answer exactly when one
is reached by no more of them (`follow_of_reaches`, `reaches_of_follow`), so a session has an answer
to give exactly when its request is answered (`send_eq_ok_iff`).
-/

namespace TrafficMap.Web.Session

variable {σ : Type} {server : Server σ} {s s' : Session σ}

/-- A request that a session is about to send. -/
structure Errand where
  /-- The page as it was referred to. -/
  reference : Reference
  page : Url
  method : Method
  form : Option String

/-- What becomes of an errand's request. -/
def run (server : Server σ) (s : Session σ) (e : Errand) : Session σ × Delivery :=
  s.deliver server e.method e.page e.reference.target e.form

/-- An errand ends with an answer after a number of redirects. -/
inductive Reaches (server : Server σ) : Session σ → Errand → Nat → Session σ → Answer → Prop where
  /-- The answer redirects nowhere. -/
  | direct {s s' : Session σ} {e : Errand} {response : Response}
      (hrun : s.run server e = (s', .answered response))
      (hlast : next? e.reference e.method e.form response = none) :
      Reaches server s e 0 s' { page := e.page, response }
  /-- The answer redirects to a page of a web server. -/
  | redirect {s s₁ s' : Session σ} {e : Errand} {response : Response} {reference : Reference}
      {page : Url} {method : Method} {form : Option String} {hops : Nat} {a : Answer}
      (hrun : s.run server e = (s₁, .answered response))
      (hnext : next? e.reference e.method e.form response = some (reference, method, form))
      (hpage : Url.parse? reference.text = .ok page) (hsupported : isSupported page = true)
      (hrest : Reaches server s₁ { reference, page, method, form } hops s' a) :
      Reaches server s e (hops + 1) s' a

/-- Without redirects it is the page that was asked for that answers. -/
theorem Reaches.page_eq {e : Errand} {a : Answer} (h : Reaches server s e 0 s' a) :
    a.page = e.page := by
  cases h
  rfl

/-- Redirects lead to one answer. -/
theorem Reaches.unique {e : Errand} {hops hops' : Nat} {s₁ s₂ : Session σ} {a a' : Answer}
    (h : Reaches server s e hops s₁ a) (h' : Reaches server s e hops' s₂ a') :
    hops = hops' ∧ a = a' := by
  induction h generalizing hops' s₂ a' with
  | direct hrun hlast =>
    cases h' with
    | direct hrun' =>
      cases hrun.symm.trans hrun'
      exact ⟨rfl, rfl⟩
    | redirect hrun' hnext' =>
      cases hrun.symm.trans hrun'
      cases hlast.symm.trans hnext'
  | redirect hrun hnext hpage hsupported hrest ih =>
    cases h' with
    | direct hrun' hlast' =>
      cases hrun.symm.trans hrun'
      cases hnext.symm.trans hlast'
    | redirect hrun' hnext' hpage' _ hrest' =>
      cases hrun.symm.trans hrun'
      cases hnext.symm.trans hnext'
      cases hpage.symm.trans hpage'
      obtain ⟨rfl, rfl⟩ := ih hrest'
      exact ⟨rfl, rfl⟩

/-- Follows the redirects of an errand. -/
theorem follow_of_reaches {e : Errand} {hops : Nat} {a : Answer} (h : Reaches server s e hops s' a)
    (first : Url) {limit : Nat} (hlimit : hops ≤ limit) :
    follow server first limit s e.reference e.page e.method e.form = (s', .ok a) := by
  induction h generalizing limit with
  | direct hrun hlast =>
    rw [run] at hrun
    rw [follow, hrun]
    simp only [hlast]
  | redirect hrun hnext hpage hsupported _ ih =>
    obtain ⟨limit, rfl⟩ := Nat.exists_eq_add_one_of_ne_zero (Nat.ne_zero_of_lt hlimit)
    rw [run] at hrun
    rw [follow, hrun]
    simp only [hnext, hpage, hsupported, if_true]
    exact ih (Nat.le_of_succ_le_succ hlimit)

/-- An answer that was followed to is reached within the limit. -/
theorem reaches_of_follow (first : Url) {limit : Nat} {reference : Reference} {page : Url}
    {method : Method} {form : Option String} {a : Answer}
    (h : follow server first limit s reference page method form = (s', .ok a)) :
    ∃ hops ≤ limit, Reaches server s { reference, page, method, form } hops s' a := by
  fun_induction follow server first limit s reference page method form with
  | case1 => cases h
  | case2 => cases h
  | case3 limit s reference page method form s₁ response hrun hlast =>
    cases h
    exact ⟨0, Nat.zero_le _, .direct hrun hlast⟩
  | case4 => cases h
  | case5 => cases h
  | case6 s reference page method form s₁ response hrun target method' form' hnext limit page' hpage
      hsupported ih =>
    obtain ⟨hops, hlimit, hrest⟩ := ih h
    exact ⟨hops + 1, Nat.succ_le_succ hlimit, .redirect hrun hnext hpage hsupported hrest⟩
  | case7 => cases h

/-! ## Asking for a page -/

/-- A request for a page is answered after a number of redirects, all of which are followed. -/
def Answered (server : Server σ) (s : Session σ) (method : Method) (page : Url)
    (form : Option String) (hops : Nat) (a : Answer) : Prop :=
  isSupported page.withoutUser = true ∧ hops ≤ redirectLimit ∧
    ∃ reference s', Reference.parse? page.withoutUser.text.toList = some reference ∧
      Reaches server s { reference, page := page.withoutUser, method, form } hops s' a

variable {method : Method} {page : Url} {form : Option String} {hops hops' : Nat} {a a' : Answer}

/-- A page that is asked for and does not redirect answers itself, without the user. -/
theorem Answered.page_eq (h : s.Answered server method page form 0 a) :
    a.page = page.withoutUser := by
  obtain ⟨-, -, reference, s', -, hreaches⟩ := h
  exact hreaches.page_eq

theorem Answered.unique (h : s.Answered server method page form hops a)
    (h' : s.Answered server method page form hops' a') : hops = hops' ∧ a = a' := by
  obtain ⟨-, -, reference, s', hreference, hreaches⟩ := h
  obtain ⟨-, -, reference', s'', hreference', hreaches'⟩ := h'
  cases hreference.symm.trans hreference'
  exact hreaches.unique hreaches'

/-- A session has an answer to give exactly when its request is answered. -/
theorem send_eq_ok_iff :
    (s.send server method page form).2 = .ok a ↔
      ∃ hops, s.Answered server method page form hops a := by
  constructor
  · intro h
    rw [send] at h
    split at h
    · next reference hsupported hreference =>
      obtain ⟨hops, hlimit, hreaches⟩ := reaches_of_follow _ (Prod.ext rfl h)
      exact ⟨hops, hsupported, hlimit, reference, _, hreference, hreaches⟩
    · cases h
  · rintro ⟨hops, hsupported, hlimit, reference, s', hreference, hreaches⟩
    rw [send, hsupported, hreference]
    exact congrArg Prod.snd (follow_of_reaches hreaches _ hlimit)

end TrafficMap.Web.Session
