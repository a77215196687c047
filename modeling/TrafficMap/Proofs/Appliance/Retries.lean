import Mathlib
import TrafficMap.Appliance.Failure

/-!
# What is worth retrying

A request error says whether the next refresh may succeed, and so does the failure that it shows as. A failure says so
whenever the request error does, and of everything that kept the appliance from being reached
(`isTransient_ofRequest_iff`). The two differ if the connection could not be set up securely, which the request error
calls lasting; transport errors aside they differ in nothing else (`retries_of_request`).
-/

namespace TrafficMap

variable {e : RequestError}

/-- The transport gave no answer. -/
def RequestError.IsTransport (e : RequestError) : Prop :=
  ∃ cause text, e = .transport cause text

/-- The connection could not be set up. -/
def RequestError.IsTls (e : RequestError) : Prop :=
  ∃ message, e = .tls message

/-- The appliance answered with an error of its own. -/
def RequestError.IsServerError (e : RequestError) : Prop :=
  ∃ code endpoint, e = .status code endpoint ∧ 500 ≤ code

namespace RequestError

theorem isTransient_iff_of_answered (h : ¬e.IsTransport) : e.isTransient = true ↔ e.IsServerError := by
  cases e with
  | transport cause text => exact absurd ⟨cause, text, rfl⟩ h
  | status code endpoint => simp [isTransient, IsServerError]
  | authentication | invalidUrl | tls | malformed => simp [isTransient, IsServerError]

end RequestError

namespace Failure

theorem isTransient_ofRequest_iff :
    (ofRequest e).isTransient = true ↔ e.IsTransport ∨ e.IsTls ∨ e.IsServerError := by
  cases e with
  | transport cause text =>
    have hunreached : (ofRequest (.transport cause text)).isTransient = true := by cases cause <;> rfl
    exact iff_of_true hunreached (.inl ⟨cause, text, rfl⟩)
  | tls message => exact iff_of_true rfl (.inr (.inl ⟨message, rfl⟩))
  | status code endpoint =>
    simp [ofRequest, isTransient, RequestError.IsTransport, RequestError.IsTls, RequestError.IsServerError]
  | authentication | invalidUrl | malformed =>
    simp [ofRequest, isTransient, RequestError.IsTransport, RequestError.IsTls, RequestError.IsServerError]

/-- Transport errors aside, a failure says of retrying what the request error said exactly if the connection could be
set up: it calls the same server errors transient, and every connection that could not be set up besides. -/
theorem retries_of_request (h : ¬e.IsTransport) :
    ((ofRequest e).isTransient = e.isTransient ↔ ¬e.IsTls) ∧
    ((ofRequest e).isTransient = true ↔ e.IsTls ∨ e.IsServerError) ∧
    (e.isTransient = true ↔ e.IsServerError) := by
  have hfailure : (ofRequest e).isTransient = true ↔ e.IsTls ∨ e.IsServerError :=
    isTransient_ofRequest_iff.trans (or_iff_right h)
  have hrequest := RequestError.isTransient_iff_of_answered h
  refine ⟨?_, hfailure, hrequest⟩
  rw [Bool.eq_iff_iff, hfailure, hrequest]
  constructor
  · rintro hsame ⟨message, rfl⟩
    obtain ⟨code, endpoint, hstatus, -⟩ := hsame.mp (.inl ⟨message, rfl⟩)
    cases hstatus
  · exact fun htls => or_iff_right htls

/-- An answer of the appliance and a connection that could not be set up. -/
theorem retries_of_request_unavailable :
    let unavailable : RequestError := .status 503 "/api/stats"
    let unset : RequestError := .tls "handshake"
    ¬unavailable.IsTransport ∧ ¬unset.IsTransport ∧
      (ofRequest unavailable).isTransient = unavailable.isTransient ∧
      (ofRequest unset).isTransient ≠ unset.isTransient := by
  have hunavailable : ¬(RequestError.status 503 "/api/stats").IsTransport := nofun
  have hanswered : ¬(RequestError.status 503 "/api/stats").IsTls := nofun
  have hunset : ¬(RequestError.tls "handshake").IsTransport := nofun
  refine ⟨hunavailable, hunset, (retries_of_request hunavailable).1.mpr hanswered, fun hsame => ?_⟩
  exact (retries_of_request hunset).1.mp hsame ⟨_, rfl⟩

/-- A client that cannot be built fails for good, but as a failure it is worth another refresh. -/
theorem retried_of_tls :
    let e : RequestError := .tls "failed to build HTTP client: builder error"
    ¬e.IsTransport ∧ e.isTransient = false ∧
      ofRequest e = .unreachable "TLS error: failed to build HTTP client: builder error" ∧
      (ofRequest e).isTransient = true :=
  ⟨nofun, rfl, by decide, rfl⟩

end Failure

end TrafficMap
