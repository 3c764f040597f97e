import PullTriage.Http.Client
import Mathlib.Tactic.Lemma
import Mathlib.Tactic.SplitIfs

/-!
# What a client sends

A client sends a request to a server, and then those that it is redirected to.  One attempt is one
request, or none if it cannot be sent (`attempt_of_sendable`, `attempt_of_not_sendable`).  So what
is sent in the end begins with the request, and not more than ten others follow (`exists_send_eq`).
If the response is no redirect then nothing follows, and the response is the result
(`send_of_no_redirect`).
-/

namespace PullTriage.Http

/-! ## Servers -/

/-- What answers requests: the response to a request that comes after some others, or what is said
of the connection if that fails. -/
abbrev Server := (sent : List Request) → Request → Except String Response

/-- Sends a request to a server, and takes it down. -/
def Server.send (server : Server) (request : Request) :
    StateM (List Request) (Except String Response) := fun sent =>
  (server sent request, sent ++ [request])

/-! ## Redirects -/

/-- The response is a redirect: its status says so, and there is a place to go to. -/
def Response.IsRedirect (response : Response) : Prop :=
  response.status ∈ [301, 302, 303, 307, 308] ∧ (response.header? "location").isSome = true

instance (response : Response) : Decidable response.IsRedirect :=
  inferInstanceAs (Decidable (_ ∧ _))

namespace Client

/-- The client follows no other responses than redirects. -/
def FollowsOnlyRedirects (client : Client) : Prop :=
  ∀ request response next, client.redirected? request response = some next → response.IsRedirect

lemma plain_followsOnlyRedirects : plain.FollowsOnlyRedirects := by
  intro request response next h
  simp only [plain] at h
  split_ifs at h with hstatus
  refine ⟨hstatus, ?_⟩
  cases hlocation : response.header? "location" with
  | none =>
    rw [hlocation] at h
    cases h
  | some location => rfl

variable {client : Client} {server : Server} {request : Request} {response : Response}
  {sent : List Request} {goOn : Request → StateM (List Request) (Except String Response)}

/-! ## One attempt -/

/-- What cannot be sent is not sent. -/
lemma attempt_of_not_sendable (h : request.isSendable = false) :
    client.attempt server.send request goOn sent =
      (.error (client.notSendable request), sent) := by
  rw [attempt, if_neg (by simp [h])]
  rfl

/-- What can be sent is sent, and what comes back decides how it goes on. -/
lemma attempt_of_sendable (h : request.isSendable = true) :
    client.attempt server.send request goOn sent =
      match server sent request with
      | .error fault => (.error fault, sent ++ [request])
      | .ok response =>
        match client.redirected? request response with
        | some next => goOn next (sent ++ [request])
        | none => (.ok response, sent ++ [request]) := by
  have hsend : server.send request sent = (server sent request, sent ++ [request]) := rfl
  rw [attempt, if_pos h]
  simp only [bind, StateT.bind, hsend]
  cases server sent request with
  | error fault => rfl
  | ok response =>
    dsimp only
    cases client.redirected? request response <;> rfl

/-- If what goes on sends no more than so many requests, then the whole sends one more, and the
request is the first. -/
lemma exists_attempt_eq (h : request.isSendable = true) {bound : Nat}
    (hgoOn : ∀ next now, ∃ more, (goOn next now).2 = now ++ more ∧ more.length ≤ bound) :
    ∃ more, (client.attempt server.send request goOn sent).2 = sent ++ request :: more ∧
      more.length ≤ bound := by
  rw [attempt_of_sendable h]
  split
  · exact ⟨[], rfl, Nat.zero_le _⟩
  · split
    · rename_i next _
      obtain ⟨more, hmore, hlength⟩ := hgoOn next (sent ++ [request])
      exact ⟨more, by rw [hmore, List.append_assoc]; rfl, hlength⟩
    · exact ⟨[], rfl, Nat.zero_le _⟩

/-! ## All of them -/

/-- Following redirects sends the request, if it can be sent, and then at most one for each
redirect. -/
lemma exists_follow_eq (redirects : Nat) (request : Request) (sent : List Request) :
    ∃ more, (client.follow server.send redirects request sent).2 = sent ++ more ∧
      more.length ≤ redirects + 1 := by
  induction redirects generalizing request sent with
  | zero =>
    cases h : request.isSendable with
    | false => exact ⟨[], by rw [follow, attempt_of_not_sendable h, List.append_nil], by simp⟩
    | true =>
      have first : ∃ more, (client.follow server.send 0 request sent).2 = sent ++ request :: more ∧
          more.length ≤ 0 :=
        exists_attempt_eq h fun next now => ⟨[], (List.append_nil now).symm, Nat.le_refl 0⟩
      obtain ⟨more, hmore, hlength⟩ := first
      exact ⟨_, hmore, Nat.succ_le_succ hlength⟩
  | succ redirects ih =>
    cases h : request.isSendable with
    | false => exact ⟨[], by rw [follow, attempt_of_not_sendable h, List.append_nil], by simp⟩
    | true =>
      have first : ∃ more, (client.follow server.send (redirects + 1) request sent).2 =
          sent ++ request :: more ∧ more.length ≤ redirects + 1 :=
        exists_attempt_eq h ih
      obtain ⟨more, hmore, hlength⟩ := first
      exact ⟨_, hmore, Nat.succ_le_succ hlength⟩

/-- What cannot be sent is not sent. -/
theorem send_of_not_sendable (h : request.isSendable = false) :
    client.send server.send request sent = (.error (client.notSendable request), sent) :=
  attempt_of_not_sendable h

/-- What can be sent is the first of the requests that are sent. -/
theorem exists_send_eq (h : request.isSendable = true) :
    ∃ more, (client.send server.send request sent).2 = sent ++ request :: more ∧
      more.length ≤ mostRedirects :=
  exists_attempt_eq h fun next now => exists_follow_eq _ next now

/-- If the response is no redirect then the request is the only one. -/
theorem send_of_no_redirect (hclient : client.FollowsOnlyRedirects)
    (h : request.isSendable = true)
    (hresponse : ∀ response, server sent request = .ok response → ¬ response.IsRedirect) :
    client.send server.send request sent = (server sent request, sent ++ [request]) := by
  rw [send, mostRedirects, follow, attempt_of_sendable h]
  cases hserver : server sent request with
  | error fault => rfl
  | ok response =>
    have stays : client.redirected? request response = none :=
      Option.eq_none_iff_forall_not_mem.2 fun next hnext =>
        hresponse response hserver (hclient request response next hnext)
    simp only [stays]

end Client

end PullTriage.Http
