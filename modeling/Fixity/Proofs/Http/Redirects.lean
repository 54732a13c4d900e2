/-
This file follows a request for a head to the reply that answers it. A reply that is
no redirect, or names no place to go to, stands; any other sends the request on, which
stays a request for a head, as long as redirects may be followed. So what a server
writes is what the request is answered with, at once or at the end of some redirects.
-/

import Fixity.Http.Client
import Fixity.Proofs.Http.Heads

namespace Fixity.Http

/-! ### Referrals -/

namespace Dispatch

theorem referral?_of_not_isRedirect {dispatch : Dispatch} {reply : Reply}
    (final : reply.status.isRedirect = false) : dispatch.referral? reply = none := by
  rw [referral?, final]
  rfl

/-- A request for a head goes on as one. -/
theorem method_onward {dispatch : Dispatch} (head : dispatch.method = "HEAD") (status : Status)
    (url : Url) : (dispatch.onward status url).method = "HEAD" := by
  have quiet : ¬ (dispatch.method = "POST" ∧ (!status.keepsRequest) = true) := by
    rw [head]
    exact fun posted => absurd posted.1 (by decide)
  rw [onward, if_neg quiet]
  exact head

end Dispatch

theorem Request.method_of_dispatch {request : Request} {dispatch : Dispatch}
    (sent : request.dispatch = .ok dispatch) : dispatch.method = request.method := by
  -- Only the last branch sends anything.
  rw [Request.dispatch] at sent
  split at sent
  next => cases sent
  next url _ =>
    dsimp only at sent
    obtain ⟨-, sent⟩ := (ite_eq_iff.mp sent).resolve_left nofun
    obtain ⟨-, sent⟩ := (ite_eq_iff.mp sent).resolve_left nofun
    obtain ⟨-, sent⟩ := (ite_eq_iff.mp sent).resolve_left nofun
    obtain ⟨-, sent⟩ := (ite_eq_iff.mp sent).resolve_left nofun
    obtain rfl := Except.ok.inj sent
    rfl

/-! ### What becomes of a request -/

namespace Dispatch

variable {m : Type → Type} [Monad m] {dispatch : Dispatch} {received : Option (List UInt8)}
  {reply : Reply}

/-- Where no reply comes back the request was not sent. -/
theorem conclude_of_silence (origin : Url) (refer : Status → Url → m Answer)
    (silent : received >>= Reply.read? dispatch.method = none) :
    dispatch.conclude origin received refer = pure (.error (.unsent origin.text)) := by
  rw [conclude, silent]

/-- A reply that refers its request nowhere is the answer. -/
theorem conclude_of_stands (origin : Url) (refer : Status → Url → m Answer)
    (answered : received >>= Reply.read? dispatch.method = some reply)
    (stands : dispatch.referral? reply = none) :
    dispatch.conclude origin received refer = pure (.ok reply) := by
  rw [conclude, answered]
  dsimp only
  rw [stands]

theorem conclude_of_referral {url : Url} (origin : Url) (refer : Status → Url → m Answer)
    (answered : received >>= Reply.read? dispatch.method = some reply)
    (referred : dispatch.referral? reply = some url) :
    dispatch.conclude origin received refer = refer reply.status url := by
  rw [conclude, answered]
  dsimp only
  rw [referred]

end Dispatch

namespace Network

variable {network : Network σ} {state : σ} {origin : Url} {left : Nat} {dispatch : Dispatch}
  {reply : Reply}

/-- What comes of a request over a network, with so many redirects left. -/
def exchange (network : Network σ) (origin : Url) (left : Nat) (state : σ) (dispatch : Dispatch) :
    Answer × σ :=
  (dispatch.exchange network.delivery origin left).run state

theorem send_of_dispatch {request : Request} (sent : request.dispatch = .ok dispatch) :
    network.send state request = network.exchange dispatch.url mostRedirects state dispatch := by
  rw [send, Request.sendBy, sent]
  rfl

theorem exchange_zero :
    network.exchange origin 0 state dispatch =
      StateT.run (m := Id)
        (dispatch.conclude origin (network.deliver state dispatch).1 fun _ _ =>
          pure (.error (.endless { dispatch.url with fragment := none }.text)))
        (network.deliver state dispatch).2 :=
  rfl

theorem exchange_succ :
    network.exchange origin (left + 1) state dispatch =
      StateT.run (m := Id)
        (dispatch.conclude origin (network.deliver state dispatch).1 fun status url =>
          if url.isWeb then (dispatch.onward status url).exchange network.delivery origin left
          else pure (.error (.foreignScheme url.text)))
        (network.deliver state dispatch).2 :=
  rfl

/-- Where no referral counts, what was concluded is the answer, however many redirects are left. -/
theorem exchange_of_concluded {answer : Answer}
    (concluded : ∀ refer : Status → Url → StateM σ Answer,
      dispatch.conclude origin (network.deliver state dispatch).1 refer = pure answer) :
    network.exchange origin left state dispatch = (answer, (network.deliver state dispatch).2) := by
  cases left with
  | zero =>
    rw [exchange_zero, concluded]
    rfl
  | succ left =>
    rw [exchange_succ, concluded]
    rfl

/-- A reply that refers its request to an address of the web sends it there. -/
theorem exchange_of_referral {url : Url}
    (answered : (network.deliver state dispatch).1 >>= Reply.read? dispatch.method = some reply)
    (referred : dispatch.referral? reply = some url) (web : url.isWeb = true) :
    network.exchange origin (left + 1) state dispatch =
      network.exchange origin left (network.deliver state dispatch).2
        (dispatch.onward reply.status url) := by
  rw [exchange_succ, Dispatch.conclude_of_referral origin _ answered referred, if_pos web]
  rfl

/-- A request for which nothing comes back is told by the address that it was meant for. -/
theorem send_of_silence {request : Request} (sent : request.dispatch = .ok dispatch)
    (silent : (network.deliver state dispatch).1 = none) :
    (network.send state request).1 = .error (.unsent dispatch.url.text) := by
  have nothing : (network.deliver state dispatch).1 >>= Reply.read? dispatch.method = none := by
    rw [silent]
    rfl
  rw [send_of_dispatch sent,
    exchange_of_concluded fun refer => Dispatch.conclude_of_silence _ refer nothing]

/-! ### Requests for a head -/

/-- A network brings a request for a head to what a server wrote, with so many redirects left: the
bytes of the response come back for it and refer it nowhere, or the bytes of another one come back
and refer it to an address of the web, and from there the network brings it to the response. -/
inductive Brings (network : Network σ) : Nat → σ → Dispatch → Response → Prop
  | atOnce {left : Nat} {state : σ} {dispatch : Dispatch} {response : Response}
      {rest : List UInt8}
      (delivered : (network.deliver state dispatch).1 = some (response.bytes ++ rest))
      (fits : response.Fits) (stands : dispatch.referral? response.reply = none) :
      Brings network left state dispatch response
  | redirected {left : Nat} {state : σ} {dispatch : Dispatch} {redirect response : Response}
      {rest : List UInt8} {url : Url}
      (delivered : (network.deliver state dispatch).1 = some (redirect.bytes ++ rest))
      (fits : redirect.Fits) (referred : dispatch.referral? redirect.reply = some url)
      (web : url.isWeb = true)
      (later : Brings network left (network.deliver state dispatch).2
        (dispatch.onward redirect.status url) response) :
      Brings network (left + 1) state dispatch response

theorem read?_of_delivered {response : Response} {rest : List UInt8}
    (head : dispatch.method = "HEAD")
    (delivered : (network.deliver state dispatch).1 = some (response.bytes ++ rest))
    (fits : response.Fits) :
    (network.deliver state dispatch).1 >>= Reply.read? dispatch.method =
      some response.reply := by
  rw [delivered, head, Option.bind_eq_bind, Option.bind_some, Reply.read?_bytes fits rest]

/-- What a request for a head is brought to is its answer. -/
theorem exchange_of_brings {response : Response}
    (brings : network.Brings left state dispatch response) (head : dispatch.method = "HEAD") :
    (network.exchange origin left state dispatch).1 = .ok response.reply := by
  induction brings with
  | atOnce delivered fits stands =>
    have answered := read?_of_delivered head delivered fits
    rw [exchange_of_concluded fun refer => Dispatch.conclude_of_stands _ refer answered stands]
  | redirected delivered fits referred web later inductionHypothesis =>
    rw [exchange_of_referral (read?_of_delivered head delivered fits) referred web]
    exact inductionHypothesis (Dispatch.method_onward head _ _)

/-- **Redirects are followed to what a server wrote.** A request for a head is answered with the
response that the network brings it to. -/
theorem send_of_brings {request : Request} {response : Response} (method : request.method = "HEAD")
    (sent : request.dispatch = .ok dispatch)
    (brings : network.Brings mostRedirects state dispatch response) :
    (network.send state request).1 = .ok response.reply := by
  rw [send_of_dispatch sent]
  exact exchange_of_brings brings ((Request.method_of_dispatch sent).trans method)

end Network

end Fixity.Http
