import SealedSession.Proofs.Service.Conduct
import SealedSession.Service.Trusting

/-!
# An echoing application

The application that services are tried with. It trusts everybody like the trusting application,
has no use for prekeys, rejects a feature message that asks for it, and echoes every other one.

* `reliable`: it does what the protocol expects of an application.
-/

namespace SealedSession.Echoing

open Trusting

/-- Echoes a feature message, unless it asks to be rejected. -/
def echo (ps : Players) (m : FeatureMessage) : Program Players :=
  if m.kind = "fail" then .finish ps (.error (.rejected "fail")) else .answer ps (.feature m)

/-- What the application does. -/
def application (server : ServerIdentity) (approvalUrl : String) : Application Players
  | ps, _, .feature m => echo ps m
  | ps, _, .sendPreKeys _ => .finish ps (.ok ())
  | ps, _, .keepAlive _ => .finish ps (.ok ())
  | ps, c, r => Trusting.application server approvalUrl ps c r

/-- A reply is an answer. -/
theorem answers_answer {A : Type} (app : A) {m : Response} (hm : m.isOrdinary = true) :
    (Program.answer app m).Answers :=
  .reply m _ hm fun r ↦ .finish app r

/-- Trust is confirmed before the connection is identified. -/
theorem trusts_trust (server : ServerIdentity) (ps : Players) (c : ConnectionId) (i : Identity) :
    (trust server ps c i).Trusts server i :=
  .reply (player? ps c) _ (fun r ↦ .finish _ r) (fun e ↦ .finish _ (.error e)) rfl
    (fun r ↦ .finish _ r)

theorem reliable (server : ServerIdentity) (approvalUrl : String) :
    (application server approvalUrl).Reliable server where
  answers ps c r hr := by
    cases r with
    | checkTrust => cases hr
    | identify identity token => cases identity <;> exact answers_answer _ rfl
    | startSession => exact answers_answer _ rfl
    | sendPreKeys => exact .finish _ _
    | keepAlive => exact .finish _ _
    | feature m =>
      change (echo ps m).Answers
      unfold echo
      split
      · exact .finish _ _
      · exact answers_answer _ rfl
  trusts ps c i := trusts_trust server ps c i

end SealedSession.Echoing
