import Sequencer.Proofs.Engine.Calls

/-!
# What calls reply

All that a call into an engine gives back to the host.
-/

namespace Sequencer

variable {σ ν : Type}

inductive CallReply where
  | launched (outcome : Outcome Launch)
  | ticked (verdict : Verdict)
  | stopped
  | redirected (outcome : Outcome Unit)
  | redirectedTo (outcome : Outcome (Option Nat))
  | changed (result : Except EngineError Unit)
deriving DecidableEq

namespace CallReply

def isBack : CallReply → Bool
  | .launched outcome => outcome.isBack
  | .ticked verdict => verdict.isBack
  | .redirected outcome => outcome.isBack
  | .redirectedTo outcome => outcome.isBack
  | .stopped | .changed _ => true

/-- What a call replies that runs no commands, unless it is a stop. No command has failed then. -/
inductive Declines : CallReply → Prop where
  | launched (launch : Launch) : Declines (.launched (.value launch))
  | ticked : Declines (.ticked .settled)
  | missing : Declines (.redirectedTo (.value none))
  | changed : Declines (.changed (.ok ()))
  | redirected {error : EngineError} (refusal : ∀ location source, error ≠ .commandFailed location source) :
    Declines (.redirected (.failed error))
  | redirectedTo {error : EngineError} (refusal : ∀ location source, error ≠ .commandFailed location source) :
    Declines (.redirectedTo (.failed error))
  | unchanged {error : EngineError} (refusal : ∀ location source, error ≠ .commandFailed location source) :
    Declines (.changed (.error error))

theorem Declines.isBack {reply : CallReply} (h : reply.Declines) : reply.isBack = true := by
  cases h <;> rfl

end CallReply

namespace Machine

variable [Behaviour σ ν]

/-- Makes the call, and gives what the host gets. -/
def reply (m : Machine σ ν) (fuel : Nat) : Call σ ν → CallReply × Machine σ ν
  | .execute start onComplete => (m.execute fuel start onComplete).map .launched id
  | .executeLabel key onComplete => (m.executeLabel fuel key onComplete).map .launched id
  | .tick => (m.tick fuel).map .ticked id
  | .stop => (.stopped, m.stop)
  | .redirect index => (m.redirect fuel index).map .redirected id
  | .redirectToLabel key => (m.redirectToLabel fuel key).map .redirectedTo id
  | .setEnabled index enabled => (m.setEnabled index enabled).map .changed id
  | .release index state =>
    match m.editable with
    | .error error => (.changed (.error error), m)
    | .ok sequence => (.changed (.ok ()), m.setSequence (sequence.setState index state))

theorem call_eq_reply (m : Machine σ ν) (fuel : Nat) (call : Call σ ν) :
    m.call fuel call = ((m.reply fuel call).1.isBack, (m.reply fuel call).2) := by
  cases call with
  | release index state =>
    cases editable : m.editable <;> simp only [Machine.call, reply, editable] <;> rfl
  | _ => rfl

end Machine

end Sequencer
