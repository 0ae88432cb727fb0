/-!
# Programs that ask questions

Code that cannot look at the state around it: it only asks questions, and what it does next depends on
the answers. Whoever runs it decides what a question means.
-/

namespace Sequencer

/-- A program whose questions are of type `Q`, where question `q` is answered by an `A q`. -/
inductive Program {Q : Type} (A : Q → Type) (α : Type) where
  | done (value : α)
  | ask (question : Q) (next : A question → Program A α)

namespace Program

variable {Q : Type} {A : Q → Type} {α β S : Type}

def bind : Program A α → (α → Program A β) → Program A β
  | .done value, f => f value
  | .ask question next, f => .ask question fun answer => (next answer).bind f

instance : Monad (Program A) where
  pure := .done
  bind := bind

/-- Runs the program on a state, with `answer` to answer its questions. -/
def run (answer : (q : Q) → S → A q × S) : Program A α → S → α × S
  | .done value, s => (value, s)
  | .ask question next, s =>
    let (reply, s) := answer question s
    (next reply).run answer s

/-- What every answer preserves, a whole run preserves. -/
theorem run_preserves {answer : (q : Q) → S → A q × S} {P : S → Prop}
    (step : ∀ q s, P s → P (answer q s).2) (program : Program A α) (s : S) (h : P s) :
    P (program.run answer s).2 := by
  induction program generalizing s with
  | done value => exact h
  | ask question next ih => exact ih _ _ (step question s h)

/-- Each question that is asked in a run from the state has the property where it is asked. -/
def Heeds (answer : (q : Q) → S → A q × S) (P : Q → S → Prop) : Program A α → S → Prop
  | .done _, _ => True
  | .ask question next, s =>
    P question s ∧ (next (answer question s).1).Heeds answer P (answer question s).2

theorem Heeds.run {answer : (q : Q) → S → A q × S} {P : Q → S → Prop} {I : S → Prop}
    (step : ∀ q s, P q s → I s → I (answer q s).2) {program : Program A α} {s : S}
    (heeds : program.Heeds answer P s) (h : I s) : I (program.run answer s).2 := by
  induction program generalizing s with
  | done value => exact h
  | ask question next ih => exact ih _ heeds.2 (step question s heeds.1 h)

end Program

end Sequencer
