/-
Sequential programs that talk to something outside of them, as trees: a
routine is done with a value, or makes a call and goes on with the answer.
What the calls do is left open. `run` answers them from a state and so
gives a routine its meaning when nothing else happens; a scheduler that
answers one call at a time runs several of them interleaved.
-/

namespace CheckGateway

/-- A program that makes calls. -/
inductive Routine (Call : Type) (Answer : Call → Type) (α : Type) where
  | done (a : α)
  | call (c : Call) (next : Answer c → Routine Call Answer α)

namespace Routine

variable {Call : Type} {Answer : Call → Type} {α β : Type}

/-- A routine followed by one that depends on its value. -/
def bind : Routine Call Answer α → (α → Routine Call Answer β) →
    Routine Call Answer β
  | done a, f => f a
  | call c next, f => call c fun answer => (next answer).bind f

instance : Monad (Routine Call Answer) where
  pure := done
  bind := bind

/-- The routine that makes one call and gives its answer. -/
def ask (c : Call) : Routine Call Answer (Answer c) := call c done

/-- Runs a routine to its end, answering every call from a state. -/
def run {σ : Type} (perform : (c : Call) → σ → Answer c × σ) :
    Routine Call Answer α → σ → α × σ
  | done a, s => (a, s)
  | call c next, s =>
      let (answer, s) := perform c s
      (next answer).run perform s

/-- The routine with every call replaced by a routine of other calls. -/
def expand {Call' : Type} {Answer' : Call' → Type}
    (f : (c : Call) → Routine Call' Answer' (Answer c)) :
    Routine Call Answer α → Routine Call' Answer' α
  | done a => done a
  | call c next => (f c).bind fun answer => (next answer).expand f

@[simp]
theorem pure_bind (a : α) (f : α → Routine Call Answer β) :
    (done a : Routine Call Answer α).bind f = f a := rfl

theorem run_bind {σ : Type} (perform : (c : Call) → σ → Answer c × σ)
    (r : Routine Call Answer α) (f : α → Routine Call Answer β) (s : σ) :
    (r.bind f).run perform s =
      (f (r.run perform s).1).run perform (r.run perform s).2 := by
  induction r generalizing s with
  | done a => rfl
  | call c next ih => exact ih _ _

theorem run_ask {σ : Type} (perform : (c : Call) → σ → Answer c × σ)
    (c : Call) (s : σ) :
    (ask c : Routine Call Answer (Answer c)).run perform s = perform c s :=
  rfl

end Routine

end CheckGateway
