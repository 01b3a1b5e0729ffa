import Mathlib.Data.List.Basic

/-!
# Runs that write a log

The log is never read by the run, and the calls before a failure stay made.
-/

namespace Logging

structure LoggedRun (ε κ α : Type) where
  result : Except ε α
  calls : List κ := []
  deriving Repr

variable {ε κ α β : Type}

namespace LoggedRun

protected def bind (run : LoggedRun ε κ α) (rest : α → LoggedRun ε κ β) : LoggedRun ε κ β :=
  match run.result with
  | .ok a => ⟨(rest a).result, run.calls ++ (rest a).calls⟩
  | .error e => ⟨.error e, run.calls⟩

instance : Monad (LoggedRun ε κ) where
  pure a := ⟨.ok a, []⟩
  bind := LoggedRun.bind

def lift (result : Except ε α) : LoggedRun ε κ α := ⟨result, []⟩

def emit (call : κ) : LoggedRun ε κ Unit := ⟨.ok (), [call]⟩

@[simp] theorem pure_eq (a : α) : (pure a : LoggedRun ε κ α) = ⟨.ok a, []⟩ := rfl

/-- Without its calls a sequence of runs is the sequence of what they return. -/
@[simp] theorem bind_result (run : LoggedRun ε κ α) (rest : α → LoggedRun ε κ β) :
    (run >>= rest).result = run.result >>= fun a => (rest a).result := by
  change (LoggedRun.bind run rest).result = _
  unfold LoggedRun.bind
  cases run.result <;> rfl

theorem bind_calls_of_ok {run : LoggedRun ε κ α} {a : α} (hrun : run.result = .ok a)
    (rest : α → LoggedRun ε κ β) : (run >>= rest).calls = run.calls ++ (rest a).calls := by
  change (LoggedRun.bind run rest).calls = _
  simp only [LoggedRun.bind, hrun]

@[simp] theorem lift_result (result : Except ε α) :
    (lift result : LoggedRun ε κ α).result = result := rfl

@[simp] theorem lift_calls (result : Except ε α) : (lift result : LoggedRun ε κ α).calls = [] := rfl

@[simp] theorem emit_result (call : κ) : (emit call : LoggedRun ε κ Unit).result = .ok () := rfl

@[simp] theorem emit_calls (call : κ) : (emit call : LoggedRun ε κ Unit).calls = [call] := rfl

@[simp] theorem emit_bind (call : κ) (rest : Unit → LoggedRun ε κ β) :
    emit call >>= rest = ⟨(rest ()).result, call :: (rest ()).calls⟩ := rfl

@[simp] theorem lift_ok_bind (a : α) (rest : α → LoggedRun ε κ β) :
    (lift (.ok a) : LoggedRun ε κ α) >>= rest = rest a := rfl

end LoggedRun

end Logging
