import BpfDepot.Log

/-! # Values of programs that log

What a program gives back does not depend on what has been logged before it
(`Logged.Gives`). The values of programs are put together from those of their parts.
-/

namespace BpfDepot

/-- Whatever has been logged before it, a program gives a value. -/
def Logged.Gives {α : Type} (program : Logged α) (a : α) : Prop :=
  ∀ events, (program events).1 = a

namespace Logged.Gives

variable {α β : Type} {program : Logged α} {next : α → Logged β} {a : α} {b : β}

theorem pure (a : α) : Gives (Pure.pure a) a := fun _ => rfl

theorem emit (event : Event) : Gives (Log.emit event) () := fun _ => rfl

theorem bind (first : Gives program a) (second : Gives (next a) b) :
    Gives (program >>= next) b := by
  intro events
  change (next (program events).1 (program events).2).1 = b
  rw [first]
  exact second _

/-- A step on a state gives a value and the state for the next step. -/
theorem onward {σ : Type} {step : StateT σ Logged α} {next : α → StateT σ Logged β} {s s' : σ}
    {left : β × σ} (first : Gives (step s) (a, s')) (second : Gives (next a s') left) :
    Gives ((step >>= next) s) left := by
  intro events
  change (next (step s events).1.1 (step s events).1.2 (step s events).2).1 = left
  rw [first]
  exact second _

theorem unique {other : α} (first : Gives program a) (second : Gives program other) :
    a = other := (first []).symm.trans (second [])

theorem map (first : Gives program a) (f : α → β) : Gives (f <$> program) (f a) :=
  fun events => congrArg f (first events)

end Logged.Gives

end BpfDepot
