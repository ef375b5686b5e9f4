import BpfDepot.Commands
import BpfDepot.Proofs.PackageStore.Operation

/-! # Steps of commands

How the steps that commands are made of run in a world. What an operation does to the world it
does also as a step of a command, with its failure as that of the command
(`Command.runs_operation`, `Command.runs_calling`, `Command.runs_onStore`).
-/

namespace BpfDepot.Command

open World

variable {α : Type} {w w' : World} {settings : Settings}

theorem runs_always {step : WorldM α} {a : α} (answered : step w = (a, w')) :
    Runs (always step) w (.ok a) w' := Runs.lift answered

theorem runs_operation {step : ExceptT Error WorldM α} {result : Except Error α}
    (runs : Runs step w result w') :
    Runs (operation step) w (result.mapError .error) w' := by
  change (operation step) w = _
  have stepped : step w = (result, w') := runs
  simp only [operation, ExceptT.mk, ExceptT.run, Bind.bind, StateT.bind, stepped]
  rfl

theorem runs_calling {request : FileCall α} {result : Except FileFault α}
    (runs : Runs (Files.attempt request) w result w') (word : FileFault → String) :
    Runs (calling request word) w (result.mapError fun fault => .text (word fault)) w' := by
  change (calling request word : Run WorldM α) w = _
  have called : World.call request w = (result, w') := runs
  simp only [calling, ExceptT.mk, Bind.bind, StateT.bind, Files.call, called]
  rfl

/-- A call that succeeds as a step of a command has succeeded. -/
theorem of_calling_ok {request : FileCall α} {word : FileFault → String} {a : α}
    (done : Runs (calling request word) w (.ok a) w') :
    Runs (Files.attempt request) w (.ok a) w' := by
  obtain ⟨result, v, called⟩ := Runs.total (Files.attempt request) w
  obtain ⟨same, rfl⟩ := (runs_calling called word).unique done
  cases result with
  | error fault => cases same
  | ok b =>
      obtain rfl := Except.ok.inj same
      exact called

theorem runs_onStore {step : StoreM WorldM α} {s s' : PackageStore} {result : Except Error α}
    (operates : PackageStore.Operates step s w result s' w') :
    Runs (onStore s step) w (result.mapError .error) w' := by
  refine runs_operation ?_
  change (ExceptT.mk do return (← step.run.run s).1 : ExceptT Error WorldM α) w = _
  have stepped : step s w = ((result, s'), w') := operates
  simp only [ExceptT.mk, ExceptT.run, StateT.run, Bind.bind, StateT.bind, stepped]
  rfl

theorem runs_printLine (line : String) (w : World) :
    Runs (printLine line) w (.ok ()) { w with output := w.output ++ (line ++ "\n") } :=
  runs_always rfl

/-- The store is opened in the directory of the settings. -/
theorem runs_openStore {directory : String} {s : PackageStore}
    (place : settings.storePath w.home = directory)
    (opened : Runs (PackageStore.openAt directory) w (.ok s) w') :
    Runs (openStore settings) w (.ok s) w' := by
  subst place
  have home : Runs (always (Host.home? : WorldM (Option String))) w (.ok w.home) w :=
    runs_always rfl
  exact home.bind (runs_operation opened)

end BpfDepot.Command
