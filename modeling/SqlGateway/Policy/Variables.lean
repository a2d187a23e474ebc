import SqlGateway.Policy.Setting
import SqlGateway.Dotenv

/-!
# Policies from the Environment

Every known setting may be given by a variable of the environment that has the setting's key
as its name.
-/

namespace SqlGateway.Policy

/-- The known settings that variables make, in the order settings are listed in. -/
def settingsOfVariables (vars : Dotenv.Variables) : List (String × String) :=
  Setting.all.filterMap fun s => (vars.get? s.key).map (s.key, ·)

/-- Makes the settings of the environment. -/
def updateOfVariables (p : Policy) (vars : Dotenv.Variables) : Except SettingError Policy :=
  p.update (settingsOfVariables vars)

/-- The policy that the environment describes. -/
def ofVariables (vars : Dotenv.Variables) : Except SettingError Policy :=
  initial.updateOfVariables vars

end SqlGateway.Policy
