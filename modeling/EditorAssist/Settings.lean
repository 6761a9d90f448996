import EditorAssist.Assistant
import EditorAssist.Handbook.Mrya

/-! # Settings

What a user may set: how source files end, and further packages.  The packages come from an
argument or, without one, from the environment, as names divided by commas. -/

namespace EditorAssist

/-- What a user may set. -/
structure Settings where
  sourceExtension : String := Assistant.mryaExtension
  extraPackageModules : List String := []
deriving Repr, DecidableEq

/-- What the program takes from its environment. -/
structure Environment where
  /-- The names of further packages, if the variable is set. -/
  packageModules : Option String
deriving Repr, DecidableEq

namespace Environment

/-- The variable that names further packages. -/
def packageModulesVariable : String := "MRYA_LSP_PACKAGE_MODULES"

/-- A value with the character of code zero, which no variable can have. -/
structure NullInValue where
deriving Repr, DecidableEq

/-- What is wrong with such a value. -/
def NullInValue.message (_ : NullInValue) : String := "embedded null byte"

/-- The environment in which the variable has the value, or is not set. -/
def ofValue (value : Option String) : Except NullInValue Environment :=
  if value.any fun text => text.toList.contains (Char.ofNat 0) then .error ⟨⟩
  else .ok ⟨value⟩

end Environment

namespace Settings

/-- The names between commas, without the blanks around them; empty names are left out. -/
def splitNames (value : String) : List String :=
  (((Text.split ',' value.toList).map Text.trim).filter (· ≠ [])).map String.ofList

/-- The settings of an environment. -/
def ofEnvironment (environment : Environment) : Settings where
  extraPackageModules := splitNames (environment.packageModules.getD "")

/-- The settings of an argument, even an empty one, or else of the environment. -/
def ofArgument (argument : Option String) (environment : Environment) : Settings :=
  match argument with
  | some names => { extraPackageModules := splitNames names }
  | none => ofEnvironment environment

/-- The handbook of Mrya with the packages of the settings. -/
def handbook (s : Settings) : Handbook := Handbook.mrya.addPackageModules s.extraPackageModules

end Settings

end EditorAssist
