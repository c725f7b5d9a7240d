import Findings.Config.Settings
import Findings.Files.Access
import Findings.Number.Numeral
import Findings.Toml.Document

/-!
Contract: finding the settings of a project.

Owns: the configuration file of a project folder, from its bytes to the settings, and all the ways
in which that fails.

A project without the file, or without a table of settings in it, has the default settings.
-/

set_option autoImplicit false

namespace Findings.Config

/-- An error of a configuration file that its author can mend. -/
inductive ConfigError where
  | notToml (path : Path) (fault : Toml.Fault) (place : Option Text.Place)
  | setting (error : SettingError)
deriving DecidableEq

def ConfigError.message : ConfigError → Text
  | .notToml path fault place =>
      Text.ofString "Invalid TOML in " ++ path.toText ++ Text.ofString ": "
        ++ Toml.faultMessage fault place
  | .setting error => error.message

/-- Why the settings of a project cannot be found. -/
inductive LoadError where
  | config (error : ConfigError)
  | notText (fault : Text.DecodeFault)
  | excessiveInteger (digits : Nat)
  | unreadable (failure : Files.Failure)

def LoadError.message : LoadError → Text
  | .config error => error.message
  | .notText fault => fault.message
  | .excessiveInteger digits => Numeral.excessMessage digits
  | .unreadable failure => failure.message

/-- The name of the configuration file. -/
def fileName : Text := Text.ofString "pyproject.toml"

/-- The configuration file of a project folder. -/
def fileOf (project : Path) : Path := project.join (Path.ofText fileName)

/-- The error of a document that cannot be read. -/
def LoadError.ofToml (path : Path) : Toml.ReadError → LoadError
  | .malformed fault place => .config (.notToml path fault place)
  | .excessiveInteger digits => .excessiveInteger digits

/-- The settings in the bytes of a configuration file. -/
def Settings.ofBytes (path : Path) (bytes : List UInt8) : Except LoadError Settings :=
  match Text.decodeUtf8 bytes with
  | .error fault => .error (.notText fault)
  | .ok text =>
      match Toml.read (Text.universalNewlines text) with
      | .error error => .error (LoadError.ofToml path error)
      | .ok document =>
          match Settings.ofDocument document with
          | .error error => .error (.config (.setting error))
          | .ok settings => .ok settings

/-- The settings of the project in a folder. -/
def load (tree : Files.Tree) (directory : Files.Location) (project : Path) :
    Except LoadError Settings :=
  match Files.readFile tree directory (fileOf project) with
  | .ok bytes => Settings.ofBytes (fileOf project) bytes
  | .error (.refused ⟨.missing, _⟩) => .ok {}
  | .error (.refused ⟨.notDirectory, _⟩) => .ok {}
  | .error failure => .error (.unreadable failure)

end Findings.Config
