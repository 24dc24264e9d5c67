import Logbook.Files.Tree
import Logbook.Settings.Basic
import Logbook.Text.Utf8
import Logbook.Toml.Document

namespace Logbook

inductive SettingsFault where
  | missingFile (path : Path)
  | io (fault : FileFault)
deriving Repr, DecidableEq

def SettingsFault.message : SettingsFault → String
  | .missingFile path => "Configuration error: config file " ++ path.text ++ " not found"
  | .io fault => "IO error: " ++ fault.message

namespace Settings

def globalFile? (user : User) : Option Path :=
  user.configDir?.map fun dir => (dir.join "letsgo").join "config.toml"

def projectFile : Path := ⟨".letsgo.toml"⟩

/-- The settings with the layer of a TOML text. A text that is no TOML has no layer. -/
def overrideText (user : User) (s : Settings) (text : String) : Settings :=
  match Toml.decode? text with
  | none => s
  | some table => s.override (Overrides.ofTable user table)

/-- The settings with the layer of a file, which must be a text. -/
def overrideFile (user : User) (t : FileTree) (s : Settings) (path : Path) :
    Except SettingsFault Settings :=
  match t.read path with
  | .error fault => .error (.io fault)
  | .ok bytes =>
    match Utf8.decode? bytes with
    | none => .error (.io .notText)
    | some text => .ok (s.overrideText user text)

def overrideFileIfAny (user : User) (t : FileTree) (s : Settings) (path : Path) :
    Except SettingsFault Settings :=
  if t.contains path then s.overrideFile user t path else .ok s

/-- The settings of the program's run: defaults, then the user's file and the project's file or the given
file in place of both, then the environment. -/
def load (user : User) (t : FileTree) (given : Option Path) : Except SettingsFault Settings := do
  let s := Settings.default user
  let s ← match given with
    | some path => if t.contains path then s.overrideFile user t path else .error (.missingFile path)
    | none => do
      let s ← match globalFile? user with
        | some path => s.overrideFileIfAny user t path
        | none => .ok s
      s.overrideFileIfAny user t projectFile
  .ok (s.override (Overrides.ofEnvironment user user.env))

end Settings

end Logbook
