import Logbook.Files.Path

namespace Logbook

/-- A look-up of environment variables. -/
abbrev Environment : Type := String → Option String

/-- Whoever starts a program. -/
structure User where
  env : Environment
  /-- The home directory in the account's entry in the user database, if there is an entry. -/
  accountHome? : Option String

namespace User

/-- The home directory: the one that the environment names, or else that of the account. -/
def home? (user : User) : Option Path :=
  (((user.env "HOME").filter (!·.isEmpty)).or (user.accountHome?.filter (!·.isEmpty))).map Path.mk

/-- A directory that a variable names, which must start at the root, or else one below the home
directory. -/
def directory? (user : User) (name below : String) : Option Path :=
  match (user.env name).filter fun v => Path.isAbsolute ⟨v⟩ with
  | some v => some ⟨v⟩
  | none => user.home?.map fun home => home.join below

def dataDir? (user : User) : Option Path :=
  user.directory? "XDG_DATA_HOME" ".local/share"

def configDir? (user : User) : Option Path :=
  user.directory? "XDG_CONFIG_HOME" ".config"

end User

end Logbook
