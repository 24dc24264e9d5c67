namespace Logbook

/-- What a text is, which decides its colour. -/
inductive Role where
  | prompt
  | success
  | error
  | info
deriving Repr, DecidableEq

namespace Role

def all : List Role := [.prompt, .success, .error, .info]

def name : Role → String
  | .prompt => "prompt"
  | .success => "success"
  | .error => "error"
  | .info => "info"

/-- The environment variable for a role's colour. -/
def envVariable : Role → String
  | .prompt => "LETSGO_COLOR_PROMPT"
  | .success => "LETSGO_COLOR_SUCCESS"
  | .error => "LETSGO_COLOR_ERROR"
  | .info => "LETSGO_COLOR_INFO"

end Role

/-- The control code of each role, and whether colours are used at all. -/
structure Palette where
  enabled : Bool
  code : Role → String

namespace Palette

def defaultCode : Role → String
  | .prompt => "\x1b[36m"
  | .success => "\x1b[32m"
  | .error => "\x1b[31m"
  | .info => "\x1b[33m"

def resetCode : String := "\x1b[0m"

def paint (p : Palette) (text : String) (role : Role) : String :=
  if p.enabled then p.code role ++ text ++ resetCode else text

end Palette

end Logbook
