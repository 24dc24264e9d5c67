import Logbook.Pattern.Match
import Logbook.Pattern.Meaning
import Logbook.Pattern.Parser
import Logbook.Pattern.Size

namespace Logbook

structure Pattern where
  program : Pattern.Program

namespace Pattern

def compile (text : String) : Except Fault Pattern := do
  let e ← parse text.toList
  let (r, _) ← e.regex {}
  if r.isTooLarge then .error .tooLarge else .ok ⟨r.program⟩

def isMatch (p : Pattern) (line : String) : Bool :=
  p.program.matchesIn line.toList

/-- The text with every match replaced by `new`, taken as it is. -/
def replaceAll (p : Pattern) (new text : String) : String :=
  String.ofList (p.program.replaceAll new.toList text.toList)

end Pattern

end Logbook
