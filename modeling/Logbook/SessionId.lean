import Logbook.Files.Path
import Logbook.Time.Timestamp

namespace Logbook

/-- The name of a session: date and time of day in decimal digits. -/
structure SessionId where
  text : String
deriving DecidableEq

namespace SessionId

def logExtension : String := "log"

def ofInstant (t : Instant) : SessionId :=
  let d := t.date
  ⟨String.ofList
    (Timestamp.renderYear d.year ++ Decimal.fixed 2 d.month ++ Decimal.fixed 2 d.day
      ++ '-' :: Decimal.fixed 2 t.hour ++ Decimal.fixed 2 t.minute ++ Decimal.fixed 2 t.second)⟩

def fileName (id : SessionId) : String :=
  id.text ++ "." ++ logExtension

def path (id : SessionId) (dir : Path) : Path :=
  dir.join id.fileName

def isLogName (name : String) : Bool :=
  Path.extension? name == some logExtension

end SessionId

end Logbook
