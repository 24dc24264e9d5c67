import Logbook.Chat.Address
import Logbook.Main
import Logbook.Proofs.Calc.Reading
import Logbook.Proofs.History.Adding
import Logbook.Proofs.Jobs.Looks
import Logbook.Proofs.Reply.Limit
import Logbook.Proofs.Reply.Links
import Logbook.Proofs.Reply.Reasoning
import Logbook.Proofs.Search.Forgery
import Logbook.Proofs.Search.ReadingOrder
import Logbook.Proofs.Search.Sittings
import Logbook.Proofs.Session.Reached
import Logbook.Proofs.Session.Recall
import Logbook.Proofs.SessionLog.Pruning
import Logbook.Proofs.Settings.Layers
import Logbook.Proofs.Json.RoundTrip
import Logbook.Proofs.Chat.Request
import Logbook.Proofs.Command.Summary
import Logbook.Proofs.Files.Reordered
import Logbook.Proofs.Pattern.Plain
import Logbook.Proofs.Search.Plain
import Logbook.Proofs.SessionLog.AnyOrder
import Logbook.Proofs.Record.Escaped
import Logbook.Proofs.Search.Moments
import Logbook.Proofs.Settings.Escapes
