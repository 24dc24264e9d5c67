import Logbook.Archive
import Logbook.Proofs.Record.RoundTrip
import Logbook.Proofs.Text.Encoding
import Logbook.SessionLog

namespace Logbook

namespace Record

def entry (r : Record) : String × String :=
  (r.tag, r.text)

/-- A record that is read back from its line, but for what is below a microsecond. -/
def IsReadable (r : Record) : Prop :=
  r.time.HasPlainYear ∧ validTag r.tag = true

theorem validTag_session : validTag Tag.session = true := by
  decide

theorem isReadable_session {now : Instant} (h : now.HasPlainYear) (text : String) :
    IsReadable ⟨now, Tag.session, text⟩ :=
  ⟨h, validTag_session⟩

theorem validTag_user : validTag Tag.user = true := by
  decide

theorem validTag_assistant : validTag Tag.assistant = true := by
  decide

def readEntry? (line : String) : Option (String × String) :=
  (parse? line).map entry

theorem readEntry?_render {r : Record} (h : r.IsReadable) : readEntry? r.render = some r.entry := by
  simp [parse?_render h.1 h.2, readEntry?, entry]

end Record

theorem SessionLog.lineBytes_eq :
    SessionLog.lineBytes = fun r => Utf8.encode r.render ++ [10] := by
  funext r
  rw [lineBytes, Utf8.encode_append, Utf8.encode_lineFeed]

theorem fileLines_append {bytes : List UInt8} (h : bytes = [] ∨ bytes.getLast? = some 10)
    (more : List UInt8) : fileLines (bytes ++ more) = fileLines bytes ++ fileLines more := by
  rw [fileLines, Text.linesBy_append h, List.map_append]
  rfl

theorem fileLines_flatMap_encode {lines : List String} (h : ∀ line ∈ lines, '\n' ∉ line.toList) :
    fileLines (lines.flatMap fun line => Utf8.encode line ++ [10]) = lines := by
  have hbytes : ∀ bytes ∈ lines.map Utf8.encode, (10 : UInt8) ∉ bytes := by
    intro bytes hmem hline
    obtain ⟨line, hl, rfl⟩ := List.mem_map.mp hmem
    exact h line hl (Utf8.lineFeed_mem_encode hline)
  have hcut := Text.linesBy_flatMap hbytes
  rw [List.flatMap_map] at hcut
  rw [fileLines, hcut, List.map_map]
  exact List.map_id'' (fun line => Utf8.decodeLossy_encode line) lines

theorem fileLines_flatMap_lineBytes {rs : List Record} (h : ∀ r ∈ rs, r.IsReadable) :
    fileLines (rs.flatMap SessionLog.lineBytes) = rs.map Record.render := by
  have hlines : ∀ line ∈ rs.map Record.render, '\n' ∉ line.toList := by
    intro line hmem hline
    obtain ⟨r, hr, rfl⟩ := List.mem_map.mp hmem
    exact Record.not_endsLine_of_mem_render (h r hr).1 (h r hr).2 hline (Or.inl rfl)
  rw [SessionLog.lineBytes_eq, ← fileLines_flatMap_encode hlines, List.flatMap_map]

theorem readEntry?_fileLines {rs : List Record} (h : ∀ r ∈ rs, r.IsReadable) :
    (fileLines (rs.flatMap SessionLog.lineBytes)).map Record.readEntry? =
      (rs.map Record.entry).map some := by
  rw [fileLines_flatMap_lineBytes h, List.map_map, List.map_map]
  apply List.map_congr_left
  intro r hr
  rw [Function.comp_apply, Function.comp_apply, Record.readEntry?_render (h r hr)]

end Logbook
