/-
DoubleEntry/CommandLine/FileText.lean

The contents of the files in the tree.  Ledgers and event logs are kept as
JSON.  What kind of file it is shows in the contents alone.
-/
import DoubleEntry.CommandLine.Files
import DoubleEntry.EventLog.Snapshot
import DoubleEntry.Json.Printer
import DoubleEntry.Json.Reader
import DoubleEntry.Store.Snapshot

namespace DoubleEntry.CommandLine.FileNode

open DoubleEntry.Json

/-- The contents of a file, as far as the program writes them. -/
def text? : FileNode → Option String
  | .text content => some content
  | .ledger db => some db.toJson.compact
  | .log l => some l.toJson.compact
  | .directory | .binary => none

/-- The file with some contents. -/
def ofText (content : String) : FileNode :=
  match Written.read? content with
  | none => .text content
  | some w =>
      match Database.ofWritten? w, EventLog.ofWritten? w with
      | some db, _ => .ledger db
      | none, some l => .log l
      | none, none => .text content

/-- The file with some bytes. -/
def ofBytes (bytes : ByteArray) : FileNode :=
  match String.fromUTF8? bytes with
  | some content => ofText content
  | none => .binary

end DoubleEntry.CommandLine.FileNode
