/-
DoubleEntry/CommandLine/Files.lean

The files that the program works on, as a tree of directories.  A file holds
text, a ledger, an event log, or bytes that are none of these.
-/
import DoubleEntry.EventLog.Log
import DoubleEntry.Settings.Config
import DoubleEntry.Store.Database
import DoubleEntry.Text.Path

namespace DoubleEntry.CommandLine

open DoubleEntry.Text

/-- What a path leads to. -/
inductive FileNode where
  | directory
  | text (content : String)
  | ledger (db : Database)
  | log (l : EventLog)
  | binary
  deriving DecidableEq, Repr

/-- The ledger in a file. -/
def FileNode.ledger? : FileNode → Option Database
  | .ledger db => some db
  | _ => none

/-- The event log in a file. -/
def FileNode.log? : FileNode → Option EventLog
  | .log l => some l
  | _ => none

/-- A place in the tree: the names on the way from the root. -/
abbrev Location := List String

/-- A tree of files.  What is not listed is not there, except for the root. -/
structure Files where
  nodes : List (Location × FileNode) := []
  deriving DecidableEq, Repr

/-- The location of a path, seen from a directory. -/
def locate (workingDir path : String) : Location :=
  let start := if path.toList.head? = some '/' then [] else pathParts workingDir
  (pathParts path).foldl (fun l p => if p = ".." then l.dropLast else l ++ [p]) start

namespace Files

/-- What is at a location. -/
def node? (fs : Files) : Location → Option FileNode
  | [] => some .directory
  | l => fs.nodes.lookup l

/-- Puts something at a location in place of what was there. -/
def put (fs : Files) (l : Location) (n : FileNode) : Files :=
  { nodes := (l, n) :: fs.nodes.filter fun e => e.1 ≠ l }

/-- Whether there is a directory at a location. -/
def isDirectory (fs : Files) (l : Location) : Bool :=
  match fs.node? l with
  | some .directory => true
  | _ => false

/-- Whether there is a file at a location. -/
def isFile (fs : Files) (l : Location) : Bool :=
  match fs.node? l with
  | some .directory | none => false
  | some _ => true

/-- The locations on the way to a location, itself included. -/
def steps (l : Location) : List Location :=
  (List.range (l.length + 1)).map l.take

/-- Makes a directory and those on the way to it. -/
def createDirectory (fs : Files) (l : Location) : Except String Files :=
  if fs.isFile l then .error "File exists (os error 17)"
  else if (steps l).any fs.isFile then .error "Not a directory (os error 20)"
  else .ok ((steps l).foldl (fun fs s => if fs.isDirectory s then fs else fs.put s .directory) fs)

/-- What stands at the path of a settings file. -/
def settingsFile (fs : Files) (l : Location) : StoredFile :=
  match fs.node? l with
  | none => .absent
  | some .directory => .directory
  | some (.text content) => .text content
  | some _ => .binary

/-- Opens a file for contents of one kind; an absent one is new. -/
def openFile {α : Type} (fs : Files) (l : Location) (contents? : FileNode → Option α) (new : α)
    (failure : String) : Except Fault α :=
  match fs.isDirectory l.dropLast, fs.node? l with
  | true, none => .ok new
  | true, some n => (contents? n).elim (.error (.described failure)) .ok
  | false, _ => .error (.described failure)

/-- Opens a ledger. -/
def openLedger (fs : Files) (l : Location) : Except Fault Database :=
  fs.openFile l FileNode.ledger? {} "cannot open the ledger file"

/-- Opens an event log. -/
def openLog (fs : Files) (l : Location) : Except Fault EventLog :=
  fs.openFile l FileNode.log? {} "cannot open the event log"

end Files

end DoubleEntry.CommandLine
