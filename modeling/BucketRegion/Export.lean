import BucketRegion.Bytes.Utf8
import BucketRegion.Counters
import BucketRegion.Text.Quoted

/-!
# Exporting counters

The report of the counts as a file. First the folders are made that the file is in, then the
report is put together, and the file is not touched before there is one.
-/

set_option autoImplicit false

namespace BucketRegion

/-- The names from the root of a disk down to a place. -/
abbrev Path := List String

def Path.text (path : Path) : String := "/" ++ String.intercalate "/" path

/-- What can stand at a place of a disk. -/
inductive Node where
  | folder
  | file (octets : Bytes)
  deriving DecidableEq

/-- What stands at each place of a disk below its root, which is a folder. -/
structure Disk where
  node? : Path → Option Node

namespace Disk

def put (disk : Disk) (path : Path) (node : Node) : Disk :=
  ⟨fun other => if other = path then some node else disk.node? other⟩

/-- The octets of the file at a path, if there is one. -/
def file? (disk : Disk) (path : Path) : Option Bytes :=
  match disk.node? path with
  | some (.file octets) => some octets
  | _ => none

/-- Why a folder cannot be made or a file cannot be written. -/
inductive Fault where
  | taken (path : Path)
  | notFolder (path : Path)
  | isFolder (path : Path)
  deriving DecidableEq

def Fault.kind : Fault → String
  | .taken _ => "FileExistsError"
  | .notFolder _ => "NotADirectoryError"
  | .isFolder _ => "IsADirectoryError"

def Fault.message : Fault → String
  | .taken path => "[Errno 17] File exists: " ++ Text.quoted path.text
  | .notFolder path => "[Errno 20] Not a directory: " ++ Text.quoted path.text
  | .isFolder path => "[Errno 21] Is a directory: " ++ Text.quoted path.text

/-- Makes the folders from `made` down along some names, as far as they are not there. -/
def makeFolders (disk : Disk) (made : Path) : List String → Except Fault Disk
  | [] => .ok disk
  | name :: names =>
      let path := made ++ [name]
      match disk.node? path with
      | some .folder => makeFolders disk path names
      | some (.file _) =>
          .error (if names.isEmpty then .taken path else .notFolder (path ++ names))
      | none => makeFolders (disk.put path .folder) path names

/-- Writes a file, in place of the one that is there. -/
def write (disk : Disk) (path : Path) (octets : Bytes) : Except Fault Disk :=
  if path.isEmpty || disk.node? path == some .folder then .error (.isFolder path)
  else .ok (disk.put path (.file octets))

end Disk

namespace Counters

/-- Why no file is written. -/
inductive ExportError where
  | disk (fault : Disk.Fault)
  | report (e : ReportError)

def ExportError.kind : ExportError → String
  | .disk fault => fault.kind
  | .report .outOfRange => "TypeError"
  | .report .noTime => "OverflowError"

def ExportError.message : ExportError → String
  | .disk fault => fault.message
  | .report e => e.message

/-- What an export comes to: the disk after it, and the path that was written. -/
structure Exported where
  disk : Disk
  result : Except ExportError Path

/-- Writes the report of the counts at a reading of the clock to a path. -/
def exportTo (c : Counters) (clock : Calendar.Reading) (path : Path) (disk : Disk) : Exported :=
  match disk.makeFolders [] path.dropLast with
  | .error fault => ⟨disk, .error (.disk fault)⟩
  | .ok ready =>
      match c.report clock with
      | .error e => ⟨ready, .error (.report e)⟩
      | .ok text =>
          match ready.write path (Utf8.encode text) with
          | .error fault => ⟨ready, .error (.disk fault)⟩
          | .ok written => ⟨written, .ok path⟩

end Counters

end BucketRegion
