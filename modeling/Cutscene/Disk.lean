import Cutscene.Disk.Path
import Cutscene.SortedMap
import Cutscene.Text.Blank
/-!
# A disk

Files and folders, and the few operations on them that saving needs. An operation that fails says
why. A disk may also refuse changes altogether: a locked disk stays as it is, and on a full disk a
file that is written is emptied and then gets no bytes.
-/

namespace Cutscene

namespace Disk

/-- What a path can lead to. -/
inductive Node where
  | file (bytes : ByteArray)
  | folder

/-- Files are told apart by their bytes. -/
instance : DecidableEq Node
  | .file a, .file b =>
    if h : a.data = b.data then isTrue (congrArg Node.file (ByteArray.ext h))
    else isFalse fun e => h (congrArg ByteArray.data (Node.file.inj e))
  | .folder, .folder => isTrue rfl
  | .file _, .folder => isFalse nofun
  | .folder, .file _ => isFalse nofun

/-- Whether a disk takes changes. -/
inductive Condition where
  | sound
  | locked
  | full
  deriving DecidableEq, Repr

/-- Why an operation failed. -/
inductive Failure where
  | missing
  | alreadyThere
  | notFolder
  | isFolder
  | full
  | locked
  | nameTooLong
  | nullInName
  | notText
  deriving DecidableEq, Repr

/-- The wording of a failure. -/
def Failure.message : Failure → String
  | missing => "No such file or directory (os error 2)"
  | alreadyThere => "File exists (os error 17)"
  | notFolder => "Not a directory (os error 20)"
  | isFolder => "Is a directory (os error 21)"
  | full => "No space left on device (os error 28)"
  | locked => "Read-only file system (os error 30)"
  | nameTooLong => "File name too long (os error 36)"
  | nullInName => "file name contained an unexpected NUL byte"
  | notText => "stream did not contain valid UTF-8"

end Disk

/-- A disk: what is at each place, and the place of the working folder. A place is written as the
names on the way to it from the top, with a slash after each. -/
structure Disk where
  nodes : SortedMap Disk.Node := .empty
  home : List String := []
  condition : Disk.Condition := .sound
  deriving DecidableEq

namespace Disk

instance : Inhabited Disk := ⟨{}⟩

/-! ## Places -/

/-- The place of a list of names. -/
def place (names : List String) : String :=
  String.join (names.map (· ++ "/"))

/-- A disk with nothing but its working folder. -/
def withHome (home : List String) : Disk :=
  let folders := (List.range home.length).map fun n => (place (home.take (n + 1)), Node.folder)
  { nodes := .ofList folders, home }

/-- What is at a list of names; the top folder is always there. -/
def at? (d : Disk) (names : List String) : Option Node :=
  if names.isEmpty then some .folder else d.nodes.get? (place names)

/-- Goes on from a place by one part of a path, which is only possible in a folder. -/
def enter (d : Disk) (here : List String) (part : String) : Except Failure (List String) :=
  match d.at? here with
  | none => .error .missing
  | some (.file _) => .error .notFolder
  | some .folder =>
    if part = "" ∨ part = "." then .ok here
    else if part = ".." then .ok here.dropLast
    else if Path.nameLimit < Text.byteLength part.toList then .error .nameTooLong
    else .ok (here ++ [part])

/-- Where a path begins. -/
def start (d : Disk) (path : String) : List String :=
  if Path.isFromTop path then [] else d.home

/-- Refuses a text that is no path. -/
def checkPath (path : String) : Except Failure Unit :=
  if Path.hasNull path then .error .nullInName
  else if Path.limit < Text.byteLength path.toList then .error .nameTooLong
  else if path = "" then .error .missing
  else .ok ()

/-- The place that a path leads to; there may be nothing at it. -/
def resolve (d : Disk) (path : String) : Except Failure (List String) := do
  checkPath path
  (Path.parts path).foldlM d.enter (d.start path)

/-! ## Looking -/

/-- What is at a path. -/
def find? (d : Disk) (path : String) : Option Node :=
  match d.resolve path with
  | .ok place => d.at? place
  | .error _ => none

/-- Whether there is anything at a path. -/
def contains (d : Disk) (path : String) : Bool :=
  (d.find? path).isSome

/-- The bytes of a file. -/
def read (d : Disk) (path : String) : Except Failure ByteArray := do
  match d.at? (← d.resolve path) with
  | some (.file bytes) => return bytes
  | some .folder => throw .isFolder
  | none => throw .missing

/-- The text of a file. -/
def readText (d : Disk) (path : String) : Except Failure String := do
  match String.fromUTF8? (← d.read path) with
  | some text => return text
  | none => throw .notText

/-! ## Changing -/

/-- Puts something at a place. -/
def put (d : Disk) (names : List String) (node : Node) : Disk :=
  { d with nodes := d.nodes.insert (place names) node }

/-- Makes the folders on a way from a folder, as far as they are missing. The way is looked at as a
whole first: a file in the middle of it is no folder, but one that is only found after a folder was
made (`made`), or at the end, is in the place of a folder. -/
def makeFoldersFrom (d : Disk) (made : Bool) (here : List String) :
    List String → Disk × Except Failure Unit
  | [] => (d, .ok ())
  | part :: rest =>
    match d.enter here part with
    | .error failure => (d, .error failure)
    | .ok next =>
      match d.at? next with
      | some .folder => makeFoldersFrom d made next rest
      | some (.file _) => (d, .error (if made || rest.isEmpty then .alreadyThere else .notFolder))
      | none =>
        if d.condition = .locked then (d, .error .locked)
        else makeFoldersFrom (d.put next .folder) true next rest

/-- Makes the folder at a path and the folders on the way to it, as far as they are missing. The
empty path asks for none. -/
def makeFolders (d : Disk) (path : String) : Disk × Except Failure Unit :=
  if path = "" then (d, .ok ())
  else
    match checkPath path with
    | .error failure => (d, .error failure)
    | .ok () => d.makeFoldersFrom false (d.start path) (Path.parts path)

/-- Why a path with a slash at its end cannot be written to: the way to it is not there, or it asks
for a folder. -/
def slashFailure (d : Disk) (path : String) : Failure :=
  let way := do
    checkPath path
    d.enter (← (Path.outerParts path).foldlM d.enter (d.start path)) "."
  match way with
  | .error failure => failure
  | .ok _ => .isFolder

/-- Writes a file, in the place of an earlier one. -/
def write (d : Disk) (path : String) (bytes : ByteArray) : Disk × Except Failure Unit :=
  if Path.endsInSlash path then (d, .error (d.slashFailure path))
  else
    match d.resolve path with
    | .error failure => (d, .error failure)
    | .ok place =>
      match d.at? place with
      | some .folder => (d, .error .isFolder)
      | _ =>
        match d.condition with
        | .locked => (d, .error .locked)
        | .full => (d.put place (.file .empty), .error .full)
        | .sound => (d.put place (.file bytes), .ok ())

/-- Removes a file. -/
def remove (d : Disk) (path : String) : Disk × Except Failure Unit :=
  match d.resolve path with
  | .error failure => (d, .error failure)
  | .ok names =>
    match d.at? names with
    | none => (d, .error .missing)
    | some .folder => (d, .error .isFolder)
    | some (.file _) =>
      if d.condition = .locked then (d, .error .locked)
      else ({ d with nodes := d.nodes.erase (place names) }, .ok ())

/-- Makes something at a path, with the folders on the way to it; what cannot be made is left
out. -/
def install (d : Disk) (path : String) (node : Node) : Disk :=
  match node with
  | .folder => (d.makeFolders path).1
  | .file bytes => ((d.makeFolders (Path.parent path)).1.write path bytes).1

end Disk

end Cutscene
