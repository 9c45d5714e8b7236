import FlowDiagram.OrderedMap
import FlowDiagram.Text.Quoted
import FlowDiagram.Text.Split

/-! # Folders

A folder holds texts under the names of files, and knows the names of the folders in it.  A name
that leads into a folder that is not there names nothing and cannot be written.  A name may start
with a mark for the folder itself.
-/

namespace FlowDiagram

inductive FileError where
  | notFound (name : String)
  | isFolder (name : String)
deriving DecidableEq, Repr

def FileError.message : FileError → String
  | notFound name => "[Errno 2] No such file or directory: " ++ Text.quoted name
  | isFolder name => "[Errno 21] Is a directory: " ++ Text.quoted name

structure Folder where
  files : OrderedMap String String
  folders : List String

namespace Folder

def empty : Folder := ⟨.empty, []⟩

/-- A folder of some files and no folders; of files with one name the last is kept. -/
def ofFiles (files : List (String × String)) : Folder := ⟨.ofList files, []⟩

/-- The name without marks for the folder itself at its start. -/
def plainName : List Char → List Char
  | '.' :: '/' :: s => plainName s
  | s => s

/-- The part of a name before its last slash, empty without one. -/
def parent (name : List Char) : String :=
  match Text.splitLast '/' name with
  | some (before, _) => String.ofList before
  | none => ""

/-- The name under which the folder keeps a file. -/
def place (d : Folder) (name : String) : Except FileError String :=
  let plain := plainName name.toList
  let key := String.ofList plain
  let within := parent plain
  if name = "" then .error (.notFound name)
  else if plain.isEmpty || key = "." || key ∈ d.folders then .error (.isFolder name)
  else if !plain.contains '/' || within ∈ d.folders then
    if plain.getLast? = some '/' then .error (.isFolder name) else .ok key
  else .error (.notFound name)

def read (d : Folder) (name : String) : Except FileError String := do
  match d.files.get? (← d.place name) with
  | some s => .ok s
  | none => .error (.notFound name)

/-- The folder after a file has been written anew. -/
def write (d : Folder) (name content : String) : Except FileError Folder := do
  return { d with files := d.files.put (← d.place name) content }

/-- The folder after text has been added to the end of a file that is there. -/
def append (d : Folder) (name content : String) : Folder :=
  match d.place name with
  | .error _ => d
  | .ok p =>
    match d.files.get? p with
    | some s => { d with files := d.files.put p (s ++ content) }
    | none => d

def remove (d : Folder) (name : String) : Folder :=
  match d.place name with
  | .error _ => d
  | .ok p => { d with files := d.files.erase p }

/-- The files that are not in another folder with the same text. -/
def changedSince (d before : Folder) : List (String × String) :=
  d.files.entries.filter fun f => before.files.get? f.1 ≠ some f.2

/-- The ending of a name from its last point on, empty if it has none.  Points at the start of the
last part of a path do not count. -/
def extension (name : String) : String :=
  let last := match Text.splitLast '/' name.toList with
    | some (_, last) => last
    | none => name.toList
  match Text.splitLast '.' last with
  | some (stem, after) => if stem.all (· = '.') then "" else String.ofList ('.' :: after)
  | none => ""

end Folder

end FlowDiagram
