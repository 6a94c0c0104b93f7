namespace LexPattern.CommandLine

inductive FileError where
  | notFound
  | isFolder
  | notFolder
  | tooLong
  | other (reason : String)
deriving DecidableEq, Repr

def FileError.message : FileError → String
  | notFound => "no such file or directory"
  | isFolder => "is a directory"
  | notFolder => "not a directory"
  | tooLong => "file name too long"
  | other reason => reason

-- The names on the way to a file or folder, innermost first: from the working folder, which may lead up, or
-- from the root.
abbrev Location := List String

namespace Location

def root : Location := ["/"]

-- One step to a name. A dot stays, and two dots lead up.
def step (l : Location) (name : String) : Location :=
  if name = "." then l
  else if name = ".." then
    if l = root then root
    else match l with
      | [] => [".."]
      | inner :: outer => if inner = ".." then ".." :: l else outer
  else name :: l

def path (l : Location) : String :=
  match l.reverse with
  | [] => "."
  | "/" :: names => "/" ++ "/".intercalate names
  | names => "/".intercalate names

end Location

namespace Path

def isAbsolute (path : String) : Bool := path.toList.head? == some '/'

def endsInSlash (path : String) : Bool := path.toList.getLast? == some '/'

def names (path : String) : List String := (path.splitOn "/").filter (· ≠ "")

def start (path : String) : Location := if isAbsolute path then .root else []

def location (path : String) : Location := (names path).foldl Location.step (start path)

-- The path of a file to be found. One that starts in the home folder or the working folder is made as short
-- as can be, without a look at the folders on its way.
def find (home path : String) : String :=
  match path.toList with
  | '~' :: '/' :: rest => (location (home ++ "/" ++ String.ofList rest)).path
  | _ => if isAbsolute path then path else (location path).path

end Path

structure Folder where
  files : List (Location × ByteArray)

namespace Folder

def ofList (files : List (String × ByteArray)) : Folder :=
  ⟨files.map fun (path,content) => (Path.location path,content)⟩

-- What is read there is empty, and what is written there is gone.
def nullDevice : Location := ["null","dev","/"]

def systemFolders : List Location := [.root,["dev","/"],["tmp","/"]]

def get? (f : Folder) (l : Location) : Option ByteArray :=
  if l = nullDevice then some .empty else f.files.lookup l

def hasFolder (f : Folder) (l : Location) : Bool :=
  l.all (· = "..") || systemFolders.contains l || f.files.any fun (inside,_) => l.isSuffixOf inside && l != inside

def nameLimit : Nat := 255

def pathLimit : Nat := 4096

def enter (f : Folder) (l : Location) (name : String) : Except FileError Location :=
  let inside := l.step name
  if nameLimit < name.utf8ByteSize then .error .tooLong
  else if f.hasFolder inside then .ok inside
  else if (f.get? inside).isSome then .error .notFolder
  else .error .notFound

def approach (f : Folder) (path : String) : Except FileError (Location × String) :=
  if path = "" then .error .notFound
  else if pathLimit ≤ path.utf8ByteSize then .error .tooLong
  else
    let names := Path.names path
    (names.dropLast.foldlM f.enter (Path.start path)).map fun l => (l,names.getLast?.getD ".")

def read (f : Folder) (path : String) : Except FileError ByteArray := do
  let (l,name) ← f.approach path
  let target := l.step name
  if nameLimit < name.utf8ByteSize then .error .tooLong
  else if f.hasFolder target then .error .isFolder
  else match f.get? target with
    | some content => if Path.endsInSlash path then .error .notFolder else .ok content
    | none => .error .notFound

def write (f : Folder) (path : String) (content : ByteArray) : Except FileError Folder := do
  let (l,name) ← f.approach path
  let target := l.step name
  if Path.endsInSlash path then .error .isFolder
  else if nameLimit < name.utf8ByteSize then .error .tooLong
  else if f.hasFolder target then .error .isFolder
  else if target = nullDevice then .ok f
  else .ok ⟨(target,content) :: f.files.filter (·.1 ≠ target)⟩

end Folder

end LexPattern.CommandLine
