import WalletRecovery.Bytes

/-!
# Folders

The files that a run finds under its working directory.  A name is a list of steps with slashes
between them, which are gone one after the other; empty steps and single dots lead nowhere, and two
dots lead upwards.  A name that begins with a slash starts at the root of the machine instead.
-/

namespace WalletRecovery.CommandLine

inductive FileFault where
  | notFound
  | isDirectory
  | notADirectory
  | nameTooLong
  /-- The system gives another reason. -/
  | other (reason : String)
deriving DecidableEq, Repr

def FileFault.message : FileFault → String
  | notFound => "No such file or directory (os error 2)"
  | isDirectory => "Is a directory (os error 21)"
  | notADirectory => "Not a directory (os error 20)"
  | nameTooLong => "File name too long (os error 36)"
  | other reason => reason

abbrev Step := List Char

namespace Step

def leadsNowhere (s : Step) : Bool :=
  s = [] ∨ s = ['.']

def leadsUp (s : Step) : Bool :=
  s = ['.', '.']

def limit : Nat := 255

def isTooLong (s : Step) : Bool :=
  limit < byteLength s

end Step

def stepsOf (name : String) : List Step :=
  name.toList.splitOn '/'

/-- The files under a directory, each with its name and its bytes, and directories that are there
also without a file in them. -/
structure Folder where
  files : List (String × List UInt8) := []
  directories : List String := []
deriving DecidableEq, Repr

namespace Folder

def way (name : String) : List Step :=
  (stepsOf name).filter (! ·.leadsNowhere)

def content? (folder : Folder) (path : List Step) : Option (List UInt8) :=
  (folder.files.find? fun file => way file.1 = path).map (·.2)

def hasDirectory (folder : Folder) (path : List Step) : Bool :=
  path.isEmpty || folder.files.any (fun file => path.isPrefixOf (way file.1)) ||
    folder.directories.any fun name => path.isPrefixOf (way name)

inductive Place where
  /-- In a directory at the end of a way. -/
  | inside (path : List Step)
  /-- In a directory above the folder. -/
  | above

/-- The place above a directory.  Nothing is above the root of a machine but itself. -/
def up (isRoot : Bool) : List Step → Place
  | [] => if isRoot then .inside [] else .above
  | path => .inside path.dropLast

/-- Goes steps from a place to a file, and reads it.  The place above the folder can be left only
upwards. -/
def walk (folder : Folder) (isRoot : Bool) : Place → List Step → Except FileFault (List UInt8)
  | _, [] => .error .isDirectory
  | .above, step :: rest =>
    if step.leadsNowhere || step.leadsUp then walk folder isRoot .above rest
    else if step.isTooLong then .error .nameTooLong
    else .error .notFound
  | .inside path, step :: rest =>
    if step.leadsNowhere then walk folder isRoot (.inside path) rest
    else if step.leadsUp then walk folder isRoot (up isRoot path) rest
    else if step.isTooLong then .error .nameTooLong
    else
      match folder.content? (path ++ [step]) with
      | some bytes => if rest = [] then .ok bytes else .error .notADirectory
      | none =>
        if folder.hasDirectory (path ++ [step]) then
          walk folder isRoot (.inside (path ++ [step])) rest
        else .error .notFound

/-- The machine around a run: its usual directories, and two devices from which nothing comes. -/
def machine : Folder where
  files := [("dev/null", []), ("dev/stdin", [])]
  directories := ["bin", "etc", "home", "lib", "opt", "proc", "root", "sys", "tmp", "usr", "var"]

def nameLimit : Nat := 4096

def read (folder : Folder) (name : String) : Except FileFault (List UInt8) :=
  if nameLimit ≤ name.utf8ByteSize then .error .nameTooLong
  else
    match name.toList with
    | '/' :: _ => machine.walk true (.inside []) (stepsOf name)
    | _ => folder.walk false (.inside []) (stepsOf name)

end Folder

end WalletRecovery.CommandLine
