import TaskPipeline.Host.Disk

/-!
The programs of a host: which there are, how one is found by its name, and why one is not.
-/

namespace TaskPipeline.Host

/-- Why a program cannot be launched. -/
inductive LaunchFailure where
  | missing
  | notAllowed
  /-- A file stands where a folder is wanted. -/
  | noFolder
  | longName
  | muchText
  /-- A text holds the character that ends texts. -/
  | badText
  deriving DecidableEq, Repr

def LaunchFailure.message : LaunchFailure → String
  | missing => "No such file or directory (os error 2)"
  | notAllowed => "Permission denied (os error 13)"
  | noFolder => "Not a directory (os error 20)"
  | longName => "File name too long (os error 36)"
  | muchText => "Argument list too long (os error 7)"
  | badText => "nul byte found in provided data"

/-- The names of the programs that a host has. -/
def programs : List String :=
  shells ++ ["[", "base64", "basename", "cat", "chmod", "cmp", "comm", "cp", "cut", "dirname",
    "echo", "egrep", "env", "expand", "expr", "factor", "false", "fgrep", "find", "fold", "grep",
    "head", "id", "kill", "ls", "mkdir", "mv", "nice", "nl", "nohup", "od", "paste", "printenv",
    "printf", "pwd", "realpath", "rev", "rm", "rmdir", "sed", "seq", "sleep", "sort", "tac",
    "tail", "tee", "test", "timeout", "touch", "tr", "true", "uname", "uniq", "wc", "which",
    "whoami", "xargs", "yes"]

/-- The folders that programs lie in. -/
def programFolders : List String := ["/usr/bin", "/bin"]

/-- Where programs are looked for if nothing else is said. -/
def standingPath : String := "/usr/local/sbin:/usr/local/bin:/usr/sbin:/usr/bin:/sbin:/bin"

/-- A path is that of a program that the host has. -/
def isProgramPath (path : String) : Bool :=
  programFolders.contains (Disk.parent path) && programs.contains (lastPart path)

/-- There is a file or a folder at a path. -/
def Disk.reaches (d : Disk) (path : String) : Bool := d.has path || isProgramPath path

/-- A file at a path can be run. -/
def Disk.canRun (d : Disk) (path : String) : Bool := isProgramPath path || d.runnable.contains path

/-- A name is a path if it has a slash. -/
def isPath (name : String) : Bool := name.toList.contains '/'

/-- The longest name that a file can have. -/
def longestName : Nat := 255

/-- The longest path. -/
def longestPath : Nat := 4095

/-- The path of a program that is called by its path. -/
def programAt (d : Disk) (folder name : String) : Except LaunchFailure String :=
  let path := resolve folder name
  if name.length > longestPath ∨ (name.splitOn "/").any fun p => p.length > longestName then
    .error .longName
  else if d.canRun path ∧ !name.endsWith "/" then .ok path
  else if d.passesFile path ∨ (d.hasFile path ∧ name.endsWith "/") then .error .noFolder
  else if d.reaches path then .error .notAllowed
  else .error .missing

/-- The path of a program that is looked for in some folders. Where none is found, a file there
that cannot be run tells why. -/
def searchProgram (d : Disk) (folder : String) (places : List String) (name : String) :
    Except LaunchFailure String :=
  if name.isEmpty then .error .missing
  else
    let found := places.map fun place =>
      programAt d folder (if place.isEmpty then "./" ++ name else place ++ "/" ++ name)
    let isOk (r : Except LaunchFailure String) : Bool := match r with
      | .ok _ => true
      | .error _ => false
    let isRefused (r : Except LaunchFailure String) : Bool := match r with
      | .error .notAllowed | .error .longName => true
      | _ => false
    (found.find? isOk).getD ((found.find? isRefused).getD (.error .missing))

/-- The path of the program that a name means in a folder. -/
def findProgram (d : Disk) (folder : String) (places : List String) (name : String) :
    Except LaunchFailure String :=
  if isPath name then programAt d folder name else searchProgram d folder places name

/-- The environment variables that every program gets. -/
def standingEnvironment : List (String × String) :=
  [("PATH", standingPath), ("HOME", "/root"), ("PWD", "/")]

end TaskPipeline.Host
