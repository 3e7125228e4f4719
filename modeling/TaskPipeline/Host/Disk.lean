import TaskPipeline.Host.Raw

/-!
The files and folders of a host that its programs can see and change. Paths are absolute raw texts.
-/

namespace TaskPipeline.Host

/-- Bytes to be read: some, and then a run of bytes over and over unless it is empty. -/
structure Feed where
  bytes : List UInt8 := []
  forever : List UInt8 := []
  deriving DecidableEq, Repr

namespace Feed

def isEndless (f : Feed) : Bool := !f.forever.isEmpty

/-- The first bytes, of a feed that has so many or never ends. -/
def take (f : Feed) (n : Nat) : List UInt8 :=
  if f.forever.isEmpty then f.bytes.take n
  else
    let rounds := (n - f.bytes.length) / f.forever.length + 1
    (f.bytes ++ (List.replicate rounds f.forever).flatten).take n

/-- What is left of a feed behind its first bytes. -/
def drop (f : Feed) (n : Nat) : Feed :=
  if f.forever.isEmpty ∨ n ≤ f.bytes.length then { f with bytes := f.bytes.drop n }
  else
    let turned := (n - f.bytes.length) % f.forever.length
    { f with bytes := f.forever.drop turned }

def map (g : UInt8 → UInt8) (f : Feed) : Feed := ⟨f.bytes.map g, f.forever.map g⟩

/-- One feed after another. What follows an endless one never comes. -/
def append (f g : Feed) : Feed := if f.isEndless then f else ⟨f.bytes ++ g.bytes, g.forever⟩

def ofText (s : String) : Feed := { bytes := bytesOf s }

end Feed

structure Disk where
  /-- The contents of the files, by path. -/
  files : List (String × List UInt8) := []
  folders : List String := []
  /-- The files that can be run. -/
  runnable : List String := []
  deriving DecidableEq, Repr

/-- The parts of a path between its slashes. -/
def pathParts (path : String) : List String :=
  ((path.splitOn "/").filter (· != "")).filter (· != ".")

/-- The absolute path that a path means in a folder. -/
def resolve (folder path : String) : String :=
  let whole := if path.startsWith "/" then path else folder ++ "/" ++ path
  let parts := (pathParts whole).foldl (fun done part =>
    if part = ".." then done.dropLast else done ++ [part]) []
  "/" ++ "/".intercalate parts

/-- The last part of a path. -/
def lastPart (path : String) : String := (path.splitOn "/").getLast?.getD path

/-- The names of the programs that a host has. -/
def shells : List String := ["sh", "dash", "bash"]

namespace Disk

/-- Folders that every host has. -/
def standing : List String :=
  ["/", "/bin", "/dev", "/etc", "/home", "/proc", "/root", "/tmp", "/usr", "/usr/bin", "/var"]

/-- Files that every host has, and whose contents are no matter. -/
def standingFiles : List String := ["/etc/passwd", "/etc/hosts", "/dev/stdin", "/dev/tty"]

/-- Files that can be read without an end; all bytes of theirs count as zeros. -/
def endlessFiles : List String := ["/dev/full", "/dev/random", "/dev/urandom", "/dev/zero"]

def hasFolder (d : Disk) (path : String) : Bool :=
  standing.contains path || d.folders.contains path

/-- What reading a path gives. -/
def read? (d : Disk) (path : String) : Option Feed :=
  if path = "/dev/null" then some {}
  else if endlessFiles.contains path then some { forever := [0] }
  else (d.files.lookup path).map fun bytes => { bytes := bytes }

def hasFile (d : Disk) (path : String) : Bool :=
  (d.read? path).isSome || standingFiles.contains path

def has (d : Disk) (path : String) : Bool := d.hasFile path || d.hasFolder path

/-- The folder that a path lies in. -/
def parent (path : String) : String :=
  match (path.splitOn "/").dropLast with
  | [] | [""] => "/"
  | parts => "/".intercalate parts

/-- One of the folders that a path lies in is a file. -/
def passesFile (d : Disk) (path : String) : Bool :=
  let parts := pathParts path
  (List.range parts.length).any fun n => d.hasFile ("/" ++ "/".intercalate (parts.take n))

/-- Writes a file in the place of the one that is there. -/
def write (d : Disk) (path : String) (bytes : List UInt8) : Disk :=
  if d.files.any (·.1 == path) then
    { d with files := d.files.map fun f => if f.1 = path then (path, bytes) else f }
  else { d with files := d.files ++ [(path, bytes)] }

def append (d : Disk) (path : String) (bytes : List UInt8) : Disk :=
  d.write path (((d.files.lookup path).getD []) ++ bytes)

def remove (d : Disk) (path : String) : Disk where
  files := d.files.filter (·.1 != path)
  folders := d.folders.filter (· != path)
  runnable := d.runnable.filter (· != path)

/-- A path is another one or lies in it. -/
def isIn (path folder : String) : Bool := path == folder || path.startsWith (folder ++ "/")

/-- Removes a folder with all that lies in it. -/
def removeDeep (d : Disk) (path : String) : Disk where
  files := d.files.filter fun f => !isIn f.1 path
  folders := d.folders.filter fun p => !isIn p path
  runnable := d.runnable.filter fun p => !isIn p path

/-- Makes a folder and those that it lies in. -/
def addFolders (d : Disk) (path : String) : Disk :=
  let parts := (path.splitOn "/").drop 1
  let paths := (List.range parts.length).map fun n => "/" ++ "/".intercalate (parts.take (n + 1))
  { d with folders := d.folders ++ paths.filter fun p => !d.hasFolder p }

/-- Copies a file or a folder, with all that lies in it, to another path. -/
def copyDeep (d : Disk) (source target : String) : Disk :=
  let moved (p : String) : String := target ++ String.ofList (p.toList.drop source.length)
  let copied := (d.files.filter fun f => isIn f.1 source).foldl (fun d f =>
    d.write (moved f.1) f.2) d
  { copied with
    folders := copied.folders ++
      ((d.folders.filter fun p => isIn p source).map moved).filter (!copied.folders.contains ·)
    runnable := copied.runnable ++ (d.runnable.filter fun p => isIn p source).map moved }

/-- The names in a folder, in order. -/
def names (d : Disk) (folder : String) : List String :=
  let inside := (d.files.map (·.1) ++ d.folders).filter fun p => parent p == folder && p != folder
  (inside.map lastPart).mergeSort fun a b => decide (a ≤ b)

end Disk

end TaskPipeline.Host
