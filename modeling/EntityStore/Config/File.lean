/-!
# Files of a bare system

What reading a file comes to on a system that holds the usual directories, the empty device
and nothing else. Paths are walked name by name, as the system does it.
-/

namespace EntityStore.Config

inductive FileFault where
  | nul
  | missing
  | notDirectory
  | isDirectory
  | nameTooLong
deriving DecidableEq, Repr

def FileFault.message : FileFault → String
  | .nul => "file name contained an unexpected NUL byte"
  | .missing => "No such file or directory (os error 2)"
  | .notDirectory => "Not a directory (os error 20)"
  | .isDirectory => "Is a directory (os error 21)"
  | .nameTooLong => "File name too long (os error 36)"

inductive Place where
  | root
  | top (name : String)
  | device
  /-- The directory that relative paths start from, or one above it. -/
  | here
deriving DecidableEq, Repr

namespace Place

/-- The directories in the root. -/
def directories : List String :=
  ["bin", "boot", "dev", "etc", "home", "lib", "media", "mnt", "opt", "proc", "root", "run",
    "sbin", "srv", "sys", "tmp", "usr", "var"]

def maxName : Nat := 255

def maxPath : Nat := 4095

def parent : Place → Place
  | .root | .top _ => .root
  | .device => .top "dev"
  | .here => .here

def lookup (p : Place) (name : String) : Except FileFault Place :=
  if name.utf8ByteSize > maxName then .error .nameTooLong
  else if p = .root && name ∈ directories then .ok (.top name)
  else if p = .top "dev" && name = "null" then .ok .device
  else .error .missing

/-- Follows a part of a path; an empty part and a dot stay where they are. -/
def step (p : Place) (part : String) : Except FileFault Place :=
  if p = .device then .error .notDirectory
  else if part = "" || part = "." then .ok p
  else if part = ".." then .ok p.parent
  else p.lookup part

def ofPath (path : String) : Except FileFault Place :=
  if path.contains '\x00' then .error .nul
  else if path.utf8ByteSize > maxPath then .error .nameTooLong
  else
    match path.splitOn "/" with
    | "" :: [] => .error .missing
    | "" :: parts => parts.foldlM step .root
    | parts => parts.foldlM step .here

end Place

def readFile (path : String) : Except FileFault String :=
  match Place.ofPath path with
  | .ok .device => .ok ""
  | .ok _ => .error .isDirectory
  | .error f => .error f

end EntityStore.Config
