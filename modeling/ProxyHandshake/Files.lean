import ProxyHandshake.Bytes.Utf8
import ProxyHandshake.Text.Split

/-!
# Files

A tree of directories and files, and the directory in which relative names begin.  Names are lists
of bytes; messages show them as text.
-/

namespace ProxyHandshake

inductive FileError where
  | notFound
  | notADirectory
  | isADirectory
  | nameTooLong
  | zeroInName
  | notText
  /-- A cause in the words of the system. -/
  | reported (detail : String)
deriving DecidableEq, Repr

def FileError.message : FileError → String
  | .notFound => "No such file or directory (os error 2)"
  | .notADirectory => "Not a directory (os error 20)"
  | .isADirectory => "Is a directory (os error 21)"
  | .nameTooLong => "File name too long (os error 36)"
  | .zeroInName => "file name contained an unexpected NUL byte"
  | .notText => "stream did not contain valid UTF-8"
  | .reported detail => detail

inductive FileNode where
  | file (content : Bytes)
  | directory (entries : List (Bytes × FileNode))

namespace FileNode

def child? (node : FileNode) (name : Bytes) : Option FileNode :=
  match node with
  | .file _ => none
  | .directory entries => entries.lookup name

def isFile : FileNode → Bool
  | .file _ => true
  | .directory _ => false

/-- Put `node` at `path`, making the directories on the way. -/
def put (node : FileNode) : List Bytes → FileNode → FileNode
  | [], _ => node
  | name :: rest, tree =>
    let below := (tree.child? name).getD (.directory [])
    let others :=
      match tree with
      | .file _ => []
      | .directory entries => entries.filter fun entry => entry.1 ≠ name
    .directory ((name, put node rest below) :: others)

def slash : UInt8 := 47

def parentName : Bytes := [46, 46]

def sameName : Bytes := [46]

/-- The longest name of a directory entry. -/
def longestName : Nat := 255

/-- Go from `node`, which has the directories `above` over it, along a path. -/
def walk (above : List FileNode) (node : FileNode) : List Bytes → Except FileError FileNode
  | [] => .ok node
  | name :: rest =>
    match node with
    | .file _ => .error .notADirectory
    | .directory entries =>
      if name = [] ∨ name = sameName then walk above node rest
      else if name = parentName then
        match above with
        | [] => walk [] node rest
        | parent :: others => walk others parent rest
      else if longestName < name.length then .error .nameTooLong
      else match entries.lookup name with
        | none => .error .notFound
        | some child => walk (node :: above) child rest

end FileNode

structure FileSystem where
  root : FileNode
  /-- The names on the way from the root to the directory in which relative names begin. -/
  workingDirectory : List Bytes

namespace FileSystem

/-- The longest name of a file with its directories. -/
def longestPath : Nat := 4095

/-- The file or directory called `path`. -/
def find (files : FileSystem) (path : Bytes) : Except FileError FileNode :=
  let parts := Text.pieces (· == FileNode.slash) path
  if path.contains 0 then .error .zeroInName
  else if path = [] then .error .notFound
  else if longestPath < path.length then .error .nameTooLong
  else if path.head? = some FileNode.slash then FileNode.walk [] files.root parts
  else FileNode.walk [] files.root (files.workingDirectory ++ parts)

def hasPath (files : FileSystem) (path : Bytes) : Bool :=
  match files.find path with
  | .ok _ => true
  | .error _ => false

def read (files : FileSystem) (path : Bytes) : Except FileError Bytes :=
  match files.find path with
  | .error e => .error e
  | .ok (.directory _) => .error .isADirectory
  | .ok (.file content) => .ok content

def readText (files : FileSystem) (path : Bytes) : Except FileError String :=
  match files.read path with
  | .error e => .error e
  | .ok content =>
    match Utf8.decode? content with
    | some text => .ok text
    | none => .error .notText

end FileSystem

/-! ## Environment -/

/-- The variables that are set. -/
structure Environment where
  entries : List (String × Bytes)
deriving DecidableEq, Repr

namespace Environment

def get? (environment : Environment) (name : String) : Option Bytes :=
  environment.entries.lookup name

/-- The value of a variable that holds text. -/
def text? (environment : Environment) (name : String) : Option String :=
  (environment.get? name).bind Utf8.decode?

def set (environment : Environment) (name : String) (value : Bytes) : Environment :=
  ⟨(name, value) :: environment.entries.filter fun entry => entry.1 ≠ name⟩

end Environment

end ProxyHandshake
