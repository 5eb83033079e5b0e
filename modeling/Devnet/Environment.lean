import Devnet.Text.Utf8

namespace Devnet

/-- Entries of the form `NAME=value`, whose bytes need not be text. -/
structure Environment where
  entries : List (List UInt8)

namespace Environment

/-- The bytes after `NAME=` in the first entry that starts so; the empty name names nothing. -/
def get? (env : Environment) (name : String) : Option (List UInt8) :=
  let mark := Text.encodeUtf8 name ++ [0x3D]
  if name.isEmpty then none
  else (env.entries.find? mark.isPrefixOf).map (·.drop mark.length)

def text? (env : Environment) (name : String) : Option String := env.get? name >>= Text.decodeUtf8?

def entry (name : String) (value : List UInt8) : List UInt8 :=
  Text.encodeUtf8 name ++ 0x3D :: value

end Environment

inductive FileFault where
  | notFound
  | notDirectory
  | isDirectory
  | nameTooLong
  | zeroByte
  | notText
  deriving DecidableEq

def FileFault.message : FileFault → String
  | notFound => "No such file or directory (os error 2)"
  | notDirectory => "Not a directory (os error 20)"
  | isDirectory => "Is a directory (os error 21)"
  | nameTooLong => "File name too long (os error 36)"
  | zeroByte => "file name contained an unexpected NUL byte"
  | notText => "stream did not contain valid UTF-8"

/-- Names parted by slashes, whose bytes need not be text. -/
abbrev FilePath := List UInt8

inductive FileContent where
  | directory
  | file (bytes : List UInt8)
  deriving DecidableEq

structure Files where
  lookup : FilePath → Except FileFault FileContent

namespace Files

def exists? (files : Files) (path : FilePath) : Bool := (files.lookup path).toBool

def readText (files : Files) (path : FilePath) : Except FileFault String := do
  match ← files.lookup path with
  | .directory => throw .isDirectory
  | .file bytes =>
    match Text.decodeUtf8? bytes with
    | some text => return text
    | none => throw .notText

end Files

/-- A file or a directory with everything in it. -/
inductive FileTree where
  | file (bytes : List UInt8)
  | directory (entries : List (FilePath × FileTree))

namespace FileTree

def nameLimit : Nat := 255

/-- The least length that a path cannot have. -/
def pathLimit : Nat := 4096

def slash : UInt8 := 0x2F

def dot : UInt8 := 0x2E

def components (path : FilePath) : List FilePath := path.splitOn slash

/-- Follows the names from a place; `above` lists the directories it stands in, the nearest first.
Nothing is known of what stands above the outermost one. -/
def walk : (above : List FileTree) → FileTree → List FilePath → Except FileFault FileTree
  | _, here, [] => .ok here
  | _, file _, _ :: _ => .error .notDirectory
  | above, directory entries, name :: names =>
    if name = [] ∨ name = [dot] then walk above (directory entries) names
    else if name = [dot, dot] then
      match above with
      | [] => walk [] (directory []) names
      | d :: above => walk above d names
    else if nameLimit < name.length then .error .nameTooLong
    else
      match entries.lookup name with
      | none => .error .notFound
      | some t => walk (directory entries :: above) t names

def content : FileTree → FileContent
  | file bytes => .file bytes
  | directory _ => .directory

def lookup (root : FileTree) (path : FilePath) : Except FileFault FileContent :=
  (walk [] root (components path)).map content

/-- What stands at a path: one that is not absolute starts in the tree. -/
def toFiles (root : FileTree) (absolute : Files := ⟨fun _ => .error .notFound⟩) : Files where
  lookup path :=
    if path = [] then .error .notFound
    else if path.contains 0 then .error .zeroByte
    else if pathLimit ≤ path.length then .error .nameTooLong
    else if path.head? = some slash then absolute.lookup path
    else root.lookup path

/-- Puts a tree at a place below; a directory that is there already stays. -/
def place (new : FileTree) : List FilePath → (old : FileTree) → FileTree
  | [], old =>
    match new, old with
    | directory [], directory entries => directory entries
    | new, _ => new
  | name :: names, old =>
    if name = [] ∨ name = [dot] then place new names old
    else
      let entries := match old with
        | directory entries => entries
        | file _ => []
      let below := place new names ((entries.lookup name).getD (directory []))
      directory ((name, below) :: entries.filter (·.1 ≠ name))

end FileTree

end Devnet
