import Devnet.Url.Host

namespace Devnet.Url

/-- A path's segment of one dot, also escaped. -/
def isDot (s : List Char) : Bool := String.ofList (s.map Char.toLower) ∈ [".", "%2e"]

def isDoubleDot (s : List Char) : Bool :=
  String.ofList (s.map Char.toLower) ∈ ["..", ".%2e", "%2e.", "%2e%2e"]

/-- The characters escaped in a path, beside the controls. -/
def escapedInPath : List Char := [' ', '"', '<', '>', '`', '#', '?', '\x7b', '\x7d']

/-- A letter and a colon or a bar. -/
def isDrive : List Char → Bool
  | [a, b] => a.isAlpha && (b == ':' || b == '|')
  | _ => false

/-- Whether a segment is a drive, or one that a backslash ends. -/
def startsWithDrive (s : List Char) : Bool :=
  isDrive (s.take 2) && (s.drop 2).head?.all (· == '\\')

/-- A path while its segments are followed: those that a slash has ended, the last first. -/
structure PathWalk where
  closed : List (List Char)
  /-- A drive stands at the front, so that the URL has no host. -/
  hasDrive : Bool

namespace PathWalk

def start : PathWalk := ⟨[], false⟩

/-- Leaves the last segment, unless it is a drive. -/
def up (w : PathWalk) : PathWalk :=
  match w.closed with
  | [] => w
  | s :: rest => if startsWithDrive s then w else { w with closed := rest }

/-- The walk before a segment is closed, and what then stands as the segment; nothing for dots. At
the front of a file's path a drive is written with a colon. -/
def enter (inFile : Bool) (w : PathWalk) (s : List Char) : PathWalk × Option (List Char) :=
  if isDoubleDot s then (w.up, none)
  else if isDot s then (w, none)
  else if inFile && w.closed.isEmpty && isDrive s then
    ({ w with hasDrive := true }, some (s.take 1 ++ [':']))
  else (w, some (percentEncode escapedInPath s))

/-- Follows a segment that a slash ends. -/
def close (inFile : Bool) (w : PathWalk) (s : List Char) : PathWalk :=
  let (w, written) := w.enter inFile s
  match written with
  | some t => { w with closed := t :: w.closed }
  | none => w

end PathWalk

/-- A path as it is written, and whether a drive stands at its front. -/
structure Path where
  chars : List Char
  hasDrive : Bool

/-- Follows the segments of a path that starts with a slash. -/
def Path.ofSegments (inFile : Bool) (segments : List (List Char)) : Path :=
  let walk := segments.dropLast.foldl (PathWalk.close inFile) .start
  let (walk, last) := walk.enter inFile (segments.getLast?.getD [])
  ⟨'/' :: ['/'].intercalate (walk.closed.reverse ++ [last.getD []]), walk.hasDrive⟩

/-- The text between slashes, a first slash apart. -/
def segmentsOf (special : Bool) (cs : List Char) : List (List Char) :=
  (cs.map fun c => if special && c == '\\' then '/' else c).splitOn '/'

def dropSlash (special : Bool) : List Char → List Char
  | c :: cs => if c = '/' ∨ (special ∧ c = '\\') then cs else c :: cs
  | [] => []

/-- A path that starts with a slash, written or not. -/
def readPath (special : Bool) (cs : List Char) : List Char :=
  (Path.ofSegments false (segmentsOf special (dropSlash special cs))).chars

/-- A file's path; of slashes at the front one is left. -/
def readFilePath (cs : List Char) : Path :=
  let path := Path.ofSegments true (segmentsOf true cs)
  { path with chars := '/' :: path.chars.dropWhile (· == '/') }

end Devnet.Url
