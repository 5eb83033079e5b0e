import Devnet.CommandLine.Run

namespace Devnet.CommandLine

/-- The variables of the process, each ended by a zero byte. -/
def processEnvironment : IO Environment := do
  let bytes ← try IO.FS.readBinFile "/proc/self/environ" catch _ => pure ByteArray.empty
  return ⟨(bytes.toList.splitOn 0).filter (!·.isEmpty)⟩

def readAt (path : FilePath) : IO (Except FileFault FileContent) := do
  if path.contains 0 then return .error .zeroByte
  match Text.decodeUtf8? path with
  | none => return .error .notFound
  | some name =>
    try
      return .ok (.file (← IO.FS.readBinFile name).toList)
    catch e =>
      match e with
      | .inappropriateType _ 20 _ => return .error .notDirectory
      | .inappropriateType _ _ _ => return .ok .directory
      | .invalidArgument _ 36 _ => return .error .nameTooLong
      | _ => return .error .notFound

def candidatePaths (arguments : List String) (env : Environment) : List FilePath :=
  let named := match read arguments env with
    | .run options => options.config.toList
    | _ => []
  Config.usualPath :: named ++ (env.get? Defaults.configVariable).toList

def readFiles (paths : List FilePath) : IO Files := do
  let found ← paths.mapM fun path => return (path, ← readAt path)
  return ⟨fun path => (found.lookup path).getD (.error .notFound)⟩

/-- A node that answers with the bodies in its memory. -/
def bodies : Rpc.Node (List String) where
  deliver _ memory :=
    match memory with
    | [] => (.lost "no response", [])
    | body :: rest => (.answered body, rest)

/-- Runs the command with the lines of the standard input as bodies, and prints what it has to say;
the result is the exit code. -/
def start (arguments : List String) : IO UInt32 := do
  let env ← processEnvironment
  let files ← readFiles (candidatePaths arguments env)
  let lines ← (← IO.getStdin).lines
  let result := run bodies files env arguments ⟨lines.toList, #[]⟩
  for text in result.printed do
    IO.println text
  return UInt32.ofNat result.exit

end Devnet.CommandLine

def main (arguments : List String) : IO UInt32 := Devnet.CommandLine.start arguments
