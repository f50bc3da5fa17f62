import ProxyHandshake.Fetch

/-!
# The program

The program hands the command its arguments, the environment, and the files that the configuration
names, and prints what comes back.  It has no authentication library and no network: with them, it
would call the same command.
-/

namespace ProxyHandshake.Program

/-! ## Environment -/

def variableNames : List String :=
  [Configuration.passwordVariable, Configuration.pathVariable, Credentials.keytabVariable,
    Credentials.cacheVariable]

def readEnvironment : IO Environment := do
  let entries ← variableNames.filterMapM fun name => do
    return (← IO.getEnv name).map fun value => (name, Utf8.encode value)
  return ⟨entries⟩

/-! ## Files -/

/-- The file or directory at a place, if it can be read. -/
def readNode? (place : List Bytes) : IO (Option FileNode) := do
  let path := String.join (place.map fun name => "/" ++ Utf8.decodeLossy name)
  try
    let found ← IO.FS.realPath (if path = "" then "/" else path)
    if ← found.isDir then return some (.directory [])
    return some (.file (← IO.FS.readBinFile found).toList)
  catch _ => return none

/-- The places on the way from `place` along the names of a path. -/
def placesFrom (place : List Bytes) : List Bytes → List (List Bytes)
  | [] => [place]
  | name :: rest =>
    let next :=
      if name = [] ∨ name = FileNode.sameName then place
      else if name = FileNode.parentName then place.dropLast
      else place ++ [name]
    place :: placesFrom next rest

/-- The places on the way to the file called `path`. -/
def placesOf (workingDirectory : List Bytes) (path : Bytes) : List (List Bytes) :=
  let names := Text.pieces (· == FileNode.slash) path
  placesFrom (if path.head? = some FileNode.slash then [] else workingDirectory) names

def readWorkingDirectory : IO (List Bytes) := do
  let path := Utf8.encode (← IO.currentDir).toString
  return (Text.pieces (· == FileNode.slash) path).filter fun name => name ≠ []

/-- The files with the given names. -/
def readFiles (paths : List Bytes) : IO FileSystem := do
  let workingDirectory ← readWorkingDirectory
  let mut root := FileNode.directory []
  for place in (paths.flatMap (placesOf workingDirectory)).eraseDups do
    if let some node ← readNode? place then
      root := FileNode.put node place root
  return { root := root, workingDirectory := workingDirectory }

/-- The files that a configuration names. -/
def pathsOf (configuration : Configuration) : List Bytes :=
  configuration.passwordFile.toList ++ configuration.keytab.toList ++
    configuration.ticketCache.toList

/-- The paths of all files that the command may look at. -/
def readPaths (environment : Environment) (arguments : CommandLine.Arguments) :
    IO (List Bytes) := do
  let (path, _) := Configuration.resolvePath arguments.configPath environment
  let files ← readFiles [path]
  let configuration :=
    match (files.readText path).toOption.bind Configuration.ofDocument? with
    | some configuration => configuration
    | none => .default
  return path :: (pathsOf configuration ++ pathsOf (configuration.override arguments.overrides))

/-! ## Output -/

def printUsage (e : CommandLine.UsageError) : IO UInt32 := do
  let code := Fetch.usageExitCode e
  if code = 0 then IO.println e.message else IO.eprintln ("error: " ++ e.message)
  return code.toUInt32

def printOutcome (outcome : Fetch.Outcome) : IO UInt32 := do
  let output ← IO.getStdout
  output.write ⟨outcome.output.toArray⟩
  output.flush
  IO.eprint outcome.errors
  return outcome.exitCode.toUInt32

end ProxyHandshake.Program

open ProxyHandshake Program in
def main (arguments : List String) : IO UInt32 := do
  match CommandLine.read arguments with
  | .error e => printUsage e
  | .ok arguments =>
    let environment ← readEnvironment
    let files ← readFiles (← readPaths environment arguments)
    printOutcome (Fetch.runPlain .unreachable ⟨files, environment⟩ arguments)
