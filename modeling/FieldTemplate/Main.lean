import FieldTemplate.Command.Run
import FieldTemplate.Host.Usual

/-!
# The command line

Reads the files that a command line can concern into a file tree, runs the command on it, and
writes what has changed.
-/

namespace FieldTemplate.Command

set_option autoImplicit false

open scoped Host

def Request.paths : Request → List Path
  | .render r => Path.ofText r.template :: r.data ++ r.output.toList ++ r.config.toList
  | .check template _ => [Path.ofText template]
  | .tokens template => [Path.ofText template]
  | _ => []

def Request.readsInput : Request → Bool
  | .render r => r.template == ['-']
  | .check template _ => template == ['-']
  | .tokens template => template == ['-']
  | _ => false

/-- The places on the way from the root to a place, the root first. -/
def placesTo (place : Location) : List Location :=
  (List.range (place.length + 1)).map place.take

/-- Where a path leads if every part of it is a directory. -/
def resolve (cwd : Location) (p : Path) : Location :=
  p.parts.foldl (fun place part => if part = ['.', '.'] then place.dropLast else place ++ [part])
    (if p.absolute then [] else cwd)

/-- All places that a command may look at, those on the way to a place in front of it. -/
def placesOf (cwd : Location) (paths : List Path) : List Location :=
  (placesTo cwd).map (· ++ [Config.fileName]) ++
    paths.flatMap fun p =>
      (List.range (p.parts.length + 1)).flatMap fun n =>
        placesTo (resolve cwd { p with parts := p.parts.take n })

def locationName (place : Location) : String := String.ofList ('/' :: Text.join ['/'] place)

/-- Adds what stands at a place to a tree.  Nothing has a name that is too long. -/
def probe (tree : FileTree) (place : Location) : IO FileTree := do
  if place.any fun part => nameLimit < part.bytes || part.contains '\x00' then return tree
  if tree.isDir place || tree.files.any (fun e => e.1.isPrefixOf place) then return tree
  try
    let bytes ← IO.FS.readBinFile (locationName place)
    return { tree with files := (place, bytes.toList) :: tree.files }
  catch
    | .noFileOrDirectory .. => return tree
    | .inappropriateType .. => return { tree with dirs := place :: tree.dirs }
    | e => throw e

partial def readAll (input : IO.FS.Stream) (before : ByteArray) : IO ByteArray := do
  let bytes ← input.read 65536
  if bytes.isEmpty then return before else readAll input (before ++ bytes)

def helpText : String :=
  "Usage: stache [--version] [--help] render|check|tokens [OPTIONS] TEMPLATE\n"

def execute (args : List Text) : IO Outcome := do
  let cwd := (Path.ofText (← IO.currentDir).toString.toList).parts
  let request := (Request.parse args).toOption
  let paths := (request.map Request.paths).getD []
  let tree ← (placesOf cwd paths).foldlM probe ⟨[], [cwd], true⟩
  let stdin ←
    if (request.map Request.readsInput).getD false then readAll (← IO.getStdin) .empty
    else pure .empty
  let debug := ((← IO.getEnv "STACHE_DEBUG").map (!·.isEmpty)).getD false
  let env : Environment := ⟨tree, cwd, stdin.toList, debug⟩
  let outcome := env.runArgs args
  for place in outcome.tree.dirs do
    if !tree.isDir place then IO.FS.createDirAll (locationName place)
  for (place, bytes) in tree.changes outcome.tree do
    IO.FS.createDirAll (locationName place.dropLast)
    IO.FS.writeBinFile (locationName place) ⟨bytes.toArray⟩
  return outcome

end FieldTemplate.Command

open FieldTemplate in
def main (args : List String) : IO UInt32 := do
  let outcome ← Command.execute (args.map String.toList)
  let out ← IO.getStdout
  let err ← IO.getStderr
  out.putStr (String.ofList outcome.stdout)
  err.putStr (String.ofList outcome.stderr)
  if outcome.unsaid = .help then out.putStr Command.helpText
  if outcome.escaped.isSome then err.putStrLn "Error: the command could not be completed"
  return outcome.exitCode.toUInt32
