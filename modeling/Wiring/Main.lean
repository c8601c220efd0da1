import Wiring.CommandLine

/-!
The program: the command line run on the files of the machine.
-/

namespace Wiring

namespace FileError

def ofSystem (e : IO.Error) : FileError :=
  match e with
  | .noFileOrDirectory .. => .notFound
  | .inappropriateType _ 20 _ | .resourceExhausted _ 20 _ => .notDirectory
  | .inappropriateType _ 21 _ => .isDirectory
  | e => .other (toString e)

end FileError

/-- The result of an operation, or the error it ended with. -/
def attempt {α : Type} (operation : IO α) : IO (Except FileError α) := do
  try
    return .ok (← operation)
  catch e =>
    return .error (.ofSystem e)

/-- All files at and below a path. What cannot be read is left out. -/
partial def walk (path : String) : IO (List String) := do
  match ← attempt (do (← IO.FS.realPath path).readDir) with
  | .ok entries =>
    let below ← entries.toList.mapM fun entry => walk (Path.join path entry.fileName)
    return below.flatten
  | .error _ =>
    match ← attempt (do (← IO.FS.realPath path).metadata) with
    | .ok _ => return [path]
    | .error _ => return []

instance : FileSystem IO where
  locate path := do
    match ← attempt (IO.FS.realPath path) with
    | .ok real => return .ok ⟨(Path.segments real.toString).filter (· ≠ "")⟩
    | .error e => return .error e
  isFile path := do
    match ← attempt (do (← IO.FS.realPath path).metadata) with
    | .ok metadata => return metadata.type == .file
    | .error _ => return false
  isDirectory path := do
    match ← attempt (do (← IO.FS.realPath path).isDir) with
    | .ok isDirectory => return isDirectory
    | .error _ => return false
  read path := do
    match ← attempt (IO.FS.readBinFile path) with
    | .ok bytes => return (String.fromUTF8? bytes).elim (.error .notText) .ok
    | .error e => return .error e
  filesBelow path := walk path

def settle (outcome : CommandLine.Outcome) : IO CommandLine.Outcome := do
  match outcome.file with
  | none => return outcome
  | some (path, content) =>
    match ← attempt (IO.FS.writeFile path content) with
    | .ok () => return outcome
    | .error e => return outcome.unwritten path e

end Wiring

def main (arguments : List String) : IO UInt32 := do
  let index ← IO.getEnv "WELD_INDEX"
  let directory ← IO.getEnv "WELD_DIR"
  let environment (name : String) : Option String :=
    if name = "WELD_INDEX" then index
    else if name = "WELD_DIR" then directory
    else none
  let outcome ← Wiring.settle (← Wiring.CommandLine.run environment arguments)
  IO.eprint outcome.stderr
  IO.print outcome.stdout
  return outcome.code.toUInt32
