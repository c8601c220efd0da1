import Wiring.Go.Printer
import Wiring.Imports

/-!
A generated function as a source file of its own.
-/

namespace Wiring

/-- A function with what it needs around it. -/
structure Artifact where
  package : String
  imports : List Import
  function : Go.Function

namespace Artifact

def header : String :=
  "// Code generated by weld. DO NOT EDIT."

def importLine (entry : Import) : String :=
  "\t" ++ entry.qualifier ++ " \"" ++ entry.path ++ "\"\n"

/-- The import declaration; a file without imports has none. -/
def importBlock (artifact : Artifact) : String :=
  if artifact.imports.isEmpty then ""
  else "import (\n" ++ String.join (artifact.imports.map importLine) ++ ")\n\n"

def file (artifact : Artifact) : String :=
  header ++ "\n\npackage " ++ artifact.package ++ "\n\n" ++ artifact.importBlock ++
    artifact.function.render

end Artifact

end Wiring
