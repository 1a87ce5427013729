import ComponentLinks.CommandLine.Run

/-!
# The program

The program reads the files that its words and settings name, and the output of the search from
standard input, and prints what the run shows.

## Main definitions

* `CommandLine.readFile`: a file as a run sees it.
* `CommandLine.print`: the printing of a conclusion.
* `main`: the program.
-/
namespace ComponentLinks.CommandLine

def causeOf : IO.Error → SystemError.Cause
  | .permissionDenied .. => .permissionDenied
  | .inappropriateType .. => .isDirectory
  | .resourceExhausted .. => .tooManyOpenFiles
  | _ => .notFound

def readFile (path : String) : IO (String × Except SystemError.Cause (List UInt8)) := do
  try
    return (path, .ok (← IO.FS.readBinFile path).toList)
  catch e =>
    return (path, .error (causeOf e))

def readSearch : IO Search.Run := do
  match (← readFile "/dev/stdin").2 with
  | .ok bytes => return .ended 0 bytes []
  | .error cause => return .refused ⟨cause, none⟩

def print (c : Conclusion) : IO UInt32 := do
  c.journal.forM fun e =>
    IO.eprintln s!"{e.level.name} {program}.{e.pass.name}: {e.message}"
  c.output.forM fun line => IO.println line
  c.complaints.forM fun line => IO.eprintln line
  return c.code.toUInt32

/-- Runs a call and gives its exit code. -/
def execute (call : Invocation) : IO UInt32 := do
  let here := Path.ofString (← IO.currentDir).toString
  let named ← call.namedFiles.mapM readFile
  let logs ← (call.logFile? here ⟨named⟩).toList.mapM readFile
  match call.conclude here ⟨named ++ logs⟩ (← readSearch) with
  | .ok c => print c
  | .error e =>
    IO.eprintln s!"{program}: {e.message}"
    return 1

end ComponentLinks.CommandLine

open ComponentLinks.CommandLine in
def main (words : List String) : IO UInt32 :=
  match Invocation.ofWords words with
  | .ok call => execute call
  | .error stop => print stop.conclusion
