import ComponentLinks.CommandLine.Call
import ComponentLinks.Outer.Terminal.Sheet
import ComponentLinks.Settings.Load

/-!
# Runs on a terminal

The outer layer of the command line: calls with the settings files and the terminal that the program
has. It decides nothing itself; nothing is stated about it.

## Main definitions

* `CommandLine.Fault`: why a run ends early.
* `CommandLine.Conclusion`: how a run ends, with its exit code and the words that it shows.
* `CommandLine.run`: the run for the words of a command line.
-/
namespace ComponentLinks.CommandLine

open Terminal (MarkupError plainLines)

/-- The width of output that goes to no terminal. It is chosen to keep long paths on one line. -/
def outputWidth : Nat := 1000

def yamlReader (files : Files) : SettingsReader Settings.LoadError where
  load := Settings.load files
  isReported := Settings.LoadError.isReported
  message := Settings.LoadError.message

/-- Why a run ends early. -/
inductive Fault where
  | badNumeral (e : Text.NumeralFault)
  | markup (e : MarkupError)
  | settings (e : Settings.LoadError)
  | system (e : SystemError)

def Fault.message : Fault → String
  | badNumeral e => e.message
  | markup e => e.message
  | settings e => e.message
  | system e => e.message

def Fault.ofBreak : Break Settings.LoadError → Fault
  | .badNumeral e => .badNumeral e
  | .settings e => .settings e
  | .system e => .system e

def writtenLines (text : String) : List String := plainLines (text.toList.splitOn '\n')

/-- How a run ends. -/
inductive Conclusion where
  | helped (lines : List String)
  | refused (usage program : String) (m : Misuse)
  | misconfigured (e : Settings.LoadError)
  | finished (success : Bool) (lines : List String) (journal : List Journal.Entry)

namespace Conclusion

def code : Conclusion → Nat
  | helped _ => 0
  | refused _ _ _ => 2
  | misconfigured e => (Ending.misconfigured e).code
  | finished success _ _ => (Ending.finished success [] [] : Ending Settings.LoadError).code

def output : Conclusion → List String
  | helped lines => lines
  | refused _ _ _ => []
  | misconfigured e =>
    match (Terminal.console outputWidth).printAll
        ((Ending.misconfigured e).printed Settings.LoadError.message) with
    | .ok lines => plainLines lines
    | .error _ => []
  | finished _ lines _ => lines

def complaints : Conclusion → List String
  | refused usage program m =>
    writtenLines usage ++ writtenLines s!"{program}: error: {m.message}"
  | _ => []

def journal : Conclusion → List Journal.Entry
  | finished _ _ journal => journal
  | _ => []

end Conclusion

def Stop.conclusion : Stop → Conclusion
  | .help lines => .helped (lines.flatMap writtenLines)
  | .misuse usage program m => .refused usage program m

namespace Invocation

/-- The paths of the files that the words of a call name: the settings file and the file that is
searched for component URLs. -/
def namedFiles (call : Invocation) : List String :=
  let settingsFile := call.choices.settingsFile
  (if settingsFile.isEmpty then [] else [(Path.ofString settingsFile).toString]) ++
    match call.command with
    | .links file => [(Path.ofString file).toString]
    | _ => []

def logFile? (here : Path) (files : Files) (call : Invocation) : Option String :=
  (call.settings (yamlReader files)).toOption.map fun s =>
    (logPath s (Workspace.ofPath here call.choices.root s).base).toString

def conclude (here : Path) (files : Files) (search : Search.Run) (call : Invocation) :
    Except Fault Conclusion := do
  match ← (call.run here (yamlReader files) files search).mapError Fault.ofBreak with
  | .misconfigured e => return .misconfigured e
  | .finished success printed journal =>
    let lines ← ((Terminal.console outputWidth).printAll printed).mapError .markup
    return .finished success (plainLines lines) journal

end Invocation

/-- The run for the words of a command line in the directory `here`. -/
def run (here : Path) (files : Files) (search : Search.Run) (words : List String) :
    Except Fault Conclusion :=
  match Invocation.ofWords words with
  | .error stop => .ok stop.conclusion
  | .ok call => call.conclude here files search

end ComponentLinks.CommandLine
