import ComponentLinks.CommandLine.Command

/-!
# Calls

A call reads the settings, makes an index and prints what its command asks for. Where the making of
the index failed, the reports on it are printed after that. How settings files are read is no part
of this library.

## Main definitions

* `CommandLine.SettingsReader`: how settings files are read.
* `CommandLine.Break`, `CommandLine.Ending`: how a call ends, early or not.
* `CommandLine.Invocation.run`: what a call does.
-/
namespace ComponentLinks.CommandLine

/-- How settings files are read. Of the reasons against reading one, some are told to the user; the
others break the call off. -/
structure SettingsReader (ε : Type) where
  load : Path → Except ε Settings
  isReported : ε → Bool
  message : ε → String

/-- Why a call breaks off: a line number in the output of the search is not read, the settings file
holds what no user is told about, or a file cannot be read. -/
inductive Break (ε : Type) where
  | badNumeral (e : Text.NumeralFault)
  | settings (e : ε)
  | system (e : SystemError)

/-- How a call ends that does not break off: without settings, or with an index made, with or
without success, and what was looked up in it. -/
inductive Ending (ε : Type) where
  | misconfigured (e : ε)
  | finished (success : Bool) (printed : List Printed) (journal : List Journal.Entry)

namespace Ending

variable {ε : Type}

def code : Ending ε → Nat
  | misconfigured _ => 2
  | finished success _ _ => if success then 0 else 1

/-- What is printed, where `message` tells a reason against reading the settings. -/
def printed (message : ε → String) : Ending ε → List Printed
  | misconfigured e => [.styled "red" s!"Invalid configuration: {message e}"]
  | finished _ ps _ => ps

end Ending

namespace Invocation

variable {ε : Type}

/-- The settings of a call: those of the settings file, if one is given, with the choices applied
to them. -/
def settings (call : Invocation) (reader : SettingsReader ε) : Except ε Settings :=
  let file := call.choices.settingsFile
  (if file.isEmpty then .ok {} else reader.load (.ofString file)).map call.choices.applyTo

def threshold (call : Invocation) : Level := if call.choices.verbose then .debug else .warning

/-- What a call does in the directory `here`. -/
def run (here : Path) (reader : SettingsReader ε) (files : Files) (search : Search.Run)
    (call : Invocation) : Except (Break ε) (Ending ε) :=
  match call.settings reader with
  | .error e => if reader.isReported e then .ok (.misconfigured e) else .error (.settings e)
  | .ok settings => do
    let blank := Workspace.ofPath here call.choices.root settings
    let made ← (blank.refresh call.threshold files search).mapError .badNumeral
    let printed ← (call.command.printed files made.workspace).mapError .system
    let afterwards :=
      if made.success || call.command.showsReports then []
      else reports made.workspace.diagnostics
    return .finished made.success (printed ++ afterwards)
      (Journal.atThreshold call.threshold made.journal)

end Invocation

end ComponentLinks.CommandLine
