import ComponentLinks.BuildGraph.Resolve
import ComponentLinks.Files
import ComponentLinks.PassResult

/-!
# The survey of a dependency log

One pass reads the dependency log of a repository, checks that its format is understood, and makes
the table of manifests.

## Main definitions

* `logPath`: where the dependency log of a repository is.
* `BuildGraph.surveyLines`: the pass over the lines of a log.
* `BuildGraph.survey`: the pass over the log of a repository.
-/
namespace ComponentLinks

/-- Where the dependency log of a repository is. -/
def logPath (settings : Settings) (base : Path) : Path :=
  (base.join (.ofString settings.buildDir)).join (.ofString settings.logFile)

namespace BuildGraph

def unavailableMessage (logName : String) (e : SystemError) : String :=
  s!"Error reading the build dependencies from {logName}: '{e.message}'\n" ++
    "You may need to re-run `fx set ...` and then reload your editor window."

/-- The pass over the lines of a log. It fails if some necessary kind of statements is missing.
Differing records of one target are reported at the threshold `debug` only. -/
def surveyLines (settings : Settings) (threshold : Level) (base : Path) (logName : String)
    (lines : List (List Char)) : PassResult ManifestTable :=
  let rs := recognizedLines lines
  let g := ofRecognized (threshold = .debug) settings.buildDir rs
  let read := journal logName settings.buildDir rs
  if (g.check logName).isEmpty then
    let ps := g.pairings settings.usesHeuristics base
    { outcome := ⟨true, g.diagnostics ++ reports ps⟩
      table := some (g.manifestTable settings base)
      journal := read ++ linkJournal ps ++
        [entry .info "The component manifest links are loaded."] }
  else
    { outcome := ⟨false, g.diagnostics ++ g.check logName⟩
      table := none
      journal := read ++ g.checkJournal logName }

/-- The pass over the log of a repository. -/
def survey (settings : Settings) (threshold : Level) (files : Files) (base : Path) :
    PassResult ManifestTable :=
  let logName := (logPath settings base).toString
  match files.text logName with
  | .ok text => surveyLines settings threshold base logName (Text.fileLines text)
  | .error e =>
    let message := unavailableMessage logName e
    { outcome := ⟨false, [⟨.sourceUnavailable, message, true⟩]⟩
      table := none
      journal := [entry .error message] }

end BuildGraph

end ComponentLinks
