import ComponentLinks.CommandLine.Reading
import ComponentLinks.Settings

/-!
# Calls of the program

The program is called with choices and with a command that says what to do with the index.

## Main definitions

* `CommandLine.CommandName`, `CommandLine.Command`: the commands.
* `CommandLine.Choices`: what a user may choose.
* `CommandLine.grammar`, `CommandLine.CommandName.grammar`: the grammars of the program and of its
  commands.
* `CommandLine.Invocation.ofWords`: the call that words write.
-/
namespace ComponentLinks.CommandLine

def program : String := "fuchsiaware"

/-! ## Commands -/

/-- The names of the commands. -/
inductive CommandName where
  | resolve
  | references
  | links
  | stats
  deriving Repr, DecidableEq

namespace CommandName

def all : List CommandName := [resolve, references, links, stats]

def name : CommandName → String
  | resolve => "resolve"
  | references => "references"
  | links => "links"
  | stats => "stats"

def help : CommandName → String
  | resolve => "Find the manifest for identifiers"
  | references => "Find references to a manifest"
  | links => "Resolve every component URL in a file"
  | stats => "Show index counts and diagnostics"

def operand : CommandName → Option Operand
  | resolve => some (.words "identifiers" "package/component identifiers")
  | references => some (.word "manifest" "Manifest path (absolute or root-relative)")
  | links => some (.word "file" "File to scan")
  | stats => none

def ofName? (s : String) : Option CommandName := all.find? fun c => c.name = s

@[simp] theorem ofName?_name (c : CommandName) : ofName? c.name = some c := by
  cases c <;> decide

def grammar (c : CommandName) : Grammar Empty where
  program := program ++ " " ++ c.name
  summary := none
  options := [.showHelp]
  operand := c.operand

end CommandName

/-- What to do with the index. -/
inductive Command where
  | resolve (identifiers : List String)
  | references (manifest : String)
  | links (file : String)
  | stats
  deriving Repr, DecidableEq

def CommandName.command (c : CommandName) (values : List String) : Command :=
  match c with
  | .resolve => .resolve values
  | .references => .references (values.headD "")
  | .links => .links (values.headD "")
  | .stats => .stats

/-! ## Choices -/

/-- The choices that options make. -/
inductive ChoiceKey where
  | root
  | settingsFile
  | buildDir
  | normalizes
  | usesHeuristics
  | showsUnresolved
  | verbose
  deriving Repr, DecidableEq

/-- What a user may choose. Of the settings file and the build directory the empty text chooses
none. -/
structure Choices where
  root : String := "."
  settingsFile : String := ""
  buildDir : String := ""
  normalizes : Bool := false
  usesHeuristics : Bool := false
  showsUnresolved : Bool := false
  verbose : Bool := false
  deriving Repr, DecidableEq

namespace Choices

/-- The choices after one more thing was asked for. A choice without a value cannot be given one,
and the other way round. -/
def apply (c : Choices) : Act ChoiceKey → Choices
  | .flag .normalizes => { c with normalizes := true }
  | .flag .usesHeuristics => { c with usesHeuristics := true }
  | .flag .showsUnresolved => { c with showsUnresolved := true }
  | .flag .verbose => { c with verbose := true }
  | .value .root text => { c with root := text }
  | .value .settingsFile text => { c with settingsFile := text }
  | .value .buildDir text => { c with buildDir := text }
  | _ => c

/-- The choices that options make, the later over the earlier. -/
def ofActs (acts : List (Act ChoiceKey)) : Choices := acts.foldl apply {}

/-- Settings with the choices in place of what they say otherwise. -/
def applyTo (c : Choices) (s : Settings) : Settings :=
  { s with
    buildDir := if c.buildDir.isEmpty then s.buildDir else c.buildDir
    normalizesSeparators := c.normalizes || s.normalizesSeparators
    usesHeuristics := c.usesHeuristics || s.usesHeuristics
    showsUnresolved := c.showsUnresolved || s.showsUnresolved }

end Choices

def grammar : Grammar ChoiceKey where
  program := program
  summary := some "Resolve component URLs to manifests and find their references."
  options :=
    [.showHelp,
     ⟨["--root"], .value .root "ROOT", "Repository root (default: .)"⟩,
     ⟨["--config"], .value .settingsFile "CONFIG",
       "YAML settings file; flags override its values"⟩,
     ⟨["--build-dir"], .value .buildDir "BUILD_DIR",
       "Build output directory relative to the root (default: " ++ ({} : Settings).buildDir ++
         ")"⟩,
     ⟨["--normalize"], .flag .normalizes, "Treat '-' and '_' in identifiers as equal"⟩,
     ⟨["--heuristics"], .flag .usesHeuristics, "Use suffix heuristics to find more links"⟩,
     ⟨["--show-unresolved"], .flag .showsUnresolved, "List URLs without a known manifest"⟩,
     ⟨["-v", "--verbose"], .flag .verbose, "Enable debug logging"⟩]
  operand := some (.command "command" (CommandName.all.map fun c => (c.name, c.help)))

/-! ## Calls -/

/-- A call of the program. -/
structure Invocation where
  choices : Choices
  command : Command
  deriving Repr, DecidableEq

/-- The call that words write. Words that are left over are refused last. -/
def Invocation.ofWords (words : List String) : Except Stop Invocation := do
  let r ← grammar.read words
  match r.operands with
  | none | some [] => .error (grammar.refuse (.missing "command"))
  | some (name :: rest) =>
    match CommandName.ofName? name with
    | none =>
      .error (grammar.refuse (.noCommand "command" name (CommandName.all.map CommandName.name)))
    | some c =>
      let s ← c.grammar.read rest
      match r.leftOver ++ s.leftOver with
      | [] => .ok ⟨.ofActs r.acts, c.command (s.operands.getD [])⟩
      | words => .error (grammar.refuse (.leftOver words))

end ComponentLinks.CommandLine
