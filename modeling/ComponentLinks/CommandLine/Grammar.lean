import ComponentLinks.Text.Quoted

/-!
# Grammars of command lines

A grammar lists the options that a program accepts and says which words it works on. Its usage and
its help are written from the same lists by which words are read.

## Main definitions

* `CommandLine.OptionRule`, `CommandLine.Effect`: options and what they do.
* `CommandLine.Operand`: the words that a program works on.
* `CommandLine.Grammar`: the grammar of a program.
* `CommandLine.Grammar.usage`, `CommandLine.Grammar.helpLines`: the texts about a grammar.
* `CommandLine.Misuse`: why words are refused.
-/
namespace ComponentLinks.CommandLine

/-- What an option does, where `κ` holds the choices that a user may make. -/
inductive Effect (κ : Type) where
  | help
  | flag (key : κ)
  | value (key : κ) (placeholder : String)
  deriving Repr, DecidableEq

/-- An option of a grammar. -/
structure OptionRule (κ : Type) where
  names : List String
  effect : Effect κ
  help : String
  deriving Repr, DecidableEq

namespace OptionRule

variable {κ : Type}

def showHelp : OptionRule κ := ⟨["-h", "--help"], .help, "show this help message and exit"⟩

def withPlaceholder (r : OptionRule κ) (name : String) : String :=
  match r.effect with
  | .value _ placeholder => name ++ " " ++ placeholder
  | _ => name

def usage (r : OptionRule κ) : String := "[" ++ r.withPlaceholder (r.names.headD "") ++ "]"

def listed (r : OptionRule κ) : String := ", ".intercalate (r.names.map r.withPlaceholder)

end OptionRule

/-- The words that a program works on: one, one or more, or the name of one of the listed commands
with all words after it. -/
inductive Operand where
  | word (name help : String)
  | words (name help : String)
  | command (name : String) (commands : List (String × String))
  deriving Repr, DecidableEq

namespace Operand

def name : Operand → String
  | word name _ => name
  | words name _ => name
  | command name _ => name

def choice (commands : List (String × String)) : String :=
  "\x7b" ++ ",".intercalate (commands.map Prod.fst) ++ "\x7d"

def usage : Operand → String
  | word name _ => name
  | words name _ => name ++ " [" ++ name ++ " ...]"
  | command _ commands => choice commands ++ " ..."

end Operand

def columnWidth : Nat := 20

/-- A name with its help: on one line if the name fits its column, which is narrower by the given
indent. -/
def helpEntry (indent : Nat) (name help : String) : List String :=
  if name.length + indent ≤ columnWidth then [name ++ " " ++ help] else [name, help]

def Operand.helpLines : Operand → List String
  | word name help => helpEntry 0 name help
  | words name help => helpEntry 0 name help
  | command _ commands => choice commands :: commands.flatMap fun c => helpEntry 2 c.1 c.2

/-- The grammar of a program. -/
structure Grammar (κ : Type) where
  program : String
  summary : Option String
  options : List (OptionRule κ)
  operand : Option Operand
  deriving Repr, DecidableEq

namespace Grammar

variable {κ : Type}

def usage (g : Grammar κ) : String :=
  " ".intercalate (["usage:", g.program] ++ g.options.map OptionRule.usage ++
    (g.operand.map Operand.usage).toList)

def helpLines (g : Grammar κ) : List String :=
  [g.usage] ++ g.summary.toList ++
    (match g.operand with
      | some o => "positional arguments:" :: o.helpLines
      | none => []) ++
    "options:" :: g.options.flatMap fun r => helpEntry 0 r.listed r.help

def names (g : Grammar κ) : List (List Char × OptionRule κ) :=
  g.options.flatMap fun r => r.names.map fun name => (name.toList, r)

def option? (g : Grammar κ) (name : List Char) : Option (OptionRule κ) :=
  g.names.lookup name

end Grammar

/-- Why words are refused. -/
inductive Misuse where
  | ambiguous (word : String) (names : List String)
  | lacksValue (names : List String)
  | takesNoValue (names : List String) (value : String)
  | noCommand (operand word : String) (commands : List String)
  | missing (operand : String)
  | leftOver (words : List String)
  deriving Repr, DecidableEq

def Misuse.message : Misuse → String
  | ambiguous word names =>
    s!"ambiguous option: {word} could match " ++ ", ".intercalate names
  | lacksValue names => "argument " ++ "/".intercalate names ++ ": expected one argument"
  | takesNoValue names value =>
    "argument " ++ "/".intercalate names ++ s!": ignored explicit argument {Text.quoted value}"
  | noCommand operand word commands =>
    s!"argument {operand}: invalid choice: {Text.quoted word} (choose from " ++
      ", ".intercalate (commands.map Text.quoted) ++ ")"
  | missing operand => s!"the following arguments are required: {operand}"
  | leftOver words => "unrecognized arguments: " ++ " ".intercalate words

/-- Why the reading of words stops before the program can run. -/
inductive Stop where
  | help (lines : List String)
  | misuse (usage program : String) (m : Misuse)
  deriving Repr, DecidableEq

namespace Grammar

variable {κ : Type}

def showHelp (g : Grammar κ) : Stop := .help g.helpLines

def refuse (g : Grammar κ) (m : Misuse) : Stop := .misuse g.usage g.program m

end Grammar

end ComponentLinks.CommandLine
