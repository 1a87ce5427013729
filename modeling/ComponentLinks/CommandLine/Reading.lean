import ComponentLinks.CommandLine.Grammar
import ComponentLinks.Text.Numeral

/-!
# Reading a command line

Each word is first marked as an option or an operand; after a word of two dashes all words are
operands. Then words are taken from left to right: an option with the value that it needs, and
the operand at the first place where it fits. What fits nowhere is left over.

## Main definitions

* `CommandLine.Mark`, `CommandLine.Grammar.marks`: the marks of words.
* `CommandLine.Written.take`: what an option in a word does.
* `CommandLine.Operand.count?`: how many words an operand takes.
* `CommandLine.Grammar.read`: what words say by a grammar.
-/
namespace ComponentLinks.CommandLine

/-! ## Marks -/

/-- An option as a word writes it: by the full name that the word stands for, and the text that
stands right after it or after an equals sign. -/
structure Written (κ : Type) where
  rule : OptionRule κ
  name : List Char
  attached : Option (List Char)
  deriving Repr, DecidableEq

/-- What a word is taken for. -/
inductive Mark (κ : Type) where
  | operand
  | separator
  | option (w : Written κ)
  | unknown
  deriving Repr, DecidableEq

namespace Mark

variable {κ : Type}

def isOperand : Mark κ → Bool
  | operand => true
  | _ => false

def isSeparator : Mark κ → Bool
  | separator => true
  | _ => false

end Mark

def separatorWord : String := "--"

/-- Whether a word writes a negative number; a line end may follow it. -/
def isNegativeNumber : List Char → Bool
  | '-' :: written =>
    let number := if written.getLast? = some '\n' then written.dropLast else written
    match number.dropWhile Text.isDecimal with
    | [] => !number.isEmpty
    | '.' :: fraction => !fraction.isEmpty && fraction.all Text.isDecimal
    | _ => false
  | _ => false

def cutAtEquals (word : List Char) : List Char × Option (List Char) :=
  match word.dropWhile (· != '=') with
  | _ :: text => (word.takeWhile (· != '='), some text)
  | [] => (word, none)

namespace Grammar

variable {κ : Type}

/-- The options that a word with a single dash may mean: a name of one letter with a text joined
to it, or a name that the word begins. -/
def shortReadings (g : Grammar κ) (word : List Char) : List (Written κ) :=
  g.names.filterMap fun (name, r) =>
    if name = word.take 2 then some ⟨r, name, some (word.drop 2)⟩
    else if word.isPrefixOf name then some ⟨r, name, none⟩
    else none

/-- The options that a word with two dashes may mean: those with a name that it begins. -/
def longReadings (g : Grammar κ) (word : List Char) : List (Written κ) :=
  let (stem, attached) := cutAtEquals word
  g.names.filterMap fun (name, r) =>
    if stem.isPrefixOf name then some ⟨r, name, attached⟩ else none

/-- The options that a word with a dash may mean. A full name counts for itself alone. -/
def readings (g : Grammar κ) (word : List Char) : List (Written κ) :=
  let (stem, attached) := cutAtEquals word
  match g.option? stem with
  | some r => [⟨r, stem, attached⟩]
  | none =>
    if ['-', '-'].isPrefixOf word then g.longReadings word else g.shortReadings word

def mark (g : Grammar κ) (word : List Char) : Except Misuse (Mark κ) :=
  if word.head? != some '-' || word = ['-'] then .ok .operand
  else
    match g.readings word with
    | [] => .ok (if isNegativeNumber word || word.contains ' ' then .operand else .unknown)
    | [w] => .ok (.option w)
    | ws => .error (.ambiguous (String.ofList word) (ws.map fun w => String.ofList w.name))

def marks (g : Grammar κ) : List String → Except Misuse (List (String × Mark κ))
  | [] => .ok []
  | word :: rest =>
    if word = separatorWord then .ok ((word, .separator) :: rest.map fun w => (w, .operand))
    else do
      let m ← g.mark word.toList
      let ms ← g.marks rest
      return (word, m) :: ms

end Grammar

/-! ## Options -/

/-- One thing that the user asks for by an option. -/
inductive Act (κ : Type) where
  | help
  | flag (key : κ)
  | value (key : κ) (text : String)
  deriving Repr, DecidableEq

/-- What the options in a word ask for, and whether the word after it is taken as a value. -/
structure Taken (κ : Type) where
  acts : List (Act κ)
  takesNext : Bool
  deriving Repr, DecidableEq

namespace OptionRule

variable {κ : Type}

/-- What an option asks for without a value, if it takes none. -/
def bareAct? (r : OptionRule κ) : Option (Act κ) :=
  match r.effect with
  | .help => some .help
  | .flag key => some (.flag key)
  | .value _ _ => none

/-- What an option asks for that is the last in its word, given the operand after it. -/
def takeBare (r : OptionRule κ) (next : Option String) : Except Misuse (Taken κ) :=
  match r.effect, next with
  | .help, _ => .ok ⟨[.help], false⟩
  | .flag key, _ => .ok ⟨[.flag key], false⟩
  | .value key _, some text => .ok ⟨[.value key text], true⟩
  | .value _ _, none => .error (.lacksValue r.names)

/-- What an option asks for that is given a text in its word. The separator is never a value, so
that as such a text it gives an empty one. -/
def takeText (r : OptionRule κ) (text : List Char) : Except Misuse (Taken κ) :=
  match r.effect with
  | .value key _ =>
    .ok ⟨[.value key (if text = separatorWord.toList then "" else String.ofList text)], false⟩
  | _ => .error (.takesNoValue r.names (String.ofList text))

end OptionRule

/-- What an option of one letter asks for that is given a text in its word: the text is its value
or, if it takes none, begins with the next of more such letters. -/
def takeLetters {κ : Type} (g : Grammar κ) (next : Option String) (r : OptionRule κ) :
    List Char → Except Misuse (Taken κ)
  | [] => r.takeText []
  | c :: rest =>
    match r.bareAct?, g.option? ['-', c] with
    | some act, some r' =>
      (match rest with
        | [] => r'.takeBare next
        | _ :: _ => takeLetters g next r' rest).map fun (t : Taken κ) =>
        { t with acts := act :: t.acts }
    | _, _ => r.takeText (c :: rest)

def Written.take {κ : Type} (g : Grammar κ) (w : Written κ) (next : Option String) :
    Except Misuse (Taken κ) :=
  match w.attached with
  | none => w.rule.takeBare next
  | some text =>
    if ['-', '-'].isPrefixOf w.name then w.rule.takeText text else takeLetters g next w.rule text

/-! ## Operands -/

/-- How many words an operand takes at the beginning of marked words, if it fits there. -/
def Operand.count? {κ : Type} (o : Operand) (ms : List (Mark κ)) : Option Nat :=
  let separators := (ms.takeWhile Mark.isSeparator).length
  match ms.drop separators with
  | .operand :: rest =>
    some <| separators + 1 +
      match o with
      | .word _ _ => (rest.takeWhile Mark.isSeparator).length
      | .words _ _ => (rest.takeWhile fun m => m.isSeparator || m.isOperand).length
      | .command _ _ => rest.length
  | _ => none

/-- The values among the words that an operand takes: all but the first separator. The name of a
command and what follows it are kept as they are. -/
def Operand.values (o : Operand) (words : List String) : List String :=
  match o with
  | .command _ _ => words
  | _ => words.erase separatorWord

/-! ## Command lines -/

/-- What words say by a grammar: what options ask for, the values of the operand, and the words that
fit nowhere. -/
structure Reading (κ : Type) where
  acts : List (Act κ)
  operands : Option (List String)
  leftOver : List String
  deriving Repr, DecidableEq

namespace Grammar

variable {κ : Type} [DecidableEq κ]

def readMarked (g : Grammar κ) (pending : Option Operand) :
    List (String × Mark κ) → Except Stop (Reading κ)
  | [] => .ok ⟨[], none, []⟩
  | (word, m) :: rest =>
    match m with
    | .unknown =>
      (g.readMarked pending rest).map fun r => { r with leftOver := word :: r.leftOver }
    | .option w =>
      let next := (rest.head?.filter fun x => x.2.isOperand).map Prod.fst
      match w.take g next with
      | .error e => .error (g.refuse e)
      | .ok taken =>
        if .help ∈ taken.acts then .error g.showHelp
        else
          (g.readMarked pending (rest.drop (if taken.takesNext then 1 else 0))).map fun r =>
            { r with acts := taken.acts ++ r.acts }
    | .operand | .separator =>
      match pending.bind fun o => (o.count? (m :: rest.map Prod.snd)).map fun n => (o, n) with
      | none =>
        (g.readMarked pending rest).map fun r => { r with leftOver := word :: r.leftOver }
      | some (o, n) =>
        (g.readMarked none (rest.drop (n - 1))).map fun r =>
          { r with operands := some (o.values (word :: (rest.take (n - 1)).map Prod.fst)) }
termination_by ms => ms.length
decreasing_by all_goals (simp only [List.length_drop, List.length_cons]; omega)

def read (g : Grammar κ) (words : List String) : Except Stop (Reading κ) := do
  let marked ← (g.marks words).mapError g.refuse
  let r ← g.readMarked g.operand marked
  match g.operand, r.operands with
  | some o, none => .error (g.refuse (.missing o.name))
  | _, _ => .ok r

end Grammar

end ComponentLinks.CommandLine
