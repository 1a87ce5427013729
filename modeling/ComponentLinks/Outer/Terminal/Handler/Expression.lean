import ComponentLinks.Outer.Terminal.Handler.Token

/-!
# Expressions in calls

The arguments of a call are read as one expression. Where nothing fits, they are read once more to
find out what may have been meant.

## Main definitions

* `Terminal.Handler.Expr`: expressions, as far as it matters what they are.
* `Terminal.Handler.Expr.ofTokens`: the expression that tokens write, or what is wrong with it.
-/
namespace ComponentLinks.Terminal.Handler

inductive Expr where
  | name (text : List Char)
  | number (imaginary : Bool)
  | quoted (filled : Bool)
  | constant (text : String)
  | tuple (values : List Expr)
  | set (values : List Expr)
  | dictionary (entries : List (Option Expr × Expr))
  | signed (value : Expr)
  | sum (left right : Expr)
  | bareCall (function : Expr)
  | form (what : String) (loose : Bool)

namespace Expr

def what : Expr → String
  | name _ => "name"
  | number _ => "literal"
  | quoted filled => if filled then "f-string expression" else "literal"
  | constant text => if text = "..." then "ellipsis" else text
  | tuple _ => "tuple"
  | set _ => "set display"
  | dictionary _ => "dict literal"
  | signed _ => "expression"
  | sum _ _ => "expression"
  | bareCall _ => "function call"
  | form what _ => what

def isOperand : Expr → Bool
  | form _ loose => !loose
  | _ => true

def isFixed : Expr → Bool
  | tuple _ => true
  | form "generator expression" _ => true
  | constant text => text != "..."
  | _ => false

def isTarget : Expr → Bool
  | name _ => true
  | form "attribute" _ => true
  | tuple _ => true
  | _ => false

end Expr

/-! ## Steps -/

/-- Why a reading ends: nothing fits, or something is wrong. -/
inductive Halt where
  | misfit
  | complaint (c : Complaint)
  deriving Repr, DecidableEq

abbrev Reading := Except Halt

abbrev Found (α : Type) := α × List Token

def complain {α : Type} (c : Complaint) : Reading α := .error (.complaint c)

def attempt {α : Type} (s : Reading α) : Reading (Option α) :=
  match s with
  | .ok a => .ok (some a)
  | .error .misfit => .ok none
  | .error (.complaint c) => complain c

def peek (ts : List Token) : Reading Token.Kind :=
  match ts with
  | [] => .ok .finish
  | t :: _ =>
    match t.kind with
    | .broken c => complain c
    | kind => .ok kind

def sees (signs : List String) (ts : List Token) : Reading Bool :=
  (peek ts).map fun kind => match kind with
    | .sign s => signs.contains s
    | _ => false

def expect (sign : String) (ts : List Token) : Reading (List Token) := do
  if ← sees [sign] ts then return ts.tail else throw .misfit

def isInside (ts : List Token) : Bool := ts.head?.any fun t => t.depth != 0

def operators : List (List String) :=
  [["|"], ["^"], ["&"], ["<<", ">>"], ["+", "-"], ["*", "/", "//", "%", "@"]]

def softKeywords : List (List Char) := ["_".toList, "case".toList, "match".toList]

def oldCommands : List (List Char) := ["print".toList, "exec".toList]

def isOldCommand : Expr → Bool
  | .name text => oldCommands.contains text
  | _ => false

def combined (operator : String) (left right : Expr) : Expr :=
  if operator = "+" || operator = "-" then .sum left right else .form "expression" false

def afterComparison? (ts : List Token) : Reading (Option (List Token)) := do
  if ← sees ["==", "!=", "<=", "<", ">=", ">", "in"] ts then return some ts.tail
  else if ← sees ["is"] ts then
    return some (if ← sees ["not"] ts.tail then ts.tail.tail else ts.tail)
  else if ← sees ["not"] ts then
    return if ← sees ["in"] ts.tail then some ts.tail.tail else none
  else return none

def quotedRun (ts : List Token) : List (Quoted × Option Complaint) :=
  (ts.takeWhile fun t => t.kind matches .quoted _ _).filterMap fun t => match t.kind with
    | .quoted q fault => some (q, fault)
    | _ => none

def checkQuoted (bytes : Bool) : List (Quoted × Option Complaint) → Reading Unit
  | [] => .ok ()
  | (q, fault) :: rest =>
    match fault, q.filled with
    | some c, false => complain c
    | fault, _ =>
      if q.bytes != bytes then complain .mixedTexts
      else match fault with
        | some c => complain c
        | none => checkQuoted bytes rest

def quotedTexts (ts : List Token) : Reading (Found Expr) := do
  let run := quotedRun ts
  let rest := ts.drop run.length
  let _ ← peek rest
  checkQuoted (run.head?.any fun q => q.1.bytes) run
  return (.quoted (run.any fun q => q.1.filled), rest)

inductive Argument where
  | plain
  | starred
  | named
  | doubleStarred
  deriving Repr, DecidableEq

def checkArgument (explains : Bool) (earlier : List Argument) (a : Argument) :
    Reading Unit :=
  let refuse := fun c => if explains then complain c else throw .misfit
  match a with
  | .plain =>
    if earlier.contains .doubleStarred then refuse (.lateArgument (!earlier.contains .named))
    else if earlier.contains .named then refuse (.lateArgument false)
    else return ()
  | .starred => if earlier.contains .doubleStarred then refuse .lateUnpacking else return ()
  | _ => return ()

/-! ## Expressions -/

mutual

def expression : (fuel : Nat) → (explains : Bool) → List Token → Reading (Found Expr)
  | 0, _, _ => .error .misfit
  | fuel + 1, explains, ts => do
    match ← attempt (disjunction fuel explains ts) with
    | none => lambda fuel explains ts
    | some (a, rest) =>
      if explains then explain fuel ts a rest
      let whole := do
        let (_, r) ← disjunction fuel explains (← expect "if" rest)
        let (_, r) ← expression fuel explains (← expect "else" r)
        return (Expr.form "conditional expression" true, r)
      return (← attempt whole).getD (a, rest)

def explain : (fuel : Nat) → List Token → Expr → List Token → Reading Unit
  | 0, _, _, _ => .ok ()
  | fuel + 1, ts, a, rest => do
    let marked := match ts with
      | ⟨.name _, _⟩ :: ⟨.quoted _ _, _⟩ :: _ => true
      | ⟨.name w, _⟩ :: _ => softKeywords.contains w
      | _ => false
    let next ← if marked then pure none else attempt (expression fuel false rest)
    match next with
    | some (_, after) =>
      if !isOldCommand a && isInside after then complain .missingComma
    | none =>
      if ← sees ["if"] rest then
        match ← attempt (disjunction fuel true rest.tail) with
        | some (_, after) => if !(← sees ["else", ":"] after) then complain .missingElse
        | none => pure ()
    match a, ts with
    | .name w, _ :: more =>
      if more.length = rest.length && !(← sees ["("] rest) then
        if let some _ ← attempt (secondValues fuel rest) then
          if isOldCommand a then complain (.missingBrackets w)
    | _, _ => pure ()

/-- Values that follow a name without any sign between them. What stands in the first one has been
looked at before. -/
def secondValues : (fuel : Nat) → List Token → Reading (Found Unit)
  | 0, _ => .error .misfit
  | fuel + 1, ts => do
    if ← sees ["*", "lambda"] ts then starredList fuel true ts
    else
      let (a, r) ← disjunction fuel false ts
      explain fuel ts a r
      if ← sees [","] r then
        return ((), ((← attempt (starredList fuel true r.tail)).map Prod.snd).getD r.tail)
      else return ((), r)

def lambda : (fuel : Nat) → (explains : Bool) → List Token → Reading (Found Expr)
  | 0, _, _ => .error .misfit
  | fuel + 1, explains, ts => do
    let r ← parameters fuel explains (← expect "lambda" ts)
    let (_, r) ← expression fuel explains (← expect ":" r)
    return (.form "lambda" true, r)

def parameters : (fuel : Nat) → (explains : Bool) → List Token → Reading (List Token)
  | 0, _, _ => .error .misfit
  | fuel + 1, explains, ts => do
    let starred := ← sees ["*", "**", "/"] ts
    let r := if starred then ts.tail else ts
    match ← peek r with
    | .name _ =>
      let r ← if ← sees ["="] r.tail then
        (expression fuel explains r.tail.tail).map Prod.snd else pure r.tail
      if ← sees [","] r then parameters fuel explains r.tail else return r
    | _ => if starred && (← sees [","] r) then parameters fuel explains r.tail else return r

def disjunction : (fuel : Nat) → (explains : Bool) → List Token → Reading (Found Expr)
  | 0, _, _ => .error .misfit
  | fuel + 1, explains, ts => do
    let (a, r) ← conjunction fuel explains ts
    moreOf fuel explains "or" a r

def conjunction : (fuel : Nat) → (explains : Bool) → List Token → Reading (Found Expr)
  | 0, _, _ => .error .misfit
  | fuel + 1, explains, ts => do
    let (a, r) ← inversion fuel explains ts
    moreOf fuel explains "and" a r

def moreOf : (fuel : Nat) → (explains : Bool) → String → Expr → List Token → Reading (Found Expr)
  | 0, _, _, _, _ => .error .misfit
  | fuel + 1, explains, word, a, ts => do
    if ← sees [word] ts then
      let next := if word = "or" then conjunction fuel explains ts.tail
        else inversion fuel explains ts.tail
      match ← attempt next with
      | some (_, r) => moreOf fuel explains word (.form "expression" true) r
      | none => return (a, ts)
    else return (a, ts)

def inversion : (fuel : Nat) → (explains : Bool) → List Token → Reading (Found Expr)
  | 0, _, _ => .error .misfit
  | fuel + 1, explains, ts => do
    if ← sees ["not"] ts then
      let (_, r) ← inversion fuel explains ts.tail
      return (.form "expression" true, r)
    else
      let (a, r) ← operand fuel explains operators ts
      comparisons fuel explains a r

def comparisons : (fuel : Nat) → (explains : Bool) → Expr → List Token → Reading (Found Expr)
  | 0, _, _, _ => .error .misfit
  | fuel + 1, explains, a, ts => do
    match ← afterComparison? ts with
    | none => return (a, ts)
    | some r =>
      match ← attempt (operand fuel explains operators r) with
      | some (_, r) => comparisons fuel explains (.form "comparison" true) r
      | none => return (a, ts)

def operand : (fuel : Nat) → (explains : Bool) → List (List String) → List Token →
    Reading (Found Expr)
  | 0, _, _, _ => .error .misfit
  | fuel + 1, explains, [], ts => factor fuel explains ts
  | fuel + 1, explains, signs :: tighter, ts => do
    let (a, r) ← operand fuel explains tighter ts
    moreOperands fuel explains signs tighter a r

def moreOperands : (fuel : Nat) → (explains : Bool) → List String → List (List String) → Expr →
    List Token → Reading (Found Expr)
  | 0, _, _, _, _, _ => .error .misfit
  | fuel + 1, explains, signs, tighter, a, ts => do
    match ← peek ts with
    | .sign s =>
      if signs.contains s then
        match ← attempt (operand fuel explains tighter ts.tail) with
        | some (b, r) => moreOperands fuel explains signs tighter (combined s a b) r
        | none => return (a, ts)
      else return (a, ts)
    | _ => return (a, ts)

def factor : (fuel : Nat) → (explains : Bool) → List Token → Reading (Found Expr)
  | 0, _, _ => .error .misfit
  | fuel + 1, explains, ts => do
    if ← sees ["+", "-"] ts then
      let (a, r) ← factor fuel explains ts.tail
      return (.signed a, r)
    else if ← sees ["~"] ts then
      let (_, r) ← factor fuel explains ts.tail
      return (.form "expression" false, r)
    else
      let awaited := ← sees ["await"] ts
      let (a, r) ← atom fuel explains (if awaited then ts.tail else ts)
      let (a, r) ← trailers fuel explains a r
      let a := if awaited then .form "await expression" false else a
      if ← sees ["**"] r then
        match ← attempt (factor fuel explains r.tail) with
        | some (_, r) => return (.form "expression" false, r)
        | none => return (a, r)
      else return (a, r)

def trailers : (fuel : Nat) → (explains : Bool) → Expr → List Token → Reading (Found Expr)
  | 0, _, _, _ => .error .misfit
  | fuel + 1, explains, a, ts => do
    if ← sees ["."] ts then
      match ← peek ts.tail with
      | .name _ => trailers fuel explains (.form "attribute" false) ts.tail.tail
      | _ => return (a, ts)
    else if ← sees ["("] ts then
      match ← attempt (arguments fuel explains ts.tail) with
      | some (bare, r) =>
        trailers fuel explains (if bare then .bareCall a else .form "function call" false) r
      | none => return (a, ts)
    else
      if explains && (← sees ["\x7b"] ts) then explainBraced fuel ts.tail
      return (a, ts)

/-- Complains about a comprehension in curly brackets after a value, from after the opening bracket
on. -/
def explainBraced : (fuel : Nat) → List Token → Reading Unit
  | 0, _ => .ok ()
  | fuel + 1, ts => do
    if ← sees ["*"] ts then
      if let some (_, r) ← attempt (expression fuel true ts.tail) then
        if (← attempt (loops fuel true r)).isSome then complain (.unpackedComprehension false)
    if let some (_, r) ← attempt (element fuel true ts) then
      if ← sees [","] r then
        let (_, r) ← elements fuel true r.tail
        if (← attempt (loops fuel true r)).isSome then complain .bareTargets

def atom : (fuel : Nat) → (explains : Bool) → List Token → Reading (Found Expr)
  | 0, _, _ => .error .misfit
  | fuel + 1, explains, ts => do
    match ← peek ts with
    | .name text => return (.name text, ts.tail)
    | .number imaginary tooMany =>
      match tooMany with
      | some n => complain (.longNumber n)
      | none => return (.number imaginary, ts.tail)
    | .quoted _ _ => quotedTexts ts
    | .sign s =>
      if ["True", "False", "None", "..."].contains s then return (.constant s, ts.tail)
      else if s = "(" then bracketed fuel explains ts.tail
      else if s = "\x7b" then braced fuel explains ts.tail
      else throw .misfit
    | _ => throw .misfit

def bracketed : (fuel : Nat) → (explains : Bool) → List Token → Reading (Found Expr)
  | 0, _, _ => .error .misfit
  | fuel + 1, explains, ts => do
    if ← sees [")"] ts then return (.tuple [], ts.tail)
    else if ← sees ["yield"] ts then
      let r := ts.tail
      let r ← if ← sees ["from"] r then (expression fuel explains r.tail).map Prod.snd
        else (attempt (starredList fuel explains r)).map fun x => (x.map Prod.snd).getD r
      return (.form "yield expression" true, ← expect ")" r)
    else if ← sees ["**"] ts then
      if explains then
        if let some (_, r) ← attempt (expression fuel explains ts.tail) then
          if ← sees [")"] r then complain (.starred true)
      throw .misfit
    else
      let starred := ← sees ["*"] ts
      let (a, r) ← element fuel explains ts
      if ← sees [","] r then
        let (more, r) ← elements fuel explains r.tail
        return (.tuple (a :: more), ← expect ")" r)
      else if starred then
        if explains then
          if let some (_, r) ← attempt (expression fuel explains ts.tail) then
            if ← sees [")"] r then complain (.starred false)
            if let some _ ← attempt (loops fuel explains r) then
              complain (.unpackedComprehension false)
        throw .misfit
      else if ← sees [")"] r then return (a, r.tail)
      else
        let r ← loops fuel explains r
        return (.form "generator expression" false, ← expect ")" r)

def element : (fuel : Nat) → (explains : Bool) → List Token → Reading (Found Expr)
  | 0, _, _ => .error .misfit
  | fuel + 1, explains, ts => do
    if ← sees ["*"] ts then
      let (_, r) ← operand fuel explains operators ts.tail
      return (.form "starred" true, r)
    else named fuel explains ts

def elements : (fuel : Nat) → (explains : Bool) → List Token → Reading (Found (List Expr))
  | 0, _, _ => .error .misfit
  | fuel + 1, explains, ts => do
    match ← attempt (element fuel explains ts) with
    | none => return ([], ts)
    | some (a, r) =>
      if ← sees [","] r then
        let (more, r) ← elements fuel explains r.tail
        return (a :: more, r)
      else return ([a], r)

def starredList : (fuel : Nat) → (explains : Bool) → List Token → Reading (Found Unit)
  | 0, _, _ => .error .misfit
  | fuel + 1, explains, ts => do
    let (_, r) ← if ← sees ["*"] ts then operand fuel explains operators ts.tail
      else expression fuel explains ts
    if ← sees [","] r then
      return ((), ((← attempt (starredList fuel explains r.tail)).map Prod.snd).getD r.tail)
    else return ((), r)

def named : (fuel : Nat) → (explains : Bool) → List Token → Reading (Found Expr)
  | 0, _, _ => .error .misfit
  | fuel + 1, explains, ts => do
    let given := match ts with
      | ⟨.name _, _⟩ :: ⟨.sign ":=", _⟩ :: rest => some rest
      | _ => none
    let whole ← match given with
      | some rest => attempt (expression fuel explains rest)
      | none => pure none
    match whole with
    | some (_, r) => return (.form "named expression" true, r)
    | none =>
      let (a, r) ← expression fuel explains ts
      if explains then explainNamed fuel ts a r
      if ← sees [":="] r then throw .misfit else return (a, r)

def explainNamed : (fuel : Nat) → List Token → Expr → List Token → Reading Unit
  | 0, _, _, _ => .ok ()
  | fuel + 1, ts, a, rest => do
    if ← sees [":="] rest then
      if let some _ ← attempt (expression fuel true rest.tail) then
        complain (.badNamedTarget a.what)
    if ← sees ["="] rest then
      let first ← attempt (atom fuel false ts)
      if a.isOperand && !first.any (·.1.isFixed) then
        if let some (_, r) ← attempt (operand fuel true operators rest.tail) then
          if !(← sees ["=", ":="] r) then
            match a with
            | .name _ => complain .equalsSign
            | _ => complain (.badTargetHere a.what)

def braced : (fuel : Nat) → (explains : Bool) → List Token → Reading (Found Expr)
  | 0, _, _ => .error .misfit
  | fuel + 1, explains, ts => do
    if ← sees ["\x7d"] ts then return (.dictionary [], ts.tail)
    else if ← sees ["**"] ts then
      let (a, r) ← operand fuel explains operators ts.tail
      if explains && (← attempt (loops fuel explains r)).isSome then
        complain (.unpackedComprehension true)
      entries fuel explains [(none, a)] r
    else if ← sees ["*"] ts then setFrom fuel explains ts
    else
      match ← attempt (expression fuel explains ts) with
      | none => throw .misfit
      | some (k, r) =>
        if ← sees [":"] r then
          let (v, after) ← entryValue fuel explains r.tail
          match ← attempt (entries fuel explains [(some k, v)] after) with
          | some whole => return whole
          | none =>
            let r ← loops fuel explains after
            return (.form "dict comprehension" false, ← expect "\x7d" r)
        else setFrom fuel explains ts

def entryValue : (fuel : Nat) → (explains : Bool) → List Token → Reading (Found Expr)
  | 0, _, _ => .error .misfit
  | fuel + 1, explains, ts => do
    match ← attempt (expression fuel explains ts) with
    | some found => return found
    | none =>
      if ← sees ["*"] ts then
        if let some _ ← attempt (operand fuel explains operators ts.tail) then
          complain .starredEntry
      if ← sees ["\x7d", ","] ts then complain .missingEntry else throw .misfit

def entries : (fuel : Nat) → (explains : Bool) → List (Option Expr × Expr) → List Token →
    Reading (Found Expr)
  | 0, _, _, _ => .error .misfit
  | fuel + 1, explains, found, ts => do
    if ← sees ["\x7d"] ts then return (.dictionary found.reverse, ts.tail)
    else
      let r ← expect "," ts
      if ← sees ["\x7d"] r then return (.dictionary found.reverse, r.tail)
      else if ← sees ["**"] r then
        let (a, r) ← operand fuel explains operators r.tail
        entries fuel explains ((none, a) :: found) r
      else
        let (k, r) ← expression fuel explains r
        if ← sees [":"] r then
          let (v, r) ← entryValue fuel explains r.tail
          entries fuel explains ((some k, v) :: found) r
        else complain .missingColon

def setFrom : (fuel : Nat) → (explains : Bool) → List Token → Reading (Found Expr)
  | 0, _, _ => .error .misfit
  | fuel + 1, explains, ts => do
    let starred := ← sees ["*"] ts
    let (a, r) ← element fuel explains ts
    if ← sees [","] r then
      let (more, r) ← elements fuel explains r.tail
      if explains && (← attempt (loops fuel explains r)).isSome then complain .bareTargets
      return (.set (a :: more), ← expect "\x7d" r)
    else if ← sees ["\x7d"] r then return (.set [a], r.tail)
    else
      let r ← loops fuel explains r
      if starred then
        if explains then complain (.unpackedComprehension false) else throw .misfit
      return (.form "set comprehension" false, ← expect "\x7d" r)

def loops : (fuel : Nat) → (explains : Bool) → List Token → Reading (List Token)
  | 0, _, _ => .error .misfit
  | fuel + 1, explains, ts => do
    let ts := if ← sees ["async"] ts then ts.tail else ts
    let r ← targets fuel explains (← expect "for" ts)
    let (_, r) ← disjunction fuel explains (← expect "in" r)
    let r ← conditions fuel explains r
    return (← attempt (loops fuel explains r)).getD r

def targets : (fuel : Nat) → (explains : Bool) → List Token → Reading (List Token)
  | 0, _, _ => .error .misfit
  | fuel + 1, explains, ts => do
    let (a, r) ← operand fuel explains operators (if ← sees ["*"] ts then ts.tail else ts)
    if !a.isTarget then
      if explains then complain (.badTarget a.what) else throw .misfit
    if ← sees [","] r then return (← attempt (targets fuel explains r.tail)).getD r.tail
    else return r

def conditions : (fuel : Nat) → (explains : Bool) → List Token → Reading (List Token)
  | 0, _, _ => .error .misfit
  | fuel + 1, explains, ts => do
    if ← sees ["if"] ts then
      match ← attempt (disjunction fuel explains ts.tail) with
      | some (_, r) => conditions fuel explains r
      | none => return ts
    else return ts

def arguments : (fuel : Nat) → (explains : Bool) → List Token → Reading (Found Bool)
  | 0, _, _ => .error .misfit
  | fuel + 1, explains, ts => do
    if ← sees [")"] ts then return (true, ts.tail)
    else
      let r ← argumentsFrom fuel explains [] ts
      return (false, ← expect ")" r)

def argumentsFrom : (fuel : Nat) → (explains : Bool) → List Argument → List Token →
    Reading (List Token)
  | 0, _, _, _ => .error .misfit
  | fuel + 1, explains, earlier, ts => do
    let (kind, r) ← argument fuel explains ts
    let looped ← if kind = .plain || kind = .named then attempt (loops fuel explains r)
      else pure none
    match looped with
    | some after =>
      if kind = .named then if explains then complain .equalsSign else throw .misfit
      else if earlier.isEmpty && (← sees [")"] after) then return after
      else if explains then complain .bareGenerator
      else throw .misfit
    | none =>
      checkArgument explains earlier kind
      if ← sees [","] r then
        if ← sees [")"] r.tail then return r.tail
        else argumentsFrom fuel explains (kind :: earlier) r.tail
      else return r

def argument : (fuel : Nat) → (explains : Bool) → List Token → Reading (Found Argument)
  | 0, _, _ => .error .misfit
  | fuel + 1, explains, ts => do
    if ← sees ["*"] ts then
      let (_, r) ← expression fuel explains ts.tail
      return (.starred, r)
    else if ← sees ["**"] ts then
      let (_, r) ← expression fuel explains ts.tail
      return (.doubleStarred, r)
    else
      match ts with
      | ⟨.name _, _⟩ :: ⟨.sign "=", _⟩ :: rest =>
        let (_, r) ← expression fuel explains rest
        return (.named, r)
      | ⟨.name _, _⟩ :: ⟨.sign ":=", _⟩ :: rest =>
        let (_, r) ← expression fuel explains rest
        return (.plain, r)
      | _ =>
        let (a, r) ← expression fuel explains ts
        if ← sees [":="] r then throw .misfit
        if ← sees ["="] r then
          if explains then
            match a with
            | .constant c => complain (if c = "..." then .badKeyword else .badTarget c)
            | _ => complain .badKeyword
          throw .misfit
        return (.plain, r)

end

def expressions : (fuel : Nat) → (explains : Bool) → List Token → Reading (Found (List Expr × Bool))
  | 0, _, _ => .error .misfit
  | fuel + 1, explains, ts => do
    let (a, r) ← expression (fuel + 1) explains ts
    if ← sees [","] r then
      match ← attempt (expressions fuel explains r.tail) with
      | some ((more, _), r) => return ((a :: more, true), r)
      | none => return (([a], true), r.tail)
    else return (([a], false), r)

def wholeExpression (explains : Bool) (ts : List Token) : Reading Expr := do
  let ((es, several), r) ← expressions (40 * ts.length + 40) explains ts
  match ← peek (r.dropWhile fun t => t.kind = .lineEnd) with
  | .finish => return if several then .tuple es else es.headD (.tuple [])
  | _ => throw .misfit

def settled (ts : List Token) (c : Complaint) : Complaint :=
  match ts.getLast? with
  | some ⟨.broken b, _⟩ => if b.isLexical then b else c
  | _ => c

def Expr.ofTokens (ts : List Token) : Except Complaint Expr :=
  match wholeExpression false ts with
  | .ok e => .ok e
  | .error (.complaint c) => .error (settled ts c)
  | .error .misfit =>
    match wholeExpression true ts with
    | .error (.complaint c) => .error (settled ts c)
    | _ => .error (settled ts .misfit)

end ComponentLinks.Terminal.Handler
