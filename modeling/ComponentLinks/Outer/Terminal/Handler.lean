import ComponentLinks.Outer.Terminal.Handler.Filled
import ComponentLinks.Outer.Terminal.Handler.Literal
import ComponentLinks.Text.Blank
import ComponentLinks.Text.Lines

/-!
# Calls in tags

A tag may name a call that is made when its text is clicked: a name, perhaps with arguments in
brackets. The arguments are literal values.

## Main definitions

* `Terminal.Handler.Fault`: why a call cannot be read.
* `Terminal.Handler.fault?`: why the call that a tag names cannot be read.
-/
namespace ComponentLinks.Terminal.Handler

inductive Fault where
  | unwritten (arguments parameters : List Char) (c : Complaint)
  | refused (parameters : List Char) (r : Refusal)
  | nullCharacter (parameters : List Char)
  deriving Repr, DecidableEq

def Fault.message : Fault → String
  | unwritten arguments parameters c =>
    s!"error parsing {Text.quoted (String.ofList arguments)} in " ++
      s!"{Text.quoted (String.ofList parameters)}; {c.message}"
  | refused parameters r =>
    s!"error parsing {Text.quoted (String.ofList parameters)}; {r.message}"
  | nullCharacter parameters =>
    s!"error parsing {Text.quoted (String.ofList parameters)}; " ++
      "source code string cannot contain null bytes"

/-- The arguments of a call: what stands in brackets after its name, or nothing in brackets. What
is not written as a name with brackets is taken for arguments itself. -/
def argumentsOf (call : List Char) : List Char :=
  match call.dropWhile fun c => Text.isWord c || c == '.' with
  | [] => "()".toList
  | '(' :: rest =>
    if rest.getLast? = some ')' && !rest.contains '\n' then '(' :: rest else call
  | _ => call

def fault? (parameters : List Char) : Option Fault :=
  let given := argumentsOf (Text.trim parameters)
  if given.contains '\x00' then some (.nullCharacter parameters)
  else
    match Expr.ofText (Text.unifyNewlines (given.dropWhile fun c => c == ' ' || c == '\t')) with
    | .error c => some (.unwritten given parameters c)
    | .ok e =>
      match e.checkLiteral with
      | .error r => some (.refused parameters r)
      | .ok () => none

end ComponentLinks.Terminal.Handler
