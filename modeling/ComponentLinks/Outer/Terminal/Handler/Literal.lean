import ComponentLinks.Outer.Terminal.Handler.Expression

/-!
# Literal values

The arguments of a call are literal: texts, numbers and named values, alone or in tuples, sets and
dictionaries. A dictionary or a set can neither be a key nor an element of a set.

## Main definitions

* `Terminal.Handler.Refusal`: why an expression is no literal value.
* `Terminal.Handler.Expr.checkLiteral`: whether an expression is a literal value.
-/
namespace ComponentLinks.Terminal.Handler

inductive Refusal where
  | computed
  | keyless
  | misplaced (kind : String)
  deriving Repr, DecidableEq

def Refusal.message : Refusal → String
  | computed => "malformed node or string on line 1"
  | keyless => "malformed node or string: None"
  | misplaced kind => s!"unhashable type: '{kind}'"

/-- Whether a value may be a key or an element of a set: the kind of the first value in it that may
not. -/
abbrev Placing := Option String

def Placing.check (p : Placing) : Except Refusal Unit :=
  match p with
  | none => .ok ()
  | some kind => .error (.misplaced kind)

namespace Expr

def number? : Expr → Option Bool
  | number imaginary => some imaginary
  | _ => none

def signedNumber? : Expr → Option Bool
  | signed value => value.number?
  | e => e.number?

mutual

def placing : Expr → Except Refusal Placing
  | number _ => .ok none
  | quoted filled => if filled then .error .computed else .ok none
  | constant _ => .ok none
  | tuple values => placingOfAll values
  | set values => (checkElements values).map fun _ => some "set"
  | dictionary entries => (checkEntries entries).map fun _ => some "dict"
  | signed value => if value.number?.isSome then .ok none else .error .computed
  | sum left right =>
    if left.signedNumber? = some false && right.number? = some true then .ok none
    else .error .computed
  | bareCall (name f) => if f = "set".toList then .ok (some "set") else .error .computed
  | _ => .error .computed

def placingOfAll : List Expr → Except Refusal Placing
  | [] => .ok none
  | e :: es => do
    let p ← e.placing
    return p.or (← placingOfAll es)

def checkElements : List Expr → Except Refusal Unit
  | [] => .ok ()
  | e :: es => do
    (← e.placing).check
    checkElements es

def checkEntries : List (Option Expr × Expr) → Except Refusal Unit
  | [] => .ok ()
  | (none, _) :: _ => .error .keyless
  | (some k, v) :: rest => do
    let p ← k.placing
    let _ ← v.placing
    p.check
    checkEntries rest

end

def checkLiteral (e : Expr) : Except Refusal Unit := e.placing.map fun _ => ()

end Expr

end ComponentLinks.Terminal.Handler
