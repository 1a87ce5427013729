import ComponentLinks.Outer.Terminal.Handler.Expression

/-!
# Quoted texts in calls

A backslash in a quoted text begins an escape. A text with parts to be filled in has expressions in
curly brackets; a conversion and a format may follow an expression, and a format may have such
parts itself.

## Main definitions

* `Terminal.Handler.escapeFault?`: what is wrong with the escapes in a text.
* `Terminal.Handler.FilledText.read`: reading texts with parts to be filled in.
* `Terminal.Handler.Expr.ofText`: the expression that a text writes, or what is wrong with it.
-/
namespace ComponentLinks.Terminal.Handler

/-! ## Escapes -/

def isNarrow (c : Char) : Bool := c.toNat < 0x80

/-- The number of places that a character takes where places in a text are counted: one beyond
ASCII counts as an escape with ten. -/
def places (c : Char) : Nat := if isNarrow c then 1 else 10

/-- The number of places that a text takes. A backslash counts as an escape with six if a character
beyond ASCII follows it. -/
def placesIn : List Char → Nat
  | [] => 0
  | '\\' :: c :: rest => (if isNarrow c then 1 else 6) + places c + placesIn rest
  | c :: rest => places c + placesIn rest

def escapeDigits : List (Char × Nat) := [('x', 2), ('u', 4), ('U', 8)]

/-- Whether a text has the form of the name of a character: capital letters, digits, blanks and
hyphens. -/
def isCharacterName (name : List Char) : Bool :=
  name.all fun c => c.isUpper || c.isDigit || c == ' ' || c == '-'

/-- The fault of an escape by a name, from after its letter on, with the number of places up to its
end. -/
def nameFault? (cs : List Char) : Option (Nat × EscapeFault) :=
  match cs with
  | '\x7b' :: rest =>
    let name := rest.takeWhile (· != '\x7d')
    let size := placesIn name
    if name.length = rest.length then some (size + 1, .noName)
    else if name.isEmpty then some (1, .noName)
    else if isCharacterName name then none
    else some (size + 2, .unknownName)
  | _ => some (0, .noName)

/-- The fault of an escape by a code, from after its letter on, with the number of places up to its
end. -/
def codeFault? (letter : Char) (count : Nat) (cs : List Char) : Option (Nat × EscapeFault) :=
  let digits := (cs.take count).takeWhile fun c => (Text.hexValue? c).isSome
  if digits.length < count then some (digits.length, .truncated letter count)
  else if (Text.hexNumeral? digits).all (· < 0x110000) then none
  else some (count, .noCharacter)

def escapeFaultFrom? (n : Nat) : List Char → Option Complaint
  | [] => none
  | '\\' :: c :: rest =>
    if !isNarrow c then escapeFaultFrom? (n + placesIn ['\\', c]) rest
    else
      let found := if c = 'N' then nameFault? rest
        else (escapeDigits.lookup c).bind fun count => codeFault? c count rest
      match found with
      | some (size, f) => some (.badEscape n (n + 2 + size) f)
      | none => escapeFaultFrom? (n + 2) rest
  | c :: rest => escapeFaultFrom? (n + places c) rest

def escapeFault? (text : List Char) : Option Complaint := escapeFaultFrom? 0 text

def byteEscapeFaultFrom? (n : Nat) : List Char → Option Complaint
  | '\\' :: 'x' :: rest =>
    if (codeFault? 'x' 2 rest).isSome then some (.badByteEscape n)
    else byteEscapeFaultFrom? (n + 2) rest
  | '\\' :: _ :: rest => byteEscapeFaultFrom? (n + 2) rest
  | _ :: rest => byteEscapeFaultFrom? (n + 1) rest
  | [] => none

def plainFault? (q : Quoted) : Option Complaint :=
  if q.bytes && !q.body.all isNarrow then some .wideBytes
  else if q.raw then none
  else if q.bytes then byteEscapeFaultFrom? 0 q.body
  else escapeFault? q.body

/-! ## Parts to be filled in -/

namespace FilledText

def refuse {α : Type} (f : FilledFault) : Except Complaint α := .error (.filled f)

def escapeLength : List Char → Nat
  | 'N' :: '\x7b' :: rest =>
    min (rest.length + 2) ((rest.takeWhile (· != '\x7d')).length + 3)
  | 'N' :: _ :: _ => 2
  | c :: _ => if c == '\x7b' || c == '\x7d' then 0 else 1
  | [] => 0

/-- The text before the next part, whether it ends with a doubled bracket, and what follows it. In a
format brackets cannot be doubled. -/
def literal (raw inFormat : Bool) : (fuel : Nat) → List Char →
    Except Complaint (List Char × Bool × List Char)
  | 0, cs => .ok ([], false, cs)
  | _, [] => .ok ([], false, [])
  | fuel + 1, c :: rest =>
    if c == '\x7b' || c == '\x7d' then
      if inFormat then .ok ([], false, c :: rest)
      else if rest.head? = some c then .ok ([c], true, rest.tail)
      else if c == '\x7d' then refuse .loneBracket
      else .ok ([], false, c :: rest)
    else
      let n := if c == '\\' && !raw then escapeLength rest else 0
      (literal raw inFormat fuel (rest.drop n)).map fun (text, more) =>
        (c :: rest.take n ++ text, more)

abbrev Quotes := List Char

def quotesAt (quote : Char) (rest : List Char) : Quotes :=
  if [quote, quote].isPrefixOf rest then [quote, quote, quote] else [quote]

/-- The expression of a part and what follows it, given the quotes of the text and the brackets that
are open. -/
def expressionText : (fuel : Nat) → Option Quotes → List Char → List Char →
    Except Complaint (List Char × List Char)
  | 0, _, _, _ => refuse .unfinished
  | _, some _, _, [] => refuse .unterminated
  | _, none, opening :: _, [] => refuse (.unmatched opening)
  | _, none, [], [] => .ok ([], [])
  | fuel + 1, quotes, brackets, c :: rest =>
    let goOn := fun n quotes brackets =>
      (expressionText fuel quotes brackets (rest.drop n)).map fun (text, more) =>
        (c :: rest.take n ++ text, more)
    if c == '\\' then refuse .backslash
    else match quotes with
      | some q =>
        if q.isPrefixOf (c :: rest) then goOn (q.length - 1) none brackets
        else goOn 0 quotes brackets
      | none =>
        if c == '"' || c == '\'' then
          let q := quotesAt c rest
          goOn (q.length - 1) (some q) brackets
        else if c == '(' || c == '\x7b' then
          if depthLimit ≤ brackets.length then refuse .tooManyBrackets
          else goOn 0 none (c :: brackets)
        else if c == '#' then refuse .comment
        else if brackets.isEmpty && "!:=<>\x7d".toList.contains c then
          if c != ':' && c != '\x7d' && rest.head? = some '=' then goOn 1 none brackets
          else if c == '<' || c == '>' then goOn 0 none brackets
          else .ok ([], c :: rest)
        else match openingOf? c, brackets with
          | none, _ => goOn 0 none brackets
          | some _, [] => refuse (.unmatched c)
          | some opening, b :: others =>
            if b = opening then goOn 0 none others else refuse (.mismatched c b)

def isIgnored (c : Char) : Bool := " \t\n\x0c".toList.contains c

/-- Whether a character counts for nothing after the equals sign at the end of a part. -/
def isSpacing (c : Char) : Bool := " \t\n\x0b\x0c\r".toList.contains c

def afterEquals (cs : List Char) : Except Complaint (List Char) :=
  match cs with
  | '=' :: rest =>
    if (rest.dropWhile isSpacing).isEmpty then refuse .unfinished
    else .ok (rest.dropWhile isSpacing)
  | _ => .ok cs

def afterConversion (cs : List Char) : Except Complaint (List Char) :=
  match cs with
  | ['!'] => refuse .unfinished
  | '!' :: c :: rest => if "sra".toList.contains c then .ok rest else refuse .badConversion
  | _ => .ok cs

mutual

def read (check : List Char → Except Complaint Unit) (raw : Bool) :
    (fuel level : Nat) → List Char → Except Complaint (List Char)
  | 0, _, _ => refuse .unfinished
  | fuel + 1, level, cs => do
    let (text, isDoubled, rest) ← literal raw (level != 0) (cs.length + 1) cs
    match if raw then none else escapeFault? text with
    | some c => throw c
    | none =>
      if isDoubled then read check raw fuel level rest
      else match rest with
        | '\x7b' :: rest => read check raw fuel level (← readPart check raw fuel level rest)
        | _ => if level != 0 && rest.isEmpty then refuse .unfinished else return rest

def readPart (check : List Char → Except Complaint Unit) (raw : Bool) :
    (fuel level : Nat) → List Char → Except Complaint (List Char)
  | 0, _, _ => refuse .unfinished
  | fuel + 1, level, cs => do
    if 2 ≤ level then refuse .tooDeep
    else
      let (text, rest) ← expressionText (cs.length + 1) none [] cs
      if rest.isEmpty then refuse .unfinished
      else
        if text.all isIgnored then refuse (.empty (rest.head?.filter (· != '\x7d')))
        else check text
        let rest ← afterConversion (← afterEquals rest)
        let rest ← match rest with
          | ':' :: format =>
            if format.isEmpty then refuse .unfinished else read check raw fuel (level + 1) format
          | _ => pure rest
        match rest with
        | '\x7d' :: rest => return rest
        | _ => refuse .unfinished

end

end FilledText

/-! ## Expressions of texts -/

def partComplaint (c : Complaint) : Complaint := if c.isLexical then c else .part c

/-- Tokens with what is wrong with the quoted texts among them. Those with parts to be filled in may
hold others up to some depth. -/
def judged : (depth : Nat) → List Token → List Token
  | 0, ts => ts
  | depth + 1, ts => ts.map fun t =>
    match t.kind with
    | .quoted q _ =>
      let check := fun text =>
        match Expr.ofTokens (judged depth (tokens ('(' :: text ++ [')']))) with
        | .ok _ => .ok ()
        | .error c => .error (partComplaint c)
      let fault :=
        if q.filled then
          match FilledText.read check q.raw (2 * q.body.length + 2) 0 q.body with
          | .ok _ => none
          | .error c => some c
        else plainFault? q
      { t with kind := .quoted q fault }
    | _ => t

def Expr.ofText (cs : List Char) : Except Complaint Expr :=
  Expr.ofTokens (judged (cs.length + 1) (tokens cs))

end ComponentLinks.Terminal.Handler
