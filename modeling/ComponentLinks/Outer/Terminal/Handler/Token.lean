import ComponentLinks.Outer.Terminal.Handler.Complaint
import ComponentLinks.Text.Word

/-!
# Tokens of calls

The call in a tag is cut into tokens: names, numbers, quoted texts and signs. What is no token ends
them.

## Main definitions

* `Terminal.Handler.Quoted`: quoted texts.
* `Terminal.Handler.Token`: the tokens.
* `Terminal.Handler.tokens`: the tokens of a text.
-/
namespace ComponentLinks.Terminal.Handler

/-! ## Tokens -/

structure Quoted where
  bytes : Bool
  raw : Bool
  filled : Bool
  body : List Char
  deriving Repr, DecidableEq

inductive Token.Kind where
  | name (text : List Char)
  | number (imaginary : Bool) (tooMany : Option Nat)
  | quoted (q : Quoted) (fault : Option Complaint)
  | sign (text : String)
  | lineEnd
  | finish
  | broken (c : Complaint)
  deriving Repr, DecidableEq

structure Token where
  kind : Token.Kind
  depth : Nat
  deriving Repr, DecidableEq

def keywords : List String :=
  ["False", "None", "True", "and", "as", "assert", "async", "await", "break", "class", "continue",
   "def", "del", "elif", "else", "except", "finally", "for", "from", "global", "if", "import",
   "in", "is", "lambda", "nonlocal", "not", "or", "pass", "raise", "return", "try", "while",
   "with", "yield"]

def longSigns : List String :=
  ["**=", "//=", ">>=", "<<=", "...", "!=", "%=", "&=", "**", "*=", "+=", "-=", "->", "//", "/=",
   ":=", "<<", "<=", "<>", "==", ">=", ">>", "@=", "^=", "|="]

/-! ### Numbers -/

/-- The text after digits, between which single underscores may stand; one may also stand before
them. -/
def afterDigits (p : Char → Bool) (bad : Option Char → Complaint) :
    (fuel : Nat) → List Char → Except Complaint (List Char)
  | 0, cs => .error (bad cs.head?)
  | fuel + 1, cs =>
    let digits := if cs.head? = some '_' then cs.tail else cs
    if digits.head?.any p then
      match digits.dropWhile p with
      | '_' :: rest => afterDigits p bad fuel ('_' :: rest)
      | rest => .ok rest
    else .error (bad digits.head?)

def goesOn (c : Char) : Bool := c.isAlphanum || c == '_' || 0x80 ≤ c.toNat

def followers : List String := ["and", "else", "for", "or", "not"]

def followingLetters : List String := ["if", "in", "is"]

def mayFollow (cs : List Char) : Bool :=
  followers.any (fun w => w.toList.isPrefixOf cs && !(cs.drop w.length).head?.any goesOn) ||
    followingLetters.any fun w => w.toList.isPrefixOf cs

/-- The text after a number, which no ASCII letter may follow unless a keyword begins with it. -/
def checkEnd (kind : String) (cs : List Char) : Except Complaint (List Char) :=
  if cs.head?.any (fun c => c.isAlphanum || c == '_') && !mayFollow cs then
    .error (.badNumber kind)
  else .ok cs

def afterBase (kind : String) (p : Char → Bool) (cs : List Char) :
    Except Complaint (List Char) := do
  let bad := fun (c : Option Char) =>
    match c.filter Char.isDigit with
    | some d => Complaint.badDigit d kind
    | none => .badNumber kind
  let rest ← afterDigits p bad (cs.length + 1) cs
  if rest.head?.any Char.isDigit then .error (bad rest.head?) else checkEnd kind rest

def afterDecimals (cs : List Char) : Except Complaint (List Char) :=
  afterDigits Char.isDigit (fun _ => .badNumber "decimal") (cs.length + 1) cs

def imaginaryEnd (cs : List Char) : Except Complaint (Bool × List Char) :=
  match cs with
  | c :: rest =>
    if c == 'j' || c == 'J' then (checkEnd "imaginary" rest).map (true, ·)
    else (checkEnd "decimal" cs).map (false, ·)
  | [] => .ok (false, [])

def exponentEnd (cs : List Char) : Except Complaint (Bool × List Char) :=
  match cs with
  | e :: rest =>
    if e == 'e' || e == 'E' then
      let signed := rest.head?.any fun c => c == '+' || c == '-'
      let digits := if signed then rest.tail else rest
      if digits.head?.any Char.isDigit then (afterDecimals digits).bind imaginaryEnd
      else if signed then .error (.badNumber "decimal")
      else (checkEnd "decimal" cs).map (false, ·)
    else imaginaryEnd cs
  | [] => .ok (false, [])

def fractionEnd (cs : List Char) : Except Complaint (Bool × List Char) :=
  if cs.head?.any Char.isDigit then (afterDecimals cs).bind exponentEnd else exponentEnd cs

def wholeNumber (digits rest : List Char) : Except Complaint (Token.Kind × List Char) :=
  if digits.head? = some '0' && digits.any (· != '0') then .error .leadingZero
  else
    let tooMany := if Text.digitLimit < digits.length then some digits.length else none
    (checkEnd "decimal" rest).map fun rest => (.number false tooMany, rest)

def number (cs : List Char) : Except Complaint (Token.Kind × List Char) := do
  let based := fun kind p rest =>
    (afterBase kind p rest).map fun rest => (Token.Kind.number false none, rest)
  match cs with
  | '0' :: 'x' :: rest | '0' :: 'X' :: rest =>
    based "hexadecimal" (fun c => (Text.hexValue? c).isSome) rest
  | '0' :: 'o' :: rest | '0' :: 'O' :: rest => based "octal" (fun c => '0' ≤ c && c ≤ '7') rest
  | '0' :: 'b' :: rest | '0' :: 'B' :: rest => based "binary" (fun c => c == '0' || c == '1') rest
  | _ =>
    let rest ← afterDecimals cs
    let digits := (cs.take (cs.length - rest.length)).filter Char.isDigit
    match rest with
    | '.' :: fraction => (fractionEnd fraction).map fun (i, rest) => (.number i none, rest)
    | c :: _ =>
      if "eEjJ".toList.contains c then
        let (imaginary, after) ← exponentEnd rest
        return (.number imaginary none, after)
      wholeNumber digits rest
    | [] => wholeNumber digits rest

/-! ### Quoted texts -/

/-- The text after a quoted one, which ends with `quote`, and the number of lines that it ends.
A single quote must end on its line, unless a backslash stands at the end of that. -/
def afterQuoted (quote : List Char) : (fuel : Nat) → (lines : Nat) → List Char →
    Except Nat (Nat × List Char)
  | 0, lines, _ => .error lines
  | fuel + 1, lines, cs =>
    match quote.isPrefixOf? cs, cs with
    | some rest, _ => .ok (lines, rest)
    | none, [] => .error lines
    | none, '\\' :: '\n' :: rest => afterQuoted quote fuel (lines + 1) rest
    | none, '\\' :: _ :: rest => afterQuoted quote fuel lines rest
    | none, '\n' :: rest =>
      if quote.length = 1 then .error lines else afterQuoted quote fuel (lines + 1) rest
    | none, _ :: rest => afterQuoted quote fuel lines rest

def quoteMarks : List String := ["", "b", "u", "r", "f", "br", "rb", "fr", "rf"]

def quoteMark? (cs : List Char) : Option (List Char × List Char) :=
  let mark := (cs.takeWhile Char.isAlpha).map Char.toLower
  let rest := cs.drop mark.length
  if quoteMarks.contains (String.ofList mark) &&
      (rest.head?.any fun c => c == '"' || c == '\'') then
    some (mark, rest)
  else none

/-- The quoted text whose opening quotes begin here, on a line, and the number of lines that it
ends. -/
def quotedToken (line : Nat) (mark cs : List Char) :
    Except Complaint (Token.Kind × Nat × List Char) :=
  let quote := cs.take 1
  let triple := cs.take 3 = quote ++ quote ++ quote
  let ends := if triple then quote ++ quote ++ quote else quote
  let body := cs.drop ends.length
  match afterQuoted ends (body.length + 1) 0 body with
  | .error lines => .error (.unterminated triple (line + lines))
  | .ok (lines, rest) =>
    let q : Quoted :=
      ⟨mark.contains 'b', mark.contains 'r', mark.contains 'f',
        body.take (body.length - rest.length - ends.length)⟩
    .ok (.quoted q none, lines, rest)

/-! ### Names -/

/-- The word characters that stand in no name: signs of numbers and some joined letters. -/
def unnamedRanges : List (Nat × Nat) :=
  [(0xB2, 0xB3), (0xB9, 0xB9), (0xBC, 0xBE), (0x37A, 0x37A), (0x9F4, 0x9F9), (0xB72, 0xB77),
   (0xBF0, 0xBF2), (0xC78, 0xC7E), (0xD58, 0xD5E), (0xD70, 0xD78), (0xF2A, 0xF33),
   (0x1372, 0x137C), (0x17F0, 0x17F9), (0x2070, 0x2070), (0x2074, 0x2079), (0x2080, 0x2089),
   (0x2150, 0x215F), (0x2189, 0x2189), (0x2460, 0x249B), (0x24EA, 0x24FF), (0x2776, 0x2793),
   (0x2CFD, 0x2CFD), (0x2E2F, 0x2E2F), (0x3192, 0x3195), (0x3220, 0x3229), (0x3248, 0x324F),
   (0x3251, 0x325F), (0x3280, 0x3289), (0x32B1, 0x32BF), (0xA830, 0xA835), (0xFC5E, 0xFC63),
   (0xFDFA, 0xFDFB), (0xFE70, 0xFE70), (0xFE72, 0xFE72), (0xFE74, 0xFE74), (0xFE76, 0xFE76),
   (0xFE78, 0xFE78), (0xFE7A, 0xFE7A), (0xFE7C, 0xFE7C), (0xFE7E, 0xFE7E), (0x10107, 0x10133),
   (0x10175, 0x10178), (0x1018A, 0x1018B), (0x102E1, 0x102FB), (0x10320, 0x10323),
   (0x10858, 0x1085F), (0x10879, 0x1087F), (0x108A7, 0x108AF), (0x108FB, 0x108FF),
   (0x10916, 0x1091B), (0x109BC, 0x109BD), (0x109C0, 0x109CF), (0x109D2, 0x109FF),
   (0x10A40, 0x10A48), (0x10A7D, 0x10A7E), (0x10A9D, 0x10A9F), (0x10AEB, 0x10AEF),
   (0x10B58, 0x10B5F), (0x10B78, 0x10B7F), (0x10BA9, 0x10BAF), (0x10CFA, 0x10CFF),
   (0x10E60, 0x10E7E), (0x10F1D, 0x10F26), (0x10F51, 0x10F54), (0x10FC5, 0x10FCB),
   (0x11052, 0x11065), (0x111E1, 0x111F4), (0x1173A, 0x1173B), (0x118EA, 0x118F2),
   (0x11C5A, 0x11C6C), (0x11FC0, 0x11FD4), (0x16B5B, 0x16B61), (0x16E80, 0x16E96),
   (0x1D2E0, 0x1D2F3), (0x1D360, 0x1D378), (0x1E8C7, 0x1E8CF), (0x1EC71, 0x1ECAB),
   (0x1ECAD, 0x1ECAF), (0x1ECB1, 0x1ECB4), (0x1ED01, 0x1ED2D), (0x1ED2F, 0x1ED3D),
   (0x1F100, 0x1F10C)]

def isNameChar (c : Char) : Bool := Text.isWord c && !Text.inRanges unnamedRanges c.toNat

def badNameChar? (word : List Char) : Option Char :=
  match word with
  | c :: _ => if Text.isDecimal c then some c else word.find? (!isNameChar ·)
  | [] => none

def wordToken (word : List Char) : Token.Kind :=
  match badNameChar? word with
  | some c => .broken (.badCharacter c)
  | none =>
    if keywords.contains (String.ofList word) then .sign (String.ofList word) else .name word

/-! ### All tokens -/

def openingOf? : Char → Option Char
  | ')' => some '('
  | ']' => some '['
  | '\x7d' => some '\x7b'
  | _ => none

def depthLimit : Nat := 200

def closingFault? (closing opening : Char) (line : Nat) : List (Char × Nat) → Option Complaint
  | [] => some (.unmatched closing)
  | (c, n) :: _ =>
    if c = opening then none
    else some (.mismatched closing c (if n = line then none else some n))

def signAt (c : Char) (rest : List Char) : String × List Char :=
  match longSigns.find? fun s => s.toList.isPrefixOf (c :: rest) with
  | some s => (s, (c :: rest).drop s.length)
  | none => (String.ofList [c], rest)

def endToken (brackets : List (Char × Nat)) : Token :=
  match brackets with
  | [] => ⟨.finish, 0⟩
  | (c, _) :: _ => ⟨.broken (.unclosed c), brackets.length⟩

def tokensFrom : (fuel : Nat) → (line : Nat) → (brackets : List (Char × Nat)) → List Char →
    List Token
  | 0, _, brackets, _ => [endToken brackets]
  | _, _, brackets, [] => [endToken brackets]
  | fuel + 1, line, brackets, c :: rest =>
    let token := fun kind => (⟨kind, brackets.length⟩ : Token)
    let broken := fun e => [token (.broken e)]
    if c == ' ' || c == '\t' || c == '\x0c' then tokensFrom fuel line brackets rest
    else if c == '#' then tokensFrom fuel line brackets (rest.dropWhile (· != '\n'))
    else if c == '\n' then
      (if brackets.isEmpty then [token .lineEnd] else []) ++
        tokensFrom fuel (line + 1) brackets rest
    else if c == '\\' then
      match rest with
      | ['\n'] => broken .unexpectedEnd
      | '\n' :: more => tokensFrom fuel (line + 1) brackets more
      | _ => broken .strayBackslash
    else if c.isDigit || (c == '.' && rest.head?.any Char.isDigit) then
      match if c == '.' then (fractionEnd rest).map fun (i, r) => (.number i none, r)
          else number (c :: rest) with
      | .error e => broken e
      | .ok (kind, more) => token kind :: tokensFrom fuel line brackets more
    else
      match quoteMark? (c :: rest) with
      | some (mark, quoted) =>
        match quotedToken line mark quoted with
        | .error e => broken e
        | .ok (kind, lines, more) => token kind :: tokensFrom fuel (line + lines) brackets more
      | none =>
        if goesOn c then
          match wordToken ((c :: rest).takeWhile goesOn) with
          | .broken e => broken e
          | kind => token kind :: tokensFrom fuel line brackets ((c :: rest).dropWhile goesOn)
        else if "([\x7b".toList.contains c then
          if depthLimit ≤ brackets.length then broken .tooDeep
          else token (.sign (String.ofList [c])) ::
            tokensFrom fuel line ((c, line) :: brackets) rest
        else
          match openingOf? c with
          | some opening =>
            match closingFault? c opening line brackets with
            | some e => broken e
            | none =>
              token (.sign (String.ofList [c])) :: tokensFrom fuel line brackets.tail rest
          | none =>
            if !Text.isPrintable c then broken (.badCharacter c)
            else
              let (sign, more) := signAt c rest
              token (.sign sign) :: tokensFrom fuel line brackets more

def tokens (cs : List Char) : List Token := tokensFrom (cs.length + 1) 1 [] cs

end ComponentLinks.Terminal.Handler
