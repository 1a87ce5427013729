import ComponentLinks.Text.Numeral
import ComponentLinks.Text.Printable

/-!
# What may be wrong with a call

The complaints about the written form of a call, and what is said about each.

## Main definitions

* `Terminal.Handler.EscapeFault`: what may be wrong with an escape in a quoted text.
* `Terminal.Handler.FilledFault`: what may be wrong with a text that has parts to be filled in.
* `Terminal.Handler.Complaint`: what may be wrong with a call.
-/
namespace ComponentLinks.Terminal.Handler

/-! ## Quoted texts -/

inductive EscapeFault where
  | truncated (letter : Char) (digits : Nat)
  | noCharacter
  | noName
  | unknownName
  deriving Repr, DecidableEq

def EscapeFault.message : EscapeFault → String
  | truncated letter digits =>
    s!"truncated \\{letter}" ++ String.ofList (List.replicate digits 'X') ++ " escape"
  | noCharacter => "illegal Unicode character"
  | noName => "malformed \\N character escape"
  | unknownName => "unknown Unicode character name"

inductive FilledFault where
  | tooDeep
  | backslash
  | comment
  | unterminated
  | tooManyBrackets
  | unmatched (bracket : Char)
  | mismatched (closing opening : Char)
  | unfinished
  | badConversion
  | empty (sign : Option Char)
  | loneBracket
  deriving Repr, DecidableEq

def FilledFault.message : FilledFault → String
  | tooDeep => "f-string: expressions nested too deeply"
  | backslash => "f-string expression part cannot include a backslash"
  | comment => "f-string expression part cannot include '#'"
  | unterminated => "f-string: unterminated string"
  | tooManyBrackets => "f-string: too many nested parenthesis"
  | unmatched bracket => s!"f-string: unmatched '{bracket}'"
  | mismatched closing opening =>
    s!"f-string: closing parenthesis '{closing}' does not match opening parenthesis '{opening}'"
  | unfinished => "f-string: expecting '\x7d'"
  | badConversion => "f-string: invalid conversion character: expected 's', 'r', or 'a'"
  | empty (some sign) => s!"f-string: expression required before '{sign}'"
  | empty none => "f-string: empty expression not allowed"
  | loneBracket => "f-string: single '\x7d' is not allowed"

/-! ## Complaints -/

inductive Complaint where
  | badNumber (kind : String)
  | badDigit (digit : Char) (kind : String)
  | leadingZero
  | longNumber (digits : Nat)
  | unterminated (triple : Bool) (line : Nat)
  | badCharacter (c : Char)
  | unmatched (closing : Char)
  | mismatched (closing opening : Char) (line : Option Nat)
  | tooDeep
  | unclosed (opening : Char)
  | strayBackslash
  | unexpectedEnd
  | misfit
  | missingComma
  | missingElse
  | missingBrackets (command : List Char)
  | equalsSign
  | badTarget (what : String)
  | badTargetHere (what : String)
  | badNamedTarget (what : String)
  | badKeyword
  | lateArgument (unpacked : Bool)
  | lateUnpacking
  | bareGenerator
  | starred (double : Bool)
  | starredEntry
  | missingEntry
  | missingColon
  | unpackedComprehension (dictionary : Bool)
  | bareTargets
  | mixedTexts
  | wideBytes
  | badEscape (start stop : Nat) (f : EscapeFault)
  | badByteEscape (position : Nat)
  | filled (f : FilledFault)
  | part (c : Complaint)
  deriving Repr, DecidableEq

def codeText (c : Char) : String :=
  let digits := (Nat.toDigits 16 c.toNat).map Char.toUpper
  String.ofList (List.replicate (4 - digits.length) '0' ++ digits)

def Complaint.message : Complaint → String
  | badNumber kind => s!"invalid {kind} literal"
  | badDigit digit kind => s!"invalid digit '{digit}' in {kind} literal"
  | leadingZero =>
    "leading zeros in decimal integer literals are not permitted; " ++
      "use an 0o prefix for octal integers"
  | longNumber digits =>
    (Text.NumeralFault.tooLong digits).message ++
      " - Consider hexadecimal for huge integer literals to avoid decimal conversion limits."
  | unterminated triple line =>
    "unterminated " ++ (if triple then "triple-quoted " else "") ++
      s!"string literal (detected at line {line})"
  | badCharacter c =>
    if Text.isPrintable c then s!"invalid character '{c}' (U+{codeText c})"
    else s!"invalid non-printable character U+{codeText c}"
  | unmatched closing => s!"unmatched '{closing}'"
  | mismatched closing opening line =>
    s!"closing parenthesis '{closing}' does not match opening parenthesis '{opening}'" ++
      (match line with | some n => s!" on line {n}" | none => "")
  | tooDeep => "too many nested parentheses"
  | unclosed opening => s!"'{opening}' was never closed"
  | strayBackslash => "unexpected character after line continuation character"
  | unexpectedEnd => "unexpected EOF while parsing"
  | misfit => "invalid syntax"
  | missingComma => "invalid syntax. Perhaps you forgot a comma?"
  | missingElse => "expected 'else' after 'if' expression"
  | missingBrackets command =>
    let name := String.ofList command
    s!"Missing parentheses in call to '{name}'. Did you mean {name}(...)?"
  | equalsSign => "invalid syntax. Maybe you meant '==' or ':=' instead of '='?"
  | badTarget what => s!"cannot assign to {what}"
  | badTargetHere what =>
    s!"cannot assign to {what} here. Maybe you meant '==' instead of '='?"
  | badNamedTarget what => s!"cannot use assignment expressions with {what}"
  | badKeyword => "expression cannot contain assignment, perhaps you meant \"==\"?"
  | lateArgument unpacked =>
    "positional argument follows keyword argument" ++ (if unpacked then " unpacking" else "")
  | lateUnpacking => "iterable argument unpacking follows keyword argument unpacking"
  | bareGenerator => "Generator expression must be parenthesized"
  | starred double =>
    "cannot use " ++ (if double then "double " else "") ++ "starred expression here"
  | starredEntry => "cannot use a starred expression in a dictionary value"
  | missingEntry => "expression expected after dictionary key and ':'"
  | missingColon => "':' expected after dictionary key"
  | unpackedComprehension dictionary =>
    (if dictionary then "dict unpacking cannot be used in dict comprehension"
      else "iterable unpacking cannot be used in comprehension")
  | bareTargets => "did you forget parentheses around the comprehension target?"
  | mixedTexts => "cannot mix bytes and nonbytes literals"
  | wideBytes => "bytes can only contain ASCII literal characters"
  | badEscape start stop f =>
    s!"(unicode error) 'unicodeescape' codec can't decode bytes in position {start}-{stop - 1}: " ++
      f.message
  | badByteEscape position => s!"(value error) invalid \\x escape at position {position}"
  | filled f => f.message
  | part c => "f-string: " ++ c.message

def Complaint.isLexical : Complaint → Bool
  | badNumber _ | badDigit _ _ | leadingZero | unterminated _ _ | badCharacter _ => true
  | unmatched _ | mismatched _ _ _ | tooDeep => true
  | _ => false

end ComponentLinks.Terminal.Handler
