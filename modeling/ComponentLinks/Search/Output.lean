import ComponentLinks.Files
import ComponentLinks.PassResult
import ComponentLinks.Pattern.Source
import ComponentLinks.Search.Expression
import ComponentLinks.Search.Hit
import ComponentLinks.Settings
import ComponentLinks.Table.References
import ComponentLinks.Url

/-!
# The output of a search

A repository is searched once, and every line of the search's output is read again for component
URLs, which gives their exact columns. Lines that report no hit are skipped.

## Main definitions

* `Search.Reading`: a line of output with the URLs found in it.
* `Search.readLines`: the readings of an output.
* `Search.parse`: the table of references of an output, with the report and the journal.
* `Search.Run`, `Search.finish`: what became of the search process.
* `Search.scan`: running the search and reading its output.
-/
namespace ComponentLinks.Search

/-- A line of output with what was read in it. -/
structure Reading where
  line : List Char
  hit : Option Hit
  deriving Repr, DecidableEq

namespace Reading

def urls (r : Reading) : List ComponentUrl :=
  match r.hit with
  | some h => ComponentUrl.findAll h.text
  | none => []

def reference (base : Path) (h : Hit) (u : ComponentUrl) : Reference where
  source := base.join (.ofString (String.ofList h.path))
  line := h.line
  column := u.start
  length := u.length

def found (base : Path) (r : Reading) : List (ComponentUrl × Reference) :=
  match r.hit with
  | some h => (ComponentUrl.findAll h.text).map fun u => (u, reference base h u)
  | none => []

end Reading

/-- The readings of the lines of an output; empty lines say nothing. -/
def readLines (output : List Char) : Except Text.NumeralFault (List Reading) :=
  ((Text.boundaryLines output).filter (!·.isEmpty)).mapM fun line =>
    (Hit.ofLine? line).map fun hit => ⟨line, hit⟩

def foundIn (base : Path) (rs : List Reading) : List (ComponentUrl × Reference) :=
  rs.flatMap (Reading.found base)

def referenceTable (normalizes : Bool) (base : Path) (rs : List Reading) : ReferenceTable :=
  .ofList normalizes ((foundIn base rs).map fun x => (x.1.identifier, x.2))

def commandDescription (base : Path) : String :=
  s!"`{commandLine}`\n\nfrom the '{base.toString}' directory."

def entry (level : Level) (message : String) : Journal.Entry := ⟨.references, level, message⟩

def mismatchMessage (line : List Char) : String :=
  "RegEx failed to match the first line returned from `git grep`.\n\n" ++
    s!"  Line: '{String.ofList line}'\n" ++
    s!"  RegEx: {ComponentUrl.pattern.source ComponentUrl.Field.name}"

def emptyMessage (base : Path) : String :=
  "No component URLs ('fuchsia-pkg://...cm[x]') were found in the repository, by running the " ++
    s!"command:\n\n  {commandDescription base}"

/-- The report on the first line: it should hold a URL. -/
def firstLineReports : List Reading → List Diagnostic
  | [] => []
  | r :: _ =>
    if r.urls.isEmpty then [⟨.formatMismatch, mismatchMessage r.line, false⟩] else []

/-- The outcome of reading an output: it fails if there is no URL in it. -/
def outcome (base : Path) (rs : List Reading) : Outcome :=
  if (foundIn base rs).isEmpty then
    ⟨false, firstLineReports rs ++ [⟨.searchEmpty, emptyMessage base, true⟩]⟩
  else ⟨true, firstLineReports rs⟩

def exampleEntry (x : ComponentUrl × Reference) : Journal.Entry := entry .debug
  (s!"Getting references to manifests. For example, '{x.1.url}' is referenced by " ++
    s!"'{x.2.toString}'")

/-- The entries for one line: a skipped line, or the first URL if none has been found before. -/
def lineEntries (base : Path) (anyBefore : Bool) (r : Reading) : List Journal.Entry :=
  match r.hit with
  | none => [entry .debug s!"Skipping malformed search result line: '{String.ofList r.line}'"]
  | some _ => if anyBefore then [] else (r.found base).head?.toList.map exampleEntry

def laterEntries (base : Path) (anyBefore : Bool) : List Reading → List Journal.Entry
  | [] => []
  | r :: rs =>
    lineEntries base anyBefore r ++ laterEntries base (anyBefore || !r.urls.isEmpty) rs

/-- The entries for all lines; the report on the first line follows the entries for it. -/
def linesJournal (base : Path) : List Reading → List Journal.Entry
  | [] => []
  | r :: rs =>
    lineEntries base false r ++ (firstLineReports [r]).map (fun d => entry .warning d.message) ++
      laterEntries base (!r.urls.isEmpty) rs

def closingEntry (base : Path) (rs : List Reading) : Journal.Entry :=
  let count := (foundIn base rs).length
  if count = 0 then entry .error (emptyMessage base)
  else entry .info s!"The component URL references are loaded ({count} references)."

/-- What reading an output gives. -/
def parse (settings : Settings) (base : Path) (output : List Char) :
    Except Text.NumeralFault (PassResult ReferenceTable) :=
  (readLines output).map fun rs =>
    let o := outcome base rs
    { outcome := o
      table := if o.success then some (referenceTable settings.normalizesSeparators base rs)
        else none
      journal := linesJournal base rs ++ [closingEntry base rs] }

/-- What became of the search process. -/
inductive Run where
  | ended (code : Int) (output errors : List UInt8)
  | refused (e : SystemError)

/-- The texts that a search process wrote, with its code. -/
structure Ended where
  code : Int
  output : List Char
  errors : List Char
  deriving Repr, DecidableEq

/-- The texts of a search that ended well, or the report that it did not. -/
def finish : Run → Except Diagnostic Ended
  | .refused e =>
    .error ⟨.searchUnavailable, s!"Error executing the `git grep` command: '{e.message}'", true⟩
  | .ended code output errors =>
    let texts : Ended := ⟨code, Utf8.decodeReplacing output, Utf8.decodeReplacing errors⟩
    if code = 0 then .ok texts
    else .error ⟨.searchUnavailable,
      s!"Error ({code}) executing the `git grep` command: " ++
        s!"'{String.ofList (Text.trim texts.errors)}'", true⟩

def runJournal (base : Path) (run : Run) : List Journal.Entry :=
  entry .info
    ("Searching for component URLs ('fuchsia-pkg://...cm[x]') referenced from any text document " ++
      s!"in the repository, by running the command:\n\n  {commandDescription base}") ::
    match finish run with
    | .ok _ => []
    | .error d => [entry .error d.message]

/-- What running the search and reading its output gives. -/
def scan (settings : Settings) (base : Path) (run : Run) :
    Except Text.NumeralFault (PassResult ReferenceTable) :=
  match finish run with
  | .error d => .ok ⟨⟨false, [d]⟩, none, runJournal base run⟩
  | .ok texts =>
    (parse settings base texts.output).map fun r =>
      { r with journal := runJournal base run ++ r.journal }

end ComponentLinks.Search
