import ComponentLinks.Index
import ComponentLinks.Settings
import ComponentLinks.Url

/-!
# Links for an editor

What an editor shows for the component URLs of a text: links to manifests in a document, links in
a line of terminal output, and the references to the component of a manifest document.

## Main definitions

* `DocumentLink`, `LinkIndex.documentLinks`: the links of a document.
* `TerminalLink`, `LinkIndex.terminalLinks`: the links of a line of terminal output.
* `LinkIndex.documentReferences`: the references to the component of a document.
-/
namespace ComponentLinks

/-- A component URL of a document, linked to its manifest. -/
structure DocumentLink where
  range : Range
  target : Path
  deriving Repr, DecidableEq

/-- A component URL of a line of terminal output, by the number of characters before it and its
length, with its manifest if that is known. -/
structure TerminalLink where
  start : Nat
  length : Nat
  target : Option Path
  deriving Repr, DecidableEq

def TerminalLink.tooltip (l : TerminalLink) : String :=
  if l.target.isSome then "Open component manifest" else "Manifest not found!"

def manifestExtensions : List String := [".cml", ".cmx"]

def untitledManifestLanguage : String := "untitled-fuchsia-manifest"

namespace LinkIndex

def documentLink? (x : LinkIndex) (lines : LineIndex) (u : ComponentUrl) : Option DocumentLink :=
  (x.resolve u.identifier).map fun target =>
    ⟨⟨lines.positionAt u.start, lines.positionAt u.stop⟩, target⟩

/-- The links of a document, one for each URL whose manifest is known. -/
def documentLinks (x : LinkIndex) (text : List Char) : List DocumentLink :=
  (ComponentUrl.findAll text).filterMap (x.documentLink? (.ofText text))

/-- The link of a URL of a line of terminal output, if its manifest is known or unresolved links
are shown. -/
def terminalLink? (x : LinkIndex) (showsUnresolved : Bool) (u : ComponentUrl) :
    Option TerminalLink :=
  let target := x.resolve u.identifier
  if target.isSome || showsUnresolved then some ⟨u.start, u.length, target⟩ else none

/-- The links of a line of terminal output. -/
def terminalLinks (x : LinkIndex) (settings : Settings) (line : List Char) : List TerminalLink :=
  (ComponentUrl.findAll line).filterMap (x.terminalLink? settings.showsUnresolved)

/-- Whether a document is a manifest: by its language, or by the extension of its file. -/
def isManifestDocument (document : Path) (language : Option String) : Bool :=
  language = some untitledManifestLanguage || manifestExtensions.contains document.extension

/-- The references to the component that a document defines, if the document is a manifest. -/
def documentReferences (x : LinkIndex) (document : Path) (language : Option String) :
    Option (List Reference) :=
  if isManifestDocument document language then x.referencesTo document else none

end LinkIndex

end ComponentLinks
