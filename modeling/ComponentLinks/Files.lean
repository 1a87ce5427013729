import ComponentLinks.Text.Lines
import ComponentLinks.Text.Quoted
import ComponentLinks.Text.Utf8

/-!
# Files

The files that a run of the program may read, and the errors of the system in reading them or in
starting a program. Their paths hold no NUL: a path with one is refused before the system is asked
for the file, and what is said here of such a path, that there is no file, is not what happens then.

## Main definitions

* `SystemError`: an error of the system.
* `Files`: files by path, each with its bytes or the error of opening it.
* `Files.bytes`, `Files.text`: reading a file.
-/
namespace ComponentLinks

/-- What the system refuses to do. -/
inductive SystemError.Cause where
  | notFound
  | badFormat
  | permissionDenied
  | isDirectory
  | tooManyOpenFiles
  deriving Repr, DecidableEq

namespace SystemError.Cause

def number : Cause → Nat
  | notFound => 2
  | badFormat => 8
  | permissionDenied => 13
  | isDirectory => 21
  | tooManyOpenFiles => 24

def toString : Cause → String
  | notFound => "No such file or directory"
  | badFormat => "Exec format error"
  | permissionDenied => "Permission denied"
  | isDirectory => "Is a directory"
  | tooManyOpenFiles => "Too many open files"

end SystemError.Cause

/-- An error of the system, with the file that it is about if it is about one. -/
structure SystemError where
  cause : SystemError.Cause
  file : Option String
  deriving Repr, DecidableEq

def SystemError.message (e : SystemError) : String :=
  s!"[Errno {e.cause.number}] {e.cause.toString}" ++
    match e.file with
    | some file => ": " ++ Text.quoted file
    | none => ""

/-- The files that can be read: each with its path and its bytes, or what the system says when it
is opened. -/
structure Files where
  entries : List (String × Except SystemError.Cause (List UInt8))

namespace Files

def none : Files := ⟨[]⟩

/-- The bytes of the file at a path. -/
def bytes (files : Files) (path : String) : Except SystemError (List UInt8) :=
  match files.entries.find? fun entry => entry.1 = path with
  | some (_, .ok content) => .ok content
  | some (_, .error cause) => .error ⟨cause, some path⟩
  | Option.none => .error ⟨.notFound, some path⟩

def text (files : Files) (path : String) : Except SystemError (List Char) :=
  (files.bytes path).map fun content => Text.unifyNewlines (Utf8.decodeReplacing content)

end Files

end ComponentLinks
