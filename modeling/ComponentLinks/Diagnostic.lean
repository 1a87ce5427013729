/-!
# Diagnostics

The problems that an indexing pass reports, and the outcome of a pass.

## Main definitions

* `Diagnostic.Kind`: the kinds of problems.
* `Diagnostic`: one reported problem.
* `Outcome`: whether a pass succeeded, and what it reports.
-/
namespace ComponentLinks

/-- The kinds of problems that a pass reports. -/
inductive Diagnostic.Kind where
  | sourceUnavailable
  | formatMismatch
  | searchUnavailable
  | searchEmpty
  | unresolvedAssociation
  | duplicateAssociation
  deriving Repr, DecidableEq

namespace Diagnostic.Kind

def name : Kind → String
  | sourceUnavailable => "source_unavailable"
  | formatMismatch => "format_mismatch"
  | searchUnavailable => "search_unavailable"
  | searchEmpty => "search_empty"
  | unresolvedAssociation => "unresolved_association"
  | duplicateAssociation => "duplicate_association"

def all : List Kind :=
  [sourceUnavailable, formatMismatch, searchUnavailable, searchEmpty, unresolvedAssociation,
   duplicateAssociation]

def ofName? (s : String) : Option Kind := all.find? fun k => k.name = s

theorem mem_all (k : Kind) : k ∈ all := by
  cases k <;> decide

/-- Every kind is found under its name. -/
@[simp] theorem ofName?_name (k : Kind) : ofName? k.name = some k := by
  cases k <;> decide

end Diagnostic.Kind

/-- One problem reported by a pass. The pass fails because of a fatal one. -/
structure Diagnostic where
  kind : Diagnostic.Kind
  message : String
  fatal : Bool
  deriving Repr, DecidableEq

/-- The written form of a diagnostic: severity and kind in brackets, then the message. -/
def Diagnostic.toString (d : Diagnostic) : String :=
  "[" ++ (if d.fatal then "error" else "warning") ++ ":" ++ d.kind.name ++ "] " ++ d.message

/-- Whether a pass succeeded, and the problems that it reports, in order. -/
structure Outcome where
  success : Bool
  diagnostics : List Diagnostic
  deriving Repr, DecidableEq

def Outcome.errors (o : Outcome) : List Diagnostic := o.diagnostics.filter (·.fatal)

end ComponentLinks
