import ComponentLinks.Diagnostic
import ComponentLinks.Journal

/-!
# Results of a pass

An indexing pass ends with an outcome, with a table if it succeeded, and with what it wrote into
the journal.

## Main definitions

* `PassResult`: the result of a pass that makes a table.
-/
namespace ComponentLinks

/-- What a pass that makes a table of type `τ` gives: the table only if it succeeded, and what it
wrote into the journal. -/
structure PassResult (τ : Type) where
  outcome : Outcome
  table : Option τ
  journal : List Journal.Entry

end ComponentLinks
