/-!
# Journals

What the indexing passes say while they work. An entry has a level, and a journal is read at a
threshold below which entries are left out.

## Main definitions

* `Level`: the levels of entries and thresholds.
* `Pass`: who writes entries.
* `Journal.Entry`: one entry.
* `Journal.atThreshold`: the entries that a threshold lets through.
-/
namespace ComponentLinks

/-- How much an entry matters. -/
inductive Level where
  | debug
  | info
  | warning
  | error
  | critical
  deriving Repr, DecidableEq

def Level.rank : Level → Nat
  | debug => 10
  | info => 20
  | warning => 30
  | error => 40
  | critical => 50

def Level.name : Level → String
  | debug => "DEBUG"
  | info => "INFO"
  | warning => "WARNING"
  | error => "ERROR"
  | critical => "CRITICAL"

def Level.passes (threshold level : Level) : Bool := threshold.rank ≤ level.rank

/-- The part of the program that writes an entry: the reading of the log, the search, or the making
of an index from both. -/
inductive Pass where
  | buildGraph
  | references
  | manager
  deriving Repr, DecidableEq

def Pass.name : Pass → String
  | buildGraph => "build_graph"
  | references => "references"
  | manager => "manager"

namespace Journal

/-- One entry of a journal. -/
structure Entry where
  pass : Pass
  level : Level
  message : String
  deriving Repr, DecidableEq

def atThreshold (threshold : Level) (entries : List Entry) : List Entry :=
  entries.filter fun e => threshold.passes e.level

@[simp] theorem atThreshold_append (threshold : Level) (xs ys : List Entry) :
    atThreshold threshold (xs ++ ys) = atThreshold threshold xs ++ atThreshold threshold ys := by
  simp [atThreshold]

end Journal

end ComponentLinks
