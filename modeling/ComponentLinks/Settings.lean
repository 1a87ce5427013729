/-!
# Settings

What a user may choose about building and querying an index.

## Main definitions

* `Settings`: the choices with their defaults.
-/
namespace ComponentLinks

/-- The choices for building and querying an index. The build directory is relative to the
repository, and the log stands in it. -/
structure Settings where
  normalizesSeparators : Bool := false
  usesHeuristics : Bool := false
  showsUnresolved : Bool := false
  buildDir : String := "out/default"
  logFile : String := "toolchain.ninja"
  deriving Repr, DecidableEq

instance : Inhabited Settings := ⟨{}⟩

end ComponentLinks
