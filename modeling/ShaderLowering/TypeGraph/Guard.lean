/-!
# Guards

A node of the type graph may be asked for its type while it is already answering
that question further up. How often it is answering is counted by a guard, which
lets in so many and no more. Whoever has got in takes its leave again, whichever
way its work ends.
-/

namespace ShaderLowering

/-- The number of productions a node can be in at once. -/
def maxHeld : Nat := 5

/-- How many productions of one node are under way. -/
structure Guard where
  /-- Their number. -/
  held : Nat := 0
  deriving DecidableEq, Repr

namespace Guard

/-- The guard with one more production under way, if there is room for it. -/
def acquire? (g : Guard) : Option Guard :=
  if g.held < maxHeld then some ⟨g.held + 1⟩ else none

/-- The guard with one production ended, if one was under way. -/
def release? (g : Guard) : Option Guard :=
  match g.held with
  | 0 => none
  | held + 1 => some ⟨held⟩

/-- The production that got in last runs inside another one of the same node. -/
def isNested (g : Guard) : Bool :=
  1 < g.held

end Guard

end ShaderLowering
