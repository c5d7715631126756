import ServiceFlow.Composition.Compiled
import ServiceFlow.Log

/-!
# The last compiled composition

The requests of one application usually carry the same composition. A service keeps the last one it
has compiled and compiles again only when another text shows up.
-/

namespace ServiceFlow

/-- The last composition compiled for a service, and the number of compilations so far, which starts again
when it does not fit. -/
structure CompositionCache where
  owner : Name
  current : Option Composition
  compilations : UInt64

namespace CompositionCache

/-- A cache that holds nothing yet. -/
def new (owner : Name) : CompositionCache := ⟨owner, none, 0⟩

/-- The cache holds the compiled form of this text. -/
def holds (cache : CompositionCache) (text : String) : Bool :=
  cache.current.any fun c => c.text == text

/-- Compiles a text and keeps the result; a text that does not compile changes nothing. -/
def compile (cache : CompositionCache) (text : String) :
    CompositionCache × List LogEvent × Except CompositionError Composition :=
  match Composition.compile text cache.owner with
  | .error e => (cache, [.compositionRejected cache.owner.text e.message], .error e)
  | .ok c =>
    let event := .compositionCompiled cache.owner.text text c.instructions.length c.statements.length
    (⟨cache.owner, some c, cache.compilations + 1⟩, [event], .ok c)

/-- The compiled form of a text, compiled only if the cache does not hold it. -/
def resolve (cache : CompositionCache) (text : String) :
    CompositionCache × List LogEvent × Except CompositionError Composition :=
  match cache.current with
  | some c => if c.text = text then (cache, [], .ok c) else cache.compile text
  | none => cache.compile text

end CompositionCache

end ServiceFlow
