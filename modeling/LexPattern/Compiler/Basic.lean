import LexPattern.Compiler.Cache
import LexPattern.Compiler.Pipeline

namespace LexPattern

@[ext]
structure Request where
  file : String
  pattern : ByteArray

instance : DecidableEq Request := fun a b =>
  decidable_of_iff (a.file = b.file ∧ a.pattern.data = b.pattern.data) (by
    obtain ⟨file,⟨data⟩⟩ := a
    simp [Request.ext_iff,ByteArray.ext_iff])

structure Counters where
  hits : Nat := 0
  misses : Nat := 0
  ok : Nat := 0
  malformed : Nat := 0
  unsupported : Nat := 0
  unavailable : Nat := 0
  invalid : Nat := 0
  tooLarge : Nat := 0
deriving DecidableEq, Repr

namespace Counters

def count (c : Counters) : Outcome → Nat
  | .ok => c.ok
  | .malformed => c.malformed
  | .unsupported => c.unsupported
  | .unavailable => c.unavailable
  | .invalid => c.invalid
  | .tooLarge => c.tooLarge

def add (c : Counters) : Outcome → Counters
  | .ok => {c with ok := c.ok + 1}
  | .malformed => {c with malformed := c.malformed + 1}
  | .unsupported => {c with unsupported := c.unsupported + 1}
  | .unavailable => {c with unavailable := c.unavailable + 1}
  | .invalid => {c with invalid := c.invalid + 1}
  | .tooLarge => {c with tooLarge := c.tooLarge + 1}

def hit (c : Counters) : Counters := {c with hits := c.hits + 1}

def miss (c : Counters) (o : Outcome) : Counters := {c.add o with misses := c.misses + 1}

end Counters

structure Compiler where
  settings : Settings
  cache : Cache Request CompileResult
  counters : Counters := {}

namespace Compiler

def defaultCacheSize : Nat := 256

def new (settings : Settings) (cacheSize : Int) : Compiler :=
  {settings,cache := .new (inForce defaultCacheSize cacheSize)}

def remembered (c : Compiler) : Nat := c.cache.size

-- Answer from the cache, or compile and remember. Either way the request becomes the most recent.
def compile (c : Compiler) (r : Request) : CompileResult × Compiler :=
  match c.cache.get? r with
  | some (result,cache) => (result,{c with cache,counters := c.counters.hit})
  | none =>
    let result := LexPattern.compile c.settings r.file r.pattern
    (result,{ c with
      cache := c.cache.put r result
      counters := c.counters.miss (.ofResult result) })

end Compiler

end LexPattern
