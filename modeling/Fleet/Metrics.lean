import Fleet.Dict

/-! # Counters

What the service counts, and the text in which counters are read: for each counter a line with its
purpose, one with its type, and its samples. -/

namespace Fleet

/-- Something that is counted. -/
inductive Event where
  | cacheHit
  | cacheMiss
  | cacheEviction
  /-- A handshake ended. -/
  | handshake (outcome : String)
  /-- A used bootstrap token could not be marked as used. -/
  | invalidationFailure
  deriving DecidableEq, Repr

/-- How often each event happened. -/
structure Counters where
  hits : Nat := 0
  misses : Nat := 0
  evictions : Nat := 0
  /-- Handshakes by outcome. -/
  handshakes : Dict Nat := .empty
  invalidationFailures : Nat := 0
  deriving DecidableEq

namespace Counters

/-- Counts an event. -/
def count (c : Counters) : Event → Counters
  | .cacheHit => { c with hits := c.hits + 1 }
  | .cacheMiss => { c with misses := c.misses + 1 }
  | .cacheEviction => { c with evictions := c.evictions + 1 }
  | .handshake outcome =>
    { c with handshakes := c.handshakes.insert outcome ((c.handshakes.get? outcome).getD 0 + 1) }
  | .invalidationFailure => { c with invalidationFailures := c.invalidationFailures + 1 }

/-- A counter as it is read. -/
structure Family where
  name : String
  purpose : String
  /-- The samples: labels and value. -/
  samples : List (String × Nat)

/-- What the names of all counters start with. -/
def nameStart : String := "lieutenant_api_"

/-- The counters in the order of their names. -/
def families (c : Counters) : List Family := [
  ⟨"credential_cache_evictions_total",
    "Total number of cached clients evicted to stay within capacity", [("", c.evictions)]⟩,
  ⟨"credential_cache_hits_total",
    "Total number of requests served by a cached client", [("", c.hits)]⟩,
  ⟨"credential_cache_misses_total",
    "Total number of requests that required building a client", [("", c.misses)]⟩,
  ⟨"install_handshakes_total",
    "Total number of install handshakes by outcome",
    c.handshakes.entries.map (fun e => ("\x7boutcome=\"" ++ e.1 ++ "\"\x7d", e.2))⟩,
  ⟨"token_invalidation_failures_total",
    "Total number of bootstrap tokens that could not be marked as used",
    [("", c.invalidationFailures)]⟩]

/-- All samples by name and labels. -/
def samples (c : Counters) : List (String × Nat) :=
  c.families.flatMap (fun f => f.samples.map (fun s => (f.name ++ s.1, s.2)))

/-- The lines of a counter. -/
def Family.lines (f : Family) : List String :=
  let name := nameStart ++ f.name
  ["# HELP " ++ name ++ " " ++ f.purpose, "# TYPE " ++ name ++ " counter"] ++
    f.samples.map (fun s => name ++ s.1 ++ " " ++ toString s.2)

/-- The text in which the counters are read. -/
def text (c : Counters) : String :=
  String.join ((c.families.flatMap Family.lines).map (· ++ "\n"))

end Counters
end Fleet
