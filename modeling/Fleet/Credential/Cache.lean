/-! # The cache of clients

A bounded map from tokens to clients, the most recently used entry first.  An entry that is found
moves to the front; a new one pushes out the last when the cache is full. -/

namespace Fleet.Credential

/-- A bounded map from tokens. -/
structure Cache (α : Type) where
  /-- How many entries it may hold. -/
  capacity : Nat
  /-- The entries, most recently used first. -/
  entries : List (String × α) := []
  deriving DecidableEq, Repr

/-- The capacity of a cache for which none is asked. -/
def defaultCapacity : Nat := 128

namespace Cache

variable {α : Type}

/-- An empty cache; capacity zero stands for the default. -/
def ofCapacity (capacity : Nat) : Cache α := ⟨if capacity = 0 then defaultCapacity else capacity, []⟩

/-- The number of entries. -/
def size (c : Cache α) : Nat := c.entries.length

/-- The client of a token. -/
def peek? (c : Cache α) (token : String) : Option α :=
  (c.entries.find? (fun e => e.1 == token)).map Prod.snd

/-- Whether a token has a client. -/
def contains (c : Cache α) (token : String) : Bool := (c.peek? token).isSome

/-- The entries of other tokens. -/
def without (c : Cache α) (token : String) : List (String × α) :=
  c.entries.filter (fun e => e.1 != token)

/-- The client of a token, whose entry becomes the most recently used. -/
def lookup (c : Cache α) (token : String) : Option α × Cache α :=
  match c.peek? token with
  | some a => (some a, { c with entries := (token, a) :: c.without token })
  | none => (none, c)

/-- Sets the client of a token, and whether that pushed out another entry. -/
def insert (c : Cache α) (token : String) (a : α) : Bool × Cache α :=
  if c.contains token then (false, { c with entries := (token, a) :: c.without token })
  else if c.size < c.capacity then (false, { c with entries := (token, a) :: c.entries })
  else (true, { c with entries := (token, a) :: c.entries.dropLast })

/-- What a cache looks like in a log. -/
def describe (c : Cache α) : String :=
  "CredentialCache \x7b len: " ++ toString c.size ++ ", capacity: " ++ toString c.capacity ++ " \x7d"

end Cache
end Fleet.Credential
