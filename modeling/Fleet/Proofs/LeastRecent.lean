import Fleet.Proofs.Credential.Recency
import Fleet.Proofs.Service.Cached

/-! # The cache holds the clients used last

Whatever is asked of the cache, it answers as the uses before tell: it holds the tokens used last, as
many as it may, each with the client that was set last (`cache_holds_last_used`).  One demand is met
at a time (`meet_follows`); what holds of many follows by induction on them (`mirrors_meetAll`,
`counted_meetAll`). -/

namespace Fleet

open Credential

namespace Service

/-- What is asked of the cache. -/
inductive Demand where
  | lookup (token : String)
  | insert (token : String) (client : Client)
  | contains (token : String)
  /-- The client of a token that has one, else a new one; what it comes to to build that is given. -/
  | provide (token : String) (built : Except ClientError Client)
  deriving DecidableEq

namespace Demand

/-- What is answered. -/
def Answer : Demand → Type
  | lookup _ => Option Client
  | insert _ _ => Unit
  | contains _ => Bool
  | provide _ _ => Except ClientError Client

/-- Whether a token is looked up. -/
def looksUp : Demand → Bool
  | lookup _ | provide _ _ => true
  | insert _ _ | contains _ => false

variable (size : Nat) (uses : List (Use Client))

/-- The use that a demand comes to, after others. -/
def use? : Demand → Option (Use Client)
  | lookup token => if token ∈ Use.recent size uses then some (.hit token) else none
  | insert token client => some (.insert token client)
  | contains _ => none
  | provide token built =>
    if token ∈ Use.recent size uses then some (.hit token) else built.toOption.map (.insert token)

/-- What is answered, as the uses before tell. -/
def answer : (d : Demand) → d.Answer
  | lookup token => if token ∈ Use.recent size uses then Use.latest? uses token else none
  | insert _ _ => ()
  | contains token => decide (token ∈ Use.recent size uses)
  | provide token built =>
    if token ∈ Use.recent size uses then (Use.latest? uses token).elim built .ok else built

/-- The uses that some demands add, the last of them first. -/
def history (ds : List Demand) : List (Use Client) :=
  ds.foldl (fun uses d => (d.use? size uses).toList ++ uses) uses

end Demand

namespace World

/-- Answers an action where what it comes to to build a client is given. -/
def answerBuilding (built : Except ClientError Client) (w : World) : (a : Action) → a.Answer × World
  | .build _ => (built, w)
  | a => w.answer a

/-- What work answers, and the world that it leaves, where it is given what it comes to to build a
client. -/
def runBuilding {α : Type} (built : Except ClientError Client) (w : World) (p : Work α) : α × World :=
  (p.run (fun a => modifyGet (fun w : World => w.answerBuilding built a))).run w

/-- The client of a token, where it is given what it comes to to build one. -/
def provide (w : World) (token : String) (built : Except ClientError Client) :
    Except ClientError Client × World := w.runBuilding built (Work.clientFor token)

/-- Meets a demand. -/
def meet (w : World) : (d : Demand) → d.Answer × World
  | .lookup token => w.run (Work.lookup token)
  | .insert token client => w.run (Work.remember token client)
  | .contains token => (w.cache.contains token, w)
  | .provide token built => w.provide token built

/-- Meets one demand after another. -/
def meetAll (w : World) (ds : List Demand) : World := ds.foldl (fun w d => (w.meet d).2) w

/-- The tokens that are no longer held, one demand after another. -/
def lostOver (w : World) : List Demand → List String
  | [] => []
  | d :: ds => w.cache.lost (w.meet d).2.cache ++ (w.meet d).2.lostOver ds

/-- What follows for a world from a use, or from none, and from whether a token was looked up. -/
structure Follows (w : World) (uses : List (Use Client)) (used : Option (Use Client))
    (looksUp : Bool) (w' : World) : Prop where
  capacity : w'.cache.capacity = w.cache.capacity
  mirrors : w'.cache.Mirrors (used.toList ++ uses)
  /-- Without a use nothing changes, but that a miss is counted. -/
  idle : used = none → w' = if looksUp then w.count .cacheMiss else w
  /-- A new token takes the place of the one used longest ago, when the cache is full. -/
  replaced : ∀ token client, used = some (.insert token client) →
    token ∉ Use.recent w.cache.capacity uses →
    (Use.recent w.cache.capacity uses).length = w.cache.capacity →
    ∃ kept last, w.cache.entries = kept ++ [last] ∧ w'.cache.entries = (token, client) :: kept
  lookups : w'.counters.hits + w'.counters.misses =
    w.counters.hits + w.counters.misses + looksUp.toNat
  evictions : w'.counters.evictions = w.counters.evictions + (w.cache.lost w'.cache).length

/-! ### One demand -/

section Meet

variable {w : World} {uses : List (Use Client)} {token : String} {client : Client}

theorem lookup_of_peek? (h : w.cache.peek? token = some client) : w.lookup token =
    (some client, World.count { w with
      cache := { w.cache with entries := (token, client) :: w.cache.without token } }
      .cacheHit) := by
  unfold lookup
  rw [Cache.lookup_of_peek? h]
  rfl

theorem lookup_of_not_contains (h : ¬ w.cache.contains token = true) :
    w.lookup token = (none, w.count .cacheMiss) := by
  unfold lookup
  rw [Cache.lookup_of_not_contains h]
  rfl

theorem runBuilding_bind {α β : Type} (built : Except ClientError Client) (w : World) (p : Work α)
    (f : α → Work β) : w.runBuilding built (p >>= f) =
      (w.runBuilding built p).2.runBuilding built (f (w.runBuilding built p).1) := by
  induction p generalizing w with
  | done a => rfl
  | act action next ih =>
      exact ih (w.answerBuilding built action).1 (w.answerBuilding built action).2

/-- To get a client is to find it, or to build and remember it. -/
theorem provide_eq (w : World) (token : String) (built : Except ClientError Client) :
    w.provide token built =
      match (w.lookup token).1 with
      | some client => (.ok client, (w.lookup token).2)
      | none =>
        (built, built.toOption.elim (w.lookup token).2 ((w.lookup token).2.remember token)) := by
  have hlookup : w.runBuilding built (Work.lookup token) = w.lookup token := rfl
  unfold provide Work.clientFor
  rw [runBuilding_bind, hlookup]
  cases (w.lookup token).1 with
  | some client => rfl
  | none => cases built <;> rfl

theorem follows_found (h : w.cache.Mirrors uses) (hpeek : w.cache.peek? token = some client) :
    Follows w uses (some (.hit token)) true (w.lookup token).2 := by
  have hlost : w.cache.lost (w.lookup token).2.cache = [] := Cache.lost_lookup w.cache token
  rw [lookup_of_peek? hpeek] at hlost ⊢
  exact {
    capacity := rfl
    mirrors := h.found hpeek
    idle := fun hnone => by cases hnone
    replaced := fun _ _ hinsert => by cases hinsert
    lookups := Nat.add_right_comm _ 1 _
    evictions := by rw [hlost]; rfl }

theorem follows_idle (h : w.cache.Mirrors uses) (looksUp : Bool) :
    Follows w uses none looksUp (if looksUp then w.count .cacheMiss else w) := by
  have hlost : w.cache.lost w.cache = [] := Cache.lost_eq_nil (fun _ ht => ht)
  have hcache : (if looksUp then w.count .cacheMiss else w).cache = w.cache := by
    cases looksUp <;> rfl
  exact {
    capacity := by rw [hcache]
    mirrors := hcache.symm ▸ h
    idle := fun _ => rfl
    replaced := fun _ _ hinsert => by cases hinsert
    lookups := by cases looksUp <;> rfl
    evictions := by
      rw [hcache, hlost]
      cases looksUp <;> rfl }

theorem remember_eq (w : World) (token : String) (client : Client) :
    w.remember token client = { w with
      cache := (w.cache.insert token client).2
      counters := { w.counters with
        evictions := w.counters.evictions + (w.cache.insert token client).1.toNat } } := by
  unfold remember
  generalize w.cache.insert token client = inserted
  obtain ⟨evicted, cache⟩ := inserted
  cases evicted <;> rfl

/-- Whether or not the token was looked up and missed before, its client is set now. -/
theorem follows_remember (hs : w.cache.IsSound) (h : w.cache.Mirrors uses) (looksUp : Bool)
    (token : String) (client : Client) :
    Follows w uses (some (.insert token client)) looksUp
      ((if looksUp then w.count .cacheMiss else w).remember token client) := by
  have hcache : (if looksUp then w.count .cacheMiss else w).cache = w.cache := by
    cases looksUp <;> rfl
  rw [remember_eq, hcache]
  exact {
    capacity := Cache.capacity_insert _ _ _
    mirrors := h.insert hs token client
    idle := fun hnone => by cases hnone
    replaced := fun t c hinsert hnew hfull => by
      cases hinsert
      have hcontains : ¬ w.cache.contains token = true := fun hc => hnew (h.contains_iff.1 hc)
      have hroom : ¬ w.cache.size < w.cache.capacity := by
        rw [← h.tokens, List.length_map] at hfull
        exact Nat.not_lt.2 (Nat.le_of_eq hfull.symm)
      obtain ⟨kept, last, hentries⟩ := hs.exists_last hroom
      refine ⟨kept, last, hentries, ?_⟩
      rw [Cache.insert_of_full hcontains hroom, hentries, List.dropLast_concat]
    lookups := by cases looksUp <;> rfl
    evictions := by
      rw [Cache.length_lost_insert hs]
      cases looksUp <;> rfl }

/-- A token is among those used last, and its client is found; or it is missed. -/
theorem lookup_cases (h : w.cache.Mirrors uses) (token : String) :
    (∃ client, token ∈ Use.recent w.cache.capacity uses ∧ Use.latest? uses token = some client ∧
      (w.lookup token).1 = some client ∧
      Follows w uses (some (.hit token)) true (w.lookup token).2) ∨
    token ∉ Use.recent w.cache.capacity uses ∧ w.lookup token = (none, w.count .cacheMiss) := by
  by_cases hcontains : w.cache.contains token = true
  · obtain ⟨client, hpeek⟩ := Option.isSome_iff_exists.1 hcontains
    refine Or.inl ⟨client, h.contains_iff.1 hcontains, h.peek? hpeek, ?_, follows_found h hpeek⟩
    rw [lookup_of_peek? hpeek]
  · exact Or.inr ⟨fun hmem => hcontains (h.contains_iff.2 hmem), lookup_of_not_contains hcontains⟩

theorem provide_follows (hs : w.cache.IsSound) (h : w.cache.Mirrors uses) (token : String)
    (built : Except ClientError Client) :
    (w.provide token built).1 = (if token ∈ Use.recent w.cache.capacity uses then
      (Use.latest? uses token).elim built .ok else built) ∧
    Follows w uses (if token ∈ Use.recent w.cache.capacity uses then some (.hit token) else
      built.toOption.map (.insert token)) true (w.provide token built).2 := by
  rw [provide_eq]
  rcases lookup_cases h token with ⟨client, hmem, hlatest, hfound, hfollows⟩ | ⟨hnot, hmissed⟩
  · rw [if_pos hmem, if_pos hmem, hlatest, hfound]
    exact ⟨rfl, hfollows⟩
  · rw [if_neg hnot, if_neg hnot, hmissed]
    cases built with
    | error e => exact ⟨rfl, follows_idle h true⟩
    | ok client => exact ⟨rfl, follows_remember hs h true token client⟩

/-- A demand is answered as the uses before tell, and so is what it comes to. -/
theorem meet_follows (hs : w.cache.IsSound) (h : w.cache.Mirrors uses) (d : Demand) :
    (w.meet d).1 = d.answer w.cache.capacity uses ∧
      Follows w uses (d.use? w.cache.capacity uses) d.looksUp (w.meet d).2 := by
  cases d with
  | lookup token =>
      change (w.lookup token).1 = (if _ then _ else _) ∧
        Follows w uses (if _ then _ else _) true (w.lookup token).2
      rcases lookup_cases h token with ⟨client, hmem, hlatest, hfound, hfollows⟩ | ⟨hnot, hmissed⟩
      · rw [if_pos hmem, if_pos hmem, hlatest]
        exact ⟨hfound, hfollows⟩
      · rw [if_neg hnot, if_neg hnot, hmissed]
        exact ⟨rfl, follows_idle h true⟩
  | insert token client => exact ⟨rfl, follows_remember hs h false token client⟩
  | contains token =>
      refine ⟨?_, follows_idle h false⟩
      change w.cache.contains token = decide (token ∈ Use.recent w.cache.capacity uses)
      rw [Bool.eq_iff_iff, h.contains_iff, decide_eq_true_iff]
  | provide token built => exact provide_follows hs h token built

end Meet

/-! ### Many demands -/

section MeetAll

variable {w : World} {uses : List (Use Client)}

theorem mirrors_meetAll (hroom : 0 < w.cache.capacity) (h : w.cache.Mirrors uses)
    (ds : List Demand) :
    (w.meetAll ds).cache.capacity = w.cache.capacity ∧
      (w.meetAll ds).cache.Mirrors (Demand.history w.cache.capacity uses ds) := by
  induction ds generalizing w uses with
  | nil => exact ⟨rfl, h⟩
  | cons d ds ih =>
      obtain ⟨-, hfollows⟩ := meet_follows (h.isSound hroom) h d
      obtain ⟨hcapacity, hmirrors⟩ := ih (hfollows.capacity ▸ hroom) hfollows.mirrors
      rw [hfollows.capacity] at hcapacity hmirrors
      exact ⟨hcapacity, hmirrors⟩

theorem counted_meetAll (hroom : 0 < w.cache.capacity) (h : w.cache.Mirrors uses)
    (ds : List Demand) :
    (w.meetAll ds).counters.hits + (w.meetAll ds).counters.misses =
        w.counters.hits + w.counters.misses + ds.countP Demand.looksUp ∧
      (w.meetAll ds).counters.evictions = w.counters.evictions + (w.lostOver ds).length := by
  induction ds generalizing w uses with
  | nil => exact ⟨rfl, rfl⟩
  | cons d ds ih =>
      obtain ⟨-, hfollows⟩ := meet_follows (h.isSound hroom) h d
      obtain ⟨hlookups, hevictions⟩ := ih (hfollows.capacity ▸ hroom) hfollows.mirrors
      change (World.meetAll _ ds).counters.hits + (World.meetAll _ ds).counters.misses = _ ∧
        (World.meetAll _ ds).counters.evictions = _
      rw [hlookups, hevictions, hfollows.lookups, hfollows.evictions, lostOver, List.length_append,
        List.countP_cons]
      have hcount : d.looksUp.toNat = if d.looksUp = true then 1 else 0 := by
        cases d.looksUp <;> rfl
      exact ⟨by omega, Nat.add_assoc _ _ _⟩

end MeetAll
end World
end Service

open Service

/-- A cache that starts empty holds, after any demands, the tokens used last, as many as it may, each
with the client that was set last for it.  The next demand is answered accordingly: a token is found
if and only if it was used, and fewer others since its last use than the cache may hold.  Without a
use only a miss is counted; a new token takes the place of the one used longest ago when the cache is
full.  Hits and misses together count the look-ups, and the evictions the tokens that were lost. -/
theorem cache_holds_last_used (w : World) (n : Nat) (ds : List Demand) :
    let start := { w with cache := .ofCapacity n }
    let size := if n = 0 then defaultCapacity else n
    let uses := Demand.history size [] ds
    let ended := start.meetAll ds
    (ended.cache.capacity = size ∧ ended.cache.Mirrors uses) ∧
    (∀ d, (ended.meet d).1 = d.answer size uses ∧
      ended.Follows uses (d.use? size uses) d.looksUp (ended.meet d).2) ∧
    (∀ token, (ended.lookup token).1.isSome ↔
      ∃ later u earlier, uses = later ++ u :: earlier ∧ u.token = token ∧
        (∀ other ∈ later, other.token ≠ token) ∧ (Use.tokens later).length < size) ∧
    ended.counters.hits + ended.counters.misses =
      w.counters.hits + w.counters.misses + ds.countP Demand.looksUp ∧
    ended.counters.evictions = w.counters.evictions + (start.lostOver ds).length := by
  intro start size uses ended
  have hroom : 0 < start.cache.capacity := (Cache.isSound_ofCapacity n).room
  have hempty : start.cache.Mirrors [] := Cache.mirrors_ofCapacity n
  obtain ⟨hcapacity, hmirrors⟩ := World.mirrors_meetAll hroom hempty ds
  have hended : 0 < ended.cache.capacity := hcapacity ▸ hroom
  have hmeet := World.meet_follows (hmirrors.isSound hended) hmirrors
  rw [hcapacity] at hmeet
  refine ⟨⟨hcapacity, hmirrors⟩, hmeet, fun token => ?_, World.counted_meetAll hroom hempty ds⟩
  rw [← Use.mem_recent_iff]
  rcases World.lookup_cases hmirrors token with ⟨client, hmem, -, hfound, -⟩ | ⟨hnot, hmissed⟩
  · rw [hcapacity] at hmem
    exact ⟨fun _ => hmem, fun _ => Option.isSome_of_eq_some hfound⟩
  · rw [hcapacity] at hnot
    refine ⟨fun hsome => ?_, fun hmem => absurd hmem hnot⟩
    have hnone : (ended.lookup token).1 = none := congrArg Prod.fst hmissed
    rw [hnone] at hsome
    cases hsome

/-! #### A cache for two -/

namespace Service.CacheForTwo

/-- The third token takes the place of the second, since the first is looked up in between.  Then the
first is given another client, and no client can be built for the second. -/
def demands : List Demand :=
  [.insert "a" ⟨some "a", 0⟩, .insert "b" ⟨some "b", 1⟩, .lookup "a", .insert "c" ⟨some "c", 2⟩,
    .insert "a" ⟨some "a", 3⟩, .provide "b" (.error ⟨"none"⟩), .contains "c"]

def start : World := { World.empty "fleet" 1 with cache := .ofCapacity 2 }

theorem cache_holds_last_used_two :
    (start.meetAll demands).cache.entries = [("a", ⟨some "a", 3⟩), ("c", ⟨some "c", 2⟩)] ∧
      (start.lostOver demands = ["b"] ∧ (start.meetAll demands).counters.evictions = 1) ∧
      ∃ kept last, (start.meetAll demands).cache.entries = kept ++ [last] ∧
        ((start.meetAll demands).meet (.insert "d" ⟨some "d", 4⟩)).2.cache.entries =
          ("d", ⟨some "d", 4⟩) :: kept := by
  have hlost : start.lostOver demands = ["b"] := by decide +kernel
  have hlast : Use.recent 2 (Demand.history 2 [] demands) = ["a", "c"] := by decide +kernel
  obtain ⟨⟨hcapacity, -⟩, hmeet, -, -, hevictions⟩ :=
    cache_holds_last_used (World.empty "fleet" 1) 2 demands
  have hreplaced := (hmeet (.insert "d" ⟨some "d", 4⟩)).2.replaced "d" ⟨some "d", 4⟩ rfl
  rw [hcapacity] at hreplaced
  refine ⟨by decide +kernel, ⟨hlost, ?_⟩, hreplaced ?_ ?_⟩
  · exact hevictions.trans (congrArg (fun l => 0 + List.length l) hlost)
  · exact hlast ▸ (by decide : "d" ∉ ["a", "c"])
  · exact congrArg List.length hlast

end Service.CacheForTwo
end Fleet
