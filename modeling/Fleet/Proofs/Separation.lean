import Fleet.Proofs.Service.Clients
import Fleet.Proofs.Service.Identity
import Fleet.Proofs.Service.Workshop

/-! # Callers never share an identity

Requests are interleaved in any order: one of them may look into the cache while another builds a
client, and another puts its own into the cache and pushes others out.  Any build may fail
(`Occurrence.outage`).

Each request is somewhere on its way to its client (`Stage`), and what it has come to by then was
built for the identity that it acts as: this is what every step keeps (`Workshop.IsFaithful`).

Main statement: `callers_apart`. -/

namespace Fleet

open Credential Http Service Store

variable {ι : Type}

/-- A request acts as one identity at most. -/
theorem Http.Request.ActsAs.unique {r : Http.Request} {a b : Option String} (ha : r.ActsAs a)
    (hb : r.ActsAs b) : a = b := by
  cases a with
  | none =>
      cases b with
      | none => rfl
      | some token => cases ha.symm.trans hb.1
  | some token =>
      cases b with
      | none => cases hb.symm.trans ha.1
      | some other =>
          have htoken := presents_iff.1 ha.2
          rw [presents_iff.1 hb.2] at htoken
          exact htoken.symm

namespace Service

/-! ### Occurrences -/

/-- What happens next. -/
inductive Occurrence (ι : Type) where
  | move (m : Move ι)
  /-- The next client cannot be built. -/
  | outage (e : ClientError)

namespace Workshop

section Occurrences

variable {α : Type} [DecidableEq ι]

/-- The workshop after an occurrence. -/
def occur (w : Workshop ι α) : Occurrence ι → Workshop ι α
  | .move m => w.move m
  | .outage e => { w with world.outage := some e }

/-- The workshop after some occurrences. -/
def happen (w : Workshop ι α) (occurrences : List (Occurrence ι)) : Workshop ι α :=
  occurrences.foldl occur w

theorem exists_log_occur (w : Workshop ι α) (o : Occurrence ι) :
    ∃ later, (w.occur o).log = later ++ w.log := by
  cases o with
  | move m => exact w.exists_log_move m
  | outage e => exact ⟨[], rfl⟩

theorem exists_log_happen (w : Workshop ι α) (occurrences : List (Occurrence ι)) :
    ∃ later, (w.happen occurrences).log = later ++ w.log := by
  induction occurrences generalizing w with
  | nil => exact ⟨[], rfl⟩
  | cons o occurrences ih =>
      obtain ⟨first, hfirst⟩ := w.exists_log_occur o
      obtain ⟨later, hlater⟩ := ih (w.occur o)
      refine ⟨later ++ first, ?_⟩
      rw [List.append_assoc, ← hfirst, ← hlater]
      rfl

/-- A party takes its next step. -/
theorem move_act {w : Workshop ι α} {i : ι} {a : Action} {next : a.Answer → Work α}
    (h : w.rest i = .act a next) : w.move (.act i) = w.advance i a next := by
  simp only [move, h]

theorem rest_advance_self (w : Workshop ι α) (i : ι) (a : Action) (next : a.Answer → Work α) :
    (w.advance i a next).rest i = next (w.world.answer a).1 := if_pos rfl

/-- Some step puts a client for the token into the cache. -/
def Remembers (token : String) (log : Log ι) : Prop :=
  ∃ entry ∈ log, ∃ i client, entry.deed = .act i (.remember token client) ()

/-- The cache gains an entry for a token only by a step that puts it there. -/
theorem remembers_of_occur {w : Workshop ι α} {o : Occurrence ι} {later : Log ι} {token : String}
    (hlog : (w.occur o).log = later ++ w.log) (hno : ¬ w.world.cache.contains token = true)
    (hin : (w.occur o).world.cache.contains token = true) : Remembers token later := by
  cases o with
  | outage e => exact absurd hin hno
  | move m =>
      cases m with
      | touch name | conflicts n => exact absurd hin hno
      | act i =>
          change (w.move (.act i)).log = _ at hlog
          change (w.move (.act i)).world.cache.contains token = true at hin
          cases hrest : w.rest i with
          | done a =>
              have hmove : w.move (.act i) = w := by simp only [move, hrest]
              rw [hmove] at hin
              exact absurd hin hno
          | act a next =>
              rw [move_act hrest] at hlog hin
              obtain ⟨e, he, htoken⟩ := List.mem_map.1 (Cache.contains_iff.1 hin)
              subst htoken
              rcases World.mem_cache_answer he with hold | hnew
              · exact absurd (Cache.contains_iff.2 (List.mem_map_of_mem hold)) hno
              · subst hnew
                have hlater : later = [⟨.act i (.remember e.1 e.2) (), _, _⟩] :=
                  (List.append_cancel_right (hlog.symm.trans rfl))
                exact ⟨_, hlater ▸ List.mem_singleton_self _, i, e.2, rfl⟩

theorem remembers_of_happen {w : Workshop ι α} {occurrences : List (Occurrence ι)} {later : Log ι}
    {token : String} (hlog : (w.happen occurrences).log = later ++ w.log)
    (hno : ¬ w.world.cache.contains token = true)
    (hin : (w.happen occurrences).world.cache.contains token = true) : Remembers token later := by
  induction occurrences generalizing w later with
  | nil => exact absurd hin hno
  | cons o occurrences ih =>
      obtain ⟨first, hfirst⟩ := w.exists_log_occur o
      obtain ⟨rest, hrest⟩ := (w.occur o).exists_log_happen occurrences
      have hlater : later = rest ++ first := by
        refine (List.append_left_inj w.log).1 ?_
        rw [← hlog, List.append_assoc, ← hfirst, ← hrest]
        rfl
      -- the first occurrence put the entry into the cache, or one of those after it did
      by_cases hstep : (w.occur o).world.cache.contains token = true
      · obtain ⟨entry, hentry, hdeed⟩ := remembers_of_occur hfirst hno hstep
        exact ⟨entry, hlater ▸ List.mem_append_right _ hentry, hdeed⟩
      · obtain ⟨entry, hentry, hdeed⟩ := ih hrest hstep hin
        exact ⟨entry, hlater ▸ List.mem_append_left _ hentry, hdeed⟩

end Occurrences
end Workshop

/-! ### Faithful runs -/

/-- In what a request did, it was given clients of the identity that it acts as, and used no
others. -/
def Deed.IsFaithful (r : ι → Http.Request) (w : World) : Deed ι → Prop
  | .act i (.lookup token) found =>
    (r i).ActsAs (some token) ∧ ∀ client, found = some client → w.Produced client (some token)
  | .act i (.build token) built =>
    (r i).ActsAs (some token) ∧ ∀ client, built = .ok client → w.Produced client (some token)
  | .act i (.remember token client) _ =>
    (r i).ActsAs (some token) ∧ w.Produced client (some token)
  | .act i .ownClient built =>
    (r i).ActsAs none ∧ ∀ client, built = .ok client → w.Produced client none
  | .act i (.call client _) _ => ∃ identity, (r i).ActsAs identity ∧ w.Produced client identity
  | _ => True

theorem Deed.IsFaithful.mono {r : ι → Http.Request} {w w' : World} {deed : Deed ι}
    (h : deed.IsFaithful r w) (hbuilt : w.built <+: w'.built) : deed.IsFaithful r w' := by
  cases deed with
  | act i a x =>
      cases a with
      | lookup token | build token | ownClient =>
          exact ⟨h.1, fun client hclient => (h.2 client hclient).mono hbuilt⟩
      | remember token client => exact ⟨h.1, h.2.mono hbuilt⟩
      | call client c =>
          obtain ⟨identity, hacts, hproduced⟩ := h
          exact ⟨identity, hacts, hproduced.mono hbuilt⟩
      | count | readCounters => trivial
  | touch | conflicts => trivial

/-- What a request says if it gets no client. -/
def failure (r : Http.Request) (e : ClientError) : Response :=
  finish r (Route.of? r.path) (Refusal.client e).response

/-- A request is at some stage, and the client that it has come to is one of the identity that it
acts as. -/
def IsOnItsWay (r : Http.Request) (w : World) (rest : Work Response) : Prop :=
  ∃ stage : Stage,
    rest.Keeps (identification r) (Stage.EndsWith fun e response => response = failure r e) stage ∧
      ∀ client, stage.client? = some client →
        ∃ identity, r.ActsAs identity ∧ w.Produced client identity

theorem IsOnItsWay.mono {r : Http.Request} {w w' : World} {rest : Work Response}
    (h : IsOnItsWay r w rest) (hbuilt : w.built <+: w'.built) : IsOnItsWay r w' rest := by
  obtain ⟨stage, hkeeps, hclient⟩ := h
  refine ⟨stage, hkeeps, ?_⟩
  intro client hstage
  obtain ⟨identity, hacts, hproduced⟩ := hclient client hstage
  exact ⟨identity, hacts, hproduced.mono hbuilt⟩

/-- A client that is given out faithfully is one of the identity that the request acts as. -/
theorem Deed.IsFaithful.exists_produced {r : ι → Http.Request} {w : World} {i : ι} {a : Action}
    {x : a.Answer} (h : Deed.IsFaithful r w (.act i a x)) {client : Client}
    (hgiven : a.client? x = some client) :
    ∃ identity, (r i).ActsAs identity ∧ w.Produced client identity := by
  cases a with
  | lookup token => exact ⟨some token, h.1, h.2 client hgiven⟩
  | build token =>
      cases x with
      | error e => cases hgiven
      | ok built => exact ⟨some token, h.1, h.2 client (congrArg Except.ok (Option.some.inj hgiven))⟩
  | ownClient =>
      cases x with
      | error e => cases hgiven
      | ok own => exact ⟨none, h.1, h.2 client (congrArg Except.ok (Option.some.inj hgiven))⟩
  | _ => cases hgiven

section Steps

variable {r : Http.Request} {w : World} {stage : Stage} {a : Action}

/-- What a request may put into the cache was built for the token. -/
theorem produced_of_remember {token : String} {client : Client}
    (hallows : stage.Allows r (.remember token client))
    (hclient : ∀ client, stage.client? = some client →
      ∃ identity, r.ActsAs identity ∧ w.Produced client identity) :
    w.Produced client (some token) := by
  obtain ⟨rfl, hacts⟩ := hallows
  obtain ⟨identity, hacts', hproduced⟩ := hclient client rfl
  exact hacts.unique hacts' ▸ hproduced

/-- What a request does at a stage is faithful in an honest world. -/
theorem isFaithful_answer (h : w.IsHonest) (i : ι) {r : ι → Http.Request}
    (hallows : stage.Allows (r i) a)
    (hclient : ∀ client, stage.client? = some client →
      ∃ identity, (r i).ActsAs identity ∧ w.Produced client identity) :
    Deed.IsFaithful r (w.answer a).2 (.act i a (w.answer a).1) := by
  cases a with
  | lookup token => exact ⟨hallows.2, fun client hfound => h.produced_of_lookup hfound⟩
  | build token => exact ⟨hallows.2, fun client hbuilt => World.produced_of_build hbuilt⟩
  | remember token client =>
      exact ⟨hallows.2,
        (produced_of_remember hallows hclient).mono (w.built_answer (.remember token client))⟩
  | ownClient => exact ⟨hallows.2, fun client hown => h.produced_of_ownClient hown⟩
  | call client c =>
      have hstage : stage = .ready client := hallows
      subst hstage
      obtain ⟨identity, hacts, hproduced⟩ := hclient client rfl
      exact ⟨identity, hacts, hproduced.mono (w.built_answer (.call client c))⟩
  | count | readCounters => trivial

end Steps

namespace Workshop

/-- What every step of requests keeps. -/
structure IsFaithful (r : ι → Http.Request) (w : Workshop ι Response) : Prop where
  honest : w.world.IsHonest
  log : ∀ entry ∈ w.log, entry.deed.IsFaithful r w.world
  requests : ∀ i, IsOnItsWay (r i) w.world (w.rest i)

variable [DecidableEq ι] {r : ι → Http.Request} {w : Workshop ι Response}

theorem IsFaithful.advance (h : w.IsFaithful r) {i : ι} {a : Action} {next : a.Answer → Work Response}
    (hrest : w.rest i = .act a next) : (w.advance i a next).IsFaithful r := by
  have hbuilt : w.world.built <+: (w.advance i a next).world.built := w.world.built_answer a
  obtain ⟨stage, hkeeps, hclient⟩ := h.requests i
  rw [hrest, Program.keeps_act] at hkeeps
  obtain ⟨hallows, hnext⟩ := hkeeps
  have hfaithful := isFaithful_answer h.honest i hallows hclient
  -- the world stays honest, the new entry is faithful, and every request is still on its way
  refine ⟨?_, ?_, ?_⟩
  · refine h.honest.answer ?_
    rintro token client rfl
    exact produced_of_remember hallows hclient
  · intro entry hentry
    rcases List.mem_cons.1 hentry with rfl | hentry
    · exact hfaithful
    · exact (h.log entry hentry).mono hbuilt
  · intro j
    by_cases hj : j = i
    · subst hj
      rw [rest_advance_self]
      refine ⟨_, hnext _ trivial, ?_⟩
      intro client hstage
      rcases Stage.client?_learn hstage with hold | hgiven
      · obtain ⟨identity, hacts, hproduced⟩ := hclient client hold
        exact ⟨identity, hacts, hproduced.mono hbuilt⟩
      · exact hfaithful.exists_produced hgiven
    · have hother : (w.advance i a next).rest j = w.rest j := if_neg hj
      rw [hother]
      exact (h.requests j).mono hbuilt

theorem IsFaithful.occur (h : w.IsFaithful r) (o : Occurrence ι) : (w.occur o).IsFaithful r := by
  cases o with
  | outage e => exact ⟨⟨h.honest.cache, h.honest.cached, h.honest.own, h.honest.once⟩, h.log, h.requests⟩
  | move m =>
      cases m with
      | touch name | conflicts n =>
          refine ⟨⟨h.honest.cache, h.honest.cached, h.honest.own, h.honest.once⟩, ?_, h.requests⟩
          intro entry hentry
          rcases List.mem_cons.1 hentry with rfl | hentry
          · trivial
          · exact h.log entry hentry
      | act i =>
          change (w.move (.act i)).IsFaithful r
          cases hrest : w.rest i with
          | done a =>
              have hmove : w.move (.act i) = w := by simp only [move, hrest]
              rw [hmove]
              exact h
          | act a next =>
              rw [move_act hrest]
              exact h.advance hrest

theorem IsFaithful.happen (h : w.IsFaithful r) (occurrences : List (Occurrence ι)) :
    (w.happen occurrences).IsFaithful r := by
  induction occurrences generalizing w with
  | nil => exact h
  | cons o occurrences ih => exact ih (h.occur o)

theorem capacity_occur (w : Workshop ι Response) (o : Occurrence ι) :
    (w.occur o).world.cache.capacity = w.world.cache.capacity := by
  cases o with
  | outage e => rfl
  | move m =>
      cases m with
      | touch name | conflicts n => rfl
      | act i =>
          change (w.move (.act i)).world.cache.capacity = w.world.cache.capacity
          cases hrest : w.rest i with
          | done a => simp only [move, hrest]
          | act a next =>
              rw [move_act hrest]
              exact w.world.capacity_answer a

theorem capacity_happen (w : Workshop ι Response) (occurrences : List (Occurrence ι)) :
    (w.happen occurrences).world.cache.capacity = w.world.cache.capacity := by
  induction occurrences generalizing w with
  | nil => rfl
  | cons o occurrences ih => exact (ih (w.occur o)).trans (w.capacity_occur o)

/-- A service that starts with a store and an empty cache, and requests to it. -/
def ofRequests (store : Memory) (cacheSize : Nat) (s : ι → Setting) (r : ι → Http.Request) :
    Workshop ι Response :=
  opening { store, cache := .ofCapacity cacheSize } (fun i => respond (s i) (r i))

omit [DecidableEq ι] in
theorem isFaithful_ofRequests (store : Memory) (cacheSize : Nat) (s : ι → Setting)
    (r : ι → Http.Request) : (ofRequests store cacheSize s r).IsFaithful r where
  honest := World.isHonest_start store cacheSize
  log _ hentry := by cases hentry
  requests i := ⟨.unknown, keeps_respond (s i) (r i), fun _ hclient => by cases hclient⟩

/-! ### Failures -/

omit [DecidableEq ι] in
theorem answer_build_of_outage {world : World} {e : ClientError} (houtage : world.outage = some e)
    (token : String) :
    world.answer (.build token) = (.error e, { world with outage := none }) := by
  change world.build (some token) = _
  unfold World.build
  rw [houtage]
  rfl

/-- A request that gets no client is at its end. -/
theorem eq_done_of_failed {request : Http.Request} {e : ClientError} {p : Work Response}
    (h : p.Keeps (identification request)
      (Stage.EndsWith fun e response => response = failure request e) (.failed e)) :
    p = .done (failure request e) := by
  cases p with
  | done response => exact congrArg Program.done h
  | act a next =>
      obtain ⟨hallows, -⟩ := h
      cases a with
      | call => cases hallows
      | count | readCounters => rcases hallows with heq | ⟨client, heq⟩ <;> cases heq
      | _ => cases hallows.1

/-- A build that fails changes nothing in the cache, and is the end of its request. -/
theorem IsFaithful.failed (h : w.IsFaithful r) {i : ι} {token : String}
    {next : (Action.build token).Answer → Work Response}
    (hrest : w.rest i = .act (.build token) next) {e : ClientError}
    (houtage : w.world.outage = some e) :
    (w.move (.act i)).world.cache = w.world.cache ∧
      (w.move (.act i)).rest i = .done (failure (r i) e) := by
  have hbuild := answer_build_of_outage houtage token
  rw [move_act hrest]
  refine ⟨congrArg (fun x => x.2.cache) hbuild, ?_⟩
  rw [rest_advance_self, hbuild]
  obtain ⟨stage, hkeeps, -⟩ := h.requests i
  rw [hrest, Program.keeps_act] at hkeeps
  obtain ⟨⟨rfl, -⟩, hnext⟩ := hkeeps
  exact eq_done_of_failed (hnext (.error e) trivial)

omit [DecidableEq ι] in
/-- A request that presents a token looks for its client, and builds one if there is none. -/
theorem respond_caller (s : Setting) {request : Http.Request} {token : String}
    (h : request.ActsAs (some token)) : ∃ next after,
      respond s request = .act (.lookup token) next ∧ next none = .act (.build token) after := by
  unfold respond
  dsimp only
  rw [authenticate_caller s h]
  exact ⟨_, _, rfl, rfl⟩

/-- A request builds a client for its token if the cache has none. -/
theorem builds_of_not_contains (s : Setting) {request : Http.Request} {token : String} {i : ι}
    (h : request.ActsAs (some token)) (hrest : w.rest i = respond s request)
    (hno : ¬ w.world.cache.contains token = true) :
    ∃ next, (w.move (.act i)).rest i = .act (.build token) next := by
  obtain ⟨next, after, hrespond, hnext⟩ := respond_caller s h
  rw [hrespond] at hrest
  rw [move_act hrest, rest_advance_self]
  have hfound : (w.world.answer (.lookup token)).1 = none :=
    congrArg Prod.fst (Cache.lookup_of_not_contains hno)
  rw [hfound]
  exact ⟨after, hnext⟩

/-! ### Result -/

/-- What a run of requests says if callers never share an identity. -/
structure KeepsApart (s : ι → Setting) (r : ι → Http.Request) (cacheSize : Nat)
    (w : Workshop ι Response) : Prop where
  /-- What the cache holds for a token was built for that token. -/
  cached : ∀ e ∈ w.world.cache.entries, w.world.Produced e.2 (some e.1)
  /-- What a request is given for its token, keeps for it, and calls the store as was built for that
  token, or for the service where it acts as the service. -/
  attached : ∀ entry ∈ w.log, entry.deed.IsFaithful r w.world
  /-- Requests for manifests call the store as the service. -/
  install : ∀ entry ∈ w.log, ∀ i client c x, entry.deed = .act i (.call client c) x →
    (r i).path = installPath → w.world.Produced client none
  /-- A client is built for the service once at most. -/
  once : w.world.built.count none ≤ 1
  /-- It is not in the cache. -/
  apart : ∀ e ∈ w.world.cache.entries, ¬ w.world.Produced e.2 none
  /-- The cache has room for as many clients as was asked. -/
  capacity : w.world.cache.capacity = if cacheSize = 0 then 128 else cacheSize
  /-- It never holds more. -/
  bounded : w.world.cache.size ≤ w.world.cache.capacity
  /-- It never holds two for one token. -/
  tokens : (w.world.cache.entries.map Prod.fst).Nodup
  /-- A build that fails changes nothing in the cache, and is the end of its request. -/
  failed : ∀ i token next e, w.rest i = .act (.build token) next → w.world.outage = some e →
    (w.move (.act i)).world.cache = w.world.cache ∧
      (w.move (.act i)).rest i = .done (failure (r i) e)
  /-- If the cache had no client for the token, then the next request for it builds again, unless
  some step put one into the cache meanwhile. -/
  retried : ∀ i token next e, w.rest i = .act (.build token) next → w.world.outage = some e →
    ¬ w.world.cache.contains token = true →
    ∀ occurrences later, ((w.move (.act i)).happen occurrences).log =
        later ++ (w.move (.act i)).log → ¬ Remembers token later →
      ∀ j, (r j).ActsAs (some token) →
        ((w.move (.act i)).happen occurrences).rest j = respond (s j) (r j) →
        ∃ after, (((w.move (.act i)).happen occurrences).move (.act j)).rest j =
          .act (.build token) after

theorem IsFaithful.keepsApart (h : w.IsFaithful r) (s : ι → Setting) {cacheSize : Nat}
    (hcapacity : w.world.cache.capacity = (Cache.ofCapacity cacheSize : Cache Client).capacity) :
    w.KeepsApart s r cacheSize where
  cached := h.honest.cached
  attached := h.log
  install := by
    intro entry hentry i client c x hdeed hpath
    have hfaithful := h.log entry hentry
    rw [hdeed] at hfaithful
    obtain ⟨identity, hacts, hproduced⟩ := hfaithful
    have hservice : (r i).ActsAs none := by
      change Access.of (r i).path = .bootstrapToken
      rw [hpath]
      decide
    exact hacts.unique hservice ▸ hproduced
  once := by
    rw [h.honest.once]
    split <;> omega
  apart := by
    intro e he hservice
    cases (h.honest.cached e he).unique hservice
  capacity := hcapacity
  bounded := h.honest.cache.bounded
  tokens := h.honest.cache.tokens
  failed := fun i token next e hrest houtage => h.failed hrest houtage
  retried := by
    intro i token next e hrest houtage hno occurrences later hlog hnone j hacts hbegin
    have hcache := (h.failed hrest houtage).1
    refine builds_of_not_contains (s j) hacts hbegin ?_
    exact fun hin => hnone (remembers_of_happen hlog (hcache ▸ hno) hin)

end Workshop
end Service

/-- Whatever requests come to a service, and however their steps are interleaved, callers never share
an identity. -/
theorem callers_apart [DecidableEq ι] (store : Memory) (cacheSize : Nat) (s : ι → Setting)
    (r : ι → Http.Request) (occurrences : List (Occurrence ι)) :
    ((Workshop.ofRequests store cacheSize s r).happen occurrences).KeepsApart s r cacheSize :=
  ((Workshop.isFaithful_ofRequests store cacheSize s r).happen occurrences).keepsApart s
    (Workshop.capacity_happen _ occurrences)

/-! #### A crowded cache -/

namespace Service.Crowd

def setting (_ : Fin 3) : Setting := ⟨{}, ⟨0, 0⟩, fun _ => 0⟩

/-- Two parties present one token, and the third one another. -/
def request (i : Fin 3) : Http.Request where
  method := "GET"
  path := "/tenants"
  headers := [("authorization", if i = 2 then "Bearer y" else "Bearer x")]

/-- The first build fails.  The two others are interleaved, in a cache with room for one. -/
def occurrences : List (Occurrence (Fin 3)) :=
  [.outage ⟨"down"⟩, .move (.act 0), .move (.act 0), .move (.act 1), .move (.act 2),
    .move (.act 2), .move (.act 1), .move (.act 1), .move (.act 2), .move (.act 1)]

def workshop : Workshop (Fin 3) Response :=
  (Workshop.ofRequests { ns := "fleet" } 1 setting request).happen occurrences

/-- The token whose build failed is built for the next request, and pushed out by the other one. -/
theorem callers_apart_crowd : workshop.world.built = [some "y", some "x"] ∧
    workshop.world.cache.entries = [("y", ⟨some "y", 0⟩)] ∧
    workshop.KeepsApart setting request 1 := by
  refine ⟨?_, ?_, ?_⟩
  · decide +kernel
  · decide +kernel
  · exact callers_apart { ns := "fleet" } 1 setting request occurrences

end Service.Crowd
end Fleet
