import Fleet.Proofs.Store.Memory
import Fleet.Service.Action

/-! # Histories

The `History` of a program of the service is what it did so far and what was answered.  It tells
which object the program obtained last under a name (`lastTenant`, `lastCluster`), be it the answer
to a question or to an earlier write. -/

namespace Fleet.Service

open Resource

/-- What was done and answered, last things first. -/
abbrev History := List ((action : Action) × action.Answer)

/-- The tenants that an answer gives. -/
def Action.tenants : (a : Action) → a.Answer → List Tenant
  | .call _ c, x => c.tenants x
  | _, _ => []

/-- The clusters that an answer gives. -/
def Action.clusters : (a : Action) → a.Answer → List Cluster
  | .call _ c, x => c.clusters x
  | _, _ => []

/-- The tenant of a name as it was obtained last. -/
def lastTenant (name : String) : History → Option Tenant
  | [] => none
  | ⟨a, x⟩ :: h => ((a.tenants x).find? (fun t => t.name == name)).or (lastTenant name h)

/-- The cluster of a name as it was obtained last. -/
def lastCluster (name : String) : History → Option Cluster
  | [] => none
  | ⟨a, x⟩ :: h => ((a.clusters x).find? (fun c => c.name == name)).or (lastCluster name h)

section Last

variable {name : String} {h : History} {a : Action} {x : a.Answer}

theorem lastTenant_single {t : Tenant} (hx : a.tenants x = [t]) (hname : t.name = name) :
    lastTenant name (⟨a, x⟩ :: h) = some t := by
  rw [lastTenant, hx, List.find?_cons_of_pos (by simpa using hname), Option.some_or]

theorem lastCluster_single {c : Cluster} (hx : a.clusters x = [c]) (hname : c.name = name) :
    lastCluster name (⟨a, x⟩ :: h) = some c := by
  rw [lastCluster, hx, List.find?_cons_of_pos (by simpa using hname), Option.some_or]

theorem lastCluster_skip (hx : a.clusters x = []) :
    lastCluster name (⟨a, x⟩ :: h) = lastCluster name h := by
  rw [lastCluster, hx, List.find?_nil, Option.none_or]

/-- Of several clusters with names of their own each is the last one of its name. -/
theorem lastCluster_several {c : Cluster} (hc : c ∈ a.clusters x)
    (hnodup : ((a.clusters x).map Cluster.name).Nodup) :
    lastCluster c.name (⟨a, x⟩ :: h) = some c := by
  have hfind : (a.clusters x).find? (fun b => b.name == c.name) = some c := by
    generalize a.clusters x = l at hc hnodup
    induction l with
    | nil => cases hc
    | cons b l ih =>
        rw [List.map_cons, List.nodup_cons] at hnodup
        rcases List.mem_cons.1 hc with rfl | hc
        · exact List.find?_cons_of_pos (by simp)
        · have hne : ¬ b.name = c.name := by
            intro heq
            exact hnodup.1 (heq ▸ List.mem_map_of_mem hc)
          rw [List.find?_cons_of_neg (by simpa using hne)]
          exact ih hc hnodup.2
  rw [lastCluster, hfind, Option.some_or]

/-- What was obtained last was obtained. -/
theorem exists_of_lastTenant {t : Tenant} (hlast : lastTenant name h = some t) :
    t.name = name ∧ ∃ e ∈ h, t ∈ e.1.tenants e.2 := by
  induction h with
  | nil => cases hlast
  | cons e h ih =>
      rw [lastTenant, Option.or_eq_some_iff] at hlast
      rcases hlast with hfind | ⟨-, hlast⟩
      · have hname : t.name = name := by simpa using List.find?_some hfind
        exact ⟨hname, e, List.mem_cons_self, List.mem_of_find?_eq_some hfind⟩
      · obtain ⟨hname, e', he, ht⟩ := ih hlast
        exact ⟨hname, e', List.mem_cons_of_mem _ he, ht⟩

theorem exists_of_lastCluster {c : Cluster} (hlast : lastCluster name h = some c) :
    c.name = name ∧ ∃ e ∈ h, c ∈ e.1.clusters e.2 := by
  induction h with
  | nil => cases hlast
  | cons e h ih =>
      rw [lastCluster, Option.or_eq_some_iff] at hlast
      rcases hlast with hfind | ⟨-, hlast⟩
      · have hname : c.name = name := by simpa using List.find?_some hfind
        exact ⟨hname, e, List.mem_cons_self, List.mem_of_find?_eq_some hfind⟩
      · obtain ⟨hname, e', he, ht⟩ := ih hlast
        exact ⟨hname, e', List.mem_cons_of_mem _ he, ht⟩

end Last

end Fleet.Service
