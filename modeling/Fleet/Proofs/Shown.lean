import Fleet.Proofs.Exchange.GivenBack
import Fleet.Proofs.Service.Body
import Fleet.Proofs.Service.Faults

/-! # Every stored cluster is shown

Stored compile metadata are shown as a report, which passes through a tree of members: names, places
and what is left out must fit at every level.  They do, whatever is stored, if only the instant of the
last compilation survives its text form (`Cluster.KeepsInstant`).  The report can be sent back, and
then stands for just the compile metadata that were stored.

So no stored cluster keeps a request from being answered: not one that reads it, not one that lists
it, and not one that shows it after it was written.  Whatever is refused with the status of an internal
error is refused because no client could be built.

Main statement: `stored_clusters_shown`. -/

namespace Fleet

open Credential Http Json Resource Service Store

/-! ### Compile metadata -/

/-- The instant of the last compilation survives its text form. -/
def Resource.Cluster.KeepsInstant (c : Cluster) : Prop :=
  ∀ m t, c.status.bind (·.compileMeta) = some m → m.lastCompile = some t →
    Instant.parse t.print = .ok t

theorem Resource.Cluster.keepsInstant_iff {c : Cluster} : c.KeepsInstant ↔ c.IsDated := by
  constructor
  · intro h m t hm ht
    exact Instant.isCalendar_of_parse (h m t hm ht)
  · intro h m t hm ht
    exact Instant.parse_print (h m t hm ht)

namespace Exchange.Cluster

open Record

/-- The report that compile metadata amount to keeps. -/
theorem keeps_compileReport {m : CompileMeta} {report : CompileReport}
    (hm : ∀ t, m.lastCompile = some t → t.IsCalendar) (h : compileReport m = .ok report) :
    CompileReport.layout.codec.Keeps 3 report := by
  rw [compileReport_eq hm] at h
  cases h
  have hnone : (Dict.ofList (Layout.members CompileMeta.detailFields m)).get? "lastCompile" = none :=
    Dict.get?_ofList_eq_none (fun e he => key_ne_of_mem_details he)
  have hfits : (CompileMeta.layout.encode m).Fits 3 := (CompileMeta.fitsIn m).fits
  rw [encode_compileMeta] at hfits
  refine CompileReport.keeps hm hnone (fun e he => ?_)
  rw [← erase_lastCompile] at he
  exact fitsMembers_iff.1 hfits.2.2 e (List.mem_of_mem_filter he)

/-- A report that is shown can be sent back. -/
theorem readBody_compileReport {m : CompileMeta} {report : CompileReport}
    (hm : ∀ t, m.lastCompile = some t → t.IsCalendar) (h : compileReport m = .ok report) :
    readBody CompileReport.layout.decode (Text.encode (CompileReport.layout.encode report).render) =
      .ok report := by
  have hkeeps := keeps_compileReport hm h
  have hfits : (CompileReport.layout.codec.encode report).Fits depthLimit :=
    hkeeps.fits.mono (by decide)
  have hplain : (CompileReport.layout.codec.encode report).doubles = [] := by
    change (CompileReport.layout.encode report).doubles = []
    rw [CompileReport.encode_eq, members_eq_of_compileReport hm h, ← encode_compileMeta]
    exact (CompileMeta.fitsIn m).plain
  exact readBody_render (c := CompileReport.layout.codec) ⟨hfits, hkeeps.reads⟩
    (Value.survives_of_doubles_nil hplain)

theorem compileMeta_of_toRecord {c : Resource.Cluster} {record : Record.Cluster}
    (h : toRecord c = .ok record) :
    (c.status.bind (·.compileMeta)).mapM compileReport = .ok record.properties.compileMeta := by
  obtain ⟨report, hreport, h⟩ := Result.exists_of_bind h
  cases h
  exact hreport

/-- What is shown of compile metadata stands for them. -/
theorem exists_shown_report {c : Resource.Cluster} (hc : c.IsDated) {record : Record.Cluster}
    (h : toRecord c = .ok record) {m : CompileMeta}
    (hm : c.status.bind (·.compileMeta) = some m) :
    ∃ report, record.properties.compileMeta = some report ∧ compileMeta report = .ok m ∧
      readBody CompileReport.layout.decode
        (Text.encode (CompileReport.layout.encode report).render) = .ok report := by
  have hreport := compileMeta_of_toRecord h
  rw [hm, Option.mapM_some] at hreport
  obtain ⟨report, hreport, hsome⟩ := Result.exists_of_map hreport
  exact ⟨report, hsome.symm, compileMeta_of_compileReport (hc m · hm) hreport,
    readBody_compileReport (hc m · hm) hreport⟩

end Exchange.Cluster

/-! ### Requests -/

namespace Service

/-- Clients see the cluster, and the compile metadata in it as a report that can be sent back. -/
def IsShown (c : Cluster) : Prop :=
  ∃ record, Exchange.Cluster.toRecord c = .ok record ∧
    ∀ m, c.status.bind (·.compileMeta) = some m → ∃ report,
      record.properties.compileMeta = some report ∧
      Exchange.Cluster.compileMeta report = .ok m ∧
      readBody Record.CompileReport.layout.decode
        (Text.encode (Record.CompileReport.layout.encode report).render) = .ok report

theorem isShown_of_keepsInstant {c : Cluster} (hc : c.KeepsInstant) : IsShown c := by
  obtain ⟨record, hrecord⟩ := Exchange.Cluster.exists_toRecord (Cluster.keepsInstant_iff.1 hc)
  exact ⟨record, hrecord, fun _ hm =>
    Exchange.Cluster.exists_shown_report (Cluster.keepsInstant_iff.1 hc) hrecord hm⟩

/-- A request that asks for an errand is answered whatever is stored. -/
structure Withstands (w : World) (s : Setting) (r : Http.Request) (e : Errand) : Prop where
  /-- An internal error is a client that could not be built. -/
  refused : ∀ refusal w', w.run (authenticate s r (Route.of? r.path)).run = (.error refusal, w') →
    refusal.status = 500 → ∃ error, refusal = .client error ∧ w.outage = some error
  /-- So there is none while clients can be built. -/
  answered : w.outage = none → (w.run (respond s r)).1.status ≠ 500
  /-- A cluster that is there is shown. -/
  got : ∀ token x id c, r.ActsAs (some token) → w.outage = none → e = .getCluster x id →
    w.store.clusters.get? id = some c →
    ∃ record, Clusters.show? x.base x.now c = .ok record ∧
      (w.run (respond s r)).1 = finish r (Route.of? r.path) (clusterResponse 200 record)
  /-- All clusters that are asked for are listed. -/
  listed : ∀ token x q, r.ActsAs (some token) → w.outage = none → e = .listClusters x q →
    ∃ records, (w.store.clustersOf (q.tenant.filter (fun t => !t.isEmpty))).mapM
        (Clusters.show? x.base x.now) = .ok records ∧
      (w.run (respond s r)).1 = finish r (Route.of? r.path)
        (.json 200 (.array ((Record.sortClusters (q.sortBy.getD .id) records).map
          Record.Cluster.layout.encode)))

section Requests

variable {w : World} {s : Setting} {r : Http.Request} {e : Errand} {token : String}

theorem withstands (hs : w.store.IsSound) (hdated : w.store.IsDated) (he : errand? s r = some e) :
    Withstands w s r e where
  refused := by
    intro refusal w' hrun hstatus
    have hends := leads_authenticate_noFault hs hdated he
    unfold Leads at hends
    rw [hrun] at hends
    exact hends.resolve_left (fun hne => hne hstatus)
  answered := by
    intro hfree
    rcases (leads_authenticate_noFault hs hdated he).respond with
      ⟨refusal, hblameless, hresponse⟩ | ⟨response, hdone, hresponse⟩
    · have hstatus : (w.run (respond s r)).1.status = refusal.status :=
        congrArg Response.status hresponse
      rw [hstatus]
      refine hblameless.resolve_right ?_
      rintro ⟨error, -, houtage⟩
      rw [hfree] at houtage
      cases houtage
    · rw [hresponse]
      exact Nat.ne_of_lt (Nat.lt_trans hdone (by decide))
  got := by
    rintro token x id c hacts hfree rfl hget
    have hends : ∀ client w', w'.store = w.store → Leads w' (fun _ _ => False)
        (fun record _ => Clusters.show? x.base x.now c = .ok record) (Clusters.get x client id) :=
      fun client w' hstore => (leads_getCluster_found (hstore ▸ hget) (hdated id c hget)).mono
        (fun _ _ h => h) (fun _ _ h => h.1)
    exact respond_of_done he ⟨.cluster, fun _ => rfl, fun _ => rfl⟩ hacts (Or.inr hfree) hends
  listed := by
    rintro token x q hacts hfree rfl
    have hends : ∀ client w', w'.store = w.store → Leads w' (fun _ _ => False)
        (fun shown _ => ∃ records, (w.store.clustersOf (q.tenant.filter (fun t => !t.isEmpty))).mapM
          (Clusters.show? x.base x.now) = .ok records ∧
          shown = Record.sortClusters (q.sortBy.getD .id) records) (Clusters.list x client q) := by
      intro client w' hstore
      rw [← hstore] at hdated ⊢
      exact leads_listClusters hdated x q
    obtain ⟨_, ⟨records, hrecords, rfl⟩, hresponse⟩ := respond_of_done he
      ⟨.clusters, fun _ => rfl, fun _ => rfl⟩ hacts (Or.inr hfree) hends
    exact ⟨records, hrecords, hresponse⟩

end Requests
end Service

/-! ### Result -/

/-- A stored cluster is shown, if only the instant of its last compilation survives its text form, and
the report that is shown stands for the compile metadata that are stored.  So whatever is stored, and
whatever requests have been answered since: no request is refused with an internal error while clients
can be built, every stored cluster can be got, and all of them can be listed. -/
theorem stored_clusters_shown {start : World} (hbuilt : start.store.Built)
    (hkeeps : ∀ name c, start.store.clusters.get? name = some c → c.KeepsInstant)
    (turns : List Turn) :
    (∀ c : Cluster, c.KeepsInstant → IsShown c) ∧
    ∀ s r e, errand? s r = some e → Withstands (start.after turns) s r e := by
  have hdated : start.store.IsDated := fun name c hget => Cluster.keepsInstant_iff.1 (hkeeps name c hget)
  refine ⟨fun c => isShown_of_keepsInstant, fun s r e he => ?_⟩
  exact withstands (isSound_after hbuilt.isSound turns) (isDated_after hbuilt.isSound hdated turns) he

/-! #### A cluster with all that can be reported -/

namespace Service.Reported

def version : VersionInfo := ⟨"https://git.vshn.net/syn/commodore.git", "abc", "v1.0", ""⟩

def compiled : CompileMeta where
  lastCompile := some ⟨1700000000, 0⟩
  buildInfo := some ⟨"v1.25.0", "def"⟩
  global := some version
  instances := .ofList [("argocd", ⟨"argocd", version⟩), ("lastCompile", ⟨"", {}⟩)]
  packages := .ofList [("", {})]

def cluster : Cluster where
  metadata := { name := some "c-1" }
  spec := { tenantRef := ⟨"t-1"⟩ }
  status := some { compileMeta := some compiled }

def world : World :=
  { World.empty "fleet" 1 with store := (Memory.writeCluster { ns := "fleet" } cluster).2 }

/-- A client gets the cluster. -/
def request : Http.Request where
  method := "GET"
  path := "/clusters/c-1"
  headers := [("authorization", "Bearer abc")]

def setting : Setting := ⟨{}, ⟨0, 0⟩, fun _ => 0⟩

theorem keepsInstant_cluster : cluster.KeepsInstant := by
  rintro m t ⟨⟩ ⟨⟩
  decide +kernel

theorem stored_clusters_shown_report : world.store.Built ∧
    (∀ name c, world.store.clusters.get? name = some c → c.KeepsInstant) ∧
    (world.run (respond setting request)).1.status = 200 ∧
    ∃ record report, Exchange.Cluster.toRecord cluster = .ok record ∧
      record.properties.compileMeta = some report ∧
      Exchange.Cluster.compileMeta report = .ok compiled := by
  have hbuilt : world.store.Built := .writeCluster _ (.empty "fleet")
  have hkeeps : ∀ name c, world.store.clusters.get? name = some c → c.KeepsInstant := by
    intro name c hget
    have hwritten := (Dict.get?_insert Dict.empty cluster.name _ name).symm.trans hget
    split at hwritten
    · cases hwritten
      exact keepsInstant_cluster
    · cases hwritten
  obtain ⟨hshown, hwithstands⟩ := stored_clusters_shown hbuilt hkeeps []
  have hget : (world.store.clusters.get? "c-1").isSome := by decide +kernel
  obtain ⟨c, hget⟩ := Option.isSome_iff_exists.1 hget
  have hroute : Route.of? request.path = some (.cluster "c-1") := by decide
  have ho : (Route.cluster "c-1").operation? request.method = some (.getCluster "c-1") := by decide
  have hid : pathId? "c-1" = some "c-1" := by decide +kernel
  have herrand : errand? setting request =
      some (.getCluster ⟨{}, baseUrl request, ⟨0, 0⟩, fun _ => 0⟩ "c-1") := by
    simp [errand?, operationErrand?, hroute, ho, hid, setting]
  have hacts : request.ActsAs (some "abc") :=
    ⟨by decide, Http.Request.presents_iff.2 (by decide +kernel)⟩
  obtain ⟨_, -, hresponse⟩ := (hwithstands _ _ _ herrand).got "abc" _ _ c hacts rfl rfl hget
  obtain ⟨record, hrecord, hreport⟩ := hshown cluster keepsInstant_cluster
  obtain ⟨report, hsome, hmeta, -⟩ := hreport compiled rfl
  exact ⟨hbuilt, hkeeps, congrArg Response.status hresponse, record, report, hrecord, hsome, hmeta⟩

end Service.Reported
end Fleet
