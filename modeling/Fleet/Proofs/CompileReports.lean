import Fleet.Proofs.DesiredState
import Fleet.Proofs.Exchange.Blame
import Fleet.Proofs.Service.Cached
import Fleet.Proofs.Service.ReportBody
import Fleet.Proofs.Store.Revisions

/-! # Compilations are reported in two ways

A compilation is reported by posting the report, or by patching the cluster with a body that names
nothing but the report.  The first way reads the cluster and writes what is observed of it, and the
second one takes properties over and writes twice.  Still they come to the same: the report is refused
either way and nothing is changed, or it replaces the compile metadata of the cluster as a whole and
nothing else.  Only the length of the bodies tells the two ways apart: one that is too long is not
received.

Main statement: `reports_agree`. -/

namespace Fleet

open Credential Http Json Resource Service Store

namespace Service

/-! ### What is reported -/

/-- The compile metadata that are stored for the report in a body, if it can be taken over. -/
def persisted? (body : List UInt8) : Option CompileMeta :=
  (readBody Record.CompileReport.layout.decode body).toOption.bind fun report =>
    (Exchange.Cluster.compileMeta report).toOption

/-- A cluster as it is stored after a compilation of it was reported: the compile metadata are the ones
of the report, and nothing else changes but the revision. -/
def IsReported (m : CompileMeta) (found stored : Cluster) : Prop :=
  ∃ revision, stored = { found with
    metadata := { found.metadata with revision := revision }
    status := some {
      bootstrapToken := found.bootstrapToken?
      facts := (found.status.getD {}).facts
      compileMeta := some m } }

/-- The cluster with the compile metadata of a report. -/
def withReport (m : CompileMeta) (c : Cluster) : Cluster :=
  Exchange.Cluster.setStatus (fun v s => { s with compileMeta := some v }) m c

theorem status_withReport (m : CompileMeta) (c : Cluster) : (withReport m c).status = some {
    bootstrapToken := c.bootstrapToken?
    facts := (c.status.getD {}).facts
    compileMeta := some m } := by
  obtain ⟨metadata, spec, status⟩ := c
  cases status <;> rfl

theorem result_take_onlyReport (report : Record.CompileReport) (c : Cluster) :
    (Exchange.Cluster.take (onlyReport report)).result c =
      (Exchange.Cluster.compileMeta report).map (fun m => withReport m c) := by
  have htake : (Exchange.Cluster.take (onlyReport report)).result c =
      Exchange.Cluster.compileMeta report >>= fun m => pure (Exchange.Cluster.amended
        (onlyReport report) c.spec.gitRepoTemplate (some m) c) := by
    rw [Exchange.Cluster.result_take]
    change ((some report).mapM Exchange.Cluster.compileMeta >>= fun m => _) = _
    rw [Option.mapM_some]
    cases Exchange.Cluster.compileMeta report <;> rfl
  rw [htake]
  cases Exchange.Cluster.compileMeta report <;> rfl

theorem isDated_withReport {report : Record.CompileReport} {m : CompileMeta}
    (h : Exchange.Cluster.compileMeta report = .ok m) (c : Cluster) : (withReport m c).IsDated := by
  rintro m' t hm ht
  cases hm
  exact (Exchange.Cluster.lastCompile_of_compileMeta h).2 t ht

/-! ### Both ways -/

section Ways

variable {w : World} {client : Client} {id : String} {found : Cluster}

/-- The observed state of a cluster that is there is written if no conflict is to come. -/
theorem leads_writeCompileMeta (hcalm : w.store.conflicts = 0)
    (hget : w.store.clusters.get? id = some found) (hname : found.name = id) (m : CompileMeta) :
    Leads w (fun _ _ => False)
      (fun _ w' => ∃ stored, w'.store.clusters.get? id = some stored ∧ IsReported m found stored)
      (ExceptT.mk (Clusters.writeCompileMeta client id m)) := by
  have hread : (w.store.answer (.getCluster id)).1 = .ok found := by
    simp only [Memory.answer, hget]
    rfl
  have hanswer : w.store.answer (.updateClusterStatus (withReport m found)) =
      Memory.written (w.store.writeObserved id found (withReport m found).status) := by
    subst hname
    have hanswer := Memory.answer_updateClusterStatus_current (c := withReport m found) hget rfl
    rwa [hcalm, if_neg (Nat.lt_irrefl 0)] at hanswer
  have hdone : IsReported m found (w.store.observed found (withReport m found).status) :=
    ⟨_, congrArg (fun status => { found with
      metadata := { found.metadata with revision := some (toString (w.store.revision + 1)) }
      status := status }) (status_withReport m found)⟩
  refine leads_retryOnce (Leads.mono (R := fun _ _ => False) (leads_call_bind ?_)
    (fun _ _ hfalse => hfalse.elim) (fun _ _ hdone => hdone))
  rw [hread]
  refine leads_call (c := .updateClusterStatus (withReport m found)) ?_ ?_
  · intro error herror
    have hwrite : (w.store.answer (.updateClusterStatus (withReport m found))).1 = .error error :=
      herror
    rw [hanswer] at hwrite
    cases hwrite
  · intro _ _
    have hstore : ((w.afterCall (.getCluster id)).afterCall
        (.updateClusterStatus (withReport m found))).store =
          (w.store.writeObserved id found (withReport m found).status).2 := congrArg Prod.snd hanswer
    rw [hstore]
    exact ⟨_, (Dict.get?_insert _ _ _ _).trans (if_pos rfl), hdone⟩

/-- A report of a cluster that is there is stored if no conflict is to come. -/
theorem leads_reportCompilation {report : Record.CompileReport} {m : CompileMeta}
    (hcalm : w.store.conflicts = 0) (hget : w.store.clusters.get? id = some found)
    (hname : found.name = id) (hm : Exchange.Cluster.compileMeta report = .ok m) :
    Leads w (fun _ _ => False)
      (fun _ w' => ∃ stored, w'.store.clusters.get? id = some stored ∧ IsReported m found stored)
      (Clusters.reportCompilation client id report) := by
  unfold Clusters.reportCompilation
  rw [hm]
  refine Leads.bind (M := fun m' w' => m' = m ∧ w' = w) (leads_pure ⟨rfl, rfl⟩) ?_
  rintro _ _ ⟨rfl, rfl⟩
  refine Leads.bind (leads_result (leads_writeCompileMeta hcalm hget hname _)) ?_
  rintro r w' ⟨herror, hok⟩
  refine Leads.bind (M := fun _ w'' => w'' = w' ∧ ∃ stored, r = .ok stored)
    (leads_mapError herror (fun stored hstored => ⟨rfl, stored, hstored⟩)) ?_
  rintro _ _ ⟨rfl, stored, hstored⟩
  exact leads_pure (hok stored hstored)

/-- Whatever a program does, objects are stamped by the store that they are in. -/
theorem stamped_run {α : Type} (p : Work α) (h : w.store.IsStamped) :
    (w.run p).2.store.IsStamped ∧ (w.run p).2.store.ns = w.store.ns := by
  induction p generalizing w with
  | done a => exact ⟨h, rfl⟩
  | act action next ih =>
      have hstep : (w.answer action).2.store.IsStamped ∧ (w.answer action).2.store.ns = w.store.ns := by
        cases action with
        | call _ c =>
            have hedits := Memory.edits_answer w.store c
            exact ⟨h.edits hedits, hedits.ns⟩
        | lookup | count | readCounters => exact ⟨h, rfl⟩
        | build token => exact (Workshop.store_build w (some token)).symm ▸ ⟨h, rfl⟩
        | remember token client => exact (Workshop.store_remember w token client).symm ▸ ⟨h, rfl⟩
        | ownClient => exact (Workshop.store_ownClient w).symm ▸ ⟨h, rfl⟩
      obtain ⟨hstamped, hns⟩ := ih (w.answer action).1 hstep.1
      exact ⟨hstamped, hns.trans hstep.2⟩

theorem leads_stamped {α ε : Type} {t : ExceptT ε Work α} (h : w.store.IsStamped) :
    Leads w (fun _ _ => True) (fun _ w' => w'.store.IsStamped ∧ w'.store.ns = w.store.ns) t := by
  have hstamped := stamped_run t.run h
  unfold Leads
  generalize w.run t.run = ended at hstamped
  obtain ⟨result, w'⟩ := ended
  cases result with
  | error e => trivial
  | ok a => exact hstamped

theorem isReported_of_isWritten {m : CompileMeta} {stored : Cluster} {before after : Memory}
    (hbefore : before.IsStamped) (hafter : after.IsStamped) (hns : after.ns = before.ns)
    (hget : before.clusters.get? id = some found) (hstored : after.clusters.get? id = some stored)
    (h : IsWritten (withReport m found) stored) : IsReported m found stored := by
  have hfound : found.metadata.ns = some before.ns :=
    hbefore.ns .cluster id _ (by rw [Memory.metadata?, hget, Option.map_some])
  have hsame : stored.metadata.ns = some after.ns :=
    hafter.ns .cluster id _ (by rw [Memory.metadata?, hstored, Option.map_some])
  obtain ⟨ns, revision, rfl⟩ := h
  refine ⟨revision, ?_⟩
  have hns : ns = found.metadata.ns := hsame.trans ((congrArg some hns).trans hfound.symm)
  rw [← status_withReport, hns]
  rfl

/-- A report that is no compile metadata is not taken over. -/
theorem leads_updateReport_refused {x : Clusters.Context} {report : Record.CompileReport}
    {e : Exchange.ChangeError} (hget : w.store.clusters.get? id = some found)
    (hm : Exchange.Cluster.compileMeta report = .error e) :
    Leads w (fun r w' => r = .change e ∧ w' = w) (fun _ _ => False)
      (Clusters.update x client id (onlyReport report)) := by
  have htake : (Exchange.Cluster.take (onlyReport report)).result found = .error e := by
    rw [result_take_onlyReport, hm]
    rfl
  unfold Clusters.update
  refine Leads.bind (leads_found hget) ?_
  rintro c w' ⟨hc, rfl⟩
  rw [hc, htake]
  exact ⟨rfl, rfl⟩

/-- A cluster that is there takes a report over if no conflict is to come. -/
theorem leads_updateReport {x : Clusters.Context} {report : Record.CompileReport} {m : CompileMeta}
    (hstamped : w.store.IsStamped) (hcalm : w.store.conflicts = 0)
    (hget : w.store.clusters.get? id = some found) (hname : found.name = id)
    (hm : Exchange.Cluster.compileMeta report = .ok m) :
    Leads w (fun _ _ => False)
      (fun _ w' => ∃ stored, w'.store.clusters.get? id = some stored ∧ IsReported m found stored)
      (Clusters.update x client id (onlyReport report)) := by
  have htake : (Exchange.Cluster.take (onlyReport report)).result found = .ok (withReport m found) := by
    rw [result_take_onlyReport, hm]
    rfl
  have hchanged : w.store.clusters.get? (withReport m found).name = some found := by
    rw [← hget, ← hname]
    rfl
  unfold Clusters.update
  refine Leads.bind (leads_found hget) ?_
  rintro c w' ⟨hc, rfl⟩
  rw [hc, htake]
  have hwrites : Leads w' (fun (_ : Refusal) _ => False)
      (fun stored w₁ => w₁.store.clusters.get? id = some stored ∧
        IsWritten (withReport m found) stored ∧ IsReported m found stored)
      (Task.ask client (.updateCluster (withReport m found)) >>= fun updated =>
        Clusters.writeStatus client updated (withReport m found).status) := by
    refine ((Errand.leads_rewrite hchanged rfl).and (leads_stamped hstamped)).mono ?_ ?_
    · rintro r w₁ ⟨⟨-, -, hconflicts, -⟩, -⟩
      rw [hcalm] at hconflicts
      exact Nat.lt_irrefl 0 hconflicts
    · rintro stored w₁ ⟨⟨hstored, hwritten⟩, hafter, hns⟩
      rw [status_withReport, Option.some_or, ← status_withReport] at hwritten
      have hstored : w₁.store.clusters.get? id = some stored := hname ▸ hstored
      exact ⟨hstored, hwritten, isReported_of_isWritten hstamped hafter hns hget hstored hwritten⟩
  refine Leads.assoc (Leads.bind hwrites ?_)
  rintro stored w₁ ⟨hstored, hwritten, hreported⟩
  exact Errand.leads_render (hwritten.isDated (isDated_withReport hm found))
    (fun _ _ => ⟨stored, hstored, hreported⟩)

end Ways

/-! ### Requests -/

/-- How a report ends on a cluster that was found: with a status if it is stored as compile metadata,
else with the status of a bad request. -/
def EndsReport (id : String) (found : Cluster) (done : Nat) (reported : Option CompileMeta)
    (m : Memory) (status : Nat) (m' : Memory) : Prop :=
  match reported with
  | some compiled => status = done ∧
      ∃ stored, m'.clusters.get? id = some stored ∧ IsReported compiled found stored
  | none => status = 400 ∧ m' = m

section Requests

variable {w : World} {s : Setting} {r : Http.Request} {id token : String} {found : Cluster}
  {client : Client}

theorem status_of_compileMeta {report : Record.CompileReport} {e : Exchange.ChangeError}
    (h : Exchange.Cluster.compileMeta report = .error e) : (Refusal.change e).status = 400 :=
  if_pos (Exchange.Cluster.blamesClient_compileMeta report e h)

/-- A report that is posted. -/
theorem leads_post (h : Asks r .reportCompilation id) (hreceived : r.body.length ≤ bodyLimit)
    (hcalm : w.store.conflicts = 0)
    (hget : w.store.clusters.get? id = some found) (hname : found.name = id) :
    Leads w (fun e w' => EndsReport id found 204 (persisted? r.body) w.store e.status w'.store)
      (fun response w' =>
        EndsReport id found 204 (persisted? r.body) w.store response.status w'.store)
      (Service.serve s r (Route.of? r.path) (some client)) := by
  obtain ⟨raw, hid, hserve⟩ := h.serve s
  rw [hserve]
  dsimp only [serveCaller, withId, withBody]
  rw [hid, receivedBody?_of_le hreceived]
  dsimp only
  unfold persisted?
  cases hread : readBody Record.CompileReport.layout.decode r.body with
  | error e => exact ⟨status_of_readBody hread, rfl⟩
  | ok report =>
      change Leads w _ _ (Clusters.reportCompilation client id report >>= fun _ =>
        pure (Response.bare 204))
      rw [Except.toOption, Option.bind_some]
      cases hm : Exchange.Cluster.compileMeta report with
      | error e =>
          unfold Clusters.reportCompilation
          rw [hm]
          exact ⟨status_of_compileMeta hm, rfl⟩
      | ok m =>
          refine Leads.bind ((leads_reportCompilation hcalm hget hname hm).mono
            (fun _ _ hfalse => hfalse.elim) (fun _ _ hdone => hdone)) ?_
          intro _ w' hdone
          exact leads_pure ⟨rfl, hdone⟩

/-- A report that patches a cluster. -/
theorem leads_patch {alone : List UInt8} {members} (h : Asks r .updateCluster id)
    (hreceived : r.body.length ≤ bodyLimit) (hnames : NamesReport members alone r.body)
    (hstamped : w.store.IsStamped) (hcalm : w.store.conflicts = 0) (hget : w.store.clusters.get? id = some found)
    (hname : found.name = id) :
    Leads w (fun e w' => EndsReport id found 200 (persisted? alone) w.store e.status w'.store)
      (fun response w' =>
        EndsReport id found 200 (persisted? alone) w.store response.status w'.store)
      (Service.serve s r (Route.of? r.path) (some client)) := by
  obtain ⟨raw, hid, hserve⟩ := h.serve s
  rw [hserve]
  dsimp only [serveCaller, withId, withBody]
  rw [hid, receivedBody?_of_le hreceived]
  dsimp only
  unfold persisted?
  cases hread : readBody Record.CompileReport.layout.decode alone with
  | error e =>
      obtain ⟨e', hpatch, hstatus⟩ := hnames.readStrict_of_error hread
      rw [hpatch]
      exact ⟨hstatus, rfl⟩
  | ok report =>
      rw [hnames.readStrict_of_ok hread]
      change Leads w _ _ (Clusters.update (contextOf s r) client id (onlyReport report) >>=
        fun c => pure (clusterResponse 200 c))
      rw [Except.toOption, Option.bind_some]
      cases hm : Exchange.Cluster.compileMeta report with
      | error e =>
          refine Leads.bind ((leads_updateReport_refused hget hm).mono ?_
            (fun _ _ hfalse => hfalse)) (fun _ _ hfalse => hfalse.elim)
          rintro _ _ ⟨rfl, rfl⟩
          exact ⟨status_of_compileMeta hm, rfl⟩
      | ok m =>
          refine Leads.bind ((leads_updateReport hstamped hcalm hget hname hm).mono
            (fun _ _ hfalse => hfalse.elim) (fun _ _ hdone => hdone)) ?_
          intro c w' hdone
          exact leads_pure ⟨rfl, hdone⟩

/-- A caller whose request ends in a way. -/
theorem endsReport_respond {done : Nat} {reported : Option CompileMeta} (hacts : r.ActsAs (some token))
    (hclient : w.HasClient token)
    (h : ∀ client w', w'.store = w.store → Leads w'
      (fun e w'' => EndsReport id found done reported w.store e.status w''.store)
      (fun response w'' => EndsReport id found done reported w.store response.status w''.store)
      (Service.serve s r (Route.of? r.path) (some client))) :
    EndsReport id found done reported w.store (w.run (respond s r)).1.status
      (w.run (respond s r)).2.store := by
  rcases (leads_client hacts hclient h).respond with ⟨e, hrefused, hresponse⟩ | ⟨response, hdone, hresponse⟩
  · rw [hresponse]
    exact hrefused
  · rw [hresponse]
    exact hdone

end Requests
end Service

/-- A compilation of a stored cluster is reported in two ways, while no conflict is to come: the report
is posted, or the cluster is patched with a body that names nothing but the report.  If both bodies are
received, then either the report is refused both times, and nothing is changed; or it is taken both
times, and the cluster is stored with the compile metadata of the report in place of the ones before,
and otherwise as it was but for its revision.  A body that is too long is answered 413, and nothing is
changed. -/
theorem reports_agree {w : World} (hbuilt : w.store.Built) (hcalm : w.store.conflicts = 0)
    {s s' : Setting} {post patch : Http.Request} {id : String}
    (hpost : Asks post .reportCompilation id) (hpatch : Asks patch .updateCluster id)
    (hcaller : ∀ token, patch.Presents token ↔ post.Presents token)
    (hclient : ∀ token, post.Presents token → w.HasClient token)
    {members : List (Except SyntaxError String × Document)}
    (hnames : NamesReport members post.body patch.body) {found : Cluster}
    (hget : w.store.clusters.get? id = some found) :
    let posted := w.run (respond s post)
    let patched := w.run (respond s' patch)
    (post.body.length ≤ bodyLimit → patch.body.length ≤ bodyLimit →
      (posted.1.status = 400 ∧ patched.1.status = 400 ∧
        posted.2.store = w.store ∧ patched.2.store = w.store) ∨
      (posted.1.status = 204 ∧ patched.1.status = 200 ∧ ∃ report m stored stored',
        readBody Record.CompileReport.layout.decode post.body = .ok report ∧
        Exchange.Cluster.compileMeta report = .ok m ∧
        posted.2.store.clusters.get? id = some stored ∧ IsReported m found stored ∧
        patched.2.store.clusters.get? id = some stored' ∧
        stored' = { stored with
          metadata := { stored.metadata with revision := stored'.metadata.revision } })) ∧
    ∀ token, post.Presents token →
      (bodyLimit < post.body.length → posted.1.status = 413 ∧ posted.2.store = w.store) ∧
      (bodyLimit < patch.body.length → patched.1.status = 413 ∧ patched.2.store = w.store) := by
  intro posted patched
  have hname : found.name = id := hbuilt.isSound.clusters.named id found hget
  have haccess : Access.of post.path = .caller := hpost.access (fun _ => rfl)
  have haccess' : Access.of patch.path = .caller := hpatch.access (fun _ => rfl)
  refine ⟨fun hreceived hreceived' => ?_, fun token htoken => ⟨fun hlong => ?_, fun hlong => ?_⟩⟩
  · by_cases htoken : ∃ token, post.Presents token
    · obtain ⟨token, htoken⟩ := htoken
      have hposted : EndsReport id found 204 (persisted? post.body) w.store posted.1.status
          posted.2.store := endsReport_respond ⟨haccess, htoken⟩ (hclient token htoken)
        (fun client w' hstore => by
        rw [← hstore] at hcalm hget ⊢
        exact leads_post hpost hreceived hcalm hget hname)
      have hpatched : EndsReport id found 200 (persisted? post.body) w.store patched.1.status
          patched.2.store := endsReport_respond ⟨haccess', (hcaller token).2 htoken⟩
        (hclient token htoken) (fun client w' hstore => by
          have hstamped := hbuilt.isStamped
          rw [← hstore] at hcalm hget hstamped ⊢
          exact leads_patch hpatch hreceived' hnames hstamped hcalm hget hname)
      cases hreported : persisted? post.body with
      | none =>
          rw [hreported] at hposted hpatched
          exact Or.inl ⟨hposted.1, hpatched.1, hposted.2, hpatched.2⟩
      | some m =>
          rw [hreported] at hposted hpatched
          obtain ⟨report, hreport, hm⟩ := Option.bind_eq_some_iff.1 hreported
          obtain ⟨h204, stored, hstored, hsame⟩ := hposted
          obtain ⟨h200, stored', hstored', revision', rfl⟩ := hpatched
          refine Or.inr ⟨h204, h200, report, m, stored, _, Result.toOption_eq_some_iff.1 hreport,
            Result.toOption_eq_some_iff.1 hm, hstored, hsame, hstored', ?_⟩
          obtain ⟨revision, rfl⟩ := hsame
          rfl
    · have hmissing := respond_missing s haccess (fun token h => htoken ⟨token, h⟩)
      have hmissing' := respond_missing s' haccess'
        (fun token h => htoken ⟨token, (hcaller token).1 h⟩)
      refine Or.inl ?_
      unfold posted patched
      rw [hmissing, hmissing']
      exact ⟨rfl, rfl, rfl, rfl⟩
  · exact hpost.respond_tooLong (fun raw hid => Option.isSome_iff_exists.2 ⟨id, hid⟩)
      ⟨haccess, htoken⟩ (hclient token htoken) hlong
  · exact hpatch.respond_tooLong (fun raw hid => Option.isSome_iff_exists.2 ⟨id, hid⟩)
      ⟨haccess', (hcaller token).2 htoken⟩ (hclient token htoken) hlong

/-! #### A report with odd members -/

namespace Service.Reporting

/-- What is reported: a field that is unknown, one without a value, one as a list, and no packages. -/
def reported : Dict Value := .ofList [
  ("global", .array [.string "https://git.vshn.net/global.git"]),
  ("lastCompile", .string "2024-02-29T12:00:00Z"),
  ("steps", .array [.null]),
  ("tenant", .null)]

/-- The cluster reported a package before. -/
def cluster : Cluster where
  metadata := { name := some "c-1" }
  spec := { tenantRef := ⟨"t-1"⟩ }
  status := some {
    bootstrapToken := some ⟨"abc", true, ⟨4102444800, 0⟩⟩
    facts := .ofList [("nodes", "3")]
    compileMeta := some { packages := .ofList [("monitoring", {})] } }

def world : World :=
  { World.empty "fleet" 1 with store := (Memory.writeCluster { ns := "fleet" } cluster).2 }

def setting : Setting := ⟨{}, ⟨0, 0⟩, fun _ => 0⟩

def post : Http.Request where
  method := "POST"
  path := "/clusters/c-1/compileMeta"
  headers := [("authorization", "Bearer abc")]
  body := Text.encode (Value.ofDict reported).render

def patch : Http.Request where
  method := "PATCH"
  path := "/clusters/c-1"
  headers := [("authorization", "Bearer abc")]
  body := Text.encode (Value.object [("compileMeta", .ofDict reported)]).render

/-- What is stored of the report. -/
def compiled : CompileMeta where
  lastCompile := some ⟨1709208000, 0⟩
  global := some { url := "https://git.vshn.net/global.git" }

theorem reports_agree_odd : world.store.Built ∧ world.store.conflicts = 0 ∧
    Asks post .reportCompilation "c-1" ∧ Asks patch .updateCluster "c-1" ∧
    NamesReport (Document.ofMembers reported.entries) post.body patch.body ∧
    ∃ found stored stored', world.store.clusters.get? "c-1" = some found ∧
      (world.run (respond setting post)).2.store.clusters.get? "c-1" = some stored ∧
      (world.run (respond setting patch)).2.store.clusters.get? "c-1" = some stored' ∧
      IsReported compiled found stored ∧ stored' = { stored with
        metadata := { stored.metadata with revision := stored'.metadata.revision } } := by
  have hbuilt : world.store.Built := .writeCluster _ (.empty "fleet")
  have hpost : Asks post .reportCompilation "c-1" :=
    ⟨.compileMeta "c-1", "c-1", by decide, by decide, by decide +kernel⟩
  have hpatch : Asks patch .updateCluster "c-1" :=
    ⟨.cluster "c-1", "c-1", by decide, by decide, by decide +kernel⟩
  have hfits : (Value.ofDict reported).Fits (depthLimit - 1) := by
    have hwritten : Value.ofDict reported = .ofMembers _ := (Value.ofMembers_eq _).symm
    rw [hwritten]
    refine Value.fits_ofMembers (by decide) ?_
    simp [Value.Fits, FitsItems, depthLimit]
  have hnames := namesReport_render hfits (Value.survives_of_doubles_nil rfl)
  have hget : (world.store.clusters.get? "c-1").isSome := by decide +kernel
  obtain ⟨found, hget⟩ := Option.isSome_iff_exists.1 hget
  have hstatus : (world.run (respond setting post)).1.status = 204 := by decide +kernel
  have hagree : (_ ∧ (world.run (respond setting patch)).1.status = 400 ∧ _) ∨ _ :=
    (reports_agree (s := setting) hbuilt rfl hpost hpatch (fun _ => Iff.rfl) (fun _ _ => Or.inr rfl)
      hnames hget).1 (by decide +kernel) (by decide +kernel)
  rcases hagree with ⟨hrefused, -⟩ | ⟨-, -, report, m, stored, stored', hread, hm, hstored,
    hreported, hstored', hsame⟩
  · rw [hstatus] at hrefused
    cases hrefused
  · have hcompiled : persisted? post.body = some compiled := by decide +kernel
    unfold persisted? at hcompiled
    rw [hread, Except.toOption, Option.bind_some, hm] at hcompiled
    cases hcompiled
    exact ⟨hbuilt, rfl, hpost, hpatch, hnames, found, stored, stored', hget, hstored, hstored',
      hreported, hsame⟩

/-! #### A report that is too long -/

/-- What is noted is as long as a body may be. -/
def note : String := String.ofList (List.replicate 2097152 'n')

/-- What is reported: a field that is unknown. -/
def noted : Dict Value := .ofList [("note", .string note)]

def longPost : Http.Request := { post with body := Text.encode (Value.ofDict noted).render }

def longPatch : Http.Request :=
  { patch with body := Text.encode (Value.object [("compileMeta", .ofDict noted)]).render }

theorem bodyLimit_lt_longPost : bodyLimit < longPost.body.length := by
  have hnote : note.toList.length = bodyLimit := by
    unfold note
    rw [String.toList_ofList, List.length_replicate]
    rfl
  rw [← hnote]
  exact length_lt_encode_render "note" note []

/-- The report that both bodies name is posted, and is neither refused as a bad request nor taken. -/
theorem long_report_refused : world.store.Built ∧ world.store.conflicts = 0 ∧
    Asks longPost .reportCompilation "c-1" ∧ Asks longPatch .updateCluster "c-1" ∧
    NamesReport (Document.ofMembers noted.entries) longPost.body longPatch.body ∧
    (world.store.clusters.get? "c-1").isSome ∧
    (world.run (respond setting longPost)).1.status = 413 := by
  have hpost : Asks longPost .reportCompilation "c-1" :=
    ⟨.compileMeta "c-1", "c-1", by decide, by decide, by decide +kernel⟩
  have hpatch : Asks longPatch .updateCluster "c-1" :=
    ⟨.cluster "c-1", "c-1", by decide, by decide, by decide +kernel⟩
  have hfits : (Value.ofDict noted).Fits (depthLimit - 1) :=
    ⟨by decide, List.pairwise_singleton _ _, trivial, trivial⟩
  have htoken : longPost.Presents "abc" := Http.Request.presents_iff.2 (by decide +kernel)
  have hlong := hpost.respond_tooLong (s := setting) (w := world)
    (fun raw hid => Option.isSome_iff_exists.2 ⟨"c-1", hid⟩) ⟨hpost.access (fun _ => rfl), htoken⟩
    (Or.inr rfl) bodyLimit_lt_longPost
  have hnames := namesReport_render hfits (Value.survives_of_doubles_nil rfl)
  exact ⟨.writeCluster _ (.empty "fleet"), rfl, hpost, hpatch, hnames,
    by decide +kernel, hlong.1⟩

end Service.Reporting
end Fleet
