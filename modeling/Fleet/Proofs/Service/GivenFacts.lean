import Fleet.Proofs.Exchange.GivenBack
import Fleet.Proofs.Service.Respond
import Fleet.Proofs.Service.Sparing

/-! # Stored facts are printed

Dynamic facts come from the bodies of requests, and what is read from a text is not nested too deep
(`fits_of_errand?`).  So the dynamic facts of stored clusters are texts that have been printed of such
values (`upholds_hasPrintedFacts`). -/

namespace Fleet

open Json Resource Store

/-! ### Facts in bodies -/

theorem Facts.fit_of_encode {facts : Facts} (h : (Facts.codec.encode facts).Fits depthLimit) :
    facts.Fit := by
  intro name v hv
  have hget : (facts.map Codec.any.encode).get? name = some v := by
    rw [Dict.get?_map, hv]
    rfl
  have hfits : v.Fits (depthLimit - 1) :=
    fitsMembers_iff.1 h.2.2 _ (Dict.get?_eq_some_iff.1 hget)
  exact hfits.mono (Nat.sub_le _ _)

/-- A body that is read is a text that is read. -/
theorem Service.decodeText_of_readBody {α : Type} {decode : Decoder α} {body : List UInt8} {a : α}
    (h : readBody decode body = .ok a) : decodeText decode (.ofBytes body) = .ok a := by
  unfold readBody at h
  split at h
  · cases h
  · exact Result.mapError_eq_ok_iff.1 h

theorem Json.Layout.mem_allFields_of_mem_parts {ρ : Type} {l : Layout ρ} {fields : List (Field ρ)}
    (h : fields ∈ l.parts) {f : Field ρ} (hf : f ∈ fields) : f ∈ l.allFields :=
  List.mem_append_right _ (List.mem_flatten.2 ⟨fields, h, hf⟩)

/-- Members that are set aside are no fields. -/
theorem Json.Layout.get_unknown {ρ : Type} {l : Layout ρ} : ∀ keep, l.strict.remainder = some keep →
    ∀ f ∈ l.strict.allFields, ∀ d r, f.get (keep.set d r) = f.get r := by
  intro keep hkeep f hf d r
  cases hkeep
  obtain ⟨fields, hfields, hf⟩ := List.mem_flatten.1 hf
  obtain rfl := List.mem_singleton.1 hfields
  obtain ⟨g, -, rfl⟩ := List.mem_map.1 hf
  rfl

open Service

namespace Record

theorem ClusterProperties.fit_of_keepsAll {p : ClusterProperties} {depth : Nat}
    (hdepth : depth ≤ depthLimit) (h : Layout.KeepsAll layout.blank layout.fields depth p)
    {facts : Facts} (hfacts : p.dynamicFacts = some facts) : facts.Fit := by
  have hkeeps : (Field.optional "dynamicFacts" Facts.codec (·.dynamicFacts)
      (fun v (r : ClusterProperties) => { r with dynamicFacts := v })).Keeps layout.blank depth
      p.dynamicFacts :=
    h _ (List.mem_cons_of_mem _ (List.mem_cons_of_mem _ (List.mem_cons_of_mem _
      List.mem_cons_self)))
  rw [hfacts] at hkeeps
  exact Facts.fit_of_encode ((hkeeps.of_encode rfl).1.mono hdepth)

/-- The dynamic facts of a cluster that was read fit. -/
theorem Cluster.fit_of_readBody {body : List UInt8} {c : Cluster}
    (h : readBody layout.decode body = .ok c) {facts : Facts}
    (hfacts : c.properties.dynamicFacts = some facts) : facts.Fit := by
  obtain ⟨d, hd, h⟩ := decode_of_decodeText (decodeText_of_readBody h)
  have hall := Layout.keepsAll_of_decode lawful nofun (stable_fields 0) (Nat.le_add_left 1 125) hd h
  refine ClusterProperties.fit_of_keepsAll (Nat.le_succ 126) (fun f hf => ?_) hfacts
  exact hall _ (Layout.mem_allFields_of_mem_parts
    (List.mem_cons_of_mem _ (List.mem_cons_of_mem _ List.mem_cons_self)) (List.mem_map_of_mem hf))

theorem ClusterProperties.lawful_strict : Layout.LawfulFields layout.strict.allFields := by
  simp [layout, Layout.strict, Layout.allFields, Field.optional, Field.within]

/-- The dynamic facts of properties that were read, with no other fields among them, have been
read. -/
theorem ClusterProperties.fit_of_readStrict {body : List UInt8} {p : ClusterProperties}
    (h : readStrict layout body = .ok p) {facts : Facts} (hfacts : p.dynamicFacts = some facts) :
    facts.Fit := by
  obtain ⟨⟨p', unknown⟩, hbody, h⟩ := Result.exists_of_bind h
  have hp : p' = p := by
    dsimp only at h
    split at h
    · exact Except.ok.inj h
    · cases h
  subst hp
  obtain ⟨d, hd, h⟩ := decode_of_decodeText (decodeText_of_readBody hbody)
  have hstable : ∀ f ∈ layout.strict.allFields, f.Stable layout.strict.blank 1 :=
    stable_fields_within layout.strict.blank Prod.fst (ClusterProperties.stable_fields 0)
  have hall := Layout.keepsAll_of_decode lawful_strict Layout.get_unknown hstable
    (Nat.le_add_left 1 125) hd h
  refine fit_of_keepsAll (Nat.le_succ 126) (fun f hf => ?_) hfacts
  exact hall _ (Layout.mem_allFields_of_mem_parts List.mem_cons_self (List.mem_map_of_mem hf))

end Record

namespace Service

/-! ### Errands -/

/-- The dynamic facts that an errand sets fit. -/
def Errand.Fits (e : Errand) : Prop :=
  ∀ p, e.properties? = some p → ∀ facts, p.dynamicFacts = some facts → facts.Fit

/-- What a request asks for fits. -/
theorem fits_of_errand? {s : Setting} {r : Http.Request} {e : Errand} (h : errand? s r = some e) :
    e.Fits := by
  obtain ⟨route, -, h⟩ := Option.bind_eq_some_iff.1 h
  obtain ⟨operation, -, h⟩ := Option.bind_eq_some_iff.1 h
  intro p hp facts hfacts
  cases operation with
  | createCluster =>
      obtain ⟨body, -, h⟩ := Option.bind_eq_some_iff.1 h
      obtain ⟨c, hc, h⟩ := Option.bind_eq_some_iff.1 h
      cases h
      cases hp
      exact Record.Cluster.fit_of_readBody (Result.toOption_eq_some_iff.1 hc) hfacts
  | updateCluster raw =>
      obtain ⟨id, -, h⟩ := Option.bind_eq_some_iff.1 h
      obtain ⟨body, -, h⟩ := Option.bind_eq_some_iff.1 h
      obtain ⟨q, hq, h⟩ := Option.bind_eq_some_iff.1 h
      cases h
      cases hp
      exact Record.ClusterProperties.fit_of_readStrict (Result.toOption_eq_some_iff.1 hq) hfacts
  | putCluster raw =>
      obtain ⟨id, -, h⟩ := Option.bind_eq_some_iff.1 h
      obtain ⟨body, -, h⟩ := Option.bind_eq_some_iff.1 h
      obtain ⟨c, hc, h⟩ := Option.bind_eq_some_iff.1 h
      cases h
      cases hp
      exact Record.Cluster.fit_of_readBody (Result.toOption_eq_some_iff.1 hc) hfacts
  | health | metrics => cases h
  | install | listTenants =>
      cases h
      cases hp
  | listClusters =>
      obtain ⟨q, -, h⟩ := Option.bind_eq_some_iff.1 h
      cases h
      cases hp
  | createTenant =>
      obtain ⟨body, -, h⟩ := Option.bind_eq_some_iff.1 h
      obtain ⟨t, -, h⟩ := Option.bind_eq_some_iff.1 h
      cases h
      cases hp
  | getTenant raw | deleteTenant raw | getCluster raw | deleteCluster raw =>
      obtain ⟨id, -, h⟩ := Option.bind_eq_some_iff.1 h
      cases h
      cases hp
  | updateTenant raw | reportCompilation raw =>
      obtain ⟨id, -, h⟩ := Option.bind_eq_some_iff.1 h
      obtain ⟨body, -, h⟩ := Option.bind_eq_some_iff.1 h
      obtain ⟨a, -, h⟩ := Option.bind_eq_some_iff.1 h
      cases h
      cases hp

/-- Whatever a request asks for, if anything, fits. -/
theorem exists_fits_errand (s : Setting) (r : Http.Request) :
    ∃ e : Errand, (errand? s r).getD e = e ∧ e.Fits := by
  cases h : errand? s r with
  | none => exact ⟨.listTenants, rfl, fun p hp => by cases hp⟩
  | some e => exact ⟨e, rfl, fits_of_errand? h⟩

/-! ### Stored facts -/

theorem hasPrintedFacts_of_status_none {c : Cluster} (h : c.status = none) :
    Exchange.Cluster.HasPrintedFacts c := by
  intro name raw hget
  rw [h] at hget
  cases hget

theorem Errand.Prepared.hasPrintedFacts {e : Errand} {c : Cluster} (h : e.Prepared c)
    (he : e.Fits) : Exchange.Cluster.HasPrintedFacts c := by
  have hprepared : ∀ {x : Clusters.Context} {record : Record.Cluster},
      Clusters.prepare x record = .ok c → e.properties? = some record.properties →
        Exchange.Cluster.HasPrintedFacts c := by
    intro x record h hgiven
    obtain ⟨id, -, -, -, htake⟩ := exists_of_prepareCluster h
    have hblank : Exchange.Cluster.HasPrintedFacts (blankCluster id record.tenant) :=
      hasPrintedFacts_of_status_none rfl
    exact hblank.take (he _ hgiven) htake
  cases e with
  | createCluster x record => exact hprepared h rfl
  | putCluster x id record => exact hprepared h rfl
  | _ => cases h

theorem Errand.Observes.hasPrintedFacts {e : Errand} {found c : Cluster} (h : e.Observes found c)
    (he : e.Fits) (hfound : Exchange.Cluster.HasPrintedFacts found) :
    Exchange.Cluster.HasPrintedFacts c := by
  cases e with
  | updateCluster x id p =>
      obtain ⟨base, changed, hbase, htake, rfl⟩ := h
      have hprinted : Exchange.Cluster.HasPrintedFacts base := by
        unfold Exchange.Cluster.HasPrintedFacts at hfound ⊢
        rw [hbase]
        exact hfound
      have hchanged : Exchange.Cluster.HasPrintedFacts changed := hprinted.take (he p rfl) htake
      exact hchanged
  | reportCompilation id report =>
      obtain ⟨m, -, rfl⟩ := h
      exact hfound
  | handshake r now =>
      obtain ⟨token, -, hspent⟩ := h
      obtain ⟨status, t, hstatus, -, -, -, rfl⟩ := exists_of_spend? hspent
      unfold Exchange.Cluster.HasPrintedFacts at hfound ⊢
      rw [hstatus] at hfound
      exact hfound
  | _ =>
      obtain ⟨given, hgiven, rfl⟩ := h
      exact hgiven.hasPrintedFacts he

/-- Errands that fit store facts that have been printed. -/
theorem upholds_hasPrintedFacts :
    UpholdsFor Errand.Fits (fun _ => True) Exchange.Cluster.HasPrintedFacts where
  newTenant _ _ := trivial
  changesTenant _ _ _ := trivial
  newCluster _ h := by
    obtain ⟨x, given, -, -, rfl⟩ := h
    exact hasPrintedFacts_of_status_none rfl
  rewrites _ _ hfound := hfound
  observes he h hfound := h.hasPrintedFacts he hfound
  stampTenant _ _ _ := trivial
  stampCluster _ _ h := h

end Service
end Fleet
