import Fleet.Proofs.Exchange.CompileMeta
import Fleet.Proofs.Json.Stable
import Fleet.Record.Tenant

/-! # Wire formats

Tenants and clusters travel as JSON texts, between a client and the service as well as between the
service and its store.  Several texts stand for one record: a field may be left out or given as null,
members may stand in any order and among others, a record without parts may be a list.

Main statement: `read_write_of_read`.  Whatever is read from a text is read again from the text that
it is written as, if the binary64 numbers in it survive their text form, so that a text that was written
once is written the same from then on. -/

namespace Fleet

open Json

attribute [local simp] Layout.allFields Field.required Field.defaulted Field.omitted
  Field.textOrEmpty Field.dictOrEmpty Field.optional Field.within
  Layout.IsDetermined

/-! ### Stored records -/

theorem RepoType.keeps (depth : Nat) (t : RepoType) : RepoType.codec.Keeps depth t :=
  Codec.keeps_choice (fun a => by cases a <;> rfl) depth t

theorem RepoType.stable (levels : Nat) : RepoType.codec.Stable levels :=
  fun depth _ _ t _ _ _ => keeps depth t

namespace Resource

theorem SecretRef.lawful : Layout.LawfulFields layout.allFields := by simp [layout]

theorem SecretRef.determined : layout.IsDetermined := by simp [layout]

theorem SecretRef.stable_fields (levels : Nat) :
    ∀ f ∈ layout.allFields, f.Stable layout.blank levels := by
  refine List.forall_mem_cons.2 ⟨.textOrEmpty rfl, ?_⟩
  refine List.forall_mem_cons.2 ⟨.textOrEmpty rfl, ?_⟩
  exact List.forall_mem_nil _

theorem DeployKey.lawful : Layout.LawfulFields layout.allFields := by simp [layout]

theorem DeployKey.determined : layout.IsDetermined := by simp [layout]

theorem DeployKey.stable (levels : Nat) : layout.codec.Stable (levels + 1) := by
  have hempty : ∀ depth, levels ≤ depth → Codec.text.Keeps depth "" :=
    fun depth _ => Codec.keeps_text depth ""
  refine Layout.stable_codec lawful rfl determined ?_
  refine List.forall_mem_cons.2 ⟨.required (Codec.stable_text _) hempty, ?_⟩
  refine List.forall_mem_cons.2 ⟨.required (Codec.stable_text _) hempty, ?_⟩
  refine List.forall_mem_cons.2
    ⟨.defaulted (Codec.stable_bool _) (fun depth _ => Codec.keeps_bool depth false), ?_⟩
  exact List.forall_mem_nil _

theorem RepoTemplate.lawful : Layout.LawfulFields layout.allFields := by simp [layout]

theorem RepoTemplate.determined : layout.IsDetermined := by simp [layout]

/-- The reference to the secret is written even if it refers to nothing. -/
theorem RepoTemplate.stable (levels : Nat) : layout.codec.Stable (levels + 3) := by
  have hsecret := SecretRef.stable_fields (levels + 1)
  have hnone : ∀ depth, levels + 2 ≤ depth → SecretRef.layout.codec.Keeps depth {} :=
    fun depth hdepth => Layout.keeps_blank SecretRef.lawful rfl SecretRef.determined hsecret hdepth
  refine Layout.stable_codec lawful rfl determined ?_
  refine List.forall_mem_cons.2
    ⟨.defaulted (Layout.stable_codec SecretRef.lawful rfl SecretRef.determined hsecret) hnone, ?_⟩
  refine List.forall_mem_cons.2 ⟨.dictOrEmpty (DeployKey.stable levels) rfl, ?_⟩
  refine List.forall_mem_cons.2 ⟨.textOrEmpty rfl, ?_⟩
  refine List.forall_mem_cons.2 ⟨.textOrEmpty rfl, ?_⟩
  refine List.forall_mem_cons.2
    ⟨.defaulted (RepoType.stable _) (fun depth _ => RepoType.keeps depth .auto), ?_⟩
  refine List.forall_mem_cons.2 ⟨.textOrEmpty rfl, ?_⟩
  exact List.forall_mem_nil _

theorem TenantSpec.lawful : Layout.LawfulFields layout.allFields := by simp [layout]

theorem TenantSpec.determined : layout.IsDetermined := by simp [layout]

theorem TenantSpec.stable (levels : Nat) : layout.codec.Stable (levels + 4) := by
  refine Layout.stable_codec lawful rfl determined ?_
  refine List.forall_mem_cons.2 ⟨.textOrEmpty rfl, ?_⟩
  refine List.forall_mem_cons.2 ⟨.textOrEmpty rfl, ?_⟩
  refine List.forall_mem_cons.2 ⟨.textOrEmpty rfl, ?_⟩
  refine List.forall_mem_cons.2 ⟨.textOrEmpty rfl, ?_⟩
  refine List.forall_mem_cons.2 ⟨.textOrEmpty rfl, ?_⟩
  refine List.forall_mem_cons.2 ⟨.optional (RepoTemplate.stable levels) nofun rfl, ?_⟩
  exact List.forall_mem_nil _

theorem TenantRef.lawful : Layout.LawfulFields layout.allFields := by simp [layout]

theorem TenantRef.determined : layout.IsDetermined := by simp [layout]

theorem TenantRef.stable_fields (levels : Nat) :
    ∀ f ∈ layout.allFields, f.Stable layout.blank levels := by
  refine List.forall_mem_cons.2
    ⟨.defaulted (Codec.stable_text _) (fun depth _ => Codec.keeps_text depth ""), ?_⟩
  exact List.forall_mem_nil _

theorem ClusterSpec.lawful : Layout.LawfulFields layout.allFields := by simp [layout]

theorem ClusterSpec.determined : layout.IsDetermined := by simp [layout]

/-- The reference to the tenant is written even if it refers to nothing. -/
theorem ClusterSpec.stable (levels : Nat) : layout.codec.Stable (levels + 4) := by
  have htenant := TenantRef.stable_fields (levels + 2)
  have hnone : ∀ depth, levels + 3 ≤ depth → TenantRef.layout.codec.Keeps depth {} :=
    fun depth hdepth => Layout.keeps_blank TenantRef.lawful rfl TenantRef.determined htenant hdepth
  refine Layout.stable_codec lawful rfl determined ?_
  refine List.forall_mem_cons.2 ⟨.textOrEmpty rfl, ?_⟩
  refine List.forall_mem_cons.2 ⟨.textOrEmpty rfl, ?_⟩
  refine List.forall_mem_cons.2 ⟨.textOrEmpty rfl, ?_⟩
  refine List.forall_mem_cons.2 ⟨.optional (RepoTemplate.stable levels) nofun rfl, ?_⟩
  refine List.forall_mem_cons.2
    ⟨.defaulted (Layout.stable_codec TenantRef.lawful rfl TenantRef.determined htenant) hnone, ?_⟩
  refine List.forall_mem_cons.2 ⟨.dictOrEmpty (Codec.stable_text (levels + 2)) rfl, ?_⟩
  refine List.forall_mem_cons.2 ⟨.textOrEmpty rfl, ?_⟩
  refine List.forall_mem_cons.2 ⟨.textOrEmpty rfl, ?_⟩
  exact List.forall_mem_nil _

theorem BootstrapToken.lawful : Layout.LawfulFields layout.allFields := by simp [layout]

theorem BootstrapToken.determined : layout.IsDetermined := by simp [layout]

theorem BootstrapToken.stable (levels : Nat) : layout.codec.Stable (levels + 1) := by
  have hepoch : Instant.IsCalendar default := Instant.isCalendar_of_parse
    (show Instant.parse "1970-01-01T00:00:00Z" = .ok default by decide +kernel)
  refine Layout.stable_codec lawful rfl determined ?_
  refine List.forall_mem_cons.2
    ⟨.required (Codec.stable_text _) (fun depth _ => Codec.keeps_text depth ""), ?_⟩
  refine List.forall_mem_cons.2
    ⟨.defaulted (Codec.stable_bool _) (fun depth _ => Codec.keeps_bool depth false), ?_⟩
  refine List.forall_mem_cons.2
    ⟨.required (Codec.stable_instant _) (fun depth _ => Codec.keeps_instant depth hepoch), ?_⟩
  exact List.forall_mem_nil _

theorem BuildInfo.determined : layout.IsDetermined := by simp [layout]

theorem BuildInfo.keeps (depth : Nat) (b : BuildInfo) : layout.codec.Keeps (depth + 1) b := by
  refine Layout.keeps_of_keepsAll lawful rfl determined ?_
  refine List.forall_mem_cons.2 ⟨Field.keeps_textOrEmpty rfl depth _, ?_⟩
  refine List.forall_mem_cons.2 ⟨Field.keeps_textOrEmpty rfl depth _, ?_⟩
  exact List.forall_mem_nil _

theorem BuildInfo.stable (levels : Nat) : layout.codec.Stable (levels + 1) :=
  Codec.stable_of_keeps keeps levels

theorem VersionInfo.determined : layout.IsDetermined := by simp [layout]

theorem VersionInfo.keeps (depth : Nat) (v : VersionInfo) :
    layout.codec.Keeps (depth + 1) v := by
  refine Layout.keeps_of_keepsAll lawful rfl determined ?_
  refine List.forall_mem_cons.2 ⟨Field.keeps_textOrEmpty rfl depth _, ?_⟩
  refine List.forall_mem_cons.2 ⟨Field.keeps_textOrEmpty rfl depth _, ?_⟩
  refine List.forall_mem_cons.2 ⟨Field.keeps_textOrEmpty rfl depth _, ?_⟩
  refine List.forall_mem_cons.2 ⟨Field.keeps_textOrEmpty rfl depth _, ?_⟩
  exact List.forall_mem_nil _

theorem VersionInfo.stable (levels : Nat) : layout.codec.Stable (levels + 1) :=
  Codec.stable_of_keeps keeps levels

theorem InstanceInfo.determined : layout.IsDetermined := by simp [layout, VersionInfo.layout]

theorem InstanceInfo.keeps (depth : Nat) (i : InstanceInfo) :
    layout.codec.Keeps (depth + 1) i := by
  refine Layout.keeps_of_keepsAll lawful rfl determined ?_
  refine List.forall_mem_cons.2 ⟨Field.keeps_textOrEmpty rfl depth _, ?_⟩
  refine List.forall_mem_cons.2 ⟨(Field.keeps_textOrEmpty rfl depth _).within, ?_⟩
  refine List.forall_mem_cons.2 ⟨(Field.keeps_textOrEmpty rfl depth _).within, ?_⟩
  refine List.forall_mem_cons.2 ⟨(Field.keeps_textOrEmpty rfl depth _).within, ?_⟩
  refine List.forall_mem_cons.2 ⟨(Field.keeps_textOrEmpty rfl depth _).within, ?_⟩
  exact List.forall_mem_nil _

theorem InstanceInfo.stable (levels : Nat) : layout.codec.Stable (levels + 1) :=
  Codec.stable_of_keeps keeps levels

theorem CompileMeta.determined : layout.IsDetermined := by simp [layout]

/-- Compile metadata come back if their instant is one of the calendar. -/
theorem CompileMeta.keeps {m : CompileMeta} (h : ∀ t, m.lastCompile = some t → t.IsCalendar)
    (depth : Nat) : layout.codec.Keeps (depth + 3) m := by
  refine Layout.keeps_of_keepsAll lawful rfl determined ?_
  refine List.forall_mem_cons.2
    ⟨Field.keeps_optional nofun rfl (fun t ht => Codec.keeps_instant _ (h t ht)), ?_⟩
  refine List.forall_mem_cons.2
    ⟨Field.keeps_optional nofun rfl (fun b _ => BuildInfo.keeps (depth + 1) b), ?_⟩
  refine List.forall_mem_cons.2
    ⟨Field.keeps_optional nofun rfl (fun v _ => VersionInfo.keeps (depth + 1) v), ?_⟩
  refine List.forall_mem_cons.2
    ⟨Field.keeps_optional nofun rfl (fun v _ => VersionInfo.keeps (depth + 1) v), ?_⟩
  refine List.forall_mem_cons.2
    ⟨Field.keeps_dictOrEmpty rfl (fun e _ => InstanceInfo.keeps depth e.2), ?_⟩
  refine List.forall_mem_cons.2
    ⟨Field.keeps_dictOrEmpty rfl (fun e _ => VersionInfo.keeps depth e.2), ?_⟩
  exact List.forall_mem_nil _

theorem CompileMeta.stable (levels : Nat) : layout.codec.Stable (levels + 3) := by
  refine Layout.stable_codec lawful rfl determined ?_
  refine List.forall_mem_cons.2 ⟨.optional (Codec.stable_instant _) nofun rfl, ?_⟩
  refine List.forall_mem_cons.2 ⟨.optional (BuildInfo.stable (levels + 1)) nofun rfl, ?_⟩
  refine List.forall_mem_cons.2 ⟨.optional (VersionInfo.stable (levels + 1)) nofun rfl, ?_⟩
  refine List.forall_mem_cons.2 ⟨.optional (VersionInfo.stable (levels + 1)) nofun rfl, ?_⟩
  refine List.forall_mem_cons.2 ⟨.dictOrEmpty (InstanceInfo.stable levels) rfl, ?_⟩
  refine List.forall_mem_cons.2 ⟨.dictOrEmpty (VersionInfo.stable levels) rfl, ?_⟩
  exact List.forall_mem_nil _

theorem ClusterStatus.lawful : Layout.LawfulFields layout.allFields := by simp [layout]

theorem ClusterStatus.determined : layout.IsDetermined := by simp [layout]

theorem ClusterStatus.stable (levels : Nat) : layout.codec.Stable (levels + 4) := by
  refine Layout.stable_codec lawful rfl determined ?_
  refine List.forall_mem_cons.2 ⟨.optional (BootstrapToken.stable (levels + 2)) nofun rfl, ?_⟩
  refine List.forall_mem_cons.2 ⟨.dictOrEmpty (Codec.stable_text (levels + 2)) rfl, ?_⟩
  refine List.forall_mem_cons.2 ⟨.optional (CompileMeta.stable levels) nofun rfl, ?_⟩
  exact List.forall_mem_nil _

end Resource

/-! ### Public records -/

theorem Facts.stable (levels : Nat) : Facts.codec.Stable (levels + 1) :=
  (Codec.stable_any levels).dict

namespace Record

theorem GitRepo.lawful : Layout.LawfulFields layout.allFields := by simp [layout]

theorem GitRepo.determined : layout.IsDetermined := by simp [layout]

theorem GitRepo.stable_fields (levels : Nat) :
    ∀ f ∈ layout.allFields, f.Stable layout.blank levels := by
  refine List.forall_mem_cons.2 ⟨.optional (Codec.stable_text _) nofun rfl, ?_⟩
  refine List.forall_mem_cons.2 ⟨.optional (Codec.stable_text _) nofun rfl, ?_⟩
  refine List.forall_mem_cons.2 ⟨.optional (RepoType.stable _) nofun rfl, ?_⟩
  refine List.forall_mem_cons.2 ⟨.optional (Codec.stable_text _) nofun rfl, ?_⟩
  exact List.forall_mem_nil _

/-- The fields of a record inside another one are as stable as they are on their own. -/
theorem stable_fields_within {ρ σ : Type} (blank : ρ) (get : ρ → σ) {set : σ → ρ → ρ} {levels : Nat}
    {fields : List (Json.Field σ)} (h : ∀ f ∈ fields, f.Stable (get blank) levels) :
    ∀ f ∈ fields.map (·.within get set), f.Stable blank levels := by
  intro f hf
  obtain ⟨g, hg, rfl⟩ := List.mem_map.1 hf
  exact (h g hg).within

theorem RevisionedGitRepo.lawful : Layout.LawfulFields layout.allFields := by
  simp [layout, GitRepo.layout]

theorem RevisionedGitRepo.determined : layout.IsDetermined := by simp [layout, GitRepo.layout]

theorem RevisionedGitRepo.stable (levels : Nat) : layout.codec.Stable (levels + 1) := by
  refine Layout.stable_codec lawful rfl determined ?_
  refine List.forall_mem_cons.2 ⟨.optional (Codec.stable_text _) nofun rfl, ?_⟩
  exact stable_fields_within layout.blank repo (GitRepo.stable_fields levels)

theorem TenantProperties.lawful : Layout.LawfulFields layout.allFields := by simp [layout]

theorem TenantProperties.determined : layout.IsDetermined := by simp [layout]

theorem TenantProperties.stable_fields (levels : Nat) :
    ∀ f ∈ layout.allFields, f.Stable layout.blank (levels + 1) := by
  refine List.forall_mem_cons.2 ⟨.optional (Codec.stable_text _) nofun rfl, ?_⟩
  refine List.forall_mem_cons.2 ⟨.optional (Facts.stable levels) nofun rfl, ?_⟩
  refine List.forall_mem_cons.2 ⟨.optional (RevisionedGitRepo.stable levels) nofun rfl, ?_⟩
  refine List.forall_mem_cons.2 ⟨.optional (Codec.stable_text _) nofun rfl, ?_⟩
  refine List.forall_mem_cons.2 ⟨.optional (Codec.stable_text _) nofun rfl, ?_⟩
  exact List.forall_mem_nil _

theorem Tenant.lawful : Layout.LawfulFields layout.allFields := by
  simp [layout, TenantProperties.layout]

theorem Tenant.determined : layout.IsDetermined := by simp [layout, TenantProperties.layout]

theorem Tenant.stable (levels : Nat) : layout.codec.Stable (levels + 2) := by
  refine Layout.stable_codec lawful rfl determined ?_
  refine List.forall_mem_cons.2
    ⟨.defaulted (Codec.stable_text _) (fun depth _ => Codec.keeps_text depth ""), ?_⟩
  exact stable_fields_within layout.blank properties (TenantProperties.stable_fields levels)

/-! ### Compile reports -/

theorem CompileReport.keeps {report : CompileReport} {depth : Nat}
    (hinstant : ∀ t, report.lastCompile = some t → t.IsCalendar)
    (hdetails : report.details.get? "lastCompile" = none)
    (hfits : ∀ e ∈ report.details.entries, e.2.Fits depth) :
    layout.codec.Keeps (depth + 1) report := by
  have hlast : report.members.get? "lastCompile" =
      report.lastCompile.map (fun t => .string t.print) := by
    unfold members
    rw [Dict.get?_overlay, hdetails, Option.none_or]
    cases report.lastCompile <;> simp
  have hothers : report.members.erase "lastCompile" = report.details := by
    apply Dict.ext_get?
    intro key
    rw [Dict.get?_erase]
    by_cases hkey : "lastCompile" = key
    · rw [if_pos hkey, ← hkey, hdetails]
    · unfold members
      rw [if_neg hkey, Dict.get?_overlay]
      cases report.lastCompile <;> simp [hkey]
  have hall : ∀ e ∈ report.members.entries, e.2.Fits depth := by
    intro e he
    have hget := Dict.get?_eq_some_iff.2 he
    by_cases hkey : "lastCompile" = e.1
    · rw [← hkey, hlast] at hget
      obtain ⟨t, -, hv⟩ := Option.map_eq_some_iff.1 hget
      rw [← hv]
      trivial
    · have hin : report.details.get? e.1 = some e.2 := by
        rw [← hothers, Dict.get?_erase, if_neg hkey, hget]
      exact hfits e (Dict.get?_eq_some_iff.1 hin)
  constructor
  · change (layout.encode report).Fits (depth + 1)
    rw [encode_eq]
    exact Value.fits_ofDict hall
  · intro origin
    change layout.decode origin (.ofValue (layout.encode report)) = _
    rw [encode_eq, decode_ofDict origin hlast hinstant hall, hothers]

/-- Members that are kept keep their names. -/
theorem keys_of_toMembers {aside : List (String × Document)} {values : List (String × Value)}
    (h : Document.toMembers (aside.map (fun m => (.ok m.1, m.2))) = .ok values) :
    values.map Prod.fst = aside.map Prod.fst := by
  induction aside generalizing values with
  | nil =>
      cases h
      rfl
  | cons m rest ih =>
      rw [List.map_cons, Document.toMembers] at h
      obtain ⟨k, hk, h⟩ := Result.exists_of_bind h
      obtain ⟨v, -, h⟩ := Result.exists_of_bind h
      obtain ⟨vs, hvs, h⟩ := Result.exists_of_bind h
      cases hk
      cases h
      rw [List.map_cons, List.map_cons, ih hvs]

theorem CompileReport.isCalendar_of_keeps {t : Instant} {depth : Nat}
    (h : lastCompileField.Keeps layout.blank depth (some t)) : t.IsCalendar := by
  have hwritten : lastCompileField.encode (some t) = some (.string t.print) := rfl
  have hread := (h.of_encode hwritten).2 .text
  rw [decode_lastCompileField] at hread
  exact isCalendar_of_instant? (optional_instant_eq_ok hread).symm

/-- What a report keeps besides its instant is never called like the instant. -/
theorem CompileReport.stable (levels : Nat) : layout.codec.Stable (levels + 1) := by
  intro depth origin d report hdepth hd h
  have hfields : ∀ f ∈ [lastCompileField], f.Stable layout.blank levels := by
    refine List.forall_mem_cons.2 ⟨.optional (Codec.stable_instant _) nofun rfl, ?_⟩
    exact List.forall_mem_nil _
  cases hd with
  | @object depth members ending hmembers =>
      have hlevels : levels ≤ depth := Nat.le_of_succ_le_succ hdepth
      have hblank : Layout.KeepsAll layout.blank [lastCompileField] depth layout.blank :=
        fun f hf => (hfields f hf).before depth hlevels
      change layout.readObject origin members ending = _ at h
      unfold Layout.readObject at h
      obtain ⟨⟨p, aside⟩, hread, h⟩ := Result.exists_of_bind h
      obtain ⟨-, -, h⟩ := Result.exists_of_bind h
      obtain ⟨-, -, h⟩ := Result.exists_of_bind h
      obtain ⟨record, hrecord, h⟩ := Result.exists_of_bind h
      cases hrecord
      obtain ⟨entries, hentries, h⟩ := Result.exists_of_bind h
      cases h
      obtain ⟨hp, haside⟩ := Layout.KeepsAll.readMembers lawful hfields hlevels (fun f hf => hf)
        hmembers hblank hread
      have hothers : layout.others aside = aside := List.filter_eq_self.2 (fun _ _ => rfl)
      have hentries := Result.mapError_eq_ok_iff.1 hentries
      rw [hothers] at hentries
      apply CompileReport.keeps
      · intro t ht
        have hkeeps : lastCompileField.Keeps layout.blank depth p.record.lastCompile :=
          hp lastCompileField List.mem_cons_self
        rw [show p.record.lastCompile = some t from ht] at hkeeps
        exact isCalendar_of_keeps hkeeps
      · refine Dict.get?_ofList_eq_none (fun e he => ?_)
        have hin : e.1 ∈ aside.map Prod.fst := by
          rw [← keys_of_toMembers hentries]
          exact List.mem_map_of_mem he
        obtain ⟨m, hm, hkey⟩ := List.mem_map.1 hin
        have hnot := Layout.field?_eq_none_iff.1 (haside m hm).2 lastCompileField List.mem_cons_self
        rw [← hkey]
        exact Ne.symm hnot
      · intro e he
        have hshallow : ∀ m ∈ aside.map (fun m => ((.ok m.1 : Except SyntaxError String), m.2)),
            m.2.Shallow depth := by
          intro m hm
          obtain ⟨m', hm', rfl⟩ := List.mem_map.1 hm
          exact (haside m' hm').1.shallow
        exact Document.fits_of_toMembers hshallow hentries e (Dict.mem_of_mem_ofList he)
  | objectTooDeep => cases h
  | null | bool _ | number _ | string _ | broken _ _ | arrayTooDeep _ _ | array _ _ =>
      exact absurd h mismatch_ne_ok

/-! ### Clusters -/

theorem ClusterProperties.lawful : Layout.LawfulFields layout.allFields := by simp [layout]

theorem ClusterProperties.determined : layout.IsDetermined := by simp [layout]

theorem ClusterProperties.stable_fields (levels : Nat) :
    ∀ f ∈ layout.allFields, f.Stable layout.blank (levels + 1) := by
  have hrepo : GitRepo.layout.codec.Stable (levels + 1) :=
    Layout.stable_codec GitRepo.lawful rfl GitRepo.determined (GitRepo.stable_fields levels)
  refine List.forall_mem_cons.2 ⟨.optional (Codec.stable_text _) nofun rfl, ?_⟩
  refine List.forall_mem_cons.2 ⟨.optional (Facts.stable levels) nofun rfl, ?_⟩
  refine List.forall_mem_cons.2 ⟨.optional (Facts.stable levels) nofun rfl, ?_⟩
  refine List.forall_mem_cons.2 ⟨.optional (Facts.stable levels) nofun rfl, ?_⟩
  refine List.forall_mem_cons.2 ⟨.optional hrepo nofun rfl, ?_⟩
  refine List.forall_mem_cons.2 ⟨.optional (Codec.stable_text _) nofun rfl, ?_⟩
  refine List.forall_mem_cons.2 ⟨.optional (Codec.stable_text _) nofun rfl, ?_⟩
  refine List.forall_mem_cons.2 ⟨.optional (Codec.stable_text _) nofun rfl, ?_⟩
  refine List.forall_mem_cons.2 ⟨.optional (CompileReport.stable levels) nofun rfl, ?_⟩
  exact List.forall_mem_nil _

theorem Cluster.lawful : Layout.LawfulFields layout.allFields := by
  simp [layout, ClusterProperties.layout]

theorem Cluster.determined : layout.IsDetermined := by simp [layout, ClusterProperties.layout]

theorem Cluster.stable_fields (levels : Nat) :
    ∀ f ∈ layout.allFields, f.Stable layout.blank (levels + 1) := by
  refine List.forall_mem_cons.2
    ⟨.defaulted (Codec.stable_text _) (fun depth _ => Codec.keeps_text depth ""), ?_⟩
  refine List.forall_mem_cons.2
    ⟨.required (Codec.stable_text _) (fun depth _ => Codec.keeps_text depth ""), ?_⟩
  exact stable_fields_within layout.blank properties (ClusterProperties.stable_fields levels)

theorem Cluster.stable (levels : Nat) : layout.codec.Stable (levels + 2) :=
  Layout.stable_codec lawful rfl determined (stable_fields levels)

end Record

/-! ### Formats -/

/-- The kinds of record that travel as texts. -/
inductive WireFormat where
  | tenant
  | tenantProperties
  | cluster
  | clusterProperties
  | compileReport
  | tenantSpec
  | clusterSpec
  | clusterStatus
  | compileMeta

namespace WireFormat

/-- The records of a kind. -/
def Content : WireFormat → Type
  | tenant => Record.Tenant
  | tenantProperties => Record.TenantProperties
  | cluster => Record.Cluster
  | clusterProperties => Record.ClusterProperties
  | compileReport => Record.CompileReport
  | tenantSpec => Resource.TenantSpec
  | clusterSpec => Resource.ClusterSpec
  | clusterStatus => Resource.ClusterStatus
  | compileMeta => Resource.CompileMeta

/-- How the records of a kind are written as objects. -/
def layout : (f : WireFormat) → Layout f.Content
  | tenant => Record.Tenant.layout
  | tenantProperties => Record.TenantProperties.layout
  | cluster => Record.Cluster.layout
  | clusterProperties => Record.ClusterProperties.layout
  | compileReport => Record.CompileReport.layout
  | tenantSpec => Resource.TenantSpec.layout
  | clusterSpec => Resource.ClusterSpec.layout
  | clusterStatus => Resource.ClusterStatus.layout
  | compileMeta => Resource.CompileMeta.layout

/-- Reads a record from a text. -/
def read (f : WireFormat) (s : Source) : Except DecodeError f.Content := decodeText f.layout.decode s

/-- Writes a record as a text. -/
def write (f : WireFormat) (r : f.Content) : String := (f.layout.encode r).render

/-- Writes what a text says once more. -/
def rewrite (f : WireFormat) (s : Source) : Except DecodeError String := (f.read s).map f.write

theorem stable (f : WireFormat) : f.layout.codec.Stable depthLimit := by
  cases f with
  | tenant => exact Record.Tenant.stable 125
  | tenantProperties =>
      exact Layout.stable_codec Record.TenantProperties.lawful rfl
        Record.TenantProperties.determined (Record.TenantProperties.stable_fields 125)
  | cluster => exact Record.Cluster.stable 125
  | clusterProperties =>
      exact Layout.stable_codec Record.ClusterProperties.lawful rfl
        Record.ClusterProperties.determined (Record.ClusterProperties.stable_fields 125)
  | compileReport => exact Record.CompileReport.stable 126
  | tenantSpec => exact Resource.TenantSpec.stable 123
  | clusterSpec => exact Resource.ClusterSpec.stable 123
  | clusterStatus => exact Resource.ClusterStatus.stable 123
  | compileMeta => exact Resource.CompileMeta.stable 124

end WireFormat

/-- A record that was read from a text is read again from the text that it is written as, if the binary64
numbers in it survive their text form, and this text is written the same from then on. -/
theorem read_write_of_read {f : WireFormat} {s : Source} {r : f.Content} (h : f.read s = .ok r)
    (hsurvives : (f.layout.encode r).Survives) :
    f.read (.ofString (f.write r)) = .ok r ∧ f.rewrite (.ofString (f.write r)) = .ok (f.write r) := by
  have hread : f.read (.ofString (f.write r)) = .ok r := f.stable.decodeText_render h hsurvives
  refine ⟨hread, ?_⟩
  unfold WireFormat.rewrite
  rw [hread]
  rfl

namespace WireFormat

/-- A cluster whose repository is a list, whose report has a leap second in another time zone, and
which says more than is asked for. -/
def text : Source := .ofString
  r#"{"facts":{"size":[1,5e-1,null]},"tenant":"t-1","region":0,
"gitRepo":["ssh://git/c",null,{"auto":null},null],
"compileMeta":{"errors":1,"lastCompile":"2024-03-01 00:59:60.5+01:00"}}"#

/-- What it says. -/
def content : Record.Cluster where
  tenant := "t-1"
  properties := {
    facts := some (.ofList [("size", .array [.ofInt 1, .number (.double half), .null])])
    gitRepo := some { url := some "ssh://git/c", repoType := some .auto }
    compileMeta := some ⟨some ⟨1709251199, 1500000000⟩, .ofList [("errors", .ofInt 1)]⟩ }

end WireFormat

theorem read_write_of_read_cluster :
    WireFormat.cluster.read WireFormat.text = .ok WireFormat.content ∧
      WireFormat.cluster.read (.ofString (WireFormat.cluster.write WireFormat.content)) =
        .ok WireFormat.content ∧
      WireFormat.cluster.rewrite (.ofString (WireFormat.cluster.write WireFormat.content)) =
        .ok (WireFormat.cluster.write WireFormat.content) := by
  have hread : decodeText Record.Cluster.layout.decode WireFormat.text = .ok WireFormat.content := by
    decide +kernel
  exact ⟨hread, @read_write_of_read .cluster _ _ hread (by decide +kernel)⟩

end Fleet
