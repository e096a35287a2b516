import Fleet.Proofs.Exchange.Take
import Fleet.Proofs.Instant.Parsed
import Fleet.Proofs.Json.Normal

/-! # Compile reports in normal form

A compile report is stored as compile metadata, and shown as the report that these amount to.  It is
taken if each known field is of its form (`Cluster.exists_compileMeta_iff`).  What comes back is the
normal form of the report (`CompileReport.normal`): the fields that are known, and of these what is
not empty (`Cluster.compileReport_of_compileMeta`).  Stored compile metadata can be shown whenever
their instant can be written (`Cluster.compileReport_eq`). -/

namespace Fleet

open Json

/-! ### Normal reports -/

namespace Record.CompileReport

/-- The version of a compiler. -/
def buildRules : List (String × Rule) := [("version", .text), ("gitVersion", .text)]

/-- The version of a source. -/
def versionRules : List (String × Rule) :=
  [("url", .text), ("gitSha", .text), ("version", .text), ("path", .text)]

/-- An instance of a component, with its version among its own fields. -/
def instanceRules : List (String × Rule) := ("component", .text) :: versionRules

/-- What is known of a report besides its instant. -/
def detailRules : List (String × Rule) := [
  ("commodoreBuildInfo", .optional (.record buildRules true)),
  ("global", .optional (.record versionRules true)),
  ("tenant", .optional (.record versionRules true)),
  ("instances", .dict (.record instanceRules false)),
  ("packages", .dict (.record versionRules true))]

/-- What is known of a report. -/
def rules : List (String × Rule) := ("lastCompile", .optional .instant) :: detailRules

/-- The members of the object that writes a report. -/
def members (report : CompileReport) : Dict Value :=
  (report.lastCompile.elim .empty (fun t =>
    Dict.empty.insert "lastCompile" (.string t.print))).overlay report.details

/-- The normal form of a report: the fields that are known, and of these what is not empty. -/
def normal (report : CompileReport) : CompileReport where
  lastCompile := (report.members.get? "lastCompile").bind Value.instant?
  details := pick detailRules report.members

/-- Whatever is known of a report is of its form. -/
def IsWellFormed (report : CompileReport) : Prop :=
  ∀ rule ∈ rules, ∀ v, report.members.get? rule.1 = some v → rule.2.Allows v

theorem encode_eq (report : CompileReport) :
    layout.encode report = .ofDict report.members := by
  unfold Layout.encode members
  rw [Value.ofMembers_eq]
  obtain ⟨t, details⟩ := report
  refine congrArg Value.ofDict ?_
  unfold Dict.ofList
  rw [List.foldl_append]
  cases t <;> rfl

end Record.CompileReport

/-! ### Reports as objects -/

namespace Record.CompileReport

theorem instant?_print {t : Instant} (h : t.IsCalendar) :
    (Value.string t.print).instant? = some t := by
  rw [Value.instant?, Instant.parse_print h]
  rfl

theorem isCalendar_of_instant? {v : Value} {t : Instant} (h : v.instant? = some t) :
    t.IsCalendar := by
  cases v with
  | string s => exact Instant.isCalendar_of_parse (Result.toOption_eq_some_iff.1 h)
  | null | bool _ | number _ | array _ | object _ => cases h

theorem optional_instant_eq_ok {origin : Origin} {v : Value} {t : Option Instant}
    (h : Json.optional Json.instant origin (.ofValue v) = .ok t) : t = v.instant? := by
  by_cases hnull : v = .null
  · subst hnull
    cases h
    rfl
  · rw [optional_of_ne_null hnull] at h
    obtain ⟨u, hu, rfl⟩ := Result.exists_of_map h
    exact (instant_eq_ok_iff.1 hu).symm

/-- The field that a report has of its own. -/
def lastCompileField : Json.Field CompileReport :=
  .optional "lastCompile" .instant (·.lastCompile) (fun v r => { r with lastCompile := v })

theorem fields_eq : layout.fields = [lastCompileField] := rfl

theorem decode_lastCompileField : lastCompileField.decode = Json.optional Json.instant := rfl

theorem follows_lastCompileField :
    lastCompileField.Follows layout.blank ("lastCompile", .optional .instant) :=
  Field.follows_optional Codec.follows_instant rfl

theorem lawful : Layout.LawfulFields [lastCompileField] := by
  refine ⟨by decide, ?_, ?_⟩
  · intro f hf a r
    obtain rfl := List.mem_singleton.1 hf
    rfl
  · intro f hf g hg hne a r
    obtain rfl := List.mem_singleton.1 hf
    obtain rfl := List.mem_singleton.1 hg
    exact absurd rfl hne

theorem holds_lastCompile {r r' : CompileReport} {t : Option Instant}
    (hinstant : ∀ u, t = some u → u.IsCalendar)
    (h : lastCompileField.Holds r (t.map (fun t => .string t.print)) r') :
    r'.lastCompile = t.or r.lastCompile := by
  cases t with
  | none => exact h
  | some u =>
      obtain ⟨origin, h⟩ := h
      rw [decode_lastCompileField] at h
      exact (optional_instant_eq_ok h).trans (instant?_print (hinstant u rfl))

/-- An object that says when the compilation was is a report of that and of everything else. -/
theorem decode_ofDict (origin : Origin) {d : Dict Value} {t : Option Instant}
    (hlast : d.get? "lastCompile" = t.map (fun t => .string t.print))
    (hinstant : ∀ u, t = some u → u.IsCalendar) {depth : Nat}
    (hfits : ∀ e ∈ d.entries, e.2.Fits depth) :
    layout.decode origin (.ofValue (.ofDict d)) = .ok ⟨t, d.erase "lastCompile"⟩ := by
  obtain ⟨p, hp⟩ : ∃ p, Layout.readFields false [lastCompileField] origin ⟨layout.blank, []⟩
      d.entries = .ok p := by
    have hsteady := List.forall_mem_singleton.2 follows_lastCompileField.steady
    refine (Layout.exists_readFields_blank_iff hsteady lawful.distinct).2 ?_
    refine List.forall_mem_singleton.2 (Field.readsMembers_entries.2 ?_)
    intro v hv
    obtain ⟨u, hu, rfl⟩ := Option.map_eq_some_iff.1 (hlast.symm.trans hv)
    exact (follows_lastCompileField.reads_iff _).2 (Or.inr ⟨u, instant?_print (hinstant u hu)⟩)
  have ht : p.record.lastCompile = t := by
    have hholds := Layout.holds_of_readFields lawful (fun g hg => hg) List.mem_cons_self hp
    have hkey : lastCompileField.key = "lastCompile" := rfl
    rw [Dict.ofList_entries, hkey, hlast] at hholds
    exact (holds_lastCompile hinstant hholds).trans (Option.or_none ..)
  have hkept : layout.setAside d.entries =
      (d.erase "lastCompile").entries.map (fun m => (m.1, .ofValue m.2)) := by
    unfold Layout.setAside
    refine congrArg (List.map _) (List.filter_congr (fun m _ => ?_))
    have hfield : Layout.field? layout.fields m.1 =
        if "lastCompile" == m.1 then some lastCompileField else none := List.find?_singleton ..
    rw [hfield]
    by_cases hkey : m.1 = "lastCompile"
    · simp [hkey]
    · simp [hkey, Ne.symm hkey]
  have hfits' : ∀ m ∈ (d.erase "lastCompile").entries, m.2.Fits depth :=
    fun m hm => hfits m (List.mem_of_mem_filter hm)
  have hothers := @Layout.readOthers_map _ layout _ rfl rfl depth _ hfits' p.record
  rw [Dict.ofList_entries] at hothers
  change layout.readObject origin (Document.ofMembers d.entries) none = _
  unfold Layout.readObject
  rw [Layout.readMembers_ofMembers, fields_eq]
  change (((Layout.readFields false [lastCompileField] origin ⟨layout.blank, []⟩ d.entries).map
    fun p => (p, layout.setAside d.entries)) >>= _) = _
  rw [hp, hkept]
  exact ht ▸ hothers

end Record.CompileReport

/-! ### Layouts -/

namespace Resource

open Record.CompileReport

theorem BuildInfo.lawful : Layout.LawfulFields BuildInfo.layout.allFields := by
  refine ⟨by decide, ?_, ?_⟩
  · intro f hf a r
    rcases hf with _ | ⟨_, _ | ⟨_, ⟨⟩⟩⟩ <;> rfl
  · intro f hf g hg hne a r
    rcases hf with _ | ⟨_, _ | ⟨_, ⟨⟩⟩⟩ <;> rcases hg with _ | ⟨_, _ | ⟨_, ⟨⟩⟩⟩ <;>
      first | rfl | exact absurd rfl hne

theorem BuildInfo.follows : List.Forall₂ (Field.Follows BuildInfo.layout.blank)
    BuildInfo.layout.allFields buildRules :=
  .cons (Field.follows_textOrEmpty rfl) (.cons (Field.follows_textOrEmpty rfl) .nil)

theorem BuildInfo.follows_codec : BuildInfo.layout.codec.Follows (.record buildRules true) :=
  Layout.follows_record lawful rfl rfl follows

theorem VersionInfo.lawful : Layout.LawfulFields VersionInfo.layout.allFields := by
  refine ⟨by decide, ?_, ?_⟩
  · intro f hf a r
    rcases hf with _ | ⟨_, _ | ⟨_, _ | ⟨_, _ | ⟨_, ⟨⟩⟩⟩⟩⟩ <;> rfl
  · intro f hf g hg hne a r
    rcases hf with _ | ⟨_, _ | ⟨_, _ | ⟨_, _ | ⟨_, ⟨⟩⟩⟩⟩⟩ <;>
      rcases hg with _ | ⟨_, _ | ⟨_, _ | ⟨_, _ | ⟨_, ⟨⟩⟩⟩⟩⟩ <;>
      first | rfl | exact absurd rfl hne

theorem VersionInfo.follows : List.Forall₂ (Field.Follows VersionInfo.layout.blank)
    VersionInfo.layout.allFields versionRules :=
  .cons (Field.follows_textOrEmpty rfl) (.cons (Field.follows_textOrEmpty rfl)
    (.cons (Field.follows_textOrEmpty rfl) (.cons (Field.follows_textOrEmpty rfl) .nil)))

theorem VersionInfo.follows_codec :
    VersionInfo.layout.codec.Follows (.record versionRules true) :=
  Layout.follows_record lawful rfl rfl follows

theorem InstanceInfo.lawful : Layout.LawfulFields InstanceInfo.layout.allFields := by
  refine ⟨by decide, ?_, ?_⟩
  · intro f hf a r
    rcases hf with _ | ⟨_, _ | ⟨_, _ | ⟨_, _ | ⟨_, _ | ⟨_, ⟨⟩⟩⟩⟩⟩⟩ <;> rfl
  · intro f hf g hg hne a r
    rcases hf with _ | ⟨_, _ | ⟨_, _ | ⟨_, _ | ⟨_, _ | ⟨_, ⟨⟩⟩⟩⟩⟩⟩ <;>
      rcases hg with _ | ⟨_, _ | ⟨_, _ | ⟨_, _ | ⟨_, _ | ⟨_, ⟨⟩⟩⟩⟩⟩⟩ <;>
      first | rfl | exact absurd rfl hne

theorem InstanceInfo.follows : List.Forall₂ (Field.Follows InstanceInfo.layout.blank)
    InstanceInfo.layout.allFields instanceRules :=
  .cons (Field.follows_textOrEmpty rfl) (.cons (Field.follows_textOrEmpty rfl).within
    (.cons (Field.follows_textOrEmpty rfl).within (.cons (Field.follows_textOrEmpty rfl).within
      (.cons (Field.follows_textOrEmpty rfl).within .nil))))

theorem InstanceInfo.follows_codec :
    InstanceInfo.layout.codec.Follows (.record instanceRules false) :=
  Layout.follows_record lawful rfl rfl follows

theorem CompileMeta.lawful : Layout.LawfulFields CompileMeta.layout.allFields := by
  refine ⟨by decide, ?_, ?_⟩
  · intro f hf a r
    rcases hf with _ | ⟨_, _ | ⟨_, _ | ⟨_, _ | ⟨_, _ | ⟨_, _ | ⟨_, ⟨⟩⟩⟩⟩⟩⟩⟩ <;> rfl
  · intro f hf g hg hne a r
    rcases hf with _ | ⟨_, _ | ⟨_, _ | ⟨_, _ | ⟨_, _ | ⟨_, _ | ⟨_, ⟨⟩⟩⟩⟩⟩⟩⟩ <;>
      rcases hg with _ | ⟨_, _ | ⟨_, _ | ⟨_, _ | ⟨_, _ | ⟨_, _ | ⟨_, ⟨⟩⟩⟩⟩⟩⟩⟩ <;>
      first | rfl | exact absurd rfl hne

/-- The fields of compile metadata besides the instant. -/
def CompileMeta.detailFields : List (Json.Field CompileMeta) := layout.fields.tail

theorem CompileMeta.follows_detailFields :
    List.Forall₂ (Field.Follows CompileMeta.layout.blank) detailFields detailRules :=
  .cons (Field.follows_optional BuildInfo.follows_codec rfl)
    (.cons (Field.follows_optional VersionInfo.follows_codec rfl)
      (.cons (Field.follows_optional VersionInfo.follows_codec rfl)
        (.cons (Field.follows_dictOrEmpty InstanceInfo.follows_codec rfl)
          (.cons (Field.follows_dictOrEmpty VersionInfo.follows_codec rfl) .nil))))

theorem CompileMeta.follows :
    List.Forall₂ (Field.Follows CompileMeta.layout.blank) layout.allFields rules :=
  .cons (Field.follows_optional Codec.follows_instant rfl) follows_detailFields

theorem BuildInfo.fitsIn (depth : Nat) : BuildInfo.layout.codec.FitsIn (depth + 1) := by
  apply Layout.fitsIn_codec rfl
  intro f hf
  rcases hf with _ | ⟨_, _ | ⟨_, ⟨⟩⟩⟩ <;> exact Field.fitsIn_textOrEmpty

theorem VersionInfo.fitsIn (depth : Nat) : VersionInfo.layout.codec.FitsIn (depth + 1) := by
  apply Layout.fitsIn_codec rfl
  intro f hf
  rcases hf with _ | ⟨_, _ | ⟨_, _ | ⟨_, _ | ⟨_, ⟨⟩⟩⟩⟩⟩ <;> exact Field.fitsIn_textOrEmpty

theorem InstanceInfo.fitsIn (depth : Nat) : InstanceInfo.layout.codec.FitsIn (depth + 1) := by
  apply Layout.fitsIn_codec rfl
  intro f hf
  rcases hf with _ | ⟨_, _ | ⟨_, _ | ⟨_, _ | ⟨_, _ | ⟨_, ⟨⟩⟩⟩⟩⟩⟩
  · exact Field.fitsIn_textOrEmpty
  all_goals exact Field.fitsIn_within Field.fitsIn_textOrEmpty

theorem CompileMeta.fitsIn : CompileMeta.layout.codec.FitsIn 3 := by
  apply Layout.fitsIn_codec rfl
  intro f hf
  rcases hf with _ | ⟨_, _ | ⟨_, _ | ⟨_, _ | ⟨_, _ | ⟨_, _ | ⟨_, ⟨⟩⟩⟩⟩⟩⟩⟩
  · exact Field.fitsIn_optional (fun t => Value.fitsPlainly_string t.print 2)
  · exact Field.fitsIn_optional (BuildInfo.fitsIn 1)
  · exact Field.fitsIn_optional (VersionInfo.fitsIn 1)
  · exact Field.fitsIn_optional (VersionInfo.fitsIn 1)
  · exact Field.fitsIn_dictOrEmpty (InstanceInfo.fitsIn 0)
  · exact Field.fitsIn_dictOrEmpty (VersionInfo.fitsIn 0)

end Resource

/-! ### Reports that come back -/

namespace Exchange.Cluster

open Resource Record

theorem encode_compileMeta (m : CompileMeta) : CompileMeta.layout.encode m =
    .ofDict (.ofList (Layout.members CompileMeta.layout.allFields m)) := Layout.encode_eq rfl m

theorem key_ne_of_mem_details {m : CompileMeta} {e : String × Value}
    (h : e ∈ Layout.members CompileMeta.detailFields m) : e.1 ≠ "lastCompile" := by
  obtain ⟨f, hf, he⟩ := List.mem_filterMap.1 h
  obtain ⟨v, -, rfl⟩ := Option.map_eq_some_iff.1 he
  have hkeys : ∀ f ∈ CompileMeta.detailFields, f.key ≠ "lastCompile" := by decide
  exact hkeys f hf

theorem erase_lastCompile (m : CompileMeta) :
    (Dict.ofList (Layout.members CompileMeta.layout.allFields m)).erase "lastCompile" =
      .ofList (Layout.members CompileMeta.detailFields m) := by
  apply Dict.ext_get?
  intro key
  rw [Dict.get?_erase]
  have hnone : (Dict.ofList (Layout.members CompileMeta.detailFields m)).get? "lastCompile" = none :=
    Dict.get?_ofList_eq_none (fun e he => key_ne_of_mem_details he)
  split
  · next hkey => rw [← hkey, hnone]
  · next hkey =>
      obtain ⟨t, build, global, tenant, instances, packages⟩ := m
      cases t with
      | none => rfl
      | some t =>
          refine (Dict.get?_ofList_cons "lastCompile" (Value.string t.print) _ key).trans ?_
          rw [if_neg hkey, Option.or_none]
          rfl

/-- The report that compile metadata amount to. -/
theorem compileReport_eq {m : CompileMeta} (h : ∀ t, m.lastCompile = some t → t.IsCalendar) :
    compileReport m =
      .ok ⟨m.lastCompile, .ofList (Layout.members CompileMeta.detailFields m)⟩ := by
  have hlast : (Dict.ofList (Layout.members CompileMeta.layout.allFields m)).get? "lastCompile" =
      m.lastCompile.map (fun t => Value.string t.print) :=
    Layout.get?_members CompileMeta.lawful.distinct List.mem_cons_self m
  have hfits : (CompileMeta.layout.encode m).Fits 3 := (CompileMeta.fitsIn m).fits
  rw [encode_compileMeta] at hfits
  have hdecode := CompileReport.decode_ofDict .value hlast h (fitsMembers_iff.1 hfits.2.2)
  unfold compileReport decodeValue
  rw [encode_compileMeta, hdecode, erase_lastCompile]
  rfl

theorem decode_of_compileMeta {report : CompileReport} {m : CompileMeta}
    (h : compileMeta report = .ok m) :
    CompileMeta.layout.decode .value (.ofValue (.ofDict report.members)) = .ok m := by
  unfold compileMeta at h
  rw [CompileReport.encode_eq] at h
  exact Result.mapError_eq_ok_iff.1 h

/-- A report is taken just if what is known of it is of its form. -/
theorem exists_compileMeta_iff {report : CompileReport} :
    (∃ m, compileMeta report = .ok m) ↔ report.IsWellFormed := by
  have hfollows := Layout.follows_record CompileMeta.lawful rfl rfl CompileMeta.follows
  have hdecode := hfollows.allowed .value (.ofDict report.members)
  unfold compileMeta
  rw [CompileReport.encode_eq]
  refine (exists_congr (fun m => Result.mapError_eq_ok_iff)).trans (hdecode.trans ?_)
  apply forall₂_congr
  intro rule _
  constructor
  · intro h v hv
    exact h.2 v (Dict.get?_eq_some_iff.1 hv)
  · intro h
    exact ⟨Dict.countP_key_le_one _ _, fun v hv => h v (Dict.get?_eq_some_iff.2 hv)⟩

theorem holds_of_compileMeta {report : CompileReport} {m : CompileMeta}
    (h : compileMeta report = .ok m) {f : Json.Field CompileMeta}
    (hf : f ∈ CompileMeta.layout.allFields) :
    f.Holds CompileMeta.layout.blank (report.members.get? f.key) m := by
  have := Layout.holds_of_decode CompileMeta.lawful rfl hf (decode_of_compileMeta h)
  rw [Value.ofDict, Layout.membersOf, Dict.ofList_entries] at this
  exact this

/-- Compile metadata that come from a report hold its instant, one of the calendar. -/
theorem lastCompile_of_compileMeta {report : CompileReport} {m : CompileMeta}
    (h : compileMeta report = .ok m) :
    m.lastCompile = report.normal.lastCompile ∧
      ∀ t, m.lastCompile = some t → t.IsCalendar := by
  have hholds := holds_of_compileMeta h List.mem_cons_self
  change Field.Holds _ _ (report.members.get? "lastCompile") m at hholds
  unfold CompileReport.normal
  dsimp only
  cases hmember : report.members.get? "lastCompile" with
  | none =>
      rw [hmember] at hholds
      have hnone : m.lastCompile = none := hholds
      rw [hnone]
      exact ⟨rfl, fun t ht => (by cases ht)⟩
  | some v =>
      rw [hmember] at hholds
      obtain ⟨origin, hv⟩ := hholds
      have hlast : m.lastCompile = v.instant? := CompileReport.optional_instant_eq_ok hv
      refine ⟨hlast, ?_⟩
      intro t ht
      exact CompileReport.isCalendar_of_instant? (hlast ▸ ht)

/-- What is shown of a report is its normal form. -/
theorem compileReport_of_compileMeta {report : CompileReport} {m : CompileMeta}
    (h : compileMeta report = .ok m) : compileReport m = .ok report.normal := by
  obtain ⟨hlast, hinstant⟩ := lastCompile_of_compileMeta h
  have hdetails : Layout.members CompileMeta.detailFields m = _ :=
    Layout.members_eq_of_follows CompileMeta.follows_detailFields
      (fun f hf => holds_of_compileMeta h (List.mem_cons_of_mem _ hf))
  rw [compileReport_eq hinstant, hlast, hdetails]
  rfl

end Exchange.Cluster
end Fleet
