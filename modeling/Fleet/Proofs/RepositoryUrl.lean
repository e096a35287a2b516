import Fleet.Exchange.Repo
import Fleet.Proofs.Exchange.Coherence
import Fleet.Proofs.Url.Location

/-! # Repositories named by URLs

The path and name of a managed repository are taken from the segments of its URL.  A URL as people
write it gives the segments it is written with, the last one without `.git`
(`splitRepoUrl_of_written`).  Whatever the URL is, the path is one that a git server understands,
and so is the name, but for the URLs whose last segment is nothing but `.git`: those are accepted
and name no repository (`managed_names_repository_iff`). -/

namespace Fleet

open Record Resource Url

/-! ### Groups -/

/-- A path of groups: single slashes between them and none around them. -/
structure IsGroupPath (path : String) : Prop where
  nonempty : path ≠ ""
  not_leading : ¬ ['/'] <+: path.toList
  not_trailing : ¬ ['/'] <:+ path.toList
  not_doubled : ¬ ['/', '/'] <:+: path.toList

/-- All of it comes down to there being something between any two slashes. -/
theorem isGroupPath_of_splitOn {path : String}
    (h : ∀ piece ∈ Text.splitOn (· == '/') path.toList, piece ≠ []) : IsGroupPath path := by
  have hsplit : ∀ a b, path.toList = a ++ '/' :: b →
      [] ∉ Text.splitOn (· == '/') a ∧ [] ∉ Text.splitOn (· == '/') b := by
    intro a b hpath
    rw [hpath, Text.splitOn_append (by rfl)] at h
    obtain ⟨ha, hb⟩ := List.forall_mem_append.1 h
    exact ⟨fun hmem => ha _ hmem rfl, fun hmem => hb _ hmem rfl⟩
  refine ⟨?_, ?_, ?_, ?_⟩
  · rintro rfl
    exact h [] List.mem_cons_self rfl
  · rintro ⟨rest, hrest⟩
    exact (hsplit [] rest hrest.symm).1 List.mem_cons_self
  · rintro ⟨front, hfront⟩
    exact (hsplit front [] hfront.symm).2 List.mem_cons_self
  · rintro ⟨front, rest, hdoubled⟩
    refine (hsplit front ('/' :: rest) ?_).2 List.mem_cons_self
    rw [← hdoubled, List.append_assoc]
    rfl

theorem isGroupPath_intercalate {groups : List String} (hne : groups ≠ [])
    (h : ∀ group ∈ groups, group ≠ "" ∧ '/' ∉ group.toList) :
    IsGroupPath ("/".intercalate groups) := by
  refine isGroupPath_of_splitOn ?_
  have hslash : ∀ piece ∈ groups.map String.toList, '/' ∉ piece :=
    List.forall_mem_map.2 (fun group hgroup => (h group hgroup).2)
  have hsplit : Text.splitOn (· == '/') ("/".intercalate groups).toList =
      groups.map String.toList := by
    rw [String.toList_intercalate, Text.splitOn_eq_splitOnP, ← List.splitOn_eq_splitOnP]
    exact List.splitOn_intercalate '/' hslash (by simp [hne])
  rw [hsplit]
  exact List.forall_mem_map.2 (fun group hgroup => mt String.toList_eq_nil_iff.1 (h group hgroup).1)

namespace Exchange

/-! ### Names -/

/-- Whether `stem` is `name` without one `.git` at its end, if it has one. -/
def IsStem (stem name : String) : Prop :=
  name = stem ++ ".git" ∨ name = stem ∧ ¬ ".git".toList <:+ name.toList

theorem isStem_withoutGit (name : String) : IsStem (withoutGit name) name := by
  unfold withoutGit
  dsimp only
  split
  · next hsuffix =>
      obtain ⟨front, hfront⟩ := List.isSuffixOf_iff_suffix.1 hsuffix
      have hlength : ".git".toList.length = 4 := rfl
      left
      rw [← hfront, List.length_append, hlength, Nat.add_sub_cancel, List.take_left]
      rw [← String.toList_inj, String.toList_append, String.toList_ofList, hfront]
  · next hsuffix => exact Or.inr ⟨rfl, fun h => hsuffix (List.isSuffixOf_iff_suffix.2 h)⟩

/-- There is only one. -/
theorem IsStem.unique {stem stem' name : String} (h : IsStem stem name) (h' : IsStem stem' name) :
    stem = stem' := by
  have hsuffix : ∀ s : String, ".git".toList <:+ (s ++ ".git").toList := by
    intro s
    rw [String.toList_append]
    exact List.suffix_append _ _
  rcases h with rfl | ⟨rfl, hno⟩
  · rcases h' with heq | ⟨-, hno⟩
    · rw [← String.toList_inj, String.toList_append, String.toList_append] at heq
      exact String.toList_inj.1 (List.append_cancel_right heq)
    · exact absurd (hsuffix stem) hno
  · rcases h' with rfl | ⟨rfl, -⟩
    · exact absurd (hsuffix stem') hno
    · rfl

theorem IsStem.notMem {stem name : String} (h : IsStem stem name) {c : Char}
    (hc : c ∉ name.toList) : c ∉ stem.toList := by
  rcases h with rfl | ⟨rfl, -⟩
  · rw [String.toList_append] at hc
    exact fun hmem => hc (List.mem_append_left _ hmem)
  · exact hc

theorem IsStem.eq_empty_iff {stem name : String} (h : IsStem stem name) (hne : name ≠ "") :
    stem = "" ↔ name = ".git" := by
  rcases h with rfl | ⟨rfl, hsuffix⟩
  · constructor
    · rintro rfl
      rfl
    · intro heq
      rw [← String.toList_inj, String.toList_append] at heq
      exact String.toList_eq_nil_iff.1 (List.append_left_eq_self.1 heq)
  · refine ⟨fun heq => absurd heq hne, ?_⟩
    rintro rfl
    exact absurd List.suffix_rfl hsuffix

/-! ### Splitting -/

/-- Once a URL is read, what it comes to depends on its segments. -/
theorem splitRepoUrl_of_parse {url : String} {l : Location} (h : Location.parse url = .ok l) :
    (l.names = [] → splitRepoUrl url = .error ⟨url, "URL has no path"⟩) ∧
    (∀ name, l.names = [name] →
      splitRepoUrl url = .error ⟨url, "path needs at least a group and a repository name"⟩) ∧
    ∀ groups last, l.names = groups ++ [last] → groups ≠ [] →
      splitRepoUrl url = .ok ("/".intercalate groups, withoutGit last) := by
  have hsplit : splitRepoUrl url = l.names.getLast?.elim (.error ⟨url, "URL has no path"⟩)
      (fun last =>
        if l.names.length < 2 then
          .error ⟨url, "path needs at least a group and a repository name"⟩
        else .ok ("/".intercalate l.names.dropLast, withoutGit last)) := by
    unfold splitRepoUrl
    rw [h]
    dsimp only [Except.mapError, bind, Except.bind]
    rw [← Location.names]
    cases l.names.getLast? <;> rfl
  refine ⟨fun hnone => ?_, fun name hone => ?_, fun groups last hsome hne => ?_⟩
  · rw [hsplit, hnone]
    rfl
  · rw [hsplit, hone]
    rfl
  · have hlength : ¬ (groups ++ [last]).length < 2 := by
      have hpos := List.length_pos_iff.2 hne
      rw [List.length_append, List.length_singleton]
      omega
    rw [hsplit, hsome, List.getLast?_concat, List.dropLast_concat]
    exact if_neg hlength

/-- What a URL comes to says what segments it has. -/
theorem exists_of_splitRepoUrl {url path name : String} (h : splitRepoUrl url = .ok (path, name)) :
    ∃ l groups last, Location.parse url = .ok l ∧ l.names = groups ++ [last] ∧ groups ≠ [] ∧
      path = "/".intercalate groups ∧ IsStem name last := by
  obtain ⟨l, hparse, -⟩ := Result.exists_of_bind h
  have hparse := Result.mapError_eq_ok_iff.1 hparse
  obtain ⟨hnone, hone, hsome⟩ := splitRepoUrl_of_parse hparse
  rcases List.eq_nil_or_concat l.names with hnames | ⟨groups, last, hnames⟩
  · rw [hnone hnames] at h
    cases h
  rw [List.concat_eq_append] at hnames
  by_cases hne : groups = []
  · subst hne
    rw [hone last hnames] at h
    cases h
  · rw [hsome groups last hnames hne] at h
    cases h
    exact ⟨l, groups, last, hparse, hnames, hne, rfl, isStem_withoutGit last⟩

/-- Path and name are proper as the segments are.  A name may be lost with `.git`. -/
theorem proper_of_splitRepoUrl {url path name : String} (h : splitRepoUrl url = .ok (path, name)) :
    IsGroupPath path ∧ '/' ∉ name.toList ∧
      (name = "" ↔ ∃ l, Location.parse url = .ok l ∧ l.names.getLast? = some ".git") := by
  obtain ⟨l, groups, last, hparse, hnames, hne, rfl, hstem⟩ := exists_of_splitRepoUrl h
  have hproper := l.proper_names hparse
  rw [hnames] at hproper
  obtain ⟨hgroups, hlast⟩ := List.forall_mem_append.1 hproper
  obtain ⟨hlast, hslash⟩ := List.forall_mem_singleton.1 hlast
  refine ⟨isGroupPath_intercalate hne hgroups, hstem.notMem hslash,
    (hstem.eq_empty_iff hlast).trans ⟨fun hgit => ?_, ?_⟩⟩
  · exact ⟨l, hparse, by rw [hnames, List.getLast?_concat, hgit]⟩
  · rintro ⟨l', hparse', hgit⟩
    cases hparse.symm.trans hparse'
    rw [hnames, List.getLast?_concat] at hgit
    exact Option.some.inj hgit

end Exchange

open Exchange

/-! ### Results -/

/-- A URL is split as its path is written.  The last segment gives the name and those before it the
path; without one or the other the URL is refused, and the error quotes it. -/
theorem splitRepoUrl_of_written {host : String} (hne : host ≠ "")
    (hhost : ∀ c ∈ host.toList, isHostChar c = true) {parts : List (Nat × String)}
    (hparts : PlainParts parts) (withUser : Bool) (trailing : Nat) :
    let url := written withUser host parts trailing
    (parts = [] → splitRepoUrl url = .error ⟨url, "URL has no path"⟩) ∧
    (∀ part, parts = [part] →
      splitRepoUrl url = .error ⟨url, "path needs at least a group and a repository name"⟩) ∧
    ∀ groups last, parts = groups ++ [last] → groups ≠ [] → ∃ name, IsStem name last.2 ∧
      splitRepoUrl url = .ok ("/".intercalate (groups.map (·.2)), name) := by
  intro url
  obtain ⟨l, hparse, hnames⟩ := names_of_written hne hhost hparts withUser trailing
  obtain ⟨hnone, hone, hsome⟩ := splitRepoUrl_of_parse hparse
  refine ⟨?_, ?_, ?_⟩
  · rintro rfl
    exact hnone hnames
  · rintro part rfl
    exact hone part.2 hnames
  · rintro groups last rfl hgroups
    rw [List.map_append] at hnames
    exact ⟨withoutGit last.2, isStem_withoutGit last.2,
      hsome (groups.map (·.2)) last.2 hnames (by simpa using hgroups)⟩

namespace Exchange.Written

/-- A URL with more slashes than it needs. -/
def url : String := "ssh://git@git-1.host//group/sub.x///name.git/"

/-- Its segments, each with the number of slashes before it. -/
def parts : List (Nat × String) := [(2, "group"), (1, "sub.x"), (3, "name.git")]

theorem splitRepoUrl_of_written_slashes :
    PlainParts parts ∧ written true "git-1.host" parts 1 = url ∧
    splitRepoUrl url = .ok ("group/sub.x", "name") ∧
    splitRepoUrl "ssh://h/name.git" =
      .error ⟨"ssh://h/name.git", "path needs at least a group and a repository name"⟩ ∧
    splitRepoUrl "ssh://h" = .error ⟨"ssh://h", "URL has no path"⟩ := by
  have hparts : PlainParts parts := by decide
  have hurl : written true "git-1.host" parts 1 = url := by decide
  have hhost : ∀ c ∈ "git-1.host".toList, isHostChar c = true := List.all_eq_true.1 (by decide)
  have hshort : ∀ c ∈ "h".toList, isHostChar c = true := List.all_eq_true.1 (by decide)
  obtain ⟨-, -, hsplit⟩ := splitRepoUrl_of_written (by decide) hhost hparts true 1
  obtain ⟨name, hstem, heq⟩ := hsplit [(2, "group"), (1, "sub.x")] (3, "name.git") rfl (by decide)
  obtain rfl : name = "name" := hstem.unique (Or.inl rfl)
  obtain ⟨-, hone, -⟩ := @splitRepoUrl_of_written "h" (by decide) hshort [(1, "name.git")]
    (by decide) false 0
  obtain ⟨hnone, -, -⟩ := @splitRepoUrl_of_written "h" (by decide) hshort [] (by decide) false 0
  exact ⟨hparts, hurl, hurl ▸ heq, hone _ rfl, hnone rfl⟩

end Exchange.Written

/-- A managed template has a path of groups and a name without slashes.  The name is empty exactly
if the last segment of the URL is `.git`. -/
theorem managed_names_repository_iff (url : String) (repo : GitRepo) (shown : String) :
    (∀ path name, splitRepoUrl url = .ok (path, name) → IsGroupPath path ∧ '/' ∉ name.toList ∧
      (name = "" ↔ ∃ l, Location.parse url = .ok l ∧ l.names.getLast? = some ".git")) ∧
    ∀ t, resolveRepo repo shown = .ok (some t) → t.isManaged = true →
      IsGroupPath t.path ∧ '/' ∉ t.repoName.toList ∧
      (t.repoName = "" ↔ ∃ url l, repo.url = some url ∧ Location.parse url = .ok l ∧
        l.names.getLast? = some ".git") := by
  refine ⟨fun _ _ => proper_of_splitRepoUrl, fun t h hmanaged => ?_⟩
  rcases resolveRepo_eq_ok h with heq | ⟨-, heq⟩ | ⟨url, path, repoName, hurl, hok, heq⟩
  · cases heq
    cases hmanaged
  · cases heq
  · cases heq
    obtain ⟨hpath, hname, hiff⟩ := proper_of_splitRepoUrl hok
    obtain ⟨given, hgiven, hurl⟩ := Option.bind_eq_some_iff.1 hurl
    obtain ⟨-, rfl⟩ := nonEmpty_eq_some_iff.1 hurl
    refine ⟨hpath, hname, hiff.trans ⟨fun ⟨l, h⟩ => ⟨url, l, hgiven, h⟩, ?_⟩⟩
    rintro ⟨url', l, hurl', h⟩
    cases hgiven.symm.trans hurl'
    exact ⟨l, h⟩

namespace Exchange.Bare

/-- A URL that ends in a name. -/
def url : String := "ssh://git@git.example.com/group/sub/../name.git/"

theorem managed_names_repository_iff_name :
    splitRepoUrl url = .ok ("group", "name") ∧
    resolveRepo { url := some url } "t-a" =
      .ok (some { RepoTemplate.managed "group" "name" with displayName := "t-a" }) ∧
    IsGroupPath "group" ∧ '/' ∉ "name".toList ∧
    ¬ ∃ l, Location.parse url = .ok l ∧ l.names.getLast? = some ".git" := by
  have hsplit : splitRepoUrl url = .ok ("group", "name") := rfl
  have hresolve : resolveRepo { url := some url } "t-a" =
      .ok (some { RepoTemplate.managed "group" "name" with displayName := "t-a" }) := rfl
  obtain ⟨hstring, htemplate⟩ := managed_names_repository_iff url { url := some url } "t-a"
  obtain ⟨hpath, hname, -⟩ := htemplate _ hresolve rfl
  exact ⟨hsplit, hresolve, hpath, hname, mt (hstring _ _ hsplit).2.2.2 (by decide)⟩

/-- Of a URL that ends in nothing but `.git`, no name is left. -/
theorem managed_without_name :
    splitRepoUrl "ssh://git@git.example.com/group/.git" = .ok ("group", "") ∧
    resolveRepo { url := some "ssh://git@git.example.com/group/.git" } "t-a" =
      .ok (some { RepoTemplate.managed "group" "" with displayName := "t-a" }) := ⟨rfl, rfl⟩

end Exchange.Bare
end Fleet
