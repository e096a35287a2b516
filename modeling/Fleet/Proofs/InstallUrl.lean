import Fleet.Proofs.Service.Handshake
import Fleet.Proofs.Url.Form
import Mathlib.Data.List.TakeWhile

/-! # Install URLs

While the bootstrap token of a cluster may be used, the cluster is shown with a URL to fetch its
manifests from.  The token is written into the URL as it is.  So the URL works for the tokens that
queries write as they are (`IsPlain`), and only for those: of any other token a request for the URL
presents something else.  It does not work for an empty token either, which the handshake takes for
a missing one.

Main statement: `installUrl_works_iff`. -/

namespace Fleet

open Http Resource Store Service

/-! ### URLs -/

namespace Http

/-- A scheme and a host, without a path. -/
def IsOrigin (base : String) : Prop :=
  ∃ scheme host : List Char, base.toList = scheme ++ "://".toList ++ host ∧
    (∀ c ∈ scheme, isSchemeChar c = true) ∧ '/' ∉ host ∧ '?' ∉ host ∧ '#' ∉ host

/-- A request for what a URL names. -/
structure Request.AsksFor (r : Request) (url : String) : Prop where
  method : r.method = "GET"
  target : (r.path, r.query) = splitTarget url

/-- What stands before a fragment. -/
def withoutFragment (cs : List Char) : List Char := cs.takeWhile (· ≠ '#')

theorem withoutFragment_append {cs : List Char} (h : '#' ∉ cs) (more : List Char) :
    withoutFragment (cs ++ more) = cs ++ withoutFragment more := by
  refine List.takeWhile_append_of_pos (fun c hc => decide_eq_true ?_)
  rintro rfl
  exact h hc

theorem IsOrigin.hash_notMem {base : String} (h : IsOrigin base) : '#' ∉ base.toList := by
  obtain ⟨scheme, host, hbase, hscheme, -, -, hhash⟩ := h
  rw [hbase, List.append_assoc]
  intro hmem
  rcases List.mem_append.1 hmem with hmem | hmem
  · exact absurd (hscheme _ hmem) (by decide)
  rcases List.mem_append.1 hmem with hmem | hmem
  · exact absurd hmem (by decide)
  · exact hhash hmem

/-- An origin is passed over. -/
theorem fromPath_origin {base : String} (h : IsOrigin base) (path : List Char) :
    fromPath (base.toList ++ '/' :: path) = '/' :: path := by
  obtain ⟨scheme, host, hbase, hscheme, hslash, hquery, -⟩ := h
  have htarget : base.toList ++ '/' :: path =
      scheme ++ ':' :: '/' :: '/' :: (host ++ '/' :: path) := by
    have hslashes : "://".toList = [':', '/', '/'] := by decide
    rw [hbase, hslashes]
    simp only [List.append_assoc, List.cons_append, List.nil_append]
  have hafter : (scheme ++ ':' :: '/' :: '/' :: (host ++ '/' :: path)).dropWhile isSchemeChar =
      ':' :: '/' :: '/' :: (host ++ '/' :: path) := by
    rw [List.dropWhile_append_of_pos hscheme, List.dropWhile_cons_of_neg (by decide)]
  have hpath : (host ++ '/' :: path).dropWhile (fun c => c ≠ '/' && c ≠ '?') = '/' :: path := by
    rw [List.dropWhile_append_of_pos, List.dropWhile_cons_of_neg (by decide)]
    intro c hc
    have hne : c ≠ '/' ∧ c ≠ '?' :=
      ⟨ne_of_mem_of_not_mem hc hslash, ne_of_mem_of_not_mem hc hquery⟩
    simp [hne.1, hne.2]
  rw [htarget]
  unfold fromPath
  split
  -- the target is neither a path alone nor an asterisk
  · next heq =>
      cases scheme with
      | nil => exact absurd (List.cons.inj heq).1 (by decide)
      | cons c scheme =>
          have hc := hscheme c List.mem_cons_self
          rw [(List.cons.inj heq).1] at hc
          exact absurd hc (by decide)
  · next heq =>
      have hlength := congrArg List.length heq
      simp at hlength
      omega
  · simp only [hafter, hpath]

/-- A request for a URL asks for its path with its query. -/
theorem splitTarget_eq {base target : String} {path query : List Char} (hbase : IsOrigin base)
    (hpath : '?' ∉ path ∧ '#' ∉ path)
    (htarget : target.toList = base.toList ++ ('/' :: path ++ '?' :: query)) :
    splitTarget target =
      (String.ofList ('/' :: path), some (String.ofList (withoutFragment query))) := by
  have hfragment : '#' ∉ base.toList ++ ('/' :: path ++ ['?']) := by
    simp [hbase.hash_notMem, hpath.2]
  have hwithout : withoutFragment target.toList =
      base.toList ++ '/' :: (path ++ '?' :: withoutFragment query) := by
    have hsplit : target.toList = base.toList ++ ('/' :: path ++ ['?']) ++ query := by
      rw [htarget]
      simp only [List.append_assoc, List.cons_append, List.nil_append]
    rw [hsplit, withoutFragment_append hfragment]
    simp only [List.append_assoc, List.cons_append, List.nil_append]
  have hbefore : ('/' :: (path ++ '?' :: withoutFragment query)).takeWhile (· ≠ '?') =
      '/' :: path := by
    rw [← List.cons_append, List.takeWhile_append_of_pos, List.takeWhile_cons_of_neg (by decide),
      List.append_nil]
    intro c hc
    refine decide_eq_true ?_
    rintro rfl
    rcases List.mem_cons.1 hc with hc | hc
    · exact absurd hc (by decide)
    · exact hpath.1 hc
  have hafter : ('/' :: (path ++ '?' :: withoutFragment query)).drop (('/' :: path).length + 1) =
      withoutFragment query := by
    rw [← List.cons_append, List.drop_append]
    simp
  unfold splitTarget
  dsimp only
  rw [show target.toList.takeWhile (· ≠ '#') = withoutFragment target.toList from rfl, hwithout,
    fromPath_origin hbase, hbefore, hafter, if_pos (by simp)]

end Http

namespace Service

/-! ### Tokens in queries -/

/-- A query writes the text as it is: nothing in it ends a value or the query, is a blank, or looks
percent encoded, as nothing does without a `%` (`Url.percentDecode_encode`). -/
structure IsPlain (token : String) : Prop where
  hash : '#' ∉ token.toList
  ampersand : '&' ∉ token.toList
  plus : '+' ∉ token.toList
  escape : Url.percentDecode (Text.encode token) = Text.encode token

theorem splitTarget_installUrl {base : String} (hbase : IsOrigin base) (token : String) :
    splitTarget (installUrl base token) = (Credential.installPath,
      some (String.ofList ("token".toList ++ '=' :: withoutFragment token.toList))) := by
  have hpath : '/' :: "install/steward.json".toList = Credential.installPath.toList := by decide
  have hname : "?token=".toList = '?' :: ("token".toList ++ ['=']) := by decide
  have hquery : withoutFragment ("token".toList ++ '=' :: token.toList) =
      "token".toList ++ '=' :: withoutFragment token.toList := by
    have hfragment : '#' ∉ "token".toList ++ ['='] := by decide
    have happend := withoutFragment_append hfragment token.toList
    simpa only [List.append_assoc, List.cons_append, List.nil_append] using happend
  rw [← hquery, ← String.ofList_toList (s := Credential.installPath), ← hpath]
  refine splitTarget_eq hbase (by decide) ?_
  unfold installUrl
  rw [String.toList_append, String.toList_append, String.toList_append, ← hpath, hname]
  simp only [List.append_assoc, List.cons_append, List.nil_append]

/-- The query of an install URL presents its token if the token is plain, and only then. -/
theorem presentedToken_eq_iff (token : String) :
    presentedToken (some (String.ofList ("token".toList ++ '=' :: withoutFragment token.toList))) =
      some token ↔ IsPlain token := by
  have hname : Url.readFormText "token".toList = "token" := by decide +kernel
  have hequals : '=' ∉ "token".toList := by decide
  have hampersand : '&' ∉ "token".toList := by decide
  obtain ⟨more, hform, hmore⟩ := Url.exists_readForm hequals hampersand
    (withoutFragment token.toList)
  generalize hvalue : (withoutFragment token.toList).takeWhile (· ≠ '&') = value at hform
  have hprefix : value <+: token.toList := by
    rw [← hvalue]
    exact (List.takeWhile_prefix _).trans (List.takeWhile_prefix _)
  unfold presentedToken
  rw [Option.getD_some, hform, hname, List.filter_cons_of_pos (by simp)]
  constructor
  · intro hpresents
    -- the first token is the only one
    generalize more.filter (fun p => p.1 == "token") = others at hpresents
    cases others with
    | cons other others => cases hpresents
    | nil =>
        have hread : Url.readFormText value = token := Option.some.inj hpresents
        obtain ⟨hall, hplus, hescape⟩ := (Url.readFormText_eq_iff hprefix).1 hread
        refine ⟨?_, ?_, hall ▸ hplus, hescape⟩
        · intro hmem
          rw [← hall, ← hvalue] at hmem
          have hkept := List.mem_takeWhile_imp ((List.takeWhile_prefix _).subset hmem)
          exact absurd hkept (by decide)
        · intro hmem
          rw [← hall, ← hvalue] at hmem
          exact absurd (List.mem_takeWhile_imp hmem) (by decide)
  · intro hplain
    have hwhole : withoutFragment token.toList = token.toList :=
      List.takeWhile_eq_self_iff.2 (fun c hc => decide_eq_true (fun heq => hplain.hash (heq ▸ hc)))
    have hall : value = token.toList := by
      rw [← hvalue, hwhole]
      exact List.takeWhile_eq_self_iff.2
        (fun c hc => decide_eq_true (fun heq => hplain.ampersand (heq ▸ hc)))
    rw [hmore (by rw [hwhole]; exact hplain.ampersand)]
    have hread := (Url.readFormText_eq_iff hprefix).2 ⟨hall, hall ▸ hplain.plus, hplain.escape⟩
    exact congrArg some hread

/-! ### Handshakes -/

/-- No two stored clusters have equal bootstrap tokens. -/
def DistinctTokens (m : Memory) : Prop :=
  ∀ c ∈ m.clusters.values, ∀ c' ∈ m.clusters.values, ∀ t t', c.bootstrapToken? = some t →
    c'.bootstrapToken? = some t' → t.token = t'.token → c = c'

section Finding

variable {m : Memory} {hr : Handshake.Request} {now : Instant} {c : Cluster} {t : BootstrapToken}

theorem withToken?_eq_some (hdistinct : DistinctTokens m) (hc : c ∈ m.clusters.values)
    (ht : c.bootstrapToken? = some t) :
    Handshake.withToken? m.clusters.values t.token = some c := by
  have hholds : c.bootstrapToken?.any (fun t' => t'.token == t.token) = true := by
    rw [ht, Option.any_some, beq_self_eq_true]
  cases hfound : Handshake.withToken? m.clusters.values t.token with
  | none => exact absurd hholds (List.find?_eq_none.1 hfound c hc)
  | some c' =>
      obtain ⟨hc', t', ht', htoken⟩ := Handshake.exists_of_withToken? hfound
      rw [hdistinct c' hc' c hc t' t ht' ht htoken]

/-- The token of a cluster leads to it, if it is presented. -/
theorem finds_iff (hdistinct : DistinctTokens m) (hc : c ∈ m.clusters.values)
    (ht : c.bootstrapToken? = some t) :
    hr.Finds m t.token c ↔ hr.token = some t.token ∧ t.token ≠ "" :=
  ⟨fun h => ⟨h.presents, h.nonempty⟩,
    fun h => ⟨h.1, h.2, withToken?_eq_some hdistinct hc ht⟩⟩

/-- A handshake with a token that may be used is refused for other reasons. -/
theorem status_of_isRefused {error : Handshake.HandshakeError} {token : String}
    (h : hr.IsRefused now m error) (hfinds : hr.Finds m token c)
    (hcheck : Handshake.check c now = .ok ()) :
    (Refusal.handshake error).status ≠ 400 ∧ (Refusal.handshake error).status ≠ 401 := by
  have hsame : ∀ {token' : String} {c' : Cluster}, hr.Finds m token' c' → c' = c := by
    intro token' c' hfinds'
    have htoken : token' = token := Option.some.inj (hfinds'.presents.symm.trans hfinds.presents)
    have hfound := hfinds'.found
    rw [htoken, hfinds.found] at hfound
    exact (Option.some.inj hfound).symm
  cases h with
  | missing hnone =>
      rw [hfinds.presents, Option.filter_some_pos (by simpa using hfinds.nonempty)] at hnone
      cases hnone
  | invalid hpresents hnone =>
      rw [hfinds.presents] at hpresents
      cases hpresents
      rw [hfinds.found] at hnone
      cases hnone
  | unusable hfinds' hrefused =>
      rw [hsame hfinds'] at hrefused
      exact absurd hcheck hrefused
  | noAccount => exact ⟨(by decide : 503 ≠ 400), (by decide : 503 ≠ 401)⟩
  | conflicts => exact ⟨(by decide : 409 ≠ 400), (by decide : 409 ≠ 401)⟩

end Finding

/-! ### URLs of clusters -/

/-- Where a caller reached the service is an origin if the headers name a scheme and a host. -/
theorem isOrigin_baseUrl {r : Http.Request}
    (hscheme : ∀ s, r.header? "x-forwarded-proto" = some s →
      ∀ c ∈ Text.trim (s.toList.takeWhile (· ≠ ',')), isSchemeChar c = true)
    (hhost : ∀ host, r.header? "host" = some host →
      '/' ∉ host.toList ∧ '?' ∉ host.toList ∧ '#' ∉ host.toList) : IsOrigin (baseUrl r) := by
  have hhttp : ∀ c ∈ "http".toList, isSchemeChar c = true :=
    List.all_eq_true.1 (by decide : "http".toList.all isSchemeChar = true)
  unfold baseUrl
  refine ⟨_, _, by rw [String.toList_append, String.toList_append], ?_, ?_⟩
  · cases hheader : r.header? "x-forwarded-proto" with
    | none => exact hhttp
    | some s =>
        rw [Option.bind_some]
        dsimp only
        split
        · exact hhttp
        · rw [Option.getD_some, String.toList_ofList]
          exact hscheme s hheader
  · cases hheader : r.header? "host" with
    | none => decide
    | some host => exact hhost host hheader

/-- A cluster is shown with a URL if it has a token that may be used. -/
theorem exists_token_of_show? {base : String} {now : Instant} {c : Cluster}
    {shown : Record.Cluster} {url : String} (hshown : Clusters.show? base now c = .ok shown)
    (hurl : shown.properties.installUrl = some url) :
    ∃ t, c.bootstrapToken? = some t ∧ t.usableAt now = true ∧ url = installUrl base t.token := by
  unfold Clusters.show? at hshown
  cases hrecord : Exchange.Cluster.toRecord c with
  | error error =>
      rw [hrecord] at hshown
      cases hshown
  | ok record =>
      rw [hrecord] at hshown
      cases hshown
      obtain ⟨t, ht, rfl⟩ := Option.map_eq_some_iff.1 hurl
      obtain ⟨hsome, husable⟩ := Option.filter_eq_some_iff.1 ht
      exact ⟨t, hsome, husable, rfl⟩

end Service

/-- A cluster is shown with a URL only while its token may be used.  A request for the URL leads the
handshake to the cluster exactly if the token is neither empty nor changed by being read from a
query.  Then the handshake takes the token, and the request is not refused for it. -/
theorem installUrl_works_iff {w : World} (hbuilt : w.store.Built)
    (hdistinct : DistinctTokens w.store) {base : String} (hbase : IsOrigin base) {s : Setting}
    {c : Cluster} (hc : c ∈ w.store.clusters.values) {shown : Record.Cluster}
    (hshown : Clusters.show? base s.now c = .ok shown) {url : String}
    (hurl : shown.properties.installUrl = some url) :
    ∃ t, c.bootstrapToken? = some t ∧ t.usableAt s.now = true ∧ ∀ r : Http.Request, r.AsksFor url →
      ((handshakeOf s r).token = some t.token ↔ IsPlain t.token) ∧
      ((handshakeOf s r).Finds w.store t.token c ↔ t.token ≠ "" ∧ IsPlain t.token) ∧
      (t.token ≠ "" → IsPlain t.token → Handshake.check c s.now = .ok () ∧
        (w.run (respond s r)).1.status ≠ 400 ∧ (w.run (respond s r)).1.status ≠ 401) := by
  obtain ⟨t, ht, husable, rfl⟩ := exists_token_of_show? hshown hurl
  refine ⟨t, ht, husable, ?_⟩
  intro r hasks
  obtain ⟨hpath, hquery⟩ := Prod.mk.inj (hasks.target.trans (splitTarget_installUrl hbase t.token))
  have hpresents : (handshakeOf s r).token = some t.token ↔ IsPlain t.token := by
    have hiff := presentedToken_eq_iff t.token
    rw [← hquery] at hiff
    exact hiff
  have hfinds : (handshakeOf s r).Finds w.store t.token c ↔ t.token ≠ "" ∧ IsPlain t.token := by
    rw [finds_iff hdistinct hc ht, hpresents, and_comm]
  refine ⟨hpresents, hfinds, ?_⟩
  intro hnonempty hplain
  have hcheck : Handshake.check c s.now = .ok () := by
    unfold Handshake.check
    rw [ht, Option.any_some, if_pos husable]
  refine ⟨hcheck, ?_⟩
  have hmethod : Route.install.operation? r.method = some .install := by
    rw [hasks.method]
    rfl
  obtain ⟨result, hends, hresponse⟩ := exists_respond_install hbuilt.isSound s hpath hmethod
  rw [hresponse]
  cases hends with
  | noClient error => exact ⟨(by decide : 500 ≠ 400), (by decide : 500 ≠ 401)⟩
  | refused _ hrefused => exact status_of_isRefused hrefused (hfinds.2 ⟨hnonempty, hplain⟩) hcheck
  | served => exact ⟨(by decide : 200 ≠ 400), (by decide : 200 ≠ 401)⟩

/-! #### A cluster that is shown with its URL -/

namespace Service.Invitation

/-- A cluster with an unused token. -/
def invited (token : String) : Cluster where
  metadata := { name := some "c-1", ns := some "fleet", revision := some "1" }
  spec := { tenantRef := { name := "t-1" } }
  status := some { bootstrapToken := some ⟨token, true, ⟨4102444800, 0⟩⟩ }

/-- A store with the cluster and the token of its account. -/
def store (token : String) : Memory :=
  (Memory.writeCluster { ns := "fleet" } (invited token)).2.insertSecret {
    data := some (Dict.empty.insert "token" [120])
    metadata := { annotations := some (Dict.empty.insert Handshake.accountAnnotation "c-1") }
    type := some Handshake.tokenSecretType }

def world (token : String) : World := { World.empty "fleet" 1 with store := store token }

def setting : Setting := ⟨{}, ⟨0, 0⟩, fun _ => 0⟩

/-- A caller asks for the cluster. -/
def visit : Http.Request where
  method := "GET"
  path := "/clusters/c-1"
  headers := [("Host", "fleet.example.com")]

/-- The cluster as the caller sees it. -/
def shown (token : String) : Record.Cluster where
  id := "c-1"
  tenant := "t-1"
  properties := { installUrl := some (installUrl (baseUrl visit) token) }

/-- The cluster asks for the URL. -/
def request (token : String) : Http.Request where
  method := "GET"
  path := "/install/steward.json"
  query := some ("token=" ++ token)

theorem built_store (token : String) : (store token).Built :=
  .insertSecret _ (.writeCluster _ (.empty "fleet"))

theorem show?_invited (token : String) :
    Clusters.show? (baseUrl visit) setting.now (invited token) = .ok (shown token) := rfl

theorem isOrigin_visit : IsOrigin (baseUrl visit) := by
  have hproto : visit.header? "x-forwarded-proto" = none := by decide +kernel
  have hhost : visit.header? "host" = some "fleet.example.com" := by decide +kernel
  refine isOrigin_baseUrl ?_ ?_
  · intro s h
    rw [hproto] at h
    cases h
  · intro host h
    rw [hhost] at h
    cases h
    decide

theorem values_store (token : String) : (store token).clusters.values = [invited token] := rfl

/-- Of one cluster alone the token is distinct. -/
theorem distinctTokens_store (token : String) : DistinctTokens (store token) := by
  intro c hc c' hc' _ _ _ _ _
  rw [values_store, List.mem_singleton] at hc hc'
  rw [hc, hc']

theorem mem_values_store (token : String) : invited token ∈ (store token).clusters.values := by
  rw [values_store]
  exact List.mem_singleton_self _

theorem installUrl_works_iff_abc : (request "abc").AsksFor (installUrl (baseUrl visit) "abc") ∧
    (handshakeOf setting (request "abc")).Finds (store "abc") "abc" (invited "abc") ∧
    ((world "abc").run (respond setting (request "abc"))).1.status = 200 := by
  have hasks : (request "abc").AsksFor (installUrl (baseUrl visit) "abc") :=
    ⟨rfl, by decide +kernel⟩
  have hplain : IsPlain "abc" :=
    ⟨by decide, by decide, by decide, Url.percentDecode_encode (by decide)⟩
  have hurl : (shown "abc").properties.installUrl = some (installUrl (baseUrl visit) "abc") := rfl
  obtain ⟨t, ht, -, hworks⟩ := installUrl_works_iff (w := world "abc") (built_store "abc")
    (distinctTokens_store "abc") isOrigin_visit (mem_values_store "abc")
    (show?_invited "abc") hurl
  cases ht
  obtain ⟨-, hfinds, -⟩ := hworks _ hasks
  exact ⟨hasks, hfinds.2 ⟨by decide, hplain⟩, by decide +kernel⟩

/-- The URL of a token with a plus presents another text. -/
theorem not_installUrl_works_plus :
    Clusters.show? (baseUrl visit) setting.now (invited "a+b") = .ok (shown "a+b") ∧
    (shown "a+b").properties.installUrl = some (installUrl (baseUrl visit) "a+b") ∧
    DistinctTokens (store "a+b") ∧ invited "a+b" ∈ (store "a+b").clusters.values ∧
    (request "a+b").AsksFor (installUrl (baseUrl visit) "a+b") ∧
    (handshakeOf setting (request "a+b")).token = some "a b" ∧
    ((world "a+b").run (respond setting (request "a+b"))).1.status = 401 := by
  refine ⟨show?_invited _, rfl, distinctTokens_store _, mem_values_store _, ⟨rfl, ?_⟩, ?_, ?_⟩
  · decide +kernel
  · decide +kernel
  · decide +kernel

end Service.Invitation
end Fleet
