/-
  The mounts of the compiler are those that a run prepares.
-/
import GraphX.Config.Isolation
import GraphX.Config.Substitution

namespace GraphX.Config

open List Check Path

variable {text : String}

/-! ## Mounts -/

theorem mount_parts {source target rest : List Char}
    (htext : text.toList = source ++ ':' :: (target ++ rest)) (hsource : ':' ∉ source)
    (htarget : ':' ∉ target) (hrest : rest = [] ∨ rest.head? = some ':') :
    mountSource text = source ∧ mountTarget text = target := by
  have hdrop : text.toList.dropWhile (· ≠ ':') = ':' :: (target ++ rest) := by
    rw [htext, dropWhile_append_of_pos]
    · rfl
    · exact fun c hc => decide_eq_true fun h => hsource (h ▸ hc)
  refine ⟨by rw [mountSource, htext, takeWhile_colon hsource], ?_⟩
  rw [mountTarget, if_pos (htext ▸ by simp), hdrop, drop_one, tail_cons]
  have hall : ∀ c ∈ target, decide (c ≠ ':') = true :=
    fun c hc => decide_eq_true fun h => htarget (h ▸ hc)
  rw [takeWhile_append_of_pos hall]
  cases rest with
  | nil => simp
  | cons c rest =>
    rw [Option.some.inj (hrest.resolve_left (cons_ne_nil _ _))]
    simp

/-- The mount is made, and the values of its texts are filled in. -/
def Prepared (host : Host) (config : GraphConfig) (name text : String) : Prop :=
  ∃ mount, prepareMount host config name text = .ok mount ∧
    ∀ m ∈ mount, ∀ t ∈ m.texts, Resolves host config.id t

section
variable {host : Host} {config : GraphConfig} {name text : String}

@[simp] theorem resourceOf_no_dollar {graph : Ident} :
    '$' ∈ (resourceOf graph text).toList ↔ '$' ∈ text.toList := by
  simp [resourceOf]

variable {source : List Char}

theorem Prepared.bind {target : String}
    (h : prepareMount host config name text = .ok (some (.bind (String.ofList source) target)))
    (hsource : Clean source) (htarget : '$' ∉ target.toList) : Prepared host config name text := by
  refine ⟨_, h, ?_⟩
  rintro m ⟨⟩
  refine forall_mem_cons.2 ⟨resolves_of_clean (String.toList_ofList ▸ hsource), ?_⟩
  exact forall_mem_singleton.2 (resolves_of_no_dollar htarget)

theorem Prepared.volume {volume target : String} {readOnly : Bool} {path : Option String}
    (h : prepareMount host config name text =
      .ok (some (.volume (resourceOf config.id volume) target readOnly path)))
    (hplain : '$' ∉ volume.toList ∧ '$' ∉ target.toList ∧ ∀ p ∈ path, '$' ∉ p.toList) :
    Prepared host config name text := by
  refine ⟨_, h, ?_⟩
  rintro m ⟨⟩ t ht
  simp only [Mount.texts, mem_append, mem_cons, not_mem_nil, or_false,
    Option.mem_toList] at ht
  rcases ht with (rfl | rfl) | ht
  · exact resolves_of_no_dollar (by simpa using hplain.1)
  · exact resolves_of_no_dollar hplain.2.1
  · exact resolves_of_no_dollar (hplain.2.2 t ht)

theorem isName_of_no_point {part : List Char} (hne : part ≠ []) (hpoint : '.' ∉ part)
    (hslash : '/' ∉ part) : isName part = true := by
  simp only [isName, Bool.and_eq_true, decide_eq_true_eq]
  refine ⟨⟨⟨hne, ?_⟩, ?_⟩, hslash⟩
  · rintro rfl
    exact hpoint mem_cons_self
  · rintro rfl
    exact hpoint mem_cons_self

theorem Host.root_isName : ∀ part ∈ host.root config.id, isName part = true := by
  intro part hpart
  rcases mem_append.1 hpart with hpart | hpart
  · have hresolved := host.canonical part hpart
    exact (Bool.and_eq_true_iff.1 hresolved).1
  · rw [mem_singleton.1 hpart]
    refine isName_of_no_point ?_ (by simp) (by simp)
    intro hempty
    have hvalid := config.id.valid
    rw [isIdentifier, hempty] at hvalid
    cases hvalid

theorem Host.configurationRoot_isName :
    ∀ part ∈ host.configurationRoot config.id, isName part = true := by
  intro part hpart
  rcases mem_append.1 hpart with hpart | hpart
  · exact Host.root_isName part hpart
  · rw [mem_singleton.1 hpart]
    exact isName_of_no_point (by simp) (by simp) (by simp)

/-- A document of the compilation, by the parts of its path. -/
structure IsDocument (config : GraphConfig) (parts : List String) : Prop where
  mem : parts ∈ documents config
  ne_nil : parts ≠ []
  names : ∀ part ∈ parts, Path.isName part.toList = true
  plain : ∀ part ∈ parts, '$' ∉ part.toList ∧ ':' ∉ part.toList

variable {target : List Char}

theorem prepareBind_document {parts : List String} (h : IsDocument config parts) :
    prepareBind host config (['.', '/'] ++ ['/'].intercalate (parts.map String.toList)) target =
      .ok (.bind (String.ofList (Path.text (host.configurationRoot config.id ++
        parts.map String.toList))) (String.ofList target)) := by
  have hinner : ∀ part ∈ parts.map String.toList, isName part = true := by
    intro part hpart
    obtain ⟨text, htext, rfl⟩ := mem_map.1 hpart
    exact h.names text htext
  have hroot : host.configurationRoot config.id ≠ [] := by simp [Host.configurationRoot]
  have hpath : bindPath host config (['.', '/'] ++ ['/'].intercalate (parts.map String.toList)) =
      .ok (text (host.configurationRoot config.id ++ parts.map String.toList)) := by
    rw [bindPath, ← append_text hroot (by simpa using h.ne_nil)
      Host.configurationRoot_isName hinner]
    rfl
  have hnormal : lexicallyNormal
      (text (host.configurationRoot config.id ++ parts.map String.toList)) =
        text (host.configurationRoot config.id ++ parts.map String.toList) := by
    refine lexicallyNormal_text (by simp [hroot]) fun part hpart => ?_
    rcases mem_append.1 hpart with hpart | hpart
    · exact Host.configurationRoot_isName part hpart
    · exact hinner part hpart
  have hbelow : (text (host.configurationRoot config.id) ++ ['/']).isPrefixOf
      (text (host.configurationRoot config.id ++ parts.map String.toList)) = true := by
    rw [List.isPrefixOf_iff_prefix, text_append hroot (by simpa using h.ne_nil)]
    exact ⟨['/'].intercalate (parts.map String.toList), by simp [text]⟩
  refine bind_eq_ok.2 ⟨_, hpath, ?_⟩
  rw [hnormal]
  refine bind_unit_eq_ok.2 ⟨?_, bind_unit_eq_ok.2 ⟨?_, rfl⟩⟩
  · simp [refuse, hbelow]
  · rw [require_eq_ok, Bool.or_eq_true]
    exact .inr (contains_iff_mem.2 (mem_map_of_mem h.mem))

theorem prepareBind_barriers :
    prepareBind host config (executionValue "GX_STATE" ++ "/barriers").toList target =
      .ok (.bind (String.ofList (Path.text (host.root config.id ++ ["barriers".toList])))
        (String.ofList target)) := by
  have hpath : bindPath host config (executionValue "GX_STATE" ++ "/barriers").toList =
      .ok (text (host.root config.id ++ ["barriers".toList])) := by
    refine bind_eq_ok.2 ⟨String.ofList (text (host.root config.id ++ ["barriers".toList])),
      ?_, by rw [String.toList_ofList]⟩
    rw [String.ofList_toList, replace, host.substitute_barriers]
    refine bind_unit_eq_ok.2 ⟨?_, rfl⟩
    rw [require_eq_ok, Bool.not_eq_true', isUnresolved, String.toList_ofList]
    exact decide_eq_false (host.barriers_clean config.id)
  have hnormal : lexicallyNormal (text (host.root config.id ++ ["barriers".toList])) =
      text (host.root config.id ++ ["barriers".toList]) := by
    refine lexicallyNormal_text (by simp) fun part hpart => ?_
    rcases mem_append.1 hpart with hpart | hpart
    · exact Host.root_isName part hpart
    · rw [mem_singleton.1 hpart]
      decide
  refine bind_eq_ok.2 ⟨_, hpath, ?_⟩
  rw [hnormal]
  exact bind_unit_eq_ok.2 ⟨by simp [refuse], bind_unit_eq_ok.2 ⟨by simp, rfl⟩⟩

/-- The targets that are not those of binds. -/
def specialTargets : List (List Char) :=
  ["/run/graphx/console".toList, "/captures".toList, "/var/lib/graphx/history".toList]

structure IsBindTarget (target : List Char) : Prop where
  no_colon : ':' ∉ target
  no_dollar : '$' ∉ target
  not_special : target ∉ specialTargets

theorem prepareMount_bind {mount : Mount}
    (hparts : mountSource text = source ∧ mountTarget text = target)
    (hcredential : credentialRoot.isPrefixOf source = false) (htarget : IsBindTarget target)
    (h : prepareBind host config source target = .ok mount) :
    prepareMount host config name text = .ok (some mount) := by
  have hspecial := htarget.not_special
  simp only [specialTargets, mem_cons, not_or] at hspecial
  obtain ⟨hsource, htargets⟩ := hparts
  unfold prepareMount
  rw [hsource, htargets]
  simp only [hcredential, hspecial.1, hspecial.2.1, hspecial.2.2]
  exact bind_eq_ok.2 ⟨mount, h, rfl⟩

theorem prepared_document {parts : List String} (h : IsDocument config parts)
    (htarget : IsBindTarget target)
    (htext : text.toList = (['.', '/'] ++ ['/'].intercalate (parts.map String.toList)) ++
      ':' :: (target ++ [':', 'r', 'o'])) :
    Prepared host config name text := by
  have hplain : ∀ part ∈ parts.map String.toList, '$' ∉ part ∧ ':' ∉ part := by
    intro part hpart
    obtain ⟨text, htext, rfl⟩ := mem_map.1 hpart
    exact h.plain text htext
  have hcolon : ':' ∉ ['.', '/'] ++ ['/'].intercalate (parts.map String.toList) := by
    have := Path.not_mem_text (show ':' ≠ '/' by decide) fun part hpart => (hplain part hpart).2
    simp only [Path.text, mem_cons, not_or] at this
    simpa using this.2
  refine .bind (prepareMount_bind (mount_parts htext hcolon htarget.no_colon (.inr rfl)) rfl htarget
    (prepareBind_document h)) (clean_path fun part hpart => ?_) (by simpa using htarget.no_dollar)
  rcases mem_append.1 hpart with hpart | hpart
  · exact host.configurationRoot_clean config.id part hpart
  · exact clean_of_no_dollar (hplain part hpart).1

/-- The characters of the mount of a file of the compilation, at a place for binds. -/
def IsFileMount (text file target : List Char) : Prop :=
  text = ['.', '/'] ++ file ++ ':' :: (target ++ [':', 'r', 'o']) ∧ Path.isName file = true ∧
    ('$' ∉ file ∧ ':' ∉ file) ∧ ':' ∉ target ∧ '$' ∉ target ∧ target ∉ specialTargets

theorem prepared_file (file target : String) (hmem : [file] ∈ documents config)
    (h : IsFileMount text.toList file.toList target.toList := by
      simp [IsFileMount, isName, specialTargets]) : Prepared host config name text := by
  obtain ⟨htext, hname, hplain, hcolon, hdollar, hspecial⟩ := h
  have hdocument : IsDocument config [file] :=
    ⟨hmem, by simp, by simpa using hname, by simpa using hplain⟩
  refine prepared_document hdocument ⟨hcolon, hdollar, hspecial⟩ ?_
  rw [htext]
  simp [intercalate]

theorem stateMount_parts (text dir target tail : String)
    (htext : text.toList = dir.toList ++ ':' :: (target.toList ++ tail.toList))
    (hcolon : ':' ∉ dir.toList ∧ ':' ∉ target.toList)
    (htail : tail.toList = [] ∨ tail.toList.head? = some ':') :
    (mountSource (executionValue "GX_STATE" ++ text) = (executionValue "GX_STATE" ++ dir).toList ∧
      mountTarget (executionValue "GX_STATE" ++ text) = target.toList) ∧
      credentialRoot.isPrefixOf (executionValue "GX_STATE" ++ dir).toList = false := by
  refine ⟨mount_parts ?_ ?_ hcolon.2 htail, ?_⟩
  · rw [String.toList_append, String.toList_append, htext, append_assoc]
  · rw [String.toList_append, mem_append, not_or]
    exact ⟨by decide, hcolon.1⟩
  · rw [credentialRoot, String.toList_append, String.toList_append]
    rfl

theorem prepared_barriers :
    Prepared host config name (executionValue "GX_STATE" ++ "/barriers:/run/graphx/barriers:ro") := by
  have htarget : IsBindTarget "/run/graphx/barriers".toList :=
    ⟨by simp, by simp, by simp [specialTargets]⟩
  obtain ⟨hparts, hcredential⟩ := stateMount_parts "/barriers:/run/graphx/barriers:ro" "/barriers"
    "/run/graphx/barriers" ":ro" (by simp) (by simp) (by simp)
  exact .bind (prepareMount_bind hparts hcredential htarget prepareBind_barriers)
    (host.barriers_clean config.id) (by simp)

theorem prepared_credential {ref : String} (hcolon : ':' ∉ ref.toList) (hdollar : '$' ∉ ref.toList) :
    Prepared host config name (credentialMount ref) := by
  have htext : (credentialMount ref).toList =
      (credentialRoot ++ ref.toList) ++ ':' :: (("/run/secrets/" ++ ref).toList ++ ":ro".toList) := by
    simp [credentialMount, credentialRoot]
  obtain ⟨hsource, htarget⟩ := mount_parts htext
    (by rw [mem_append, not_or]; exact ⟨by decide, hcolon⟩) (by simpa using hcolon) (.inr rfl)
  have hmount : prepareMount host config name (credentialMount ref) = .ok (some (.volume
      (resourceOf config.id "credentials") ("/run/secrets/" ++ ref) true
      (some ("credentials/" ++ ref)))) := by
    unfold prepareMount
    rw [hsource, htarget, if_pos (by simp), String.ofList_toList, drop_left,
      String.ofList_toList]
  exact .volume hmount (by simp [hdollar])

theorem prepared_captures (hname : name ≠ "platform") (hdollar : '$' ∉ name.toList)
    (htext : text.toList = source ++ ':' :: ("/captures".toList ++ [])) (hcolon : ':' ∉ source)
    (hsource : credentialRoot.isPrefixOf source = false) : Prepared host config name text := by
  obtain ⟨hparts, htarget⟩ := mount_parts htext hcolon (by decide) (.inl rfl)
  have hmount : prepareMount host config name text = .ok (some (.volume
      (resourceOf config.id ("capture-" ++ name)) "/captures" false none)) := by
    unfold prepareMount
    rw [hparts, htarget, if_neg (by simp [hsource]), if_neg (by simp [hname]),
      if_neg (by simp [hname]), if_pos (by decide)]
  exact .volume hmount (by simp [hdollar])

theorem clean_stateFile {label : String} {token : Token} (hlabel : '$' ∉ label.toList) :
    Clean (Path.text (host.root config.id ++ [(label ++ token.text).toList])) := by
  refine clean_path fun part hpart => ?_
  rcases mem_append.1 hpart with hpart | hpart
  · exact host.root_clean config.id part hpart
  · rw [mem_singleton.1 hpart]
    exact clean_of_no_dollar (by simp [hlabel])

theorem handoffMount_resolves : ∀ m ∈ handoffMount host config, ∀ t ∈ m.texts,
    Resolves host config.id t := by
  intro m hm t ht
  unfold handoffMount at hm
  split_ifs at hm
  · cases hm
    simp only [Mount.texts, mem_cons, not_mem_nil, or_false] at ht
    rcases ht with rfl | rfl
    · exact resolves_of_clean (String.toList_ofList ▸ clean_stateFile (by decide))
    · exact resolves_of_no_dollar (by decide)
  · cases hm

theorem prepared_console :
    Prepared host config "platform" (executionValue "GX_STATE" ++ "/console:/run/graphx/console:ro") := by
  obtain ⟨⟨hsource, htarget⟩, hcredential⟩ := stateMount_parts "/console:/run/graphx/console:ro"
    "/console" "/run/graphx/console" ":ro" (by simp) (by simp) (by simp)
  have hmount : prepareMount host config "platform" (executionValue "GX_STATE" ++
      "/console:/run/graphx/console:ro") = .ok (some (.bind (String.ofList (text
        (host.root config.id ++ [("console-" ++ host.console.text).toList]))) "/run/graphx/console")) := by
    unfold prepareMount
    dsimp only
    rw [hsource, htarget, hcredential]
    simp
  exact .bind hmount (clean_stateFile (by simp)) (by simp)

theorem prepared_history :
    Prepared host config "platform" (executionValue "GX_STATE" ++ "/history:/var/lib/graphx/history") := by
  obtain ⟨⟨hsource, htarget⟩, hcredential⟩ := stateMount_parts "/history:/var/lib/graphx/history"
    "/history" "/var/lib/graphx/history" "" (by simp) (by simp) (by simp)
  have hmount : prepareMount host config "platform" (executionValue "GX_STATE" ++
      "/history:/var/lib/graphx/history") = .ok (some (.volume (resourceOf config.id "history")
        "/var/lib/graphx" false none)) := by
    unfold prepareMount
    dsimp only
    rw [hsource, htarget, hcredential]
    simp
  exact .volume hmount (by simp)

theorem prepared_handoff :
    Prepared host config "platform" (executionValue "GX_STATE" ++ "/handoff:/captures:ro") := by
  obtain ⟨⟨hsource, htarget⟩, hcredential⟩ := stateMount_parts "/handoff:/captures:ro" "/handoff"
    "/captures" ":ro" (by simp) (by simp) (by simp)
  refine ⟨handoffMount host config, ?_, handoffMount_resolves⟩
  unfold prepareMount
  dsimp only
  rw [hsource, htarget, hcredential]
  simp

end

/-! ## The mounts of the compiler -/

section
variable {env : Environment} {catalog : Catalog} {target : String} {config : GraphConfig}
  {node : ResolvedNode} {plan : CredentialPlan} {host : Host} {name : String}

theorem isName_json {base : String} (h : '/' ∉ base.toList) :
    isName (base ++ ".json").toList = true := by
  have hlength : 5 ≤ (base ++ ".json").toList.length := by simp [String.toList_append]
  have hslash : '/' ∉ (base ++ ".json").toList := by simpa [String.toList_append] using h
  have hne : ∀ short : List Char, short.length < 5 → (base ++ ".json").toList ≠ short := by
    rintro short hshort rfl
    exact absurd hlength (not_le.2 hshort)
  simp only [isName, Bool.and_eq_true, decide_eq_true_eq]
  exact ⟨⟨⟨hne _ (by decide), hne _ (by decide)⟩, hne _ (by decide)⟩, hslash⟩

theorem document_node (hnode : node ∈ config.nodes) :
    IsDocument config ["nodes", node.id.text ++ ".json"] := by
  refine ⟨?_, by simp, ?_, by simp⟩
  · exact mem_append_left _ (mem_append_right _ (mem_map_of_mem hnode))
  · simp only [forall_mem_cons]
    exact ⟨by decide, isName_json (by simp), by simp⟩

theorem prepared_nodeVolumes (h : Accepted env catalog target config)
    (hplan : credentialPlan config = .ok plan) (hnode : node ∈ config.nodes) :
    ∀ text ∈ nodeVolumes node (credentialRefs plan node.id.text),
      Prepared host config node.id.text text := by
  have hplatform : node.id.text ≠ "platform" := fun hname =>
    h.not_platformService hnode (hname ▸ mem_cons_self)
  have nodeTarget : IsBindTarget "/run/graphx/node.json".toList :=
    ⟨by simp, by simp, by simp [specialTargets]⟩
  intro text htext
  simp only [nodeVolumes, mem_append, mem_cons, not_mem_nil, or_false, mem_map]
    at htext
  rcases htext with ((rfl | rfl) | ⟨ref, href, rfl⟩) | hcapture
  · refine prepared_document (document_node hnode) nodeTarget ?_
    simp [intercalate]
  · exact prepared_barriers
  · exact prepared_credential (h.refs_not_mem hplan href (by decide))
      (h.refs_not_mem hplan href (by decide))
  · split_ifs at hcapture
    · rw [mem_singleton.1 hcapture]
      refine prepared_captures hplatform (by simp)
        (show _ = ((executionValue "GX_STATE" ++ "/captures/").toList ++ node.id.text.toList) ++ _ from ?_)
        ?_ rfl
      · simp [String.toList_append]
      · rw [mem_append, not_or]
        exact ⟨by decide, by simp⟩
    · cases hcapture

theorem prepared_platformVolumes (h : Accepted env catalog target config)
    (hplan : credentialPlan config = .ok plan) :
    ∀ text ∈ platformVolumes (credentialRefs plan "platform"),
      Prepared host config "platform" text := by
  have hmem : ∀ parts ∈ [["resolved.json"], ["credentials.json"], ["platform.json"]],
      parts ∈ documents config := fun parts hparts =>
    mem_append_left _ (mem_append_left _ hparts)
  intro text htext
  simp only [platformVolumes, mem_append, mem_cons, not_mem_nil, or_false,
    mem_map] at htext
  rcases htext with (rfl | rfl | rfl | rfl | rfl | rfl) | ⟨ref, href, rfl⟩
  · exact prepared_file "resolved.json" "/run/graphx/resolved.json" (hmem _ (by simp))
  · exact prepared_file "platform.json" "/run/graphx/platform.json" (hmem _ (by simp))
  · exact prepared_file "credentials.json" "/run/graphx/credentials.json" (hmem _ (by simp))
  · exact prepared_console
  · exact prepared_history
  · exact prepared_handoff
  · exact prepared_credential (h.refs_not_mem hplan href (by decide))
      (h.refs_not_mem hplan href (by decide))

theorem prepared_extensionVolumes {extension : Extension} {networks : Table String Attached}
    {service : Service} (hmem : extension ∈ config.platform.extensions)
    (hservice : extensionService networks extension = .ok service) :
    ∀ text ∈ service.volumes, Prepared host config extension.text text := by
  unfold extensionService at hservice
  obtain ⟨base, -, hservice⟩ := bind_eq_ok.1 hservice
  intro text htext
  cases extension with
  | prometheus =>
    have hmem : ∀ parts ∈ [["prometheus-alerts.json"], ["prometheus.json"]],
        parts ∈ documents config := fun parts hparts =>
      mem_append_right _ (mem_flatMap.2 ⟨_, hmem, hparts⟩)
    cases hservice
    simp only [mem_cons, not_mem_nil, or_false] at htext
    rcases htext with rfl | rfl | rfl
    · exact prepared_file "prometheus.json" "/etc/prometheus/graphx.json"
        (hmem _ (by simp))
    · exact prepared_file "prometheus-alerts.json" "/etc/prometheus/alerts.json"
        (hmem _ (by simp))
    · exact show Prepared host config _ (credentialMount "observer") from
        prepared_credential (by decide) (by decide)
  | grafana =>
    have hmem : ∀ parts ∈ [["grafana-dashboard.json"], ["grafana-dashboards.json"],
        ["grafana-datasources.json"]], parts ∈ documents config := fun parts hparts =>
      mem_append_right _ (mem_flatMap.2 ⟨_, hmem, hparts⟩)
    cases hservice
    simp only [mem_cons, not_mem_nil, or_false] at htext
    rcases htext with rfl | rfl | rfl | rfl
    · exact prepared_file "grafana-datasources.json" "/etc/grafana/provisioning/datasources/graphx.yaml"
        (hmem _ (by simp))
    · exact prepared_file "grafana-dashboards.json" "/etc/grafana/provisioning/dashboards/graphx.yaml"
        (hmem _ (by simp))
    · exact prepared_file "grafana-dashboard.json" "/etc/graphx-dashboards/graphx.json"
        (hmem _ (by simp))
    · exact show Prepared host config _ (credentialMount "grafana-admin") from
        prepared_credential (by decide) (by decide)

end

end GraphX.Config
