/-
  Values that are filled in: what a text without values becomes, and what is left to fill
  in of a document.
-/
import GraphX.Config.Admission
import GraphX.Lib.Table
import Mathlib.Data.List.ReduceOption

namespace GraphX.Config

open List Check Path

/-! ## Texts without values -/

/-- Nothing is to be filled in. -/
def Clean (text : List Char) : Prop := ¬ mark <:+: text

theorem clean_of_no_dollar {text : List Char} (h : '$' ∉ text) : Clean text :=
  Text.not_infix_of_not_mem mem_cons_self h

theorem executionValue_toList (name : String) :
    (executionValue name).toList = mark ++ name.toList ++ ['\x7d'] := by
  simp [executionValue, mark]

theorem Clean.append {s t : List Char} (hs : Clean s) (ht : Clean t) (hseam : t.head? ≠ some '\x7b') :
    Clean (s ++ t) := by
  intro h
  rcases Text.pair_infix_append h with h | h | h
  · exact hs h
  · exact ht h
  · exact hseam h

@[simp] theorem Ident.marks_notMem (id : Ident) : '$' ∉ id.text.toList ∧ ':' ∉ id.text.toList ∧
    '/' ∉ id.text.toList ∧ '.' ∉ id.text.toList := by
  have hinvalid : ∀ {c : Char}, isIdentifierChar c = false → c ∉ id.text.toList := by
    intro c h hc
    rw [id.chars_valid c hc] at h
    cases h
  exact ⟨hinvalid rfl, hinvalid rfl, hinvalid rfl, hinvalid rfl⟩

@[simp] theorem Token.marks_notMem (token : Token) : '$' ∉ token.text.toList ∧
    '/' ∉ token.text.toList ∧ '.' ∉ token.text.toList := by
  have hinvalid : ∀ {c : Char}, isLowerHexDigit c = false → c ∉ token.text.toList := by
    intro c h hc
    rw [all_eq_true.1 token.hex c hc] at h
    cases h
  exact ⟨hinvalid rfl, hinvalid rfl, hinvalid rfl⟩

theorem clean_ident (id : Ident) : Clean id.text.toList :=
  clean_of_no_dollar (by simp)

theorem clean_token (token : Token) : Clean token.text.toList :=
  clean_of_no_dollar (by simp)

theorem Clean.cons {c : Char} {t : List Char} (hc : c ≠ '$') (ht : Clean t) : Clean (c :: t) := by
  intro h
  rcases infix_cons_iff.1 h with h | h
  · exact hc (cons_prefix_cons.1 h).1.symm
  · exact ht h

theorem clean_path {parts : List (List Char)} (h : ∀ part ∈ parts, Clean part) :
    Clean (text parts) := by
  induction parts with
  | nil => exact clean_of_no_dollar (by decide)
  | cons part rest ih =>
    have hpart : Clean part := h part mem_cons_self
    cases rest with
    | nil =>
      rw [text_singleton]
      exact hpart.cons (by decide)
    | cons next rest =>
      rw [text_cons part (by simp)]
      refine .cons (by decide) (hpart.append (ih fun p hp => h p (mem_cons_of_mem _ hp)) ?_)
      simp [text]

/-! ## Values -/

section
variable (host : Host) (graph : Ident)

theorem mark_infix_executionValue (name : String) : mark <:+: (executionValue name).toList :=
  ⟨[], name.toList ++ ['\x7d'], by rw [executionValue_toList, nil_append, append_assoc]⟩

theorem Host.root_clean : ∀ part ∈ host.root graph, Clean part := by
  intro part hpart
  rcases mem_append.1 hpart with hpart | hpart
  · have hresolved := host.canonical part hpart
    simp only [isResolvedName, Bool.and_eq_true, Bool.not_eq_true', decide_eq_false_iff_not]
      at hresolved
    exact hresolved.2
  · rw [mem_singleton.1 hpart]
    exact clean_ident graph

theorem Host.configurationRoot_clean : ∀ part ∈ host.configurationRoot graph, Clean part := by
  intro part hpart
  rcases mem_append.1 hpart with hpart | hpart
  · exact host.root_clean graph part hpart
  · rw [mem_singleton.1 hpart]
    exact clean_of_no_dollar (by simp)

theorem fill_of_clean {values : List (String × String)} {text : List Char} (h : Clean text) :
    fill values text = text := by
  induction values with
  | nil => rfl
  | cons e values ih =>
    rw [fill, foldl_cons, Text.replaceAll_of_not_infix]
    · exact ih
    · exact fun hinside => h ((mark_infix_executionValue e.1).trans hinside)

theorem fill_value (before after : List (String × String)) (key value rest : String)
    (hbefore : ∀ e ∈ before,
      ¬ (executionValue e.1).toList <:+: (executionValue key).toList ++ rest.toList)
    (hrest : Clean rest.toList) (hvalue : Clean (value.toList ++ rest.toList)) :
    fill (before ++ (key, value) :: after) ((executionValue key).toList ++ rest.toList) =
      value.toList ++ rest.toList := by
  induction before with
  | nil =>
    have hpattern : (executionValue key).toList ≠ [] := by simp [executionValue]
    have hsame : Text.replaceAll (executionValue key).toList value.toList rest.toList = rest.toList :=
      Text.replaceAll_of_not_infix fun h => hrest ((mark_infix_executionValue key).trans h)
    rw [nil_append, fill, foldl_cons, Text.replaceAll_append hpattern, hsame]
    exact fill_of_clean hvalue
  | cons e before ih =>
    rw [cons_append, fill, foldl_cons,
      Text.replaceAll_of_not_infix (hbefore e mem_cons_self)]
    exact ih fun e' he' => hbefore e' (mem_cons_of_mem _ he')

theorem Host.substitute_of_clean {text : String} (h : Clean text.toList) :
    host.substitute graph text = text := by
  rw [Host.substitute, fill_of_clean h, String.ofList_toList]

theorem Host.substitute_owner :
    host.substitute graph (executionValue "GX_OWNER") = host.owner.text := by
  have hfill := fill_value [("GX_CREDENTIALS", "/unused-credential-path"),
    ("GX_OUTPUT", String.ofList (text (host.configurationRoot graph)))]
    [("GX_RELEASE", host.release), ("GX_STATE", String.ofList (text (host.root graph)))]
    "GX_OWNER" host.owner.text "" ?_ (clean_of_no_dollar (by simp))
    (by simpa using clean_token host.owner)
  · rw [Host.substitute, ← append_nil (executionValue "GX_OWNER").toList]
    exact (congrArg String.ofList hfill).trans (by simp)
  · simp only [executionValue_toList]
    simp [mark]
    decide

theorem Host.barriers_clean : Clean (text (host.root graph ++ ["barriers".toList])) := by
  refine clean_path fun part hpart => ?_
  rcases mem_append.1 hpart with hpart | hpart
  · exact host.root_clean graph part hpart
  · exact clean_of_no_dollar (by simp [mem_singleton.1 hpart])

theorem Host.substitute_barriers :
    host.substitute graph (executionValue "GX_STATE" ++ "/barriers") =
      String.ofList (text (host.root graph ++ ["barriers".toList])) := by
  have hpath : text (host.root graph ++ ["barriers".toList]) =
      (String.ofList (text (host.root graph))).toList ++ "/barriers".toList := by
    rw [text_append (by simp [Host.root]) (by simp), text_singleton]
    exact congrArg (· ++ '/' :: "barriers".toList) String.toList_ofList.symm
  have hfill := fill_value [("GX_CREDENTIALS", "/unused-credential-path"),
    ("GX_OUTPUT", String.ofList (text (host.configurationRoot graph))),
    ("GX_OWNER", host.owner.text), ("GX_RELEASE", host.release)] []
    "GX_STATE" (String.ofList (text (host.root graph))) "/barriers" ?_
    (clean_of_no_dollar (by simp)) ?_
  · rw [Host.substitute, String.toList_append, hpath]
    exact congrArg String.ofList hfill
  · simp only [executionValue_toList]
    simp [mark]
    decide
  · exact hpath ▸ host.barriers_clean graph

end

/-- The values of the text are filled in. -/
def Resolves (host : Host) (graph : Ident) (text : String) : Prop :=
  isUnresolved (host.substitute graph text) = false

variable {graph : Ident} {text : String}

theorem resolves_of_clean {host : Host} (h : Clean text.toList) : Resolves host graph text := by
  rw [Resolves, host.substitute_of_clean graph h]
  exact decide_eq_false h

theorem resolves_of_no_dollar {host : Host} (h : '$' ∉ text.toList) : Resolves host graph text :=
  resolves_of_clean (clean_of_no_dollar h)

theorem resolves_owner {host : Host} : Resolves host graph (executionValue "GX_OWNER") := by
  rw [Resolves, host.substitute_owner graph]
  exact decide_eq_false (clean_token host.owner)

/-! ## The projection -/

section
variable (f : String → String)

theorem getD_map_texts (o : Option (List String)) :
    (o.map (·.map f)).getD [] = (o.getD []).map f := by
  cases o <;> rfl

theorem getD_values_map (o : Option (Table String String)) :
    ((o.map fun t => t.map fun _ => f).getD Table.empty).values =
      (o.getD Table.empty).values.map f := by
  cases o with
  | none => rfl
  | some t => exact t.values_map f

theorem flatMap_texts {α : Type} {texts : α → List String} {change : α → α} (l : List α)
    (h : ∀ a, texts (change a) = (texts a).map f) :
    (l.map change).flatMap texts = (l.flatMap texts).map f := by
  rw [flatMap_map, map_flatMap]
  exact congrArg (l.flatMap ·) (funext h)

theorem Attached.texts_mapTexts (a : Attached) : (a.mapTexts f).texts = a.texts.map f := by
  simp [Attached.texts, Attached.mapTexts, Option.toList_map]

theorem Service.texts_mapTexts (s : Service) : (s.mapTexts f).texts = s.texts.map f := by
  have hnetworks : (s.networks.map fun _ => Attached.mapTexts f).values.flatMap Attached.texts =
      (s.networks.values.flatMap Attached.texts).map f := by
    rw [← flatMap_texts f _ (Attached.texts_mapTexts f), Table.values_map]
  simp [Service.texts, Service.mapTexts, getD_map_texts, getD_values_map, hnetworks, Logging.texts,
    Logging.mapTexts]

theorem Mount.texts_mapTexts (m : Mount) : (m.mapTexts f).texts = m.texts.map f := by
  cases m <;> simp [Mount.texts, Mount.mapTexts, Option.toList_map]

theorem RunService.texts_mapTexts (s : RunService) : (s.mapTexts f).texts = s.texts.map f := by
  simp [RunService.texts, RunService.mapTexts, Service.texts_mapTexts,
    flatMap_texts f _ (Mount.texts_mapTexts f)]

theorem RunNetwork.texts_mapTexts (n : RunNetwork) : (n.mapTexts f).texts = n.texts.map f := by
  simp [RunNetwork.texts, RunNetwork.mapTexts, Table.values_map, Option.toList_map]

theorem RunCompose.texts_mapTexts (c : RunCompose) : (c.mapTexts f).texts = c.texts.map f := by
  have hservices : ∀ e : String × RunService,
      RunService.texts (e.2.mapTexts f) = (RunService.texts e.2).map f :=
    fun e => e.2.texts_mapTexts f
  have hnetworks : ∀ e : String × RunNetwork,
      RunNetwork.texts (e.2.mapTexts f) = (RunNetwork.texts e.2).map f :=
    fun e => e.2.texts_mapTexts f
  simp [RunCompose.texts, RunCompose.mapTexts, flatMap_map, hservices, hnetworks, map_flatMap]

end

theorem project_eq_ok {host : Host} {compose : RunCompose} :
    (∃ projected, project host graph compose = .ok projected) ↔
      ∀ text ∈ compose.texts, Resolves host graph text := by
  constructor
  · rintro ⟨projected, h⟩ text htext
    obtain ⟨hresolved, -⟩ := bind_unit_eq_ok.1 h
    rw [require_eq_ok, Bool.not_eq_true', any_eq_false, RunCompose.texts_mapTexts] at hresolved
    exact Bool.eq_false_iff.2 (hresolved _ (mem_map_of_mem htext))
  · intro h
    refine ⟨_, bind_unit_eq_ok.2 ⟨?_, rfl⟩⟩
    rw [require_eq_ok, Bool.not_eq_true', any_eq_false, RunCompose.texts_mapTexts]
    intro text htext
    obtain ⟨original, horiginal, rfl⟩ := mem_map.1 htext
    exact Bool.eq_false_iff.1 (h original horiginal)

end GraphX.Config
