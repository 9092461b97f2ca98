import SoapWrap.Proofs.Code.Parsed
import SoapWrap.Proofs.Service.Normalization
import SoapWrap.Proofs.Synthesis.Readability

/-! Reflected types are read back from their written form, whatever document they came from, and an
index holds each name once: a text that repeats one is refused with the first repetition. -/

namespace SoapWrap

open Document Json

section Written

lemma ParamInfo.within_toJson (p : ParamInfo) : p.toJson.Within 4 := by
  refine within_obj ?_
  simp only [List.forall_mem_cons, List.forall_mem_append]
  refine ⟨within_str _, ?_, ?_⟩
  · exact within_optionMember fun s _ => within_str s
  · exact within_listMember fun t _ => t.within_toJson

lemma MethodInfo.within_toJson (m : MethodInfo) : m.toJson.Within 6 := by
  refine within_obj ?_
  simp only [List.forall_mem_cons, List.forall_mem_append]
  refine ⟨within_str _, ?_, within_str _, ?_, ?_⟩
  · exact within_listMember fun p _ => p.within_toJson
  · exact within_listMember fun t _ => t.within_toJson.mono (by omega)
  · exact within_listMember fun t _ => t.within_toJson.mono (by omega)

lemma TypeInfo.within_toJson (t : TypeInfo) : t.toJson.Within 8 := by
  refine within_obj ?_
  simp only [List.forall_mem_cons, List.forall_mem_append]
  refine ⟨within_str _, within_str _, ⟨?_, ?_⟩, ?_⟩
  · exact within_listMember fun t _ => t.within_toJson.mono (by omega)
  · exact within_listMember fun m _ => m.within_toJson
  · exact within_optionMember fun t _ => t.within_toJson.mono (by omega)

lemma Index.within_toJson (index : Index) : index.toJson.Within 9 :=
  within_arr_map fun t _ => t.within_toJson

end Written

section Read

lemma Kind.ofDocument?_text (kind : Kind) : Kind.ofDocument? (str kind.text) = some kind := by
  cases kind <;> rfl

lemma ParamInfo.ofDocument?_toJson {p : ParamInfo} (h : p.declaredType.Parsed) :
    ParamInfo.ofDocument? p.toJson = some p := by
  have hkeys : List.Sublist _ ["type", "name", "tags"] :=
    .cons_cons "type" ((keys_optionMember "name" .str p.name).append
      (keys_listMember "tags" Tag.toJson p.tags))
  rw [ofDocument?, toJson]
  refine bind_record? (by simpa using hkeys.nodup (by decide)) fun f hf hlookup => ?_
  have hname : f "name" = (optionMember "name" .str p.name).lookup "name" := by
    simp [hlookup, List.lookup_cons, List.lookup_append]
  have htags : f "tags" = (listMember "tags" Tag.toJson p.tags).lookup "tags" := by
    simp [hlookup, List.lookup_cons, List.lookup_append]
  rw [hf ("type", p.declaredType.toJson) List.mem_cons_self, hname, htags,
    optional_optionMember fun s _ => ⟨rfl, text?_str s⟩,
    orDefault_listMember fun t _ => t.ofDocument?_toJson]
  simp only [required, TypeExpr.ofDocument?_toJson h]
  rfl

lemma MethodInfo.ofDocument?_toJson {m : MethodInfo} (h : ∀ t ∈ m.typeExprs, t.Parsed) :
    MethodInfo.ofDocument? m.toJson = some m := by
  rw [typeExprs, List.forall_mem_append, List.forall_mem_map, List.forall_mem_cons] at h
  obtain ⟨hparams, hreturns, hthrows⟩ := h
  have hkeys : List.Sublist _ ["name", "params", "returns", "throws", "tags"] :=
    .cons_cons "name" ((keys_listMember "params" ParamInfo.toJson m.params).append
      (.cons_cons "returns" ((keys_listMember "throws" TypeExpr.toJson m.throws).append
        (keys_listMember "tags" Tag.toJson m.tags))))
  rw [ofDocument?, toJson]
  refine bind_record? (by simpa using hkeys.nodup (by decide)) fun f hf hlookup => ?_
  have hparam : f "params" = (listMember "params" ParamInfo.toJson m.params).lookup "params" := by
    simp [hlookup, List.lookup_cons, List.lookup_append]
  have hthrow : f "throws" = (listMember "throws" TypeExpr.toJson m.throws).lookup "throws" := by
    simp [hlookup, List.lookup_cons, List.lookup_append]
  have htags : f "tags" = (listMember "tags" Tag.toJson m.tags).lookup "tags" := by
    simp [hlookup, List.lookup_cons, List.lookup_append]
  simp only [List.forall_mem_cons, List.forall_mem_append] at hf
  obtain ⟨hname, -, hreturn, -⟩ := hf
  rw [hname, hparam, hreturn, hthrow, htags,
    orDefault_listMember fun p hp => ParamInfo.ofDocument?_toJson (hparams p hp),
    orDefault_listMember fun t ht => TypeExpr.ofDocument?_toJson (hthrows t ht),
    orDefault_listMember fun t _ => t.ofDocument?_toJson]
  simp only [orDefault, TypeExpr.ofDocument?_toJson hreturns]
  rfl

lemma TypeInfo.ofDocument?_toJson {t : TypeInfo} (h : ∀ e ∈ t.typeExprs, e.Parsed) :
    TypeInfo.ofDocument? t.toJson = some t := by
  rw [typeExprs, List.forall_mem_append, List.forall_mem_flatMap] at h
  have hread : ∀ m ∈ t.methods, MethodInfo.ofDocument? m.toJson = some m := fun m hm =>
    MethodInfo.ofDocument?_toJson (h.1 m hm)
  have hpayload : ∀ e ∈ t.faultInfo, absent? e.toJson = some false ∧
      TypeExpr.ofDocument? e.toJson = some e := fun e he =>
    ⟨rfl, TypeExpr.ofDocument?_toJson (h.2 e (Option.mem_toList.mpr he))⟩
  have hkeys : List.Sublist _ ["name", "kind", "tags", "methods", "fault_info"] :=
    .cons_cons "name" (.cons_cons "kind" (((keys_listMember "tags" Tag.toJson t.tags).append
      (keys_listMember "methods" MethodInfo.toJson t.methods)).append
      (keys_optionMember "fault_info" TypeExpr.toJson t.faultInfo)))
  rw [ofDocument?, toJson]
  refine bind_record? (by simpa using hkeys.nodup (by decide)) fun f hf hlookup => ?_
  have htags : f "tags" = (listMember "tags" Tag.toJson t.tags).lookup "tags" := by
    simp [hlookup, List.lookup_cons, List.lookup_append]
  have hmethods :
      f "methods" = (listMember "methods" MethodInfo.toJson t.methods).lookup "methods" := by
    simp [hlookup, List.lookup_cons, List.lookup_append]
  have hfault : f "fault_info" =
      (optionMember "fault_info" TypeExpr.toJson t.faultInfo).lookup "fault_info" := by
    simp [hlookup, List.lookup_cons, List.lookup_append]
  simp only [List.forall_mem_cons, List.forall_mem_append] at hf
  obtain ⟨hname, hkind, -⟩ := hf
  rw [hname, hkind, htags, hmethods, hfault,
    orDefault_listMember fun t _ => t.ofDocument?_toJson, orDefault_listMember hread,
    optional_optionMember hpayload]
  simp only [orDefault, Kind.ofDocument?_text]
  rfl

end Read

namespace Index

variable {index : Index} {types : List TypeInfo} {text : String}

structure Settles (types : List TypeInfo) (result : Except IndexError Index) : Prop where
  accepts : (types.map (·.name)).Nodup → ∃ index, result = .ok index ∧ index.types = types
  refuses : ¬ (types.map (·.name)).Nodup → ∃ before t after, types = before ++ t :: after ∧
    (before.map (·.name)).Nodup ∧ t.name ∈ before.map (·.name) ∧
    result = .error (.duplicateType t.name)

lemma settles_ofTypes (types : List TypeInfo) : Settles types (ofTypes types) := by
  constructor
  · exact exists_ofTypes
  · intro h
    cases hfirst : firstRepeated [] (types.map (·.name)) with
    | none => exact absurd (nodup_of_firstRepeated hfirst).1 h
    | some name =>
      obtain ⟨before, after, hnames, hbefore, hname⟩ := split_of_firstRepeated hfirst
      have hname : name ∈ before := hname.resolve_left List.not_mem_nil
      obtain ⟨earlier, rest, rfl, rfl, hrest⟩ := List.map_eq_append_iff.mp hnames
      obtain ⟨t, later, rfl, rfl, rfl⟩ := List.map_eq_cons_iff.mp hrest
      exact ⟨earlier, t, later, rfl, (nodup_of_firstRepeated hbefore).1, hname,
        ofTypes_eq_error hfirst⟩

def typesIn? {δ : Type} [Document δ] (read : String → Option δ) (text : String) :
    Option (List TypeInfo) :=
  (read text).bind (list TypeInfo.ofDocument?)

lemma ofDocument_eq {δ : Type} [Document δ] {d : δ} (h : list TypeInfo.ofDocument? d = some types) :
    ofDocument d = ofTypes types := by
  rw [ofDocument, h]

lemma settles_ofText {δ : Type} [Document δ] {read : String → Option δ}
    (h : typesIn? read text = some types) : Settles types (ofText read text) := by
  obtain ⟨d, hd, htypes⟩ := Option.bind_eq_some_iff.mp h
  simp only [ofText, hd, ofDocument_eq htypes]
  exact settles_ofTypes types

lemma ofDocument_toJson (h : index.Parsed) : ofDocument index.toJson = .ok index := by
  have hread : list TypeInfo.ofDocument? index.toJson = some index.types :=
    list_map fun t ht => TypeInfo.ofDocument?_toJson (h t ht)
  rw [ofDocument_eq hread, ofTypes_types]

lemma get?_eq_some_iff_filter {name : String} {info : TypeInfo} :
    index.get? name = some info ↔ index.types.filter (·.name = name) = [info] := by
  rw [get?_eq_some_iff]
  constructor
  · rintro ⟨hinfo, rfl⟩
    obtain ⟨before, after, htypes⟩ := List.append_of_mem hinfo
    have hnames := index.distinct
    rw [htypes, List.map_append, List.map_cons, List.nodup_append', List.nodup_cons] at hnames
    obtain ⟨-, ⟨hafter, -⟩, hbefore⟩ := hnames
    have hnone : ∀ {ts : List TypeInfo}, info.name ∉ ts.map (·.name) →
        ts.filter (·.name = info.name) = [] := by
      intro ts hts
      refine List.filter_eq_nil_iff.mpr fun t ht hname => hts ?_
      exact of_decide_eq_true hname ▸ List.mem_map_of_mem ht
    rw [htypes, List.filter_append, List.filter_cons, if_pos (decide_eq_true rfl), hnone hafter,
      hnone fun h => hbefore h List.mem_cons_self, List.nil_append]
  · intro hfilter
    have hinfo : info ∈ index.types.filter (·.name = name) := hfilter ▸ List.mem_singleton_self info
    simpa using List.mem_filter.mp hinfo

theorem texts_read_back_or_repeat {δ : Type} [Document δ] (read : String → Option δ)
    (text : String) :
    (∀ index, ofJsonText text = .ok index ∨ ofYamlText text = .ok index ∨
        ofText read text = .ok index →
      ofJsonText index.toJson.compact = .ok index ∧ ofJsonText index.toJson.pretty = .ok index ∧
      ∀ name info, index.get? name = some info ↔
        index.types.filter (·.name = name) = [info]) ∧
    (∀ types, typesIn? Json.parse text = some types → Settles types (ofJsonText text)) ∧
    (∀ types, typesIn? Yaml.typeList? text = some types → Settles types (ofYamlText text)) ∧
    ∀ types, typesIn? read text = some types → Settles types (ofText read text) := by
  refine ⟨fun index hindex => ?_, fun _ => settles_ofText, fun _ => settles_ofText,
    fun _ => settles_ofText⟩
  have hparsed : index.Parsed := by
    obtain hindex | hindex | hindex := hindex <;> exact parsed_ofText hindex
  have hread := ofDocument_toJson hparsed
  have hwhole := index.within_toJson.whole
  exact ⟨(ofJsonText_of_parse (parse_compact hwhole)).trans hread,
    (ofJsonText_of_parse (parse_pretty hwhole)).trans hread, fun _ _ => get?_eq_some_iff_filter⟩

end Index

namespace Gallery

def text : String :=
  "[[\"Frame\", \"opaque\", [], [[\"titles\", [[\"int\", null]], \" list < string > \"]]],
    [\"Warp\", \"exception\", [], [], \"Frame\"]]"

/-- The same types, with a tag for a kind, a type in a block of its own and a reference. -/
def yamlText : String :=
  "%YAML 1.2\n---\n- name: &frame Frame\n  kind: !opaque\n  methods:\n  - name: titles\n" ++
  "    params: [[int, ~]]\n    returns: |-\n      list<string>\n" ++
  "- [Warp, exception, [], [], *frame ]\n"

def warp : TypeInfo := { name := "Warp", kind := .exception, faultInfo := some (.named "Frame") }

def index : Index where
  types := [{
    name := "Frame"
    kind := .shapeless
    methods := [{
      name := "titles"
      params := [{ declaredType := .named "int" }]
      returns := .listOf (.named "string") }] }, warp]
  built := rfl

def prints : List TypeInfo := [{ name := "Print" }, warp, { name := "Print", kind := .list }]

def printsText : String := "- name: Print\n- [Warp, exception, [], [], Frame]\n- [Print, list]\n"

theorem texts_settle :
    Index.ofJsonText text = .ok index ∧ Index.ofYamlText yamlText = .ok index ∧
      Index.ofJsonText index.toJson.pretty = .ok index ∧ index.get? "Warp" = some warp ∧
      ∃ before t after, prints = before ++ t :: after ∧ (before.map (·.name)).Nodup ∧
        t.name ∈ before.map (·.name) ∧
        Index.ofYamlText printsText = .error (.duplicateType t.name) := by
  have hread : Index.ofJsonText text = .ok index := by decide +kernel
  have hyaml : Index.ofYamlText yamlText = .ok index := by decide +kernel
  have hprints : Index.typesIn? Yaml.typeList? printsText = some prints := by decide +kernel
  obtain ⟨hindex, -⟩ := Index.texts_read_back_or_repeat Yaml.typeList? yamlText
  obtain ⟨-, hpretty, hget⟩ := hindex index (.inr (.inl hyaml))
  have hsettles := (Index.texts_read_back_or_repeat Yaml.typeList? printsText).2.2.1 prints hprints
  exact ⟨hread, hyaml, hpretty, (hget "Warp" warp).mpr (by decide), hsettles.refuses (by decide)⟩

end Gallery

end SoapWrap
