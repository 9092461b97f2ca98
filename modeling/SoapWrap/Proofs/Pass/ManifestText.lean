import SoapWrap.Proofs.Code.Parsed
import SoapWrap.Proofs.Pass.Emission
import SoapWrap.Proofs.Synthesis.Readability

namespace SoapWrap

namespace Manifest

lemma reads_back_iff {m : Manifest} (hfits : ∀ d ∈ m.types, d.fits = true)
    (hdepth : ∀ d ∈ m.types, ∀ method ∈ d.methods, Op.depthAll method.body ≤ 50) :
    parse m.text = some m.types ↔ ∀ d ∈ m.types, ∀ t ∈ d.typeExprs, t.Parsed := by
  have hwithin := within_toJson hdepth
  have hparse : parse m.text = Document.list TypeDef.ofJson? m.toJson := by
    rw [parse, text, Json.parse_pretty hwithin.whole, Option.bind_eq_bind, Option.bind_some]
    exact if_pos (Nat.le_trans hwithin.depth_le (by decide))
  rw [hparse]
  constructor
  · intro hread
    exact TypeDef.yields_parsed.list m.toJson m.types hread
  · intro hparsed
    exact Document.list_map fun d hd => TypeDef.ofJson?_toJson (hfits d hd) (hparsed d hd)

lemma foldlM_emit {defs : List TypeDef} (m : Manifest)
    (h : (TypeDef.namesOf (m.types ++ defs)).Nodup) :
    defs.foldlM (fun m d => emit d m) m = .ok ⟨m.types ++ defs⟩ := by
  induction defs generalizing m with
  | nil => rw [List.append_nil]; rfl
  | cons d rest ih =>
    have hd : d.name ∉ TypeDef.namesOf m.types := by
      rw [TypeDef.namesOf, List.map_append, List.map_cons] at h
      intro hmem
      exact (List.nodup_append'.mp h).2.2 hmem List.mem_cons_self
    obtain ⟨next, hemit, (htypes : next.types = m.types ++ [d])⟩ := appends d m hd
    have hrest : (TypeDef.namesOf (next.types ++ rest)).Nodup := by
      rwa [htypes, List.append_assoc]
    rw [List.foldlM_cons, hemit]
    exact (ih next hrest).trans (by rw [htypes, List.append_assoc, List.singleton_append])

theorem emitted_types_read_back {defs : List TypeDef} (hnames : (TypeDef.namesOf defs).Nodup)
    (hfits : ∀ d ∈ defs, d.fits = true)
    (hdepth : ∀ d ∈ defs, ∀ m ∈ d.methods, Op.depthAll m.body ≤ 50) :
    ∃ m : Manifest, defs.foldlM (fun m d => emit d m) {} = .ok m ∧
      (parse m.text = some defs ↔ ∀ d ∈ defs, ∀ t ∈ d.typeExprs, t.Parsed) :=
  ⟨⟨defs⟩, foldlM_emit {} hnames, reads_back_iff hfits hdepth⟩

end Manifest

namespace Ledger

/-- A type with everything a written form has to tell apart: quotes, control characters, letters
beyond the basic plane, the bounds of numbers, an absent slot and a branch inside a branch. -/
def entry : TypeDef where
  name := "org.acme.\"Ledger\""
  supertype := some ""
  capabilities := ["say \x00\x1f\x7f\u2028", "𝄞\\"]
  tags := [{ name := "XmlType", values := .ofList [("name", "line\nbreak"), ("", "tab\t")] }]
  fields := [⟨"pages", .listOf ⟨TypeExpr.holderBase, [.named "org.acme.Page"]⟩⟩]
  methods := [
    .ofConstructor [.named "int", .listOf (.named "string")] [],
    { MethodDef.ofInstance "balance" [] (.named "long") [
        .allocate 18446744073709551615 "org.acme.Page"
          [.const (.int (-9223372036854775808)), .const .null, .param 0, .const (.text "Null")],
        .branchOnNull (.local 0) [
          .branchOnNull .this [.return none]
            [.writeField .this "pages" (.const (.int 9223372036854775807))]]
          [.invoke none .this ⟨"list", "push"⟩ [.local 7], .readField 3 (.param 1) "\r"],
        .return (some (.local 3))] with tags := [.ofName "WebMethod"] }]

def defs : List TypeDef := [entry, { name := "" }]

lemma parsed_of_mem : ∀ d ∈ defs, ∀ t ∈ d.typeExprs, t.Parsed := by
  have hparse : ∀ t ∈ defs.flatMap (·.typeExprs), TypeExpr.parse t.text = .ok t := by
    decide +kernel
  exact fun d hd t ht => ⟨t.text, hparse t (List.mem_flatMap.mpr ⟨d, hd, ht⟩)⟩

theorem emitted_ledger_reads_back :
    ∃ m : Manifest, defs.foldlM (fun m d => Manifest.emit d m) {} = .ok m ∧
      Manifest.parse m.text = some defs := by
  have hnames : (TypeDef.namesOf defs).Nodup := by decide
  have hfits : ∀ d ∈ defs, d.fits = true := by decide +kernel
  have hdepth : ∀ d ∈ defs, ∀ m ∈ d.methods, Op.depthAll m.body ≤ 50 := by decide +kernel
  obtain ⟨m, hm, hread⟩ := Manifest.emitted_types_read_back hnames hfits hdepth
  exact ⟨m, hm, hread.mpr parsed_of_mem⟩

end Ledger

namespace Synthesizer

variable {s : Synthesizer} {session : Session} {registrar : Registrar} {report : Report}
variable {p : Pass Manifest} {text : String}

theorem runOn_manifest_reads_back_iff
    (hindex : Index.ofJsonText text = .ok s.index ∨ Index.ofYamlText text = .ok s.index)
    (hmoderate : s.index.Moderate)
    (hrun : s.runOn session Manifest.emit {} registrar = (.ok report, p)) :
    ∃ outputs, s.outputs? {} s.interfaces = some (outputs, p.session) ∧
      p.sink.types = outputs.flatMap (·.typeDefs) ∧
      (Manifest.parse p.sink.text = some p.sink.types ↔
        ∀ o ∈ outputs, ∀ b ∈ o.bundles, b.Readable) := by
  have hempty : ({} : Manifest).types = [] := rfl
  have hon := runOn_handsOn (s := s) Manifest.appends session hempty registrar
  rw [hrun] at hon
  obtain ⟨outputs, hout, (htypes : p.sink.types = [] ++ outputs.flatMap (·.typeDefs)), -⟩ := hon
  rw [List.nil_append] at htypes
  refine ⟨outputs, hout, htypes, ?_⟩
  have hmade := mem_outputs? hout
  have hplain : ∀ d ∈ p.sink.types, d.Plain := by
    rw [htypes, List.forall_mem_flatMap]
    intro o ho
    obtain ⟨name, before, between, ho⟩ := hmade o ho
    exact interfaceOutput_plain hmoderate ho
  have hfits : ∀ d ∈ p.sink.types, d.fits = true := fun d hd =>
    List.all_eq_true.mpr fun m hm => Op.fitsAll_iff.mpr fun op hop => (hplain d hd m hm op hop).fits
  have hdepth : ∀ d ∈ p.sink.types, ∀ m ∈ d.methods, Op.depthAll m.body ≤ 50 := fun d hd m hm =>
    Nat.le_trans (Op.depthAll_le_iff.mpr fun op hop => (hplain d hd m hm op hop).depth) (by decide)
  rw [Manifest.reads_back_iff hfits hdepth, htypes, List.forall_mem_flatMap]
  refine forall₂_congr fun o ho => ?_
  obtain ⟨name, before, between, ho⟩ := hmade o ho
  exact interfaceOutput_parsed_iff (Index.parsed_of_text hindex) ho

end Synthesizer

namespace Larder

def text : String := index.toJson.compact

lemma index_ofJsonText : Index.ofJsonText text = .ok index := by
  have hread : Json.read (Json.compactChars index.toJson) = some index.toJson := by decide +kernel
  exact (Index.ofJsonText_ofList hread).trans (by decide +kernel)

lemma outputs_readable : ∀ outputs ∈ synthesizer.outputs? {} synthesizer.interfaces,
    ∀ o ∈ outputs.1, ∀ b ∈ o.bundles, b.Readable := by
  decide +kernel

theorem manifest_reads_back :
    Manifest.parse (synthesizer.runOn {} Manifest.emit {} {}).2.sink.text =
      some (synthesizer.runOn {} Manifest.emit {} {}).2.sink.types := by
  have hmoderate : ∀ info ∈ index.types, ∀ m ∈ info.methods, m.params.length < 2 ^ 62 := by
    decide +kernel
  obtain ⟨outputs, hout, -, hread⟩ := Synthesizer.runOn_manifest_reads_back_iff (s := synthesizer)
    (.inl index_ofJsonText) hmoderate runOn_eq
  exact hread.mpr (outputs_readable _ hout)

end Larder

namespace Kiosk

def index : Index where
  types := [{
    name := "org.acme.Kiosk"
    kind := .interface
    tags := [.ofName TagName.webService]
    methods := [{ name := "get-item" }] }]
  built := rfl

def text : String := index.toJson.compact

def synthesizer : Synthesizer := .ofIndex index {}

def emitted : List TypeDef := (synthesizer.runOn {} Manifest.emit {} {}).2.sink.types

lemma exists_unreadable : ∃ d ∈ emitted, ∃ t ∈ d.typeExprs, ¬ TypeExpr.IsName t.base.toList := by
  decide +kernel

theorem hyphenated_method_not_read_back :
    Index.ofJsonText text = .ok index ∧
      (synthesizer.runOn {} Manifest.emit {} {}).1 =
        .ok { interfaces := 1, operations := 1, wrappers := 2, typesEmitted := 7 } ∧
      Manifest.parse (synthesizer.runOn {} Manifest.emit {} {}).2.sink.text ≠ some emitted := by
  refine ⟨?_, by decide +kernel, ?_⟩
  · have hread : Json.read (Json.compactChars index.toJson) = some index.toJson := by decide +kernel
    exact (Index.ofJsonText_ofList hread).trans (by decide +kernel)
  · have hfits : ∀ d ∈ emitted, d.fits = true := by decide +kernel
    have hdepth : ∀ d ∈ emitted, ∀ m ∈ d.methods, Op.depthAll m.body ≤ 50 := by decide +kernel
    intro hparse
    have hparsed := (Manifest.reads_back_iff hfits hdepth).mp hparse
    obtain ⟨d, hd, t, ht, hname⟩ := exists_unreadable
    refine hname ((hparsed d hd t ht).isName t ?_)
    obtain ⟨base, args⟩ := t
    exact List.mem_cons_self

end Kiosk

end SoapWrap
