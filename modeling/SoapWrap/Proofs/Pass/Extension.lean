import SoapWrap.Proofs.Pass.Following

/-! An entry added at the end of the index, which is no companion of a generated package, takes
nothing from a pass that succeeds without it. -/

namespace SoapWrap

namespace Index

variable {index extended : Index} {info : TypeInfo}

lemma get?_extended (h : extended.types = index.types ++ [info]) (name : String) :
    extended.get? name =
      (index.get? name).or (if info.name = name then some info else none) := by
  rw [get?_eq_find?, get?_eq_find?, h, List.find?_append, List.find?_singleton]
  simp only [decide_eq_true_eq]

lemma within_extended (h : extended.types = index.types ++ [info]) : index.Within extended := by
  intro name entry hn
  rw [get?_extended h, hn, Option.some_or]

lemma contains_extended (h : extended.types = index.types ++ [info]) {name : String}
    (hn : info.name ≠ name) : extended.contains name = index.contains name := by
  rw [contains_eq, get?_extended h, if_neg hn, Option.or_none, contains_eq]

lemma webServices_extended (h : extended.types = index.types ++ [info]) :
    extended.webServices = index.webServices ++ [info].filter (·.isWebService) := by
  rw [webServices, h, List.filter_append]
  rfl

end Index

namespace Larder

/-- An entry with a built-in name, of another kind than what is built in. -/
def shadow : TypeInfo := { name := "int", kind := .holder }

def shadowed : Index where
  types := index.types ++ [shadow]
  built := rfl

end Larder

namespace Synthesizer

variable {index extended : Index} {settings : Settings} {info : TypeInfo}

lemma extended_follows (h : extended.types = index.types ++ [info])
    (hc : ∀ service ∈ (ofIndex index settings).interfaces,
      info.name ≠ settings.companionFor ((ofIndex index settings).packageOf service)) :
    (ofIndex extended settings).Follows (ofIndex index settings) fun _ => false where
  within := Index.within_extended h
  settings := ⟨settings.strict, rfl⟩
  shape _ _ ht hs := ((Index.within_extended h).ofType ht settings.strict).trans hs
  companion service hs hk :=
    Index.contains_extended h (hc service (List.mem_filter.mpr ⟨hs, decide_eq_true hk⟩))

variable {σ : Type} {emit : TypeDef → σ → Except EmitError σ} {types : σ → List TypeDef}
variable {session : Session} {sink : σ} {registrar : Registrar} {report : Report} {p : Pass σ}

theorem runOn_ignores_unrelated_entry (ha : Appends emit types) (hs : types sink = [])
    (he : extended.types = index.types ++ [info])
    (hc : ∀ service ∈ (ofIndex index settings).interfaces,
      info.name ≠ settings.companionFor ((ofIndex index settings).packageOf service))
    (hrun : (ofIndex index settings).runOn session emit sink registrar = (.ok report, p)) :
    (info.isWebService = false →
      (ofIndex extended settings).runOn session emit sink registrar = (.ok report, p)) ∧
    (info.isWebService = true →
      types p.sink <+:
        types ((ofIndex extended settings).runOn session emit sink registrar).2.sink) := by
  have hfollows := extended_follows he hc
  have hservices := Index.webServices_extended he
  constructor
  · intro hplain
    rw [List.filter_cons_of_neg (by simp [hplain]), List.filter_nil, List.append_nil] at hservices
    obtain ⟨outputs, -, hecho⟩ := runOn_follows hfollows hservices hrun
    exact hecho.eq_of_no_doubt
  · intro htagged
    rw [List.filter_cons_of_pos htagged, List.filter_nil] at hservices
    exact runOn_prefix ha hs hfollows hservices hrun

theorem runOn_ignores_unrelated_entry_larder :
    (ofIndex Larder.shadowed {}).runOn {} Manifest.emit {} {} =
        Larder.synthesizer.runOn {} Manifest.emit {} {} ∧
      ((ofIndex Larder.annexed {}).runOn {} Manifest.emit {} {}).1 =
        .error (.unresolvedType "extend" (.named "org.acme.Attic")) ∧
      (Larder.synthesizer.runOn {} Manifest.emit {} {}).2.sink.types <+:
        ((ofIndex Larder.annexed {}).runOn {} Manifest.emit {} {}).2.sink.types := by
  have hshadow : Larder.shadowed.types = Larder.index.types ++ [Larder.shadow] := rfl
  have hannex : Larder.annexed.types = Larder.index.types ++ [Larder.annex] := rfl
  refine ⟨?_, by decide +kernel, ?_⟩
  · rw [Larder.runOn_eq]
    exact (runOn_ignores_unrelated_entry Manifest.appends rfl hshadow (by decide +kernel)
      Larder.runOn_eq).1 (by decide)
  · exact (runOn_ignores_unrelated_entry Manifest.appends rfl hannex (by decide +kernel)
      Larder.runOn_eq).2 (by decide)

end Synthesizer

end SoapWrap
