import SoapWrap.Proofs.Machine.Construct
import SoapWrap.Proofs.Machine.Decompose
import SoapWrap.Proofs.Pass.Emission
import SoapWrap.Proofs.Synthesis.InterfaceSteps

/-! A machine that a pass filled marshals values into wrappers and back: every adapter that the pass
generated constructs instances from values and gets the values back. -/

namespace SoapWrap

namespace Synthesizer

def shape (s : Synthesizer) (f : WrapperField) : FieldShape :=
  .of s.index s.settings.strict f.declaredType

def bundles (s : Synthesizer) : List Bundle :=
  match s.outputs? {} s.interfaces with
  | some (outputs, _) => outputs.flatMap (·.bundles)
  | none => []

end Synthesizer

lemma Machine.get?_of_mem {m : Machine} (hd : (TypeDef.namesOf m.types).Nodup) {d : TypeDef}
    (hm : d ∈ m.types) : m.get? d.name = some d := by
  refine find?_eq_some_of_unique hm (by simp) fun d' hm' hn => ?_
  exact List.inj_on_of_nodup_map hd hm' hm (by simpa using hn)

def Wrapper.Gets (w : Wrapper) (values : List Value) (i : Nat) (f : WrapperField) (v : Value) :
    Prop :=
  w.fields[i]? = some f ∧ values[i]? = some v

structure Wrapper.TakesApart (w : Wrapper) (shape : WrapperField → FieldShape)
    (values : List Value) (x : Outcome (List Value)) : Prop where
  done : (∀ i f v, w.Gets values i f v → (shape f).part? v ≠ none) →
    ∃ parts h, x = .done parts h ∧ parts.length = w.fields.length ∧
      ∀ i f v, w.Gets values i f v → parts[i]? = (shape f).part? v
  stuck : ∀ i f v, w.Gets values i f v → (shape f).part? v = none →
    (∀ j < i, ∀ g u, w.Gets values j g u → (shape g).part? u ≠ none) →
    ∃ h, x = .failed (.typeMismatch .holder v.kind) h

structure AdapterHandle.RoundTrips (handle : AdapterHandle) (m : Machine) (w : Wrapper)
    (shape : WrapperField → FieldShape) (values : List Value) (h : Heap) : Prop where
  short : values.length < w.fields.length →
    ∃ k, handle.construct m values h = .failed (.indexOutOfBounds values.length values.length) k
  full : w.fields.length ≤ values.length →
    ∃ r k, handle.construct m values h = .done (.object r) k ∧ w.Carries k r values ∧
      w.TakesApart shape values (handle.decompose m (.object r) k)

lemma Wrapper.takesApart_of_reads {w : Wrapper} {shape : WrapperField → FieldShape}
    {values : List Value} {h : Heap} {r : Nat} {x : Outcome (List Value)}
    (hw : w.Carries h r values) (hx : h.ReadsTo r w shape id x) : w.TakesApart shape values x := by
  obtain ⟨parts, hpre, hend⟩ := hx
  have hfield {i : Nat} {f : WrapperField} {v : Value} (hg : w.Gets values i f v) :
      h.field? (.object r) f.name = some v := (hw.fields i f hg.1).trans hg.2
  have hparts {i : Nat} {f : WrapperField} {v : Value} (hg : w.Gets values i f v)
      (hi : i < parts.length) : parts[i]? = (shape f).part? v := hpre i hi f v hg.1 (hfield hg)
  have hlt {i : Nat} {f : WrapperField} {v : Value} (hg : w.Gets values i f v) :
      i < w.fields.length := (List.getElem?_eq_some_iff.mp hg.1).1
  rcases hend with ⟨hn, hd⟩ | ⟨f, v, hf, hv, hp, hs⟩
  · refine ⟨fun _ => ⟨parts, _, hd, hn, fun i f v hg => hparts hg (hn ▸ hlt hg)⟩, ?_⟩
    intro i f v hg hp _
    have hi : i < parts.length := hn ▸ hlt hg
    rw [← hparts hg hi, List.getElem?_eq_getElem hi] at hp
    cases hp
  · have hg : w.Gets values parts.length f v := ⟨hf, (hw.fields _ f hf).symm.trans hv⟩
    refine ⟨fun hall => absurd hp (hall _ f v hg), ?_⟩
    intro i g u hgu hpu hfirst
    rcases Nat.lt_trichotomy i parts.length with hi | rfl | hi
    · rw [← hparts hgu hi, List.getElem?_eq_getElem hi] at hpu
      cases hpu
    · obtain rfl : v = u := Option.some.inj (hg.2.symm.trans hgu.2)
      exact ⟨_, hs⟩
    · exact absurd hp (hfirst parts.length hi f v hg)

lemma AdapterHandle.roundTrips {m : Machine} {w : Wrapper} {shape : WrapperField → FieldShape}
    {a : Adapter} {handle : AdapterHandle} {p : Nat} (hw : w.LoadedIn m) (ha : a.LoadedIn w shape m)
    (hslots : 2 * w.fields.length < slotCount) (hhandle : handle.instance_ = .object p)
    {h : Heap} (hp : (h.object p).type = a.name) (values : List Value) :
    handle.RoundTrips m w shape values h := by
  obtain ⟨hshort, hfull⟩ := construct_constructs values hw ha hslots hhandle hp
  refine ⟨hshort, fun hle => ?_⟩
  obtain ⟨r, k, hd, hc, hk⟩ := hfull hle
  have hi : w.InstanceAt k r := by
    refine ⟨hc.type, fun f hf => ?_⟩
    obtain ⟨i, hi, rfl⟩ := List.getElem_of_mem hf
    rw [hc.fields i _ (List.getElem?_eq_getElem hi)]
    exact ⟨_, List.getElem?_eq_getElem (Nat.lt_of_lt_of_le hi hle)⟩
  exact ⟨r, k, hd, hc, Wrapper.takesApart_of_reads hc
    (decompose_reads hw ha hslots hhandle hk hi)⟩

namespace Synthesizer

variable {s : Synthesizer} {session : Session} {registrar : Registrar} {externals : List String}
variable {report : Report} {p : Pass Machine} {m : Machine} {b : Bundle}

lemma loadedIn_of_runOn (hsuffix : s.settings.packageSuffix ≠ "")
    (hrun : s.runOn session Machine.emit { externals } registrar = (.ok report, p))
    (hm : m.types = p.sink.types) (hb : b ∈ s.bundles) :
    b.wrapper.LoadedIn m ∧ b.adapter.LoadedIn b.wrapper s.shape m := by
  have hempty : ({ externals } : Machine).types = [] := rfl
  have hp := s.runOn_handsOn Machine.appends session hempty registrar
  rw [hrun] at hp
  obtain ⟨outputs, hs, ht, -, hd⟩ := hp
  have ht' : m.types = outputs.flatMap (·.typeDefs) := hm.trans (by simpa using ht)
  have hd' : (TypeDef.namesOf m.types).Nodup := hm ▸ hd
  simp only [bundles, hs] at hb
  obtain ⟨o, ho, hb⟩ := List.mem_flatMap.mp hb
  obtain ⟨name, before, between, hi⟩ := mem_outputs? hs o ho
  obtain ⟨scope, op, kind, names, names', hpackage, hw, ha⟩ := interfaceOutput_makes hsuffix hi b hb
  have hloaded {d : TypeDef} (hdb : d ∈ b.typeDefs) : m.get? d.name = some d := by
    apply Machine.get?_of_mem hd'
    rw [ht']
    exact List.mem_flatMap.mpr ⟨o, ho, o.mem_typeDefs hb hdb⟩
  have hwm := Wrapper.loadedIn_of_ok hpackage hw (hloaded (d := b.wrapper.typeDef)
    (by simp [Bundle.typeDefs]))
  have hwp : b.wrapper.package ≠ "" := Scope.wrapper_package hw ▸ hpackage
  exact ⟨hwm, Adapter.loadedIn_of_ok hwp hwm ha (hloaded (d := b.adapter.typeDef)
    (by simp [Bundle.typeDefs]))⟩

/-- Every adapter that a pass generated can be had from the machine that the pass filled, and
round-trips any values. Frames have room for the slots of its bodies, as they have for any wrapper
whose fields fit in memory. -/
theorem adapters_round_trip (hsuffix : s.settings.packageSuffix ≠ "")
    (hrun : s.runOn session Machine.emit { externals } registrar = (.ok report, p))
    (hm : m.types = p.sink.types) (hb : b ∈ s.bundles) (hc : b.adapter.CompanionIn m)
    (hslots : 2 * b.wrapper.fields.length < slotCount) (h : Heap) :
    ∃ handle k, m.adapter b.adapter.name h = .done handle k ∧ h.Grows k ∧
      k.typeName? handle.instance_ = some b.adapter.name ∧
      ∀ l values, l.typeName? handle.instance_ = some b.adapter.name →
        handle.RoundTrips m b.wrapper s.shape values l := by
  obtain ⟨hw, ha⟩ := loadedIn_of_runOn hsuffix hrun hm hb
  obtain ⟨k, hk, ht, hg⟩ := AdapterHandle.adapter_done h ha hc
  refine ⟨_, k, hk, hg, congrArg some ht, fun l values hl => ?_⟩
  exact AdapterHandle.roundTrips hw ha hslots rfl (Option.some.inj hl) values

theorem adapters_round_trip_pantry :
    let m := (Pantry.synthesizer.runOn {} Machine.emit {} {}).2.sink
    ∃ b ∈ Pantry.synthesizer.bundles,
      b.wrapper.fields.map Pantry.synthesizer.shape = [.list, .holder, .single] ∧
      ∃ handle k, m.adapter b.adapter.name {} = .done handle k ∧
        handle.RoundTrips m b.wrapper Pantry.synthesizer.shape
          [.null, .holder ⟨"", "label"⟩ (.text "dry"), .int 4] k := by
  intro m
  have hrun : (Pantry.synthesizer.runOn {} Machine.emit {} {}).1 =
      .ok { interfaces := 1, operations := 1, wrappers := 2, typesEmitted := 7 } := by
    decide +kernel
  have hall : ∀ b ∈ Pantry.synthesizer.bundles, b.adapter.objectFactory = none ∧
      2 * b.wrapper.fields.length < slotCount := by
    decide +kernel
  have hex : ∃ b ∈ Pantry.synthesizer.bundles,
      b.wrapper.fields.map Pantry.synthesizer.shape = [.list, .holder, .single] := by
    decide +kernel
  obtain ⟨b, hb, hshape⟩ := hex
  obtain ⟨hnone, hslots⟩ := hall b hb
  have hc : b.adapter.CompanionIn m := by
    intro factory hf
    rw [hnone] at hf
    cases hf
  obtain ⟨handle, k, hk, -, ht, hr⟩ := adapters_round_trip (by decide) (Prod.ext hrun rfl) rfl hb
    hc hslots {}
  exact ⟨b, hb, hshape, handle, k, hk, hr k _ ht⟩

end Synthesizer

end SoapWrap
