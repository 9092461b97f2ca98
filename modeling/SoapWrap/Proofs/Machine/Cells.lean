import SoapWrap.Proofs.Machine.Accessors

/-! A new instance of a wrapper is a record of cells, one for each field: a getter answers what the
setter of its field was given last, whatever the other setters were given in between. -/

namespace SoapWrap

namespace Wrapper

abbrev Writes (w : Wrapper) : Type := List (Fin w.fields.length × Value)

def Writes.last? {w : Wrapper} (writes : w.Writes) (i : Fin w.fields.length) : Option Value :=
  writes.reverse.lookup i

lemma Writes.last?_cons {w : Wrapper} (i : Fin w.fields.length) (v : Value) (rest : w.Writes)
    (j : Fin w.fields.length) :
    last? ((i, v) :: rest) j = (last? rest j).or (if j = i then some v else none) := by
  rw [last?, List.reverse_cons, List.lookup_append]
  congr 1
  by_cases hj : j = i
  · rw [if_pos hj, hj, List.lookup_cons_self]
  · have hb : (j == i) = false := by simpa using hj
    rw [if_neg hj, List.lookup_cons, hb, List.lookup_nil]

end Wrapper

def Machine.setAll (m : Machine) (w : Wrapper) (target : Value) : w.Writes → Exec Unit
  | [] => pure ()
  | (i, v) :: rest => do
    let _ ← m.invoke target w.fields[i].setter [v]
    m.setAll w target rest

namespace Wrapper

variable {m : Machine} {w : Wrapper} {f : WrapperField} {h : Heap} {r : Nat} {u v : Value}

namespace LoadedIn

variable (hw : w.LoadedIn m) (hf : f ∈ w.fields) (ht : (h.object r).type = w.qualifiedName)
variable (hv : h.field? (.object r) f.name = some v)
include hw hf ht hv

lemma invoke_getter : m.invoke (.object r) f.getter [] h = .done v h := by
  have hd : m.dispatch (m.call (9999 + 1)) (.object r) ⟨w.qualifiedName, f.getter⟩ [] h =
      .done v h := hw.dispatch_getter hf ht hv
  rwa [Machine.dispatch_generated hw.qualified.ne_list hw.qualified.ne_holder
    (hw.distinct.getter_ne f hf)] at hd

lemma invoke_setter :
    m.invoke (.object r) f.setter [u] h = .done .null (h.setField r f.name u) := by
  have hd : m.dispatch (m.call (9999 + 1)) (.object r) ⟨w.qualifiedName, f.setter⟩ [u] h =
      .done .null (h.setField r f.name u) := hw.dispatch_setter hf ht hv
  rwa [Machine.dispatch_generated hw.qualified.ne_list hw.qualified.ne_holder
    (hw.distinct.setter_ne f hf)] at hd

end LoadedIn

lemma Distinct.name_inj (hd : w.Distinct) {i j : Fin w.fields.length} :
    w.fields[i].name = w.fields[j].name ↔ i = j := by
  refine ⟨fun he => ?_, fun hij => hij ▸ rfl⟩
  by_contra hij
  have hi : w.fields[i.1]? = some w.fields[i] := List.getElem?_eq_getElem i.2
  have hj : w.fields[j.1]? = some w.fields[j] := List.getElem?_eq_getElem j.2
  exact hd.name_ne hi hj (fun h => hij (Fin.ext h)) he

lemma InstanceAt.setField (hi : w.InstanceAt h r) (name : String) (u : Value) :
    w.InstanceAt (h.setField r name u) r := by
  refine ⟨(h.type_setField).trans hi.type, fun f hf => ?_⟩
  obtain ⟨v, hv⟩ := hi.present f hf
  by_cases hn : f.name = name
  · exact ⟨u, hn ▸ h.field?_setField_self (h.lt_of_field? hv)⟩
  · exact ⟨v, (h.field?_setField_of_ne hn).trans hv⟩

lemma LoadedIn.setAll_done (hw : w.LoadedIn m) (hi : w.InstanceAt h r) (writes : w.Writes) :
    ∃ k, m.setAll w (.object r) writes h = .done () k ∧ w.InstanceAt k r ∧
      ∀ i : Fin w.fields.length, k.field? (.object r) w.fields[i].name =
        (writes.last? i).or (h.field? (.object r) w.fields[i].name) := by
  induction writes generalizing h with
  | nil => exact ⟨h, rfl, hi, fun i => rfl⟩
  | cons write rest ih =>
    obtain ⟨i, u⟩ := write
    have hf : w.fields[i] ∈ w.fields := List.getElem_mem i.2
    obtain ⟨v, hv⟩ := hi.present _ hf
    have hset : m.invoke (.object r) w.fields[i].setter [u] h =
        .done .null (h.setField r w.fields[i].name u) := hw.invoke_setter hf hi.type hv
    obtain ⟨k, hk, hik, hread⟩ := ih (hi.setField w.fields[i].name u)
    refine ⟨k, ?_, hik, fun j => ?_⟩
    · rw [Machine.setAll, Exec.bind_done hset, hk]
    · rw [hread, Writes.last?_cons, Option.or_assoc]
      congr 1
      by_cases hj : j = i
      · subst hj
        rw [h.field?_setField_self (h.lt_of_field? hv), if_pos rfl, Option.some_or]
      · rw [h.field?_setField_of_ne (mt hw.distinct.name_inj.mp hj), if_neg hj, Option.none_or]

theorem instance_fields_are_independent_cells {scope : Scope} {op : Operation} {kind : WrapperKind}
    (hp : scope.package ≠ "") (hw : scope.wrapper op kind = .ok w)
    (hl : m.get? w.qualifiedName = some w.typeDef) (h : Heap) :
    ∃ r k, m.instantiate w.qualifiedName [] h = .done (.object r) k ∧
      (k.object r).type = w.qualifiedName ∧
      (∀ name, k.field? (.object r) name =
        if name ∈ w.fields.map (·.name) then some .null else none) ∧
      ∀ writes : w.Writes, ∃ l, m.setAll w (.object r) writes k = .done () l ∧
        ∀ i : Fin w.fields.length, m.invoke (.object r) w.fields[i].getter [] l =
          .done ((writes.last? i).getD .null) l := by
  have hloaded : w.LoadedIn m := loadedIn_of_ok hp hw hl
  obtain ⟨fields, hnew, hnull⟩ := hloaded.instantiate_null 9999 h
  let r := h.objects.length
  let k := (h.newObject ⟨w.qualifiedName, fields⟩).2
  have htype : (k.object r).type = w.qualifiedName := by
    simp only [k, r, Heap.object_newObject_self]
  have hfield (name : String) : k.field? (.object r) name =
      if name ∈ w.fields.map (·.name) then some .null else none := by
    simp only [Heap.field?, k, r, Heap.object_newObject_self, hnull]
  have hempty (f : WrapperField) (hf : f ∈ w.fields) :
      k.field? (.object r) f.name = some .null := by
    rw [hfield, if_pos (List.mem_map_of_mem hf)]
  refine ⟨r, k, hnew, htype, hfield, fun writes => ?_⟩
  obtain ⟨l, hl, hi, hread⟩ :=
    hloaded.setAll_done ⟨htype, fun f hf => ⟨.null, hempty f hf⟩⟩ writes
  refine ⟨l, hl, fun i => ?_⟩
  have hf : w.fields[i] ∈ w.fields := List.getElem_mem i.2
  apply hloaded.invoke_getter hf hi.type
  rw [hread, hempty _ hf]
  cases writes.last? i <;> rfl

def relabel : Operation where
  methodName := "relabel"
  params := ["first_name", "firstname", "return"].map fun name =>
    { declaredType := .named "string", wireName := some name }
  result := { declaredType := .void }

def relabelWrapper : Wrapper where
  name := "Relabel"
  package := "org.acme.jaxws_asm"
  xmlNamespace := "http://acme.org/"
  elementName := "relabel"
  kind := .request
  fields := ["first_name", "firstname", "return"].map fun name =>
    Scope.field ⟨name, "", .named "string", []⟩

theorem instance_fields_are_independent_cells_relabel :
    let m : Machine := { types := [relabelWrapper.typeDef] }
    relabelWrapper.getters = ["getFirstName", "getFirstname", "getReturn"] ∧
      ∃ r k l, m.instantiate relabelWrapper.qualifiedName [] {} = .done (.object r) k ∧
        m.setAll relabelWrapper (.object r) [(⟨0, by decide⟩, .int 1), (⟨1, by decide⟩, .int 2),
          (⟨0, by decide⟩, .text "dry")] k = .done () l ∧
        m.invoke (.object r) "getFirstName" [] l = .done (.text "dry") l ∧
        m.invoke (.object r) "getFirstname" [] l = .done (.int 2) l ∧
        m.invoke (.object r) "getReturn" [] l = .done .null l := by
  intro m
  let scope : Scope := ⟨.empty, "org.acme.jaxws_asm", "http://acme.org/", {}⟩
  have hw : scope.wrapper relabel .request = .ok relabelWrapper := by decide +kernel
  have hl : m.get? relabelWrapper.qualifiedName = some relabelWrapper.typeDef := by
    decide +kernel
  obtain ⟨r, k, hnew, -, -, hcells⟩ :=
    instance_fields_are_independent_cells (by decide) hw hl {}
  obtain ⟨l, hset, hget⟩ := hcells [(⟨0, by decide⟩, .int 1), (⟨1, by decide⟩, .int 2),
    (⟨0, by decide⟩, .text "dry")]
  exact ⟨by decide +kernel, r, k, l, hnew, hset, hget ⟨0, by decide⟩, hget ⟨1, by decide⟩,
    hget ⟨2, by decide⟩⟩

end Wrapper

end SoapWrap
