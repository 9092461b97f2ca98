import SoapWrap.Proofs.Metadata.Places
import SoapWrap.Service.Extract

namespace SoapWrap.Index

variable {index : Index} {operation name : String}

lemma extractThrown_ok {t : TypeExpr} {x : Thrown}
    (h : index.extractThrown operation t = .ok x) : index.resolves x.payloadType = true := by
  rw [extractThrown] at h
  split at h
  · simp at h
  · dsimp only at h
    split at h
    · next hr =>
      rw [← Except.ok.inj h]
      exact hr
    · simp at h

lemma extractOperation_ok {m : MethodInfo} {op : Operation}
    (h : index.extractOperation m = .ok op) :
    op.methodName = m.name ∧ ∀ x ∈ op.exceptions, index.resolves x.payloadType = true := by
  rw [extractOperation] at h
  split at h
  · simp at h
  · split at h
    · simp at h
    · next hx =>
      obtain rfl := Except.ok.inj h
      refine ⟨rfl, fun x hm => ?_⟩
      obtain ⟨t, -, ht⟩ := mem_of_mapAll hx hm
      exact extractThrown_ok ht

lemma extractThrown_eq {t : TypeExpr} {x : Thrown}
    (h : index.extractThrown operation t = .ok x) :
    ∃ info, index.get? t.base = some info ∧
      x = ⟨t, tagValue? (info.tag? TagName.webFault) "name", info.faultInfo.getD t⟩ := by
  rw [extractThrown] at h
  split at h
  · cases h
  · next info hi =>
    dsimp only at h
    split at h
    · exact ⟨info, hi, (Except.ok.inj h).symm⟩
    · cases h

lemma extractParam_declaredType {p : ParamInfo} {q : Parameter}
    (h : extractParam operation p = .ok q) : q.declaredType = p.declaredType := by
  rw [extractParam] at h
  dsimp only at h
  split at h
  · rw [← Except.ok.inj h]
  · split at h
    · rw [← Except.ok.inj h]
    · cases h

lemma extractOperation_parts {m : MethodInfo} {op : Operation}
    (h : index.extractOperation m = .ok op) :
    mapAll (extractParam m.name) m.params = .ok op.params ∧
      mapAll (index.extractThrown m.name) (firstOccurrences m.throws) = .ok op.exceptions ∧
      op.result.declaredType = m.returns := by
  rw [extractOperation] at h
  split at h
  · cases h
  · next hparams =>
    split at h
    · cases h
    · next hexceptions =>
      rw [← Except.ok.inj h]
      exact ⟨hparams, hexceptions, rfl⟩

lemma extract_operations {service : ServiceInterface} (h : index.extract name = .ok service) :
    ∀ op ∈ service.operations, ∃ info ∈ index.types, ∃ m ∈ info.methods,
      index.extractOperation m = .ok op := by
  rw [extract] at h
  split at h
  · cases h
  · next info hi =>
    split at h
    · cases h
    · next ops hops =>
      obtain rfl := Except.ok.inj h
      intro op hop
      obtain ⟨m, hm, hmop⟩ := mem_of_mapAll hops hop
      exact ⟨info, mem_of_get? hi, m, hm, hmop⟩

lemma extract_ok {service : ServiceInterface} (h : index.extract name = .ok service) :
    ∃ info, index.get? name = some info ∧
      mapAll index.extractOperation info.methods = .ok service.operations ∧
      service.name = name ∧
      service.targetNamespace = tagValue? (info.tag? TagName.webService) "targetNamespace" := by
  rw [extract] at h
  split at h
  · simp at h
  · next info hi =>
    split at h
    · simp at h
    · next ops hm =>
      obtain rfl := Except.ok.inj h
      exact ⟨info, hi, hm, rfl, rfl⟩

lemma extract_of_mem {info : TypeInfo} {ops : List Operation} (hi : info ∈ index.types)
    (h : mapAll index.extractOperation info.methods = .ok ops) :
    index.extract info.name = .ok
      ⟨info.name, tagValue? (info.tag? TagName.webService) "targetNamespace", ops⟩ := by
  rw [extract, get?_of_mem hi]
  simp only [h]

lemma methodNames_of_extract {info : TypeInfo} {service : ServiceInterface}
    (hi : info ∈ index.types) (h : index.extract info.name = .ok service) :
    service.operations.map (·.methodName) = info.methods.map (·.name) := by
  obtain ⟨other, ho, hm, -⟩ := extract_ok h
  rw [get?_of_mem hi, Option.some.injEq] at ho
  subst ho
  exact map_eq_of_mapAll hm fun m op hop => (extractOperation_ok hop).1

end SoapWrap.Index
