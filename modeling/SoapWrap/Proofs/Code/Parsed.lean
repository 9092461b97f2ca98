import SoapWrap.Proofs.Code.ReadBack

namespace SoapWrap

open Document

def MethodInfo.typeExprs (m : MethodInfo) : List TypeExpr :=
  m.params.map (·.declaredType) ++ m.returns :: m.throws

def TypeInfo.typeExprs (t : TypeInfo) : List TypeExpr :=
  t.methods.flatMap (·.typeExprs) ++ t.faultInfo.toList

section Reflected

variable {δ : Type} [Document δ]

lemma TypeExpr.yields_parsed : Yields (TypeExpr.ofDocument? (δ := δ)) Parsed := by
  intro d t h
  obtain ⟨s, -, hs⟩ := Option.bind_eq_some_iff.mp h
  refine ⟨s, ?_⟩
  cases hparse : TypeExpr.parse s with
  | error e => rw [hparse] at hs; cases hs
  | ok u =>
    rw [hparse] at hs
    exact congrArg Except.ok (Option.some.inj hs)

lemma TypeExpr.void_parsed : TypeExpr.void.Parsed := ⟨"void", by decide +kernel⟩

lemma ParamInfo.yields_parsed :
    Yields (ParamInfo.ofDocument? : δ → Option ParamInfo) (·.declaredType.Parsed) := by
  intro d p h
  simp only [ofDocument?, Option.bind_eq_bind, Option.bind_eq_some_iff, Option.pure_def,
    Option.some.injEq] at h
  obtain ⟨f, -, t, ht, -, -, -, -, rfl⟩ := h
  exact TypeExpr.yields_parsed.required _ t ht

lemma MethodInfo.yields_parsed :
    Yields (MethodInfo.ofDocument? : δ → Option MethodInfo) (∀ t ∈ ·.typeExprs, t.Parsed) := by
  intro d m h
  simp only [ofDocument?, Option.bind_eq_bind, Option.bind_eq_some_iff, Option.pure_def,
    Option.some.injEq] at h
  obtain ⟨f, -, -, -, params, hparams, returns, hreturns, throws, hthrows, -, -, rfl⟩ := h
  rw [typeExprs, List.forall_mem_append, List.forall_mem_map, List.forall_mem_cons]
  exact ⟨(ParamInfo.yields_parsed.list.orDefault (List.forall_mem_nil _)) _ params hparams,
    (TypeExpr.yields_parsed.orDefault TypeExpr.void_parsed) _ returns hreturns,
    (TypeExpr.yields_parsed.list.orDefault (List.forall_mem_nil _)) _ throws hthrows⟩

lemma TypeInfo.yields_parsed :
    Yields (TypeInfo.ofDocument? : δ → Option TypeInfo) (∀ t ∈ ·.typeExprs, t.Parsed) := by
  intro d info h
  simp only [ofDocument?, Option.bind_eq_bind, Option.bind_eq_some_iff, Option.pure_def,
    Option.some.injEq] at h
  obtain ⟨f, -, -, -, -, -, -, -, methods, hmethods, faultInfo, hfault, rfl⟩ := h
  rw [typeExprs, List.forall_mem_append, List.forall_mem_flatMap]
  refine ⟨(MethodInfo.yields_parsed.list.orDefault (List.forall_mem_nil _)) _ methods hmethods,
    fun t ht => ?_⟩
  exact TypeExpr.yields_parsed.optional _ faultInfo hfault t (Option.mem_toList.mp ht)

end Reflected

section Generated

lemma FieldDef.yields_parsed : Yields FieldDef.ofJson? (·.type.Parsed) := by
  intro j f h
  simp only [ofJson?, Option.bind_eq_bind, Option.bind_eq_some_iff, Option.pure_def,
    Option.some.injEq] at h
  obtain ⟨g, -, -, -, t, ht, rfl⟩ := h
  exact TypeExpr.yields_parsed.required _ t ht

lemma MethodDef.yields_parsed : Yields MethodDef.ofJson? (∀ t ∈ ·.typeExprs, t.Parsed) := by
  intro j m h
  simp only [ofJson?, Option.bind_eq_bind, Option.bind_eq_some_iff, Option.pure_def,
    Option.some.injEq] at h
  obtain ⟨f, -, -, -, -, -, params, hparams, returns, hreturns, -, -, -, -, rfl⟩ := h
  rw [typeExprs, List.forall_mem_append, List.forall_mem_singleton]
  exact ⟨(TypeExpr.yields_parsed.list.orDefault (List.forall_mem_nil _)) _ params hparams,
    TypeExpr.yields_parsed.required _ returns hreturns⟩

lemma TypeDef.yields_parsed : Yields TypeDef.ofJson? (∀ t ∈ ·.typeExprs, t.Parsed) := by
  intro j d h
  simp only [ofJson?, Option.bind_eq_bind, Option.bind_eq_some_iff, Option.pure_def,
    Option.some.injEq] at h
  obtain ⟨f, -, -, -, -, -, -, -, -, -, fields, hfields, methods, hmethods, rfl⟩ := h
  rw [typeExprs, List.forall_mem_append, List.forall_mem_map, List.forall_mem_flatMap]
  exact ⟨(FieldDef.yields_parsed.list.orDefault (List.forall_mem_nil _)) _ fields hfields,
    (MethodDef.yields_parsed.list.orDefault (List.forall_mem_nil _)) _ methods hmethods⟩

end Generated

end SoapWrap
