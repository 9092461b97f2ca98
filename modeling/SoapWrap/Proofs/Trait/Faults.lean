import SoapWrap.Proofs.Metadata.ReadBack
import SoapWrap.Proofs.Trait.Generated

/-! The declared faults of a trait, from the signatures to the extraction: those that are types of
the user are exceptions of the generated metadata, and all others stop the extraction. -/

namespace SoapWrap.Trait

structure ServiceMethod.Extracts (names : SigType → String) (m : ServiceMethod) : Prop where
  params : ∀ p ∈ m.params, (p.info names).Accepted
  throws : ∀ f ∈ m.throws, f.isUser = true

section Extraction

variable {s : Service} {names : SigType → String} {modulePath : String} {index : Index}
  {m : ServiceMethod} {f : MappedType}

lemma name_not_known (hnames : NamesApart s names modulePath)
    (hindex : index.types = s.metadata names modulePath) :
    ∀ info ∈ index.types, info.name ∉ knownBases := by
  intro info hinfo
  rw [hindex] at hinfo
  rcases eq_of_mem_metadata hinfo with hname | ⟨t, ht, hname⟩
  · rw [hname]
    exact interfaceName_not_mem_knownBases
  · rw [hname]
    exact (hnames t ht).2

lemma resolves_of_mem {info : TypeInfo} (hinfo : info ∈ index.types)
    (hknown : info.name ∉ knownBases) : index.resolves (.named info.name) = true := by
  -- Only the two builtin bases ask for an argument, and a name of the user is neither.
  have hlist : info.name ≠ TypeExpr.listBase := fun h => hknown (h ▸ by decide)
  have hholder : info.name ≠ TypeExpr.holderBase := fun h => hknown (h ▸ by decide)
  have hcontains : index.contains info.name = true := by
    rw [Index.contains_eq, Index.get?_of_mem hinfo]
    rfl
  simp [TypeExpr.named, Index.resolves, Index.resolvesAll, Index.knowsBase, TypeExpr.base, hlist,
    hholder, hcontains]

lemma payable_iff_isUser (hnames : NamesApart s names modulePath)
    (hindex : index.types = s.metadata names modulePath) (hm : m ∈ s.methods)
    (hf : f ∈ m.throws) : index.Payable (f.typeExpr names) ↔ f.isUser = true := by
  constructor
  · rintro ⟨info, hinfo, hbase, -⟩
    by_contra hother
    rw [Bool.not_eq_true] at hother
    exact name_not_known hnames hindex info hinfo (hbase ▸ base_mem_knownBases hother)
  · intro huser
    obtain ⟨u, rfl⟩ := MappedType.isUser_iff.mp huser
    have hthrown := mem_thrownTypes hm hf
    have happart := hnames u (List.mem_append_left _ hthrown)
    have hentry := exception_mem_metadata hthrown happart.1
    rw [← hindex] at hentry
    exact ⟨_, hentry, rfl, resolves_of_mem hentry happart.2⟩

lemma unresolved_iff (hnames : NamesApart s names modulePath)
    (hindex : index.types = s.metadata names modulePath) (hother : f.isUser = false)
    {u : TypeExpr} : index.Unresolved (f.typeExpr names) u ↔ u = f.typeExpr names := by
  have hbase : ∀ info ∈ index.types, info.name ≠ (f.typeExpr names).base := fun info hinfo h =>
    name_not_known hnames hindex info hinfo (h ▸ base_mem_knownBases hother)
  constructor
  · intro h
    cases h with
    | base => rfl
    | payload hinfo hname => exact absurd hname (hbase _ hinfo)
  · rintro rfl
    exact .base hbase

lemma accepts_iff_extracts (hnames : NamesApart s names modulePath)
    (hindex : index.types = s.metadata names modulePath) (hm : m ∈ s.methods) :
    index.Accepts (m.info names) ↔ m.Extracts names := by
  have hthrows : (∀ t ∈ (m.info names).throws, index.Payable t) ↔
      ∀ f ∈ m.throws, f.isUser = true := by
    simp only [ServiceMethod.info, List.forall_mem_map, Option.mem_toList]
    exact forall₂_congr fun f hf => payable_iff_isUser hnames hindex hm hf
  rw [Index.Accepts, hthrows]
  simp only [ServiceMethod.info, List.forall_mem_map]
  constructor
  · intro h
    exact ⟨h.1, h.2⟩
  · intro h
    exact ⟨h.params, h.throws⟩

lemma refuses_unresolved_iff (hnames : NamesApart s names modulePath)
    (hindex : index.types = s.metadata names modulePath) (hm : m ∈ s.methods) {op : String}
    {u : TypeExpr} : index.Refuses (m.info names) (.unresolvedType op u) ↔
      (∀ p ∈ m.params, (p.info names).Accepted) ∧
        ∃ f ∈ m.throws, f.isUser = false ∧ op = m.name ∧ u = f.typeExpr names := by
  have hparams : (∀ p ∈ (m.info names).params, p.Accepted) ↔
      ∀ p ∈ m.params, (p.info names).Accepted := List.forall_mem_map
  constructor
  · intro h
    cases h with
    | @thrown t _ haccepted hfirst hunresolved =>
      obtain ⟨f, hf, rfl⟩ := firstWithout_map_iff.mp hfirst
      have hthrown := Option.mem_toList.mp hf.mem
      have hother : f.isUser = false := by
        have hnot := hf.not_holds
        rwa [payable_iff_isUser hnames hindex hm hthrown, Bool.not_eq_true] at hnot
      exact ⟨hparams.mp haccepted, f, hthrown, hother, rfl,
        (unresolved_iff hnames hindex hother).mp hunresolved⟩
  · rintro ⟨haccepted, f, hf, hother, rfl, rfl⟩
    have hnot : ¬ index.Payable (f.typeExpr names) := by
      rw [payable_iff_isUser hnames hindex hm hf, hother]
      exact Bool.false_ne_true
    have hfirst : FirstWithout index.Payable (m.info names).throws (f.typeExpr names) := by
      simp only [ServiceMethod.info, Option.mem_def.mp hf]
      exact .here hnot
    exact .thrown (hparams.mpr haccepted) hfirst ((unresolved_iff hnames hindex hother).mpr rfl)

lemma extract_unresolved_iff (hnames : NamesApart s names modulePath)
    (hindex : index.types = s.metadata names modulePath) {op : String} {u : TypeExpr} :
    index.extract (s.interfaceName modulePath) = .error (.unresolvedType op u) ↔
      ∃ m, FirstWithout (·.Extracts names) s.methods m ∧
        (∀ p ∈ m.params, (p.info names).Accepted) ∧
        ∃ f ∈ m.throws, f.isUser = false ∧ op = m.name ∧ u = f.typeExpr names := by
  have hinfo : s.info names modulePath ∈ index.types := hindex ▸ info_mem_metadata
  have hmethods : (s.info names modulePath).methods = s.methods.map (·.info names) := rfl
  have hextract := Index.extract_eq_error_iff hinfo (e := .unresolvedType op u)
  have hname : (s.info names modulePath).name = s.interfaceName modulePath := rfl
  rw [hname, hmethods] at hextract
  rw [hextract]
  have hfirst (m : ServiceMethod) :
      FirstWithout (fun m => index.Accepts (m.info names)) s.methods m ↔
        FirstWithout (·.Extracts names) s.methods m :=
    firstWithout_congr fun m hm => accepts_iff_extracts hnames hindex hm
  constructor
  · rintro ⟨mi, hmi, hrefuses⟩
    obtain ⟨m, hm, rfl⟩ := firstWithout_map_iff.mp hmi
    exact ⟨m, (hfirst m).mp hm, (refuses_unresolved_iff hnames hindex hm.mem).mp hrefuses⟩
  · rintro ⟨m, hm, hfault⟩
    exact ⟨_, firstWithout_map_iff.mpr ⟨m, (hfirst m).mpr hm, rfl⟩,
      (refuses_unresolved_iff hnames hindex hm.mem).mpr hfault⟩

end Extraction

theorem TraitItem.faults_extract {t : TraitItem} {tag : ElementTag} {s : Service}
    (h : t.service tag = .ok s) {names : SigType → String} {modulePath : String}
    (hnames : NamesApart s names modulePath) :
    ((∀ m ∈ s.methods, ∀ f ∈ m.throws, f.isUser = true) ↔
        ∀ m ∈ t.methods, ∀ error ∈ m.fault?, ∃ u, error.StandsFor u) ∧
      ∃ index, Index.ofTypes (s.metadata names modulePath) = .ok index ∧
        (∀ m ∈ s.methods, ∀ u, .user u ∈ m.throws →
          ∃ info ∈ index.types, info.name = names u ∧ info.kind = .exception) ∧
        ∀ op u, index.extract (s.interfaceName modulePath) = .error (.unresolvedType op u) ↔
          ∃ m, FirstWithout (·.Extracts names) s.methods m ∧
            (∀ p ∈ m.params, (p.info names).Accepted) ∧
            ∃ f ∈ m.throws, f.isUser = false ∧ op = m.name ∧ u = f.typeExpr names := by
  obtain ⟨-, hmethods, -⟩ := service_eq_ok_iff.mp h
  obtain ⟨index, hindex, htypes⟩ := Index.exists_ofTypes (nodup_metadata s names modulePath)
  refine ⟨?_, index, hindex, fun m hm u hu => ?_, fun op u => extract_unresolved_iff hnames htypes⟩
  · exact (forall_mem_iff_of_forall₂ (mapAll_eq_ok_iff_forall₂.mp hmethods)
      fun _ _ hservice => (Method.throws_user_iff hservice).symm).symm
  · have hthrown := mem_thrownTypes hm hu
    have happart := hnames u (List.mem_append_left _ hthrown)
    rw [htypes]
    exact ⟨_, exception_mem_metadata hthrown happart.1, rfl, rfl⟩

namespace Booth

def tag : ElementTag := ⟨TagName.webService, []⟩

def names : SigType → String
  | .path _ _ name _ => "fair." ++ name
  | _ => ""

def soundText : String :=
  "trait Booth \x7b fn sell(&self, item: Item) -> Result<Receipt, Box<Rejected>>; \x7d"

def scalarText : String := "trait Booth \x7b fn sell(&self) -> Result<i64, String>; \x7d"

def thrownIn (s : Service) : List (Option TypeExpr) :=
  s.methods.map fun m => m.throws.map (·.typeExpr names)

theorem sells : ∃ t s index, TraitItem.parse soundText = some t ∧ t.service tag = .ok s ∧
    Index.ofTypes (s.metadata names "fair") = .ok index ∧
    index.types.map (fun info => (info.name, info.kind)) =
      [("fair.Booth", .interface), ("fair.Rejected", .exception), ("fair.Item", .plain),
        ("fair.Receipt", .plain)] ∧
    thrownIn s = [some (.named "fair.Rejected")] ∧
    (∀ m ∈ s.methods, ∀ u, .user u ∈ m.throws →
      ∃ info ∈ index.types, info.name = names u ∧ info.kind = .exception) ∧
    ∀ op u, index.extract "fair.Booth" ≠ .error (.unresolvedType op u) := by
  obtain ⟨t, s, ht, hs, htest⟩ := exists_of_readsWith soundText tag
    (fun _ s => s.interfaceName "fair" = "fair.Booth" ∧
      NamesApart s names "fair" ∧
      (s.metadata names "fair").map (fun info => (info.name, info.kind)) =
        [("fair.Booth", .interface), ("fair.Rejected", .exception), ("fair.Item", .plain),
          ("fair.Receipt", .plain)] ∧
      thrownIn s = [some (.named "fair.Rejected")] ∧
      ∀ m ∈ s.methods, ∀ f ∈ m.throws, f.isUser = true) (by decide +kernel)
  obtain ⟨hname, hnames, htypes, hthrown, husers⟩ := of_decide_eq_true htest
  obtain ⟨-, index, hindex, hexceptions, hextract⟩ := TraitItem.faults_extract hs hnames
  rw [← Index.types_ofTypes hindex] at htypes
  refine ⟨t, s, index, ht, hs, hindex, htypes, hthrown, hexceptions, fun op u hunresolved => ?_⟩
  rw [← hname, hextract] at hunresolved
  obtain ⟨m, hm, -, f, hf, hother, -⟩ := hunresolved
  rw [husers m hm.mem f hf] at hother
  cases hother

theorem stops_at_scalar : ∃ t s index, TraitItem.parse scalarText = some t ∧
    t.service tag = .ok s ∧ Index.ofTypes (s.metadata names "fair") = .ok index ∧
    thrownIn s = [some (.named "string")] ∧ index.types.map (·.name) = ["fair.Booth"] ∧
    index.extract "fair.Booth" = .error (.unresolvedType "sell" (.named "string")) := by
  obtain ⟨t, s, ht, hs, htest⟩ := exists_of_readsWith scalarText tag
    (fun _ s => thrownIn s = [some (.named "string")] ∧
      (s.metadata names "fair").map (·.name) = ["fair.Booth"] ∧
      (Index.ofTypes (s.metadata names "fair")).toOption.any fun index =>
        index.extract "fair.Booth" = .error (.unresolvedType "sell" (.named "string")))
    (by decide +kernel)
  obtain ⟨hthrown, htypes, hextract⟩ := of_decide_eq_true htest
  obtain ⟨index, hindex, hlisted⟩ := Index.exists_ofTypes (nodup_metadata s names "fair")
  rw [hindex] at hextract
  rw [← hlisted] at htypes
  exact ⟨t, s, index, ht, hs, hindex, hthrown, htypes, of_decide_eq_true hextract⟩

end Booth

end SoapWrap.Trait
