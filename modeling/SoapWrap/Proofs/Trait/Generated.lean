import SoapWrap.Proofs.Trait.ErrorTypes
import SoapWrap.Trait.Generated

namespace SoapWrap.Trait

section Types

variable {names : SigType → String} {kind : Kind} {types : List TypeInfo} {name : String}
  {info : TypeInfo} {ts : List SigType}

lemma mem_addType_iff : info ∈ addType kind types name ↔
    info ∈ types ∨ name ∉ types.map (·.name) ∧ info = { name := name, kind := kind } := by
  rw [addType]
  split
  · next h =>
    have hmem : name ∈ types.map (·.name) := by simpa using h
    simp only [hmem, not_true_eq_false, false_and, or_false]
  · next h =>
    have hmem : name ∉ types.map (·.name) := by simpa using h
    simp [hmem]

lemma nodup_addType (h : (types.map (·.name)).Nodup) :
    ((addType kind types name).map (·.name)).Nodup := by
  rw [addType]
  split
  · exact h
  · next hnone =>
    rw [List.map_append, List.map_singleton, List.nodup_append]
    refine ⟨h, List.nodup_singleton _, fun a ha b hb => ?_⟩
    rw [List.mem_singleton.mp hb]
    rintro rfl
    exact hnone (by simpa using ha)

lemma addTypes_cons {t : SigType} : addTypes names kind types (t :: ts) =
    addTypes names kind (addType kind types (names t)) ts := rfl

lemma nodup_addTypes (h : (types.map (·.name)).Nodup) :
    ((addTypes names kind types ts).map (·.name)).Nodup := by
  induction ts generalizing types with
  | nil => exact h
  | cons t rest ih => exact ih (nodup_addType h)

lemma mem_addTypes_of_mem (h : info ∈ types) : info ∈ addTypes names kind types ts := by
  induction ts generalizing types with
  | nil => exact h
  | cons t rest ih => exact ih (mem_addType_iff.mpr (.inl h))

lemma eq_of_mem_addTypes (h : info ∈ addTypes names kind types ts) :
    info ∈ types ∨ ∃ t ∈ ts, info = { name := names t, kind } := by
  induction ts generalizing types with
  | nil => exact .inl h
  | cons t rest ih =>
    rcases ih h with hinfo | ⟨t', ht', hinfo⟩
    · rcases mem_addType_iff.mp hinfo with hold | ⟨-, hnew⟩
      · exact .inl hold
      · exact .inr ⟨t, List.mem_cons_self, hnew⟩
    · exact .inr ⟨t', List.mem_cons_of_mem _ ht', hinfo⟩

lemma mem_addTypes {t : SigType} (ht : t ∈ ts) :
    names t ∈ types.map (·.name) ∨
      ({ name := names t, kind } : TypeInfo) ∈ addTypes names kind types ts := by
  induction ts generalizing types with
  | nil => cases ht
  | cons t' rest ih =>
    by_cases hold : names t ∈ types.map (·.name)
    · exact .inl hold
    · rw [addTypes_cons]
      refine .inr ?_
      rcases List.mem_cons.mp ht with rfl | hrest
      · exact mem_addTypes_of_mem (mem_addType_iff.mpr (.inr ⟨hold, rfl⟩))
      · rcases ih hrest with hname | hentry
        · obtain ⟨info, hinfo, hname⟩ := List.mem_map.mp hname
          rcases mem_addType_iff.mp hinfo with hmem | ⟨-, rfl⟩
          · exact absurd (hname ▸ List.mem_map_of_mem hmem) hold
          · rw [← hname]
            exact mem_addTypes_of_mem hinfo
        · exact hentry

end Types

def knownBases : List String := [
  "void", "list", "holder",
  "string", "boolean", "byte", "short", "int", "long", "float", "double"]

section Metadata

variable {s : Service} {names : SigType → String} {modulePath : String}

lemma nodup_metadata (s : Service) (names : SigType → String) (modulePath : String) :
    ((s.metadata names modulePath).map (·.name)).Nodup :=
  nodup_addTypes (nodup_addTypes (List.nodup_singleton _))

lemma info_mem_metadata : s.info names modulePath ∈ s.metadata names modulePath :=
  mem_addTypes_of_mem (mem_addTypes_of_mem List.mem_cons_self)

lemma eq_of_mem_metadata {info : TypeInfo} (h : info ∈ s.metadata names modulePath) :
    info.name = s.interfaceName modulePath ∨
      ∃ t ∈ s.thrownTypes ++ s.payloadTypes, info.name = names t := by
  rcases eq_of_mem_addTypes h with hfault | ⟨t, ht, rfl⟩
  · rcases eq_of_mem_addTypes hfault with hinterface | ⟨t, ht, rfl⟩
    · rw [List.mem_singleton.mp hinterface]
      exact .inl rfl
    · exact .inr ⟨t, List.mem_append_left _ ht, rfl⟩
  · exact .inr ⟨t, List.mem_append_right _ ht, rfl⟩

lemma exception_mem_metadata {t : SigType} (ht : t ∈ s.thrownTypes)
    (hne : names t ≠ s.interfaceName modulePath) :
    ({ name := names t, kind := .exception } : TypeInfo) ∈ s.metadata names modulePath := by
  refine mem_addTypes_of_mem ((mem_addTypes ht).resolve_left fun h => hne ?_)
  exact List.mem_singleton.mp h

lemma mem_thrownTypes {m : ServiceMethod} (hm : m ∈ s.methods) {u : SigType}
    (hu : .user u ∈ m.throws) : u ∈ s.thrownTypes := by
  refine List.mem_flatMap.mpr ⟨m, hm, List.mem_flatMap.mpr ⟨.user u, Option.mem_toList.mpr hu, ?_⟩⟩
  exact List.mem_singleton.mpr rfl

def NamesApart (s : Service) (names : SigType → String) (modulePath : String) : Prop :=
  ∀ t ∈ s.thrownTypes ++ s.payloadTypes,
    names t ≠ s.interfaceName modulePath ∧ names t ∉ knownBases

instance : Decidable (NamesApart s names modulePath) :=
  inferInstanceAs (Decidable (∀ t ∈ s.thrownTypes ++ s.payloadTypes, _ ∧ _))

lemma base_mem_knownBases {f : MappedType} (h : f.isUser = false) :
    (f.typeExpr names).base ∈ knownBases := by
  have hscalar : ∀ s : Scalar, s.text ∈ knownBases := fun s => by cases s <;> decide
  have hcontainer : ∀ c : Container, c.text ∈ knownBases := fun c => by cases c <;> decide
  cases f with
  | void => exact List.mem_cons_self
  | scalar s => exact hscalar s
  | container c arg => exact hcontainer c
  | user t => cases h

lemma interfaceName_not_mem_knownBases : s.interfaceName modulePath ∉ knownBases := by
  have hnodot : ∀ base ∈ knownBases, '.' ∉ base.toList := by decide
  intro h
  refine hnodot _ h ?_
  simp [Service.interfaceName]

end Metadata

end SoapWrap.Trait
