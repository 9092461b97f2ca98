import SoapWrap.Proofs.Trait.Service

namespace SoapWrap.Trait

def MappedType.isUser : MappedType → Bool
  | user _ => true
  | _ => false

/-- The type of the user that a type stands for, below references, parentheses and transparent
wrappings. -/
inductive SigType.StandsFor : SigType → SigType → Prop
  | reference {words : List String} {target u : SigType} :
      StandsFor target u → StandsFor (.reference words target) u
  | paren {words : List String} {inner u : SigType} :
      StandsFor inner u → StandsFor (.paren words inner) u
  | wrapped {words : List String} {name : String} {arg u : SigType} :
      isTransparent name = true → StandsFor arg u → StandsFor (.path words false name [arg]) u
  | itself {words : List String} {name : String} {args : List SigType} :
      Scalar.ofName? name = none → name ≠ resultName → Container.ofName? name = none →
      isTransparent name = false →
      StandsFor (.path words false name args) (.path words false name args)

def SigType.error? : SigType → Option SigType
  | path _ _ name args =>
    if name = resultName then
      match args with
      | [_, error] => some error
      | _ => none
    else none
  | _ => none

def Method.fault? (m : Method) : Option SigType := m.output.bind (·.error?)

lemma ofName?_of_isTransparent {name : String} (h : isTransparent name = true) :
    Scalar.ofName? name = none ∧ name ≠ resultName ∧ Container.ofName? name = none := by
  rw [isTransparent, Bool.or_eq_true, beq_iff_eq, beq_iff_eq] at h
  rcases h with rfl | rfl <;> decide

lemma SigType.StandsFor.map_eq {t u : SigType} (h : t.StandsFor u) : t.map = .ok (.user u) := by
  induction h with
  | reference _ ih | paren _ ih => rwa [SigType.map]
  | wrapped htransparent _ ih =>
    obtain ⟨hscalar, hresult, hcontainer⟩ := ofName?_of_isTransparent htransparent
    simpa [SigType.map, hscalar, hresult, hcontainer, htransparent] using ih
  | @itself _ _ args hscalar hresult hcontainer htransparent =>
    -- The mapping looks at the number of arguments before it needs it.
    rcases args with _ | ⟨arg, _ | ⟨other, rest⟩⟩ <;>
      simp [SigType.map, hscalar, hresult, hcontainer, htransparent]

lemma SigType.standsFor_of_map {t u : SigType} (h : t.map = .ok (.user u)) : t.StandsFor u := by
  fun_induction SigType.map t with
  | case1 _ _ ih => exact .reference (ih h)
  | case2 _ _ ih => exact .paren (ih h)
  | case10 words qualified name hqualified _ _ _ htransparent arg ih =>
    rw [Bool.eq_false_iff.mpr hqualified]
    exact .wrapped htransparent (ih h)
  | case12 words qualified name hqualified hscalar hresult args hcontainer htransparent =>
    obtain rfl := MappedType.user.inj (Except.ok.inj h)
    rw [Bool.eq_false_iff.mpr hqualified]
    exact .itself hscalar hresult hcontainer (Bool.eq_false_iff.mpr htransparent)
  | case8 =>
    -- A container is none of the user's types, whatever it holds.
    obtain ⟨_, -, hmapped⟩ := map_eq_ok_iff.mp h
    cases hmapped
  | case3 | case4 | case5 | case6 | case7 | case9 | case11 => cases h

lemma map_eq_user_iff {t u : SigType} : t.map = .ok (.user u) ↔ t.StandsFor u :=
  ⟨SigType.standsFor_of_map, SigType.StandsFor.map_eq⟩

lemma MappedType.isUser_iff {f : MappedType} : f.isUser = true ↔ ∃ u, f = .user u := by
  cases f <;> simp [isUser]

lemma SigType.throws_of_mapReturn {t : SigType} {r : Returned} (h : t.mapReturn = .ok r) :
    Option.Rel (fun error f => error.map = .ok f) t.error? r.throws := by
  have hplain : (do return ⟨← t.map, none⟩ : Except Rejection Returned) = .ok r →
      r.throws = none := by
    intro hmap
    obtain ⟨_, -, hr⟩ := bind_eq_ok_iff.mp hmap
    rw [← pure_eq_ok_iff.mp hr]
  cases t with
  | path words qualified name args =>
    by_cases hname : name = resultName
    · rcases args with _ | ⟨value, _ | ⟨error, _ | ⟨other, rest⟩⟩⟩ <;>
        simp only [mapReturn, error?, if_pos hname] at h ⊢
      · cases h
      · cases h
      · simp only [bind_eq_ok_iff, pure_eq_ok_iff] at h
        obtain ⟨_, -, f, hf, rfl⟩ := h
        exact .some hf
      · cases h
    · have herror : (path words qualified name args).error? = none := if_neg hname
      rw [herror, hplain ((if_neg hname).symm.trans h)]
      exact .none
  | reference | paren | unit | other =>
    rw [hplain h]
    exact .none

lemma Method.throws_of_service {m : Method} {sm : ServiceMethod} (h : m.service = .ok sm) :
    Option.Rel (fun error f => error.map = .ok f) m.fault? sm.throws := by
  obtain ⟨-, -, hreturned, -⟩ := service_eq_ok_iff.mp h
  rw [returned] at hreturned
  rw [fault?]
  cases houtput : m.output with
  | none =>
    rw [houtput] at hreturned
    rw [← (Returned.mk.inj (Except.ok.inj hreturned)).2]
    exact .none
  | some t =>
    rw [houtput] at hreturned
    exact SigType.throws_of_mapReturn hreturned

lemma Method.throws_user_iff {m : Method} {sm : ServiceMethod} (h : m.service = .ok sm) :
    (∀ f ∈ sm.throws, f.isUser = true) ↔ ∀ error ∈ m.fault?, ∃ u, error.StandsFor u := by
  have hrel := throws_of_service h
  generalize m.fault? = declared at hrel ⊢
  generalize sm.throws = thrown at hrel ⊢
  cases hrel with
  | none => simp
  | some hmap => simp [MappedType.isUser_iff, ← map_eq_user_iff, hmap]

end SoapWrap.Trait
