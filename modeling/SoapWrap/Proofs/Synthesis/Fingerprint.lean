import SoapWrap.Proofs.Naming.Accessors
import SoapWrap.Proofs.Synthesis.Readability
import SoapWrap.Proofs.Synthesis.WrapperFields

/-! The fingerprint of a wrapper gives away its getters and types: no getter holds the slash behind
it, and what is read of a type ends at the comma, whatever commas it holds. -/

namespace SoapWrap

namespace TypeExpr

lemma Parsed.readType_render {t : TypeExpr} (h : t.Parsed) {fuel : Nat}
    (hfuel : 2 * t.render.length < fuel) (s : List Char) :
    ∃ after, readType fuel maxDepth (t.render ++ ',' :: s) = .ok (t, after) := by
  obtain ⟨after, hread, -⟩ := readType_of_spells (spells_render h.isName) h.depth_le hfuel
    (ends_of_head (s := s) (.inl rfl))
  exact ⟨after, hread⟩

lemma render_append_inj {t u : TypeExpr} (ht : t.Parsed) (hu : u.Parsed) {s r : List Char} :
    t.render ++ ',' :: s = u.render ++ ',' :: r ↔ t = u ∧ s = r := by
  constructor
  · intro h
    -- The two texts are one text, of which the reader finds one expression in front if it has fuel
    -- enough for both.
    obtain ⟨fuel, hfuel, hfuel'⟩ :
        ∃ fuel, 2 * t.render.length < fuel ∧ 2 * u.render.length < fuel :=
      ⟨2 * t.render.length + 2 * u.render.length + 1, by omega, by omega⟩
    obtain ⟨after, hread⟩ := ht.readType_render hfuel s
    obtain ⟨after', hread'⟩ := hu.readType_render hfuel' r
    rw [h, hread'] at hread
    obtain ⟨rfl, -⟩ := Prod.mk.inj (Except.ok.inj hread)
    exact ⟨rfl, List.tail_eq_of_cons_eq (List.append_cancel_left h)⟩
  · rintro ⟨rfl, rfl⟩
    rfl

end TypeExpr

/-- The types of the parameters and of the result were read, with the index that the operation is of
or by themselves. -/
inductive Operation.Legible : Operation → Prop
  | extracted {index : Index} {name : String} {service : ServiceInterface} {op : Operation} :
      index.Parsed → index.extract name = .ok service → op ∈ service.operations → Legible op
  | declared {op : Operation} : (∀ p ∈ op.params, p.declaredType.Parsed) →
      op.result.declaredType.Parsed → Legible op

namespace Wrapper

def shape (w : Wrapper) : List (String × TypeExpr) :=
  w.fields.map fun f => (f.getter, f.declaredType)

def shapeText (shape : List (String × TypeExpr)) : List Char :=
  shape.flatMap fun f => f.1.toList ++ '/' :: f.2.render ++ [',']

variable {scope scope' : Scope} {op op' : Operation} {kind kind' : WrapperKind} {a b w : Wrapper}

lemma fingerprint_eq (w : Wrapper) :
    w.fingerprint = .ofList (Nat.toDigits 10 w.shape.length ++ ':' :: shapeText w.shape) := by
  rw [fingerprint, shapeText, shape, List.length_map, List.flatMap_map]

def Distinguished (f : String × TypeExpr) : Prop := '/' ∉ f.1.toList ∧ f.2.Parsed

lemma shapeText_cons (f : String × TypeExpr) (rest : List (String × TypeExpr)) :
    shapeText (f :: rest) = f.1.toList ++ '/' :: (f.2.render ++ ',' :: shapeText rest) := by
  simp [shapeText]

lemma shapeText_inj {fs gs : List (String × TypeExpr)} (hfs : ∀ f ∈ fs, Distinguished f)
    (hgs : ∀ g ∈ gs, Distinguished g) : shapeText fs = shapeText gs ↔ fs = gs := by
  induction fs generalizing gs with
  | nil =>
    cases gs with
    | nil => simp
    | cons g gs => simp [shapeText]
  | cons f fs ih =>
    cases gs with
    | nil => simp [shapeText]
    | cons g gs =>
      rw [List.forall_mem_cons] at hfs hgs
      obtain ⟨⟨hgetter, htype⟩, hfs⟩ := hfs
      obtain ⟨⟨hgetter', htype'⟩, hgs⟩ := hgs
      -- The first slash ends the getter, and the reader settles where the type ends.
      rw [shapeText_cons, shapeText_cons, append_cons_inj hgetter hgetter',
        TypeExpr.render_append_inj htype htype', ih hfs hgs, List.cons.injEq, Prod.ext_iff,
        String.toList_inj, and_assoc]

lemma colon_not_mem_toDigits (n : Nat) : ':' ∉ Nat.toDigits 10 n := by
  intro h
  have hdigit := Nat.isDigit_of_mem_toDigits (by decide) (by decide) h
  cases hdigit

lemma shape_distinguished (hop : op.Legible) (hw : scope.wrapper op kind = .ok w) :
    ∀ f ∈ w.shape, Distinguished f := by
  have hparsed : ∀ e ∈ Scope.elements kind op, e.declaredType.Parsed := by
    cases hop with
    | extracted hindex hx hop =>
      exact Scope.elements_readable (Index.operations_readable hindex hx op hop) kind
    | declared hparams hresult => exact Scope.elements_parsed hparams hresult kind
  rw [shape, congrArg Wrapper.fields (Scope.wrapper_ok hw).2.2, List.map_map, List.forall_mem_map]
  intro e he
  exact ⟨Naming.slash_not_mem_getterIdentifier e.wireName, hparsed e he⟩

theorem fingerprint_identifies_shape (hop : op.Legible) (hop' : op'.Legible)
    (ha : scope.wrapper op kind = .ok a) (hb : scope'.wrapper op' kind' = .ok b) :
    a.fingerprint = b.fingerprint ↔ a.shape = b.shape := by
  have hinj := shapeText_inj (shape_distinguished hop ha) (shape_distinguished hop' hb)
  rw [fingerprint_eq, fingerprint_eq, String.ofList_inj,
    append_cons_inj (colon_not_mem_toDigits _) (colon_not_mem_toDigits _), hinj]
  constructor
  · rintro ⟨-, h⟩
    exact h
  · intro h
    exact ⟨by rw [h], h⟩

end Wrapper

namespace Yard

def pairOf (t u : TypeExpr) : TypeExpr := ⟨"yard.Pair", [t, u]⟩

def crate : TypeExpr := pairOf (.named "int") (pairOf (.named "string") (.named "long"))

def index : Index where
  types := [{ name := "yard.Pair" },
    { name := "yard.Yard", methods := [{ name := "stow", params := [⟨crate, some "crate", []⟩] }] }]
  built := rfl

def scope : Scope := ⟨index, "yard.generated", "http://yard/", {}⟩

def stow : Operation where
  methodName := "stow"
  params := [{ declaredType := crate, declaredName := some "crate" }]
  result := { declaredType := .void }

def lend : Operation where
  methodName := "lend"
  params := [{ declaredType := crate, declaredName := some "Crate", direction := .inOut }]
  result := { declaredType := .void }

lemma crate_parsed : crate.Parsed := ⟨"yard.Pair<int, yard.Pair<string, long>>", by decide +kernel⟩

lemma index_parsed : index.Parsed := by
  have hall : ∀ info ∈ index.types, ∀ t ∈ info.typeExprs, TypeExpr.parse t.text = .ok t := by
    decide +kernel
  exact fun info hi t ht => ⟨t.text, hall info hi t ht⟩

lemma stow_legible : stow.Legible := by
  have hx : index.extract "yard.Yard" = .ok ⟨"yard.Yard", none, [stow]⟩ := by decide
  exact .extracted index_parsed hx (List.mem_singleton_self stow)

lemma lend_legible : lend.Legible :=
  .declared (List.forall_mem_singleton.mpr crate_parsed) TypeExpr.void_parsed

theorem fingerprint_identifies_shape_yard :
    ∃ a b, scope.wrapper stow .request = .ok a ∧ scope.wrapper lend .response = .ok b ∧
      a.fingerprint = b.fingerprint ∧ a.shape = b.shape := by
  have htexts : (scope.wrapper stow .request).map (·.fingerprint) =
      (scope.wrapper lend .response).map (·.fingerprint) := by decide +kernel
  cases ha : scope.wrapper stow .request with
  | error e => cases ha
  | ok a =>
    cases hb : scope.wrapper lend .response with
    | error e => cases hb
    | ok b =>
      rw [ha, hb] at htexts
      have htext : a.fingerprint = b.fingerprint := Except.ok.inj htexts
      have hshape := Wrapper.fingerprint_identifies_shape stow_legible lend_legible ha hb
      exact ⟨a, b, rfl, rfl, htext, hshape.mp htext⟩

end Yard

end SoapWrap
