import SoapWrap.Proofs.Code.Written
import SoapWrap.Proofs.Dict
import SoapWrap.Proofs.Document
import SoapWrap.Proofs.TypeExpr.WrittenForm

namespace SoapWrap

open Document

section Fits

def Constant.fits : Constant → Bool
  | int i => fitsSigned i
  | _ => true

def Operand.fits : Operand → Bool
  | this => true
  | param i => fitsUnsigned i
  | «local» slot => fitsUnsigned slot
  | const c => c.fits

mutual
def Op.fits : Op → Bool
  | .allocate dst _ args => fitsUnsigned dst && args.all Operand.fits
  | .readField dst object _ => fitsUnsigned dst && object.fits
  | .writeField object _ value => object.fits && value.fits
  | .invoke dst target _ args =>
    dst.all (fun slot : Nat => fitsUnsigned slot) && target.fits && args.all Operand.fits
  | .branchOnNull value then_ otherwise => value.fits && fitsAll then_ && fitsAll otherwise
  | .return value => value.all Operand.fits
def Op.fitsAll : List Op → Bool
  | [] => true
  | op :: rest => op.fits && fitsAll rest
end

def TypeDef.fits (d : TypeDef) : Bool := d.methods.all fun m => Op.fitsAll m.body

end Fits

def MethodDef.typeExprs (m : MethodDef) : List TypeExpr := m.params ++ [m.returns]

def TypeDef.typeExprs (d : TypeDef) : List TypeExpr :=
  d.fields.map (·.type) ++ d.methods.flatMap (·.typeExprs)

section Operands

lemma readIndex_nat {n : Nat} (h : fitsUnsigned n = true) : readIndex (.nat n) = some n := by
  rw [Json.nat, readIndex, if_pos h, Int.toNat_natCast]

lemma Constant.ofJson?_toJson {c : Constant} (h : c.fits = true) : ofJson? c.toJson = some c := by
  cases c with
  | null => rfl
  | int i => exact if_pos h
  | text s => rfl

lemma Operand.ofJson?_toJson {o : Operand} (h : o.fits = true) : ofJson? o.toJson = some o := by
  cases o with
  | this => rfl
  | param i => rw [toJson, ofJson?, readIndex_nat h, Option.map_some]
  | «local» slot => rw [toJson, ofJson?, readIndex_nat h, Option.map_some]
  | const c => rw [toJson, ofJson?, Constant.ofJson?_toJson h, Option.map_some]

lemma list_operandsJson {args : List Operand} (h : args.all Operand.fits = true) :
    list Operand.ofJson? (operandsJson args) = some args :=
  list_map fun o ho => Operand.ofJson?_toJson (List.all_eq_true.mp h o ho)

lemma MethodRef.ofJson?_toJson (m : MethodRef) : ofJson? m.toJson = some m := by
  rw [ofJson?, toJson]
  refine bind_record? (by simp) fun f hf _ => ?_
  simp only [List.forall_mem_cons] at hf
  simp [hf, required]

end Operands

section Operations

variable {fuel : Nat}

lemma splitOp_obj {name : String} {members : List (String × Json)}
    (h : ∀ m ∈ members, m.1 ≠ "op") (inBranch : Bool) :
    splitOp inBranch (.obj (("op", .str name) :: members)) = some (name, .keyed members) := by
  have hname : members.filter (·.1 = "op") = [] :=
    List.filter_eq_nil_iff.mpr fun m hm => by simpa using h m hm
  have hrest : members.filter (·.1 ≠ "op") = members :=
    List.filter_eq_self.mpr fun m hm => by simpa using h m hm
  rw [splitOp, List.filter_cons_of_pos (by simp), List.filter_cons_of_neg (by simp), hname, hrest]
  rfl

lemma omissible_keyed {α : Type} (read : Json → Option α) (members : List (String × Json))
    (v : Option Json) : omissible read (.keyed members) v = optional read v := rfl

lemma Operand.absent?_toJson (o : Operand) : absent? o.toJson = some false := by
  cases o <;> rfl

namespace Op

variable {fuel : Nat} {inBranch : Bool}

lemma ofJson?_allocate {dst : Nat} {type : String} {args : List Operand}
    (h : (allocate dst type args).fits = true) :
    ofJson? (fuel + 1) inBranch (allocate dst type args).toJson =
      some (allocate dst type args) := by
  simp only [fits, Bool.and_eq_true] at h
  rw [ofJson?, toJson, splitOp_obj (by simp), Option.bind_eq_bind, Option.bind_some]
  refine bind_fields? (by simp) fun f hf _ => ?_
  simp only [List.forall_mem_cons] at hf
  simp [hf, required, readIndex_nat h.1, list_operandsJson h.2]

lemma ofJson?_readField {dst : Nat} {object : Operand} {field : String}
    (h : (readField dst object field).fits = true) :
    ofJson? (fuel + 1) inBranch (readField dst object field).toJson =
      some (readField dst object field) := by
  simp only [fits, Bool.and_eq_true] at h
  rw [ofJson?, toJson, splitOp_obj (by simp), Option.bind_eq_bind, Option.bind_some]
  refine bind_fields? (by simp) fun f hf _ => ?_
  simp only [List.forall_mem_cons] at hf
  simp [hf, required, readIndex_nat h.1, Operand.ofJson?_toJson h.2]

lemma ofJson?_writeField {object value : Operand} {field : String}
    (h : (writeField object field value).fits = true) :
    ofJson? (fuel + 1) inBranch (writeField object field value).toJson =
      some (writeField object field value) := by
  simp only [fits, Bool.and_eq_true] at h
  rw [ofJson?, toJson, splitOp_obj (by simp), Option.bind_eq_bind, Option.bind_some]
  refine bind_fields? (by simp) fun f hf _ => ?_
  simp only [List.forall_mem_cons] at hf
  simp [hf, required, Operand.ofJson?_toJson h.1, Operand.ofJson?_toJson h.2]

lemma ofJson?_invoke {dst : Option Nat} {target : Operand} {method : MethodRef}
    {args : List Operand} (h : (invoke dst target method args).fits = true) :
    ofJson? (fuel + 1) inBranch (invoke dst target method args).toJson =
      some (invoke dst target method args) := by
  simp only [fits, Bool.and_eq_true, Option.all_eq_true] at h
  obtain ⟨⟨hdst, htarget⟩, hargs⟩ := h
  have hslot : optional readIndex (some (.ofOption .nat dst)) = some dst :=
    optional_ofOption fun i hi => ⟨rfl, readIndex_nat (hdst i hi)⟩
  rw [ofJson?, toJson, splitOp_obj (by simp), Option.bind_eq_bind, Option.bind_some]
  refine bind_fields? (by simp) fun f hf _ => ?_
  simp only [List.forall_mem_cons] at hf
  simp [hf, required, omissible_keyed, hslot, Operand.ofJson?_toJson htarget,
    MethodRef.ofJson?_toJson, list_operandsJson hargs]

lemma ofJson?_branchOnNull {value : Operand} {then_ otherwise : List Op}
    (hvalue : value.fits = true)
    (hthen : list (ofJson? fuel true) (.arr (opsJson then_)) = some then_)
    (hotherwise : list (ofJson? fuel true) (.arr (opsJson otherwise)) = some otherwise) :
    ofJson? (fuel + 1) inBranch (branchOnNull value then_ otherwise).toJson =
      some (branchOnNull value then_ otherwise) := by
  rw [ofJson?, toJson, splitOp_obj (by simp), Option.bind_eq_bind, Option.bind_some]
  refine bind_fields? (by simp) fun f hf _ => ?_
  simp only [List.forall_mem_cons] at hf
  simp [hf, required, Operand.ofJson?_toJson hvalue, hthen, hotherwise]

lemma ofJson?_return {value : Option Operand} (h : (Op.return value).fits = true) :
    ofJson? (fuel + 1) inBranch (Op.return value).toJson = some (.return value) := by
  rw [fits, Option.all_eq_true] at h
  have hvalue : optional Operand.ofJson? (some (.ofOption Operand.toJson value)) = some value :=
    optional_ofOption fun o ho => ⟨o.absent?_toJson, Operand.ofJson?_toJson (h o ho)⟩
  rw [ofJson?, toJson, splitOp_obj (by simp), Option.bind_eq_bind, Option.bind_some]
  refine bind_fields? (by simp) fun f hf _ => ?_
  simp only [List.forall_mem_cons] at hf
  simp [hf, omissible_keyed, hvalue]

end Op

mutual
-- The reader spends its fuel on branches only, one inside the other.
lemma Op.ofJson?_toJson {fuel : Nat} {op : Op} (hfits : op.fits = true) (hfuel : op.depth < fuel)
    (inBranch : Bool) : Op.ofJson? fuel inBranch op.toJson = some op := by
  obtain ⟨fuel, rfl⟩ := Nat.exists_eq_add_one_of_ne_zero (Nat.ne_zero_of_lt hfuel)
  cases op with
  | allocate dst type args => exact Op.ofJson?_allocate hfits
  | readField dst object field => exact Op.ofJson?_readField hfits
  | writeField object field value => exact Op.ofJson?_writeField hfits
  | invoke dst target method args => exact Op.ofJson?_invoke hfits
  | branchOnNull value then_ otherwise =>
    rw [Op.fits, Bool.and_eq_true, Bool.and_eq_true] at hfits
    rw [Op.depth, Nat.add_lt_add_iff_right, Nat.max_lt] at hfuel
    exact Op.ofJson?_branchOnNull hfits.1.1 (list_opsJson hfits.1.2 hfuel.1 true)
      (list_opsJson hfits.2 hfuel.2 true)
  | «return» value => exact Op.ofJson?_return hfits
lemma list_opsJson {fuel : Nat} {ops : List Op} (hfits : Op.fitsAll ops = true)
    (hfuel : Op.depthAll ops < fuel) (inBranch : Bool) :
    (opsJson ops).mapM (Op.ofJson? fuel inBranch) = some ops := by
  cases ops with
  | nil => rfl
  | cons op rest =>
    rw [Op.fitsAll, Bool.and_eq_true] at hfits
    rw [Op.depthAll, Nat.max_lt] at hfuel
    rw [opsJson, List.mapM_cons, Op.ofJson?_toJson hfits.1 hfuel.1, list_opsJson hfits.2 hfuel.2]
    rfl
end

end Operations

section Types

lemma TypeExpr.ofDocument?_toJson {t : TypeExpr} (h : t.Parsed) :
    TypeExpr.ofDocument? t.toJson = some t := by
  have hparse : (parse t.text).toOption = some t := by rw [h.parse_text, Except.toOption]
  exact hparse

lemma readTexts_entries (d : Dict String) :
    readTexts (Json.obj (d.entries.map fun (k, v) => (k, .str v))) = some d := by
  have hentries : (d.entries.map fun (k, v) => (k, Json.str v)).mapM
      (fun (k, v) => (text? v).map (k, ·)) = some d.entries :=
    mapM_map_some fun _ _ => rfl
  have hread : readTexts (Json.obj (d.entries.map fun (k, v) => (k, .str v))) =
      (some d.entries).bind fun entries => some (.ofList entries) := by
    rw [← hentries]
    rfl
  rw [hread, Option.bind_some, Dict.ofList_entries]

lemma Tag.ofDocument?_toJson (t : Tag) : Tag.ofDocument? t.toJson = some t := by
  obtain ⟨name, values⟩ := t
  have hread := readTexts_entries values
  rw [toJson, ofDocument?]
  cases hempty : values.isEmpty with
  | true =>
    have hvalues : values = .empty := Dict.ext (List.isEmpty_iff.mp hempty)
    refine bind_record? (by simp) fun f hf hlookup => ?_
    have hnone : f "values" = none := (hlookup "values").trans (by simp)
    simp only [List.forall_mem_cons] at hf
    simp [hf, hnone, hvalues, required, orDefault]
  | false =>
    refine bind_record? (by simp) fun f hf _ => ?_
    rw [if_neg Bool.false_ne_true] at hf
    simp only [List.forall_mem_cons] at hf
    simp [hf, hread, required, orDefault]

lemma FieldDef.ofJson?_toJson {f : FieldDef} (h : f.type.Parsed) : ofJson? f.toJson = some f := by
  rw [ofJson?, toJson]
  refine bind_record? (by simp) fun g hg _ => ?_
  simp only [List.forall_mem_cons] at hg
  simp [hg, required, TypeExpr.ofDocument?_toJson h]

lemma MethodKind.ofJson?_text (kind : MethodKind) : ofJson? (.str kind.text) = some kind := by
  cases kind <;> rfl

lemma MethodDef.ofJson?_toJson {m : MethodDef} (hfits : Op.fitsAll m.body = true)
    (hparsed : ∀ t ∈ m.typeExprs, t.Parsed) : ofJson? m.toJson = some m := by
  have hbody : list (Op.ofJson? (m.toJson.depth + 1) false) (.arr (opsJson m.body)) = some m.body :=
    list_opsJson hfits (Nat.lt_succ_of_le m.depthAll_body_le) false
  rw [typeExprs, List.forall_mem_append, List.forall_mem_singleton] at hparsed
  have hkeys : List.Sublist _ ["name", "kind", "params", "returns", "tags", "body"] :=
    .cons_cons "name" (.cons_cons "kind" ((keys_listMember "params" TypeExpr.toJson m.params).append
      (.cons_cons "returns" ((keys_listMember "tags" Tag.toJson m.tags).append (.refl ["body"])))))
  rw [ofJson?]
  generalize m.toJson.depth + 1 = fuel at hbody ⊢
  rw [toJson]
  refine bind_record? (by simpa using hkeys.nodup (by decide)) fun f hf hlookup => ?_
  have hparams : f "params" = (listMember "params" TypeExpr.toJson m.params).lookup "params" := by
    simp [hlookup, List.lookup_cons, List.lookup_append]
  have htags : f "tags" = (listMember "tags" Tag.toJson m.tags).lookup "tags" := by
    simp [hlookup, List.lookup_cons, List.lookup_append]
  simp only [List.forall_mem_cons, List.forall_mem_append] at hf
  obtain ⟨hname, hkind, -, hreturns, -, hmember, -⟩ := hf
  rw [hname, hkind, hparams, hreturns, htags, hmember,
    orDefault_listMember fun t ht => TypeExpr.ofDocument?_toJson (hparsed.1 t ht),
    orDefault_listMember fun t _ => t.ofDocument?_toJson]
  simp only [required, hbody, MethodKind.ofJson?_text, TypeExpr.ofDocument?_toJson hparsed.2]
  rfl

lemma TypeDef.ofJson?_toJson {d : TypeDef} (hfits : d.fits = true)
    (hparsed : ∀ t ∈ d.typeExprs, t.Parsed) : ofJson? d.toJson = some d := by
  rw [typeExprs, List.forall_mem_append, List.forall_mem_map, List.forall_mem_flatMap] at hparsed
  have hread : ∀ m ∈ d.methods, MethodDef.ofJson? m.toJson = some m := fun m hm =>
    MethodDef.ofJson?_toJson (List.all_eq_true.mp hfits m hm) (hparsed.2 m hm)
  have hkeys : List.Sublist _
      ["name", "supertype", "capabilities", "tags", "fields", "methods"] :=
    .cons_cons "name" (((((keys_optionMember "supertype" .str d.supertype).append
      (keys_listMember "capabilities" .str d.capabilities)).append
      (keys_listMember "tags" Tag.toJson d.tags)).append
      (keys_listMember "fields" FieldDef.toJson d.fields)).append
      (keys_listMember "methods" MethodDef.toJson d.methods))
  rw [ofJson?, toJson]
  refine bind_record? (by simpa using hkeys.nodup (by decide)) fun f hf hlookup => ?_
  have hsupertype :
      f "supertype" = (optionMember "supertype" .str d.supertype).lookup "supertype" := by
    simp [hlookup, List.lookup_cons, List.lookup_append]
  have hcapabilities :
      f "capabilities" = (listMember "capabilities" .str d.capabilities).lookup "capabilities" := by
    simp [hlookup, List.lookup_cons, List.lookup_append]
  have htags : f "tags" = (listMember "tags" Tag.toJson d.tags).lookup "tags" := by
    simp [hlookup, List.lookup_cons, List.lookup_append]
  have hfields : f "fields" = (listMember "fields" FieldDef.toJson d.fields).lookup "fields" := by
    simp [hlookup, List.lookup_cons, List.lookup_append]
  have hmethods :
      f "methods" = (listMember "methods" MethodDef.toJson d.methods).lookup "methods" := by
    simp [hlookup, List.lookup_cons, List.lookup_append]
  rw [hf ("name", .str d.name) List.mem_cons_self, hsupertype, hcapabilities, htags, hfields,
    hmethods, optional_optionMember fun s _ => ⟨rfl, text?_str s⟩,
    orDefault_listMember fun s _ => text?_str s,
    orDefault_listMember fun t _ => t.ofDocument?_toJson,
    orDefault_listMember fun g hg => FieldDef.ofJson?_toJson (hparsed.1 g hg),
    orDefault_listMember hread]
  rfl

end Types

end SoapWrap
