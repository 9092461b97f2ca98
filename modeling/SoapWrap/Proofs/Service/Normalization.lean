import SoapWrap.Proofs.Synthesis.Extraction
import SoapWrap.Synthesis.Interface

/-! The normal form of the methods of an interface, and what a method is refused for, both said
without the steps of the extraction; the extraction gives the one or the other. -/

namespace SoapWrap

/-- What the first tag for parameters says of the mode, the empty text included. -/
def ParamInfo.mode? (p : ParamInfo) : Option String :=
  (p.tag? "WebParam").bind (·.values.get? "mode")

def Direction.spellings : List (String × Direction) :=
  [("in", .in), ("out", .out), ("inout", .inOut), ("in_out", .inOut)]

namespace ParamInfo

def Accepted (p : ParamInfo) : Prop :=
  ∀ mode ∈ p.mode?, mode = "" ∨
    ∃ spelling ∈ Direction.spellings, Text.eqIgnoreAsciiCase mode spelling.1 = true

inductive Directs (p : ParamInfo) : Direction → Prop
  | unsaid : (∀ mode ∈ p.mode?, mode = "") → Directs p .in
  | said {mode spelling : String} {d : Direction} : mode ∈ p.mode? →
      (spelling, d) ∈ Direction.spellings → Text.eqIgnoreAsciiCase mode spelling = true →
      Directs p d

structure Describes (p : ParamInfo) (q : Parameter) : Prop where
  declaredType : q.declaredType = p.declaredType
  declaredName : q.declaredName = p.name
  direction : p.Directs q.direction
  wireName : q.wireName = (p.tag? "WebParam").bind (·.value? "name")
  targetNamespace : q.targetNamespace = (p.tag? "WebParam").bind (·.value? "targetNamespace")
  header : q.header = true ↔ ∃ header ∈ (p.tag? "WebParam").bind (·.value? "header"),
    Text.eqIgnoreAsciiCase header "true" = true
  tags : q.tags = p.tags

end ParamInfo

namespace Index

def Payable (index : Index) (t : TypeExpr) : Prop :=
  ∃ info ∈ index.types, info.name = t.base ∧ index.resolves (info.faultInfo.getD t) = true

inductive Unresolved (index : Index) (t : TypeExpr) : TypeExpr → Prop
  | base : (∀ info ∈ index.types, info.name ≠ t.base) → Unresolved index t t
  | payload {info : TypeInfo} : info ∈ index.types → info.name = t.base →
      index.resolves (info.faultInfo.getD t) = false →
      Unresolved index t (info.faultInfo.getD t)

structure Throws (index : Index) (t : TypeExpr) (x : Thrown) : Prop where
  declaredType : x.declaredType = t
  entry : ∃ info ∈ index.types, info.name = t.base ∧ x.payloadType = info.faultInfo.getD t ∧
    x.faultName = (info.tag? "WebFault").bind (·.value? "name")
  resolves : index.resolves x.payloadType = true

def Accepts (index : Index) (m : MethodInfo) : Prop :=
  (∀ p ∈ m.params, p.Accepted) ∧ ∀ t ∈ m.throws, index.Payable t

structure Normalizes (index : Index) (m : MethodInfo) (op : Operation) : Prop where
  methodName : op.methodName = m.name
  operationName : op.operationName = (m.tag? "WebMethod").bind (·.value? "operationName")
  params : List.Forall₂ ParamInfo.Describes m.params op.params
  result : op.result = {
    declaredType := m.returns
    wireName := (m.tag? "WebResult").bind (·.value? "name")
    targetNamespace := (m.tag? "WebResult").bind (·.value? "targetNamespace")
    tags := m.tags }
  exceptions : List.Forall₂ index.Throws m.throws.eraseDups op.exceptions

inductive Refuses (index : Index) (m : MethodInfo) : SynthesisError → Prop
  | mode {p : ParamInfo} {mode : String} :
      FirstWithout ParamInfo.Accepted m.params p → mode ∈ p.mode? →
      Refuses index m (.malformedOperation m.name (.unknownMode mode))
  | thrown {t u : TypeExpr} :
      (∀ p ∈ m.params, p.Accepted) → FirstWithout index.Payable m.throws t →
      index.Unresolved t u → Refuses index m (.unresolvedType m.name u)

end Index

lemma Direction.ofText?_eq_some_iff {mode : String} {d : Direction} :
    ofText? mode = some d ↔
      ∃ spelling, (spelling, d) ∈ spellings ∧ Text.eqIgnoreAsciiCase mode spelling = true := by
  have hin : Text.asciiLowerString "in" = "in" := by decide
  have hout : Text.asciiLowerString "out" = "out" := by decide
  have hinout : Text.asciiLowerString "inout" = "inout" := by decide
  have hin_out : Text.asciiLowerString "in_out" = "in_out" := by decide
  simp only [ofText?, spellings, Text.eqIgnoreAsciiCase, List.mem_cons, Prod.mk.injEq,
    List.not_mem_nil, or_false, beq_iff_eq]
  generalize Text.asciiLowerString mode = lowered
  constructor
  · intro h
    split at h
    · next hl =>
      obtain rfl := Option.some.inj h
      exact ⟨"in", .inl ⟨rfl, rfl⟩, hl.trans hin.symm⟩
    · split at h
      · next hl =>
        obtain rfl := Option.some.inj h
        exact ⟨"out", .inr (.inl ⟨rfl, rfl⟩), hl.trans hout.symm⟩
      · split at h
        · next hl =>
          obtain rfl := Option.some.inj h
          rcases hl with hl | hl
          · exact ⟨"inout", .inr (.inr (.inl ⟨rfl, rfl⟩)), hl.trans hinout.symm⟩
          · exact ⟨"in_out", .inr (.inr (.inr ⟨rfl, rfl⟩)), hl.trans hin_out.symm⟩
        · cases h
  · rintro ⟨spelling, ⟨rfl, rfl⟩ | ⟨rfl, rfl⟩ | ⟨rfl, rfl⟩ | ⟨rfl, rfl⟩, hl⟩
    · rw [hl, hin]
      rfl
    · rw [hl, hout]
      rfl
    · rw [hl, hinout]
      rfl
    · rw [hl, hin_out]
      rfl

namespace ParamInfo

variable {p : ParamInfo} {q : Parameter} {d : Direction}

def direction? (p : ParamInfo) : Option Direction :=
  match p.mode?.filter (· ≠ "") with
  | none => some .in
  | some mode => Direction.ofText? mode

def described (p : ParamInfo) (d : Direction) : Parameter where
  declaredType := p.declaredType
  declaredName := p.name
  direction := d
  wireName := (p.tag? "WebParam").bind (·.value? "name")
  targetNamespace := (p.tag? "WebParam").bind (·.value? "targetNamespace")
  header := ((p.tag? "WebParam").bind (·.value? "header")).any (Text.eqIgnoreAsciiCase · "true")
  tags := p.tags

lemma directs_iff : p.Directs d ↔ p.direction? = some d := by
  rw [direction?]
  constructor
  · intro h
    cases h with
    | unsaid hempty =>
      rw [Option.filter_eq_none_iff.mpr fun mode hmode => by simpa using hempty mode hmode]
    | @said mode spelling d hmode hspelling hcase =>
      have hd := Direction.ofText?_eq_some_iff.mpr ⟨spelling, hspelling, hcase⟩
      have hne : mode ≠ "" := by
        rintro rfl
        cases hd
      rw [Option.mem_def.mp hmode, Option.filter_some_pos (by simpa using hne)]
      exact hd
  · intro h
    split at h
    · next hempty =>
      obtain rfl := Option.some.inj h
      exact .unsaid fun mode hmode => by
        simpa using Option.filter_eq_none_iff.mp hempty mode hmode
    · next mode hmode =>
      obtain ⟨spelling, hspelling, hcase⟩ := Direction.ofText?_eq_some_iff.mp h
      exact .said (Option.eq_some_of_filter_eq_some hmode) hspelling hcase

lemma accepted_iff : p.Accepted ↔ ∃ d, p.Directs d := by
  constructor
  · intro h
    cases hmode : p.mode? with
    | none => exact ⟨.in, .unsaid (by simp [hmode])⟩
    | some mode =>
      rcases h mode hmode with hempty | ⟨⟨spelling, d⟩, hspelling, hcase⟩
      · exact ⟨.in, .unsaid (by simpa [hmode] using hempty)⟩
      · exact ⟨d, .said hmode hspelling hcase⟩
  · rintro ⟨d, h⟩ mode hmode
    cases h with
    | unsaid hempty => exact .inl (hempty mode hmode)
    | said hother hspelling hcase =>
      obtain rfl := Option.mem_unique hmode hother
      exact .inr ⟨_, hspelling, hcase⟩

lemma describes_iff : p.Describes q ↔ ∃ d, p.direction? = some d ∧ p.described d = q := by
  constructor
  · rintro ⟨htype, hname, hdirection, hwire, hnamespace, hheader, htags⟩
    refine ⟨q.direction, directs_iff.mp hdirection, ?_⟩
    obtain ⟨_, _, _, _, _, header, _⟩ := q
    dsimp only at htype hname hwire hnamespace hheader htags
    subst htype hname hwire hnamespace htags
    have hh : ((p.tag? "WebParam").bind (·.value? "header")).any
        (Text.eqIgnoreAsciiCase · "true") = header := by
      rw [Bool.eq_iff_iff, hheader]
      exact Option.any_eq_true _ _
    rw [described, hh]
  · rintro ⟨d, hd, rfl⟩
    exact ⟨rfl, rfl, directs_iff.mpr hd, rfl, rfl, Option.any_eq_true _ _, rfl⟩

end ParamInfo

namespace Index

variable {index : Index} {operation name : String} {p : ParamInfo} {q : Parameter}
  {t u : TypeExpr} {x : Thrown} {m : MethodInfo} {op : Operation} {e : SynthesisError}

lemma extractParam_eq :
    extractParam operation p =
      match p.mode?.filter (· ≠ "") with
      | none => .ok (p.described .in)
      | some mode =>
        match Direction.ofText? mode with
        | some d => .ok (p.described d)
        | none => .error (.malformedOperation operation (.unknownMode mode)) := by
  have hmode : tagValue? (p.tag? TagName.webParam) "mode" = p.mode?.filter (· ≠ "") := by
    rw [ParamInfo.mode?, tagValue?]
    change _ = ((p.tag? TagName.webParam).bind _).filter _
    cases p.tag? TagName.webParam <;> rfl
  rw [← hmode]
  rfl

lemma extractParam_eq_ok_iff : extractParam operation p = .ok q ↔ p.Describes q := by
  rw [extractParam_eq, ParamInfo.describes_iff, ParamInfo.direction?]
  cases p.mode?.filter (· ≠ "") with
  | none => simp
  | some mode => cases h : Direction.ofText? mode <;> simp [h]

lemma extractParam_eq_error_iff :
    extractParam operation p = .error e ↔ ¬ p.Accepted ∧
      ∃ mode ∈ p.mode?, e = .malformedOperation operation (.unknownMode mode) := by
  rw [ParamInfo.accepted_iff, extractParam_eq]
  simp only [ParamInfo.directs_iff, ParamInfo.direction?]
  cases hmode : p.mode?.filter (· ≠ "") with
  | none => simp
  | some mode =>
    rw [Option.eq_some_of_filter_eq_some hmode]
    cases h : Direction.ofText? mode <;> simp [h, eq_comm]

lemma extractThrown_eq_ok_iff : index.extractThrown operation t = .ok x ↔ index.Throws t x := by
  constructor
  · intro h
    obtain ⟨info, hi, rfl⟩ := extractThrown_eq h
    obtain ⟨hmem, hbase⟩ := get?_eq_some_iff.mp hi
    exact ⟨rfl, ⟨info, hmem, hbase, rfl, rfl⟩, extractThrown_ok h⟩
  · rintro ⟨htype, ⟨info, hmem, hbase, hpayload, hfault⟩, hresolves⟩
    obtain ⟨_, _, _⟩ := x
    dsimp only at htype hpayload hfault hresolves
    subst htype hpayload hfault
    rw [extractThrown, get?_eq_some_iff.mpr ⟨hmem, hbase⟩]
    dsimp only
    rw [if_pos hresolves]
    rfl

lemma extractThrown_eq_error_iff :
    index.extractThrown operation t = .error e ↔
      ∃ u, index.Unresolved t u ∧ e = .unresolvedType operation u := by
  rw [extractThrown]
  cases hi : index.get? t.base with
  | none =>
    have hbase := get?_eq_none_iff.mp hi
    constructor
    · intro h
      exact ⟨t, .base hbase, (Except.error.inj h).symm⟩
    · rintro ⟨u, hu, rfl⟩
      cases hu with
      | base => rfl
      | payload hmem hname => exact absurd hname (hbase _ hmem)
  | some info =>
    obtain ⟨hmem, hname⟩ := get?_eq_some_iff.mp hi
    dsimp only
    constructor
    · intro h
      split at h
      · cases h
      · next hresolves =>
        exact ⟨_, .payload hmem hname (Bool.eq_false_iff.mpr hresolves),
          (Except.error.inj h).symm⟩
    · rintro ⟨u, hu, rfl⟩
      cases hu with
      | base hbase => exact absurd hname (hbase info hmem)
      | payload hmem' hname' hresolves =>
        have hi' := get?_eq_some_iff.mpr ⟨hmem', hname'⟩
        obtain rfl := Option.some.inj (hi.symm.trans hi')
        rw [if_neg (Bool.eq_false_iff.mp hresolves)]

lemma payable_iff : index.Payable t ↔ ∃ x, index.Throws t x := by
  constructor
  · rintro ⟨info, hmem, hname, hresolves⟩
    exact ⟨⟨t, _, info.faultInfo.getD t⟩, rfl, ⟨info, hmem, hname, rfl, rfl⟩, hresolves⟩
  · rintro ⟨x, -, ⟨info, hmem, hname, hpayload, -⟩, hresolves⟩
    exact ⟨info, hmem, hname, hpayload ▸ hresolves⟩

lemma accepted_iff_extractParam : p.Accepted ↔ ∃ q, extractParam operation p = .ok q := by
  simp [ParamInfo.accepted_iff, extractParam_eq_ok_iff, ParamInfo.describes_iff,
    ParamInfo.directs_iff]

lemma payable_iff_extractThrown :
    index.Payable t ↔ ∃ x, index.extractThrown operation t = .ok x := by
  simp only [extractThrown_eq_ok_iff, payable_iff]

section Parts

variable {params : List ParamInfo} {qs : List Parameter} {throws : List TypeExpr}
  {xs : List Thrown}

lemma extractParams_eq_ok_iff :
    mapAll (extractParam operation) params = .ok qs ↔
      List.Forall₂ ParamInfo.Describes params qs := by
  rw [mapAll_eq_ok_iff_forall₂]
  simp only [extractParam_eq_ok_iff]

lemma extractParams_eq_error_iff :
    mapAll (extractParam operation) params = .error e ↔
      ∃ p, FirstWithout ParamInfo.Accepted params p ∧
        ∃ mode ∈ p.mode?, e = .malformedOperation operation (.unknownMode mode) := by
  rw [mapAll_eq_error_iff]
  simp only [← accepted_iff_extractParam, extractParam_eq_error_iff]
  -- That the first parameter without a direction is not accepted is said twice here.
  refine exists_congr fun p => and_congr_right fun hp => ?_
  simp [hp.not_holds]

lemma params_accepted_iff (operation : String) :
    (∀ p ∈ params, p.Accepted) ↔ ∃ qs, mapAll (extractParam operation) params = .ok qs := by
  rw [exists_mapAll_ok_iff]
  simp only [← accepted_iff_extractParam]

lemma extractThrows_eq_ok_iff :
    mapAll (index.extractThrown operation) (firstOccurrences throws) = .ok xs ↔
      List.Forall₂ index.Throws throws.eraseDups xs := by
  rw [mapAll_eq_ok_iff_forall₂, firstOccurrences_eq_eraseDups]
  simp only [extractThrown_eq_ok_iff]

lemma extractThrows_eq_error_iff :
    mapAll (index.extractThrown operation) (firstOccurrences throws) = .error e ↔
      ∃ t, FirstWithout index.Payable throws t ∧
        ∃ u, index.Unresolved t u ∧ e = .unresolvedType operation u := by
  rw [mapAll_eq_error_iff]
  simp only [← payable_iff_extractThrown, extractThrown_eq_error_iff,
    firstWithout_firstOccurrences_iff]

lemma throws_payable_iff (operation : String) :
    (∀ t ∈ throws, index.Payable t) ↔
      ∃ xs, mapAll (index.extractThrown operation) (firstOccurrences throws) = .ok xs := by
  rw [exists_mapAll_ok_iff]
  simp only [← payable_iff_extractThrown, mem_firstOccurrences]

end Parts

lemma extractOperation_eq_ok_iff : index.extractOperation m = .ok op ↔ index.Normalizes m op := by
  constructor
  · intro h
    obtain ⟨hparams, hthrows, -⟩ := extractOperation_parts h
    simp only [extractOperation, hparams, hthrows] at h
    have hop := (Except.ok.inj h).symm
    exact ⟨congrArg Operation.methodName hop, congrArg Operation.operationName hop,
      extractParams_eq_ok_iff.mp hparams, congrArg Operation.result hop,
      extractThrows_eq_ok_iff.mp hthrows⟩
  · rintro ⟨hname, hoperation, hparams, hresult, hthrows⟩
    obtain ⟨_, _, _, _, _⟩ := op
    dsimp only at hname hoperation hparams hresult hthrows
    subst hname hoperation hresult
    simp only [extractOperation, extractParams_eq_ok_iff.mpr hparams,
      extractThrows_eq_ok_iff.mpr hthrows]
    rfl

lemma extractOperation_eq_error_iff_parts :
    index.extractOperation m = .error e ↔
      mapAll (extractParam m.name) m.params = .error e ∨
        (∃ qs, mapAll (extractParam m.name) m.params = .ok qs) ∧
          mapAll (index.extractThrown m.name) (firstOccurrences m.throws) = .error e := by
  rw [extractOperation]
  cases mapAll (extractParam m.name) m.params with
  | error e' => simp
  | ok qs => cases mapAll (index.extractThrown m.name) (firstOccurrences m.throws) <;> simp

lemma accepts_iff_extractOperation :
    index.Accepts m ↔ ∃ op, index.extractOperation m = .ok op := by
  rw [Accepts, params_accepted_iff m.name, throws_payable_iff m.name]
  simp only [extractParams_eq_ok_iff, extractThrows_eq_ok_iff, extractOperation_eq_ok_iff]
  constructor
  · rintro ⟨⟨qs, hparams⟩, xs, hthrows⟩
    exact ⟨⟨_, _, qs, _, xs⟩, rfl, rfl, hparams, rfl, hthrows⟩
  · rintro ⟨op, h⟩
    exact ⟨⟨_, h.params⟩, _, h.exceptions⟩

lemma extractOperation_eq_error_iff : index.extractOperation m = .error e ↔ index.Refuses m e := by
  rw [extractOperation_eq_error_iff_parts, ← params_accepted_iff, extractParams_eq_error_iff,
    extractThrows_eq_error_iff]
  constructor
  · rintro (⟨p, hp, mode, hmode, rfl⟩ | ⟨haccepted, t, ht, u, hu, rfl⟩)
    · exact .mode hp hmode
    · exact .thrown haccepted ht hu
  · intro h
    cases h with
    | mode hp hmode => exact .inl ⟨_, hp, _, hmode, rfl⟩
    | thrown haccepted ht hu => exact .inr ⟨haccepted, _, ht, _, hu, rfl⟩

lemma extract_eq_ok_iff {info : TypeInfo} (hi : info ∈ index.types) {service : ServiceInterface} :
    index.extract info.name = .ok service ↔ service.name = info.name ∧
      service.targetNamespace = (info.tag? "WebService").bind (·.value? "targetNamespace") ∧
      List.Forall₂ index.Normalizes info.methods service.operations := by
  have hoperations (ops : List Operation) : mapAll index.extractOperation info.methods = .ok ops ↔
      List.Forall₂ index.Normalizes info.methods ops := by
    rw [mapAll_eq_ok_iff_forall₂]
    simp only [extractOperation_eq_ok_iff]
  constructor
  · intro h
    obtain ⟨other, ho, hops, hname, hnamespace⟩ := extract_ok h
    obtain rfl := Option.some.inj ((get?_of_mem hi).symm.trans ho)
    exact ⟨hname, hnamespace, (hoperations _).mp hops⟩
  · rintro ⟨hname, hnamespace, hops⟩
    obtain ⟨_, _, _⟩ := service
    dsimp only at hname hnamespace hops
    subst hname hnamespace
    exact extract_of_mem hi ((hoperations _).mpr hops)

lemma extract_eq_error_iff {info : TypeInfo} (hi : info ∈ index.types) :
    index.extract info.name = .error e ↔
      ∃ m, FirstWithout index.Accepts info.methods m ∧ index.Refuses m e := by
  have hoperations : mapAll index.extractOperation info.methods = .error e ↔
      ∃ m, FirstWithout index.Accepts info.methods m ∧ index.Refuses m e := by
    rw [mapAll_eq_error_iff]
    simp only [← accepts_iff_extractOperation, extractOperation_eq_error_iff]
  rw [← hoperations, extract, get?_of_mem hi]
  dsimp only
  cases mapAll index.extractOperation info.methods <;> simp

lemma exists_extract_ok_iff {info : TypeInfo} (hi : info ∈ index.types) :
    (∃ service, index.extract info.name = .ok service) ↔
      ∀ m ∈ info.methods, index.Accepts m := by
  simp only [accepts_iff_extractOperation, ← exists_mapAll_ok_iff]
  constructor
  · rintro ⟨service, h⟩
    obtain ⟨other, ho, hops, -⟩ := extract_ok h
    obtain rfl := Option.some.inj ((get?_of_mem hi).symm.trans ho)
    exact ⟨_, hops⟩
  · rintro ⟨ops, hops⟩
    exact ⟨_, extract_of_mem hi hops⟩

theorem extract_normalizes_or_refuses (index : Index) (info : TypeInfo)
    (hi : info ∈ index.types) :
    ((∃ service, index.extract info.name = .ok service) ↔ ∀ m ∈ info.methods, index.Accepts m) ∧
      (∀ service, index.extract info.name = .ok service ↔ service.name = info.name ∧
        service.targetNamespace = (info.tag? "WebService").bind (·.value? "targetNamespace") ∧
        List.Forall₂ index.Normalizes info.methods service.operations) ∧
      (∀ e, index.extract info.name = .error e ↔
        ∃ m, FirstWithout index.Accepts info.methods m ∧ index.Refuses m e) ∧
      ∀ (s : Synthesizer) (session : Session) (name : String) (e : SynthesisError),
        s.index = index → index.extract name = .error e →
          s.interfaceOutput session name = (.error e, session) := by
  refine ⟨exists_extract_ok_iff hi, fun service => extract_eq_ok_iff hi,
    fun e => extract_eq_error_iff hi, ?_⟩
  rintro s session name e rfl h
  rw [Synthesizer.interfaceOutput, h]

end Index

namespace Ferry

def modeTag (mode : String) : Tag := (Tag.ofName "WebParam").add "mode" mode

def book : MethodInfo where
  name := "book"
  params := [⟨.named "long", some "crossing", []⟩, ⟨.named "int", none, [modeTag "InOut"]⟩]
  throws := [.named "ferry.Full", .named "ferry.Full"]

def turn : MethodInfo where
  name := "turn"
  params := [⟨.named "int", none, [modeTag ""]⟩, ⟨.named "int", none, [modeTag "sideways"]⟩]
  throws := [.named "ferry.Adrift"]

def timetable : TypeInfo := { name := "ferry.Timetable", methods := [book] }

def bridge : TypeInfo := { name := "ferry.Bridge", methods := [book, turn] }

def index : Index where
  types := [timetable, bridge,
    { name := "ferry.Full", faultInfo := some (.listOf (.named "string")) }]
  built := rfl

def adrift : SynthesisError := .malformedOperation "turn" (.unknownMode "sideways")

theorem extract_normalizes_or_refuses_ferry :
    (∃ service, index.extract "ferry.Timetable" = .ok service ∧
      List.Forall₂ index.Normalizes [book] service.operations) ∧
    (∃ m, FirstWithout index.Accepts [book, turn] m ∧ index.Refuses m adrift) ∧
    ∀ session, (Synthesizer.ofIndex index {}).interfaceOutput session "ferry.Bridge" =
      (.error adrift, session) := by
  have htimetable := Index.extract_normalizes_or_refuses index timetable (by decide)
  have hbridge := Index.extract_normalizes_or_refuses index bridge (by decide)
  have hadrift : index.extract "ferry.Bridge" = .error adrift := by decide
  refine ⟨?_, (hbridge.2.2.1 adrift).mp hadrift, fun session => ?_⟩
  · cases hx : index.extract "ferry.Timetable" with
    | error e => cases hx
    | ok service => exact ⟨service, rfl, ((htimetable.2.1 service).mp hx).2.2⟩
  · exact hbridge.2.2.2 (.ofIndex index {}) session "ferry.Bridge" adrift rfl hadrift

end Ferry

end SoapWrap
