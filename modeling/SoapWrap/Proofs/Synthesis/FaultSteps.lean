import SoapWrap.Proofs.Session.InterfaceNames

/-! The faults of an interface are those of all its declared exceptions in order, as if one
operation had declared them. On a new session the order of the exceptions decides only the order of
the faults, as long as exceptions of one fault name have one payload type. -/

namespace SoapWrap

lemma Text.qualify_inj {package a b : String} : qualify package a = qualify package b ↔ a = b := by
  rw [qualify, qualify]
  split
  · rfl
  · exact String.append_right_inj _

def Thrown.Agree (settings : Settings) (ts : List Thrown) : Prop :=
  ∀ t ∈ ts, ∀ u ∈ ts, t.resolvedName settings = u.resolvedName settings →
    t.payloadType = u.payloadType

instance (settings : Settings) (ts : List Thrown) : Decidable (Thrown.Agree settings ts) :=
  inferInstanceAs (Decidable (∀ t ∈ ts, ∀ u ∈ ts,
    t.resolvedName settings = u.resolvedName settings → t.payloadType = u.payloadType))

namespace Fault

variable {package : String} {settings : Settings} {faults : FaultRegistry} {ts us : List Thrown}

variable (ts us) in
lemma ofExceptions_append :
    ofExceptions package settings faults (ts ++ us) =
      ((ofExceptions package settings faults ts).1 ++
        (ofExceptions package settings (ofExceptions package settings faults ts).2 us).1,
        (ofExceptions package settings (ofExceptions package settings faults ts).2 us).2) := by
  induction ts generalizing faults with
  | nil => rfl
  | cons t rest ih =>
    simp only [List.cons_append, ofExceptions, ih]
    cases (faults.claim (t.resolvedName settings)).1 <;> rfl

lemma mem_ofExceptions {f : Fault}
    (h : f ∈ (ofExceptions package settings faults ts).1) :
    ∃ t ∈ ts, f = ofThrown package settings t := by
  induction ts generalizing faults with
  | nil => exact absurd h List.not_mem_nil
  | cons t rest ih =>
    simp only [ofExceptions] at h
    split at h
    · rcases List.mem_cons.mp h with rfl | h
      · exact ⟨t, List.mem_cons_self, rfl⟩
      · obtain ⟨u, hu, rfl⟩ := ih h
        exact ⟨u, List.mem_cons_of_mem t hu, rfl⟩
    · obtain ⟨u, hu, rfl⟩ := ih h
      exact ⟨u, List.mem_cons_of_mem t hu, rfl⟩

lemma typeDef_ofThrown {t u : Thrown} (hn : t.resolvedName settings = u.resolvedName settings)
    (hp : t.payloadType = u.payloadType) :
    (ofThrown package settings t).typeDef = (ofThrown package settings u).typeDef := by
  simp only [typeDef, ofThrown, hn, hp]

lemma exists_ofExceptions {t : Thrown} (ht : t ∈ ts)
    (hn : t.resolvedName settings ∉ faults.claimed) :
    ∃ u ∈ ts, u.resolvedName settings = t.resolvedName settings ∧
      ofThrown package settings u ∈ (ofExceptions package settings faults ts).1 := by
  induction ts generalizing faults with
  | nil => exact absurd ht List.not_mem_nil
  | cons u rest ih =>
    -- The first exception of the name claims it; any other first one leaves it free for the rest.
    by_cases he : u.resolvedName settings = t.resolvedName settings
    · refine ⟨u, List.mem_cons_self, he, ?_⟩
      simp [ofExceptions, FaultRegistry.claim, FaultRegistry.contains, he, hn]
    · have ht : t ∈ rest := by
        rcases List.mem_cons.mp ht with rfl | ht
        · exact absurd rfl he
        · exact ht
      have hn : t.resolvedName settings ∉ (faults.claim (u.resolvedName settings)).2.claimed := by
        rw [FaultRegistry.claim]
        split
        · exact hn
        · exact List.not_mem_cons_of_ne_of_not_mem (Ne.symm he) hn
      obtain ⟨v, hv, hvt, hmem⟩ := ih ht hn
      refine ⟨v, List.mem_cons_of_mem u hv, hvt, ?_⟩
      simp only [ofExceptions]
      split
      · exact List.mem_cons_of_mem _ hmem
      · exact hmem

lemma ofExceptions_nodup :
    ((ofExceptions package settings {} ts).1.map (·.typeDef)).Nodup := by
  have hnames := (ofExceptions_handsOut package settings ts {}).distinct
  apply List.Nodup.of_map (f := fun d : TypeDef => d.name)
  have hmap : ((ofExceptions package settings {} ts).1.map (·.typeDef)).map (·.name) =
      ((ofExceptions package settings {} ts).1.map (·.faultName)).map (Text.qualify package) := by
    rw [List.map_map, List.map_map]
    refine List.map_congr_left fun f hf => ?_
    obtain ⟨t, -, rfl⟩ := mem_ofExceptions hf
    rfl
  rw [hmap]
  exact hnames.map fun _ _ => Text.qualify_inj.mp

lemma mem_typeDefs_ofExceptions (ha : Thrown.Agree settings ts) {d : TypeDef} :
    d ∈ (ofExceptions package settings {} ts).1.map (·.typeDef) ↔
      ∃ t ∈ ts, (ofThrown package settings t).typeDef = d := by
  rw [List.mem_map]
  constructor
  · rintro ⟨f, hf, rfl⟩
    obtain ⟨t, ht, rfl⟩ := mem_ofExceptions hf
    exact ⟨t, ht, rfl⟩
  · rintro ⟨t, ht, rfl⟩
    have hfree : t.resolvedName settings ∉ ({} : FaultRegistry).claimed := List.not_mem_nil
    obtain ⟨u, hu, hn, hmem⟩ := exists_ofExceptions ht hfree
    exact ⟨_, hmem, typeDef_ofThrown hn (ha u hu t ht hn)⟩

lemma ofExceptions_perm (ha : Thrown.Agree settings ts) (hp : ts.Perm us) :
    ((ofExceptions package settings {} ts).1.map (·.typeDef)).Perm
      ((ofExceptions package settings {} us).1.map (·.typeDef)) := by
  have ha' : Thrown.Agree settings us :=
    fun t ht u hu => ha t (hp.mem_iff.mpr ht) u (hp.mem_iff.mpr hu)
  rw [List.perm_ext_iff_of_nodup ofExceptions_nodup ofExceptions_nodup]
  intro d
  rw [mem_typeDefs_ofExceptions ha, mem_typeDefs_ofExceptions ha']
  simp only [hp.mem_iff]

end Fault

namespace Synthesizer

variable {s : Synthesizer} {scope : Scope} {op : Operation} {session session' : Session}

lemma contribute_faults {c : Contribution} (h : s.contribute scope session op = (.ok c, session')) :
    (c.faults, session'.faults) =
      Fault.ofExceptions scope.package s.settings session.faults op.exceptions := by
  refine Prod.ext ?_ (contribute_frame h).2
  cases contributes h with
  | skipped => rfl
  | made => rfl

lemma contributeAll_faults {ops : List Operation} {cs : List (String × Contribution)}
    (h : s.contributeAll scope session ops = (.ok cs, session')) :
    (cs.flatMap (·.2.faults), session'.faults) =
      Fault.ofExceptions scope.package s.settings session.faults (ops.flatMap (·.exceptions)) := by
  induction ops generalizing session cs with
  | nil =>
    obtain ⟨rfl, rfl⟩ := contributeAll_nil_ok h
    rfl
  | cons op rest ih =>
    obtain ⟨c, between, cs', ho, hr, rfl⟩ := contributeAll_cons_ok h
    rw [List.flatMap_cons, List.flatMap_cons, Fault.ofExceptions_append, ← contribute_faults ho,
      ← ih hr]

lemma markPackage_faults (package xmlNamespace : String) :
    (markPackage session package xmlNamespace).2.faults = session.faults := by
  rw [markPackage]
  split <;> rfl

lemma interfaceOutput_faults {name : String} {o : InterfaceOutput}
    (h : s.interfaceOutput session name = (.ok o, session')) :
    ∃ service, s.index.extract name = .ok service ∧
      o.faults = (Fault.ofExceptions o.package s.settings session.faults
        (service.operations.flatMap (·.exceptions))).1 := by
  obtain ⟨service, cs, hx, -, -, -, -, hc, -, hf, -⟩ := interfaceOutput_ok h
  have hs := contributeAll_faults hc
  rw [← hf, markPackage_faults] at hs
  exact ⟨service, hx, congrArg Prod.fst hs⟩

end Synthesizer

namespace Bakery

/-- Its two methods declare exceptions of one fault name, so that the order of the methods decides
which of the two the fault is made for. -/
def service : TypeInfo where
  name := "org.acme.Bakery"
  kind := .interface
  tags := [.ofName TagName.webService]
  methods := [
    { name := "bake", params := [{ declaredType := .listOf (.named "string") }],
      throws := [.named "org.acme.oven.Broken"] },
    { name := "sell", returns := .named "int", throws := [.named "org.acme.till.Broken"] }]

def index : Index where
  types := [
    service,
    { name := "org.acme.oven.Broken", kind := .exception, faultInfo := some (.named "string") },
    { name := "org.acme.till.Broken", kind := .exception, faultInfo := some (.named "string") }]
  built := rfl

def synthesizer : Synthesizer := .ofIndex index {}

def reversed : List MethodInfo := service.methods.reverse

end Bakery

end SoapWrap
