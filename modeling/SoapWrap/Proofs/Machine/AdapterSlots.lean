import SoapWrap.Proofs.Machine.Slots
import SoapWrap.Synthesis.Adapter

/-! The bodies of an adapter keep their slots, whatever its steps are: the counter of the slots stands
above all that are written, and a step reads only slots of its own and, to take a wrapper apart, the
one of the result. -/

namespace SoapWrap.Adapter

open Op (Safe)

variable {wrapper : String} {position slot : Nat} {written : List Nat} {rest : List Op}

lemma lt_succ_of_below (h : ∀ s ∈ written, s < slot) : ∀ s ∈ slot :: written, s < slot + 1 :=
  List.forall_mem_cons.mpr ⟨Nat.lt_succ_self slot, fun s hs => Nat.lt_succ_of_lt (h s hs)⟩

lemma not_mem_of_below (h : ∀ s ∈ written, s < slot) : slot ∉ written :=
  fun hmem => Nat.lt_irrefl slot (h slot hmem)

lemma safe_setterCall {setter : String} (hslot : slot ∈ written) (hrest : Safe 2 written rest) :
    Safe 2 written (setterCall wrapper setter slot :: rest) :=
  Op.safe_slotless rfl rfl (by simp [setterCall]) (by simp [setterCall, Op.operands, hslot]) hrest

lemma safe_pushCall (hresult : 0 ∈ written) (hslot : slot ∈ written) (hrest : Safe 1 written rest) :
    Safe 1 written (pushCall slot :: rest) :=
  Op.safe_slotless rfl rfl (by simp [pushCall]) (by simp [pushCall, Op.operands, hresult, hslot]) hrest

lemma safe_populateOps (steps : List ConstructStep) (hbelow : ∀ s ∈ written, s < slot)
    (hrest : ∀ written, Safe 2 written rest) :
    Safe 2 written (populateOps wrapper position slot steps ++ rest) := by
  induction steps generalizing position slot written with
  | nil => exact hrest written
  | cons step steps ih =>
    have hbelow' := lt_succ_of_below hbelow
    refine Op.safe_slot rfl (by simp [Op.operands]) (not_mem_of_below hbelow) ?_
    cases step with
    | mergeList getter setter =>
      have hagain : Safe 2 ((slot + 1) :: slot :: written)
          (populateOps wrapper (position + 1) (slot + 2) steps ++ rest) :=
        ih (lt_succ_of_below hbelow')
      refine Op.safe_slot rfl (by simp [Op.operands]) (not_mem_of_below hbelow') ?_
      refine Op.safe_branch_iff.mpr ⟨by simp, ?_, ?_⟩
      · exact safe_setterCall (by simp) hagain
      · exact Op.safe_slotless rfl rfl (by simp) (by simp [Op.operands]) hagain
    | passHolder setter | assign setter =>
      exact safe_setterCall List.mem_cons_self (ih hbelow')

lemma safe_decomposeOps (steps : List DecomposeStep) (hbelow : ∀ s ∈ written, s < slot)
    (hresult : 0 ∈ written) (hrest : ∀ written, 0 ∈ written → Safe 1 written rest) :
    Safe 1 written (decomposeOps wrapper slot steps ++ rest) := by
  induction steps generalizing slot written with
  | nil => exact hrest written hresult
  | cons step steps ih =>
    have hbelow' := lt_succ_of_below hbelow
    have hresult' : 0 ∈ slot :: written := List.mem_cons_of_mem slot hresult
    refine Op.safe_slot rfl (by simp [Op.operands]) (not_mem_of_below hbelow) ?_
    cases step with
    | read getter =>
      exact safe_pushCall hresult' List.mem_cons_self (ih hbelow' hresult')
    | unwrapHolder getter =>
      have hresult'' : 0 ∈ (slot + 1) :: slot :: written := List.mem_cons_of_mem _ hresult'
      refine Op.safe_branch_iff.mpr ⟨by simp, ?_, ?_⟩
      · refine safe_pushCall hresult' List.mem_cons_self ?_
        exact ih (fun s hs => Nat.lt_succ_of_lt (hbelow' s hs)) hresult'
      · refine Op.safe_slot rfl (by simp [Op.operands]) (not_mem_of_below hbelow') ?_
        refine safe_pushCall hresult'' List.mem_cons_self ?_
        exact ih (lt_succ_of_below hbelow') hresult''

lemma safe_return {params : Nat} {value : Option Operand}
    (h : ∀ o ∈ value.toList, o.Known params written) : Safe params written [.return value] :=
  Op.safe_return_iff.mpr ⟨h, by rintro _ ⟨⟩⟩

lemma safe_constructorBody (a : Adapter) : Safe 0 [] a.constructorBody := by
  rw [constructorBody]
  split
  · exact safe_return (by simp)
  · refine Op.safe_slot rfl (by simp [Op.operands]) List.not_mem_nil ?_
    exact Op.safe_slotless rfl rfl (by simp) (by simp [Op.operands]) (safe_return (by simp))

lemma safe_constructBody (a : Adapter) : Safe 1 [] a.constructBody := by
  refine Op.safe_slot rfl (by simp [Op.operands]) List.not_mem_nil ?_
  exact Op.safe_slotless rfl rfl (by simp) (by simp [Op.operands]) (safe_return (by simp))

lemma safe_populateBody (a : Adapter) : Safe 2 [] a.populateBody :=
  safe_populateOps a.construct (List.forall_mem_nil _) fun _ => safe_return (by simp)

lemma safe_decomposeBody (a : Adapter) : Safe 1 [] a.decomposeBody := by
  refine Op.safe_slot rfl (by simp [Op.operands]) List.not_mem_nil ?_
  refine safe_decomposeOps a.decompose (by simp) List.mem_cons_self fun written hresult => ?_
  exact safe_return (by simpa using hresult)

lemma safe_body (a : Adapter) : ∀ d ∈ a.typeDef.methods, Safe d.params.length [] d.body := by
  intro d hd
  simp only [typeDef, List.mem_cons, List.not_mem_nil, or_false] at hd
  rcases hd with rfl | rfl | rfl | rfl | rfl
  · exact a.safe_constructorBody
  · exact safe_return (by simp)
  · exact a.safe_constructBody
  · exact a.safe_populateBody
  · exact a.safe_decomposeBody

theorem bodies_keep_slots (a : Adapter) (d : MethodDef) (hd : d ∈ a.typeDef.methods) :
    (∀ path, Op.Path d.body path → KeepsSlots d.params.length path) ∧
    ∀ (m : Machine) (call : Machine.Caller) (this : Value) (args : List Value) (h : Heap),
      args.length = d.params.length →
      (∀ s, m.Visits call { this, params := args } h d.body s →
        ∀ o ∈ s.op.operands, ∃ v, s.frame.eval o = pure v) ∧
      ∀ e k, e.OfOperand → m.steps call { this, params := args } d.body h = .failed e k →
        m.FailsInCall call { this, params := args } h d.body e k := by
  have hsafe := a.safe_body d hd
  refine ⟨fun path hpath => (hsafe path hpath).keepsSlots, fun m call this args h hargs => ?_⟩
  have hframe : Frame.Safe { this, params := args } (d.body ++ []) := by
    rw [List.append_nil, Frame.Safe, hargs]
    exact hsafe
  constructor
  · intro s hs o ho
    exact Frame.exists_eval ((hs.sound hframe).known o ho)
  · intro e k he hfailed
    exact Machine.steps_failed he [] d.body _ h hfailed hframe

end SoapWrap.Adapter

namespace SoapWrap.Tray

def tray : Adapter where
  name := "Tray_Adapter"
  wrapper := "Tray"
  fingerprint := "1:getCups/list,"
  objectFactory := none
  construct := [.mergeList "getCups" "setCups"]
  decompose := [.unwrapHolder "getCups"]

/-- The setter reads a slot that it has not written. -/
def cracked : Machine where
  types := [{
    name := "Tray"
    methods := [.ofInstance "getCups" [] (.named "list") [.return (some (.const .null))],
      .ofInstance "setCups" [.named "list"] .void [.return (some (.local 7))]] }]

def laid : Heap where
  lists := [[.text "cup"]]
  objects := [⟨"Tray", .empty⟩]

def frame : Frame := { this := .null, params := [.object 0, .list 0] }

def populate : MethodDef :=
  .ofInstance "populate" [.named "Tray", .listOf (.named "any")] .void tray.populateBody

theorem tray_fails_in_setter : populate ∈ tray.typeDef.methods ∧ ∃ path s,
    Op.Path populate.body path ∧ path.filterMap Op.slot? = [0, 1] ∧ KeepsSlots 2 path ∧
    cracked.Visits (cracked.call 1) frame laid populate.body s ∧
    .local 1 ∈ s.op.operands ∧ (∃ v, s.frame.eval (.local 1) = pure v) ∧
    cracked.steps (cracked.call 1) frame populate.body laid = .failed (.unsetLocal 7) laid ∧
    cracked.FailsInCall (cracked.call 1) frame laid populate.body (.unsetLocal 7) laid := by
  have hmem : populate ∈ tray.typeDef.methods := by
    rw [Adapter.typeDef]
    exact List.mem_of_getElem? (i := 3) rfl
  obtain ⟨hpaths, hruns⟩ := Adapter.bodies_keep_slots tray populate hmem
  obtain ⟨hvalues, herrors⟩ := hruns cracked (cracked.call 1) .null frame.params laid rfl
  have hpath : ∃ path, Op.Path populate.body path ∧ path.filterMap Op.slot? = [0, 1] :=
    ⟨_, .plain rfl (by simp) (.plain rfl (by simp) (.branch (.inl rfl)
      (.plain rfl (by simp [Adapter.setterCall]) .returned))), rfl⟩
  have hsite : ∃ s, cracked.Visits (cracked.call 1) frame laid populate.body s ∧
      .local 1 ∈ s.op.operands := ⟨_, .later rfl (.later rfl .here), by decide⟩
  have hfailed : cracked.steps (cracked.call 1) frame populate.body laid =
      .failed (.unsetLocal 7) laid := rfl
  obtain ⟨path, hpath, hslots⟩ := hpath
  obtain ⟨s, hsite, hreads⟩ := hsite
  exact ⟨hmem, path, s, hpath, hslots, hpaths path hpath, hsite, hreads, hvalues s hsite _ hreads,
    hfailed, herrors _ _ (.slot 7) hfailed⟩

end SoapWrap.Tray
