import SoapWrap.Proofs.Config.Layers
import SoapWrap.Proofs.Text.LowerCase

/-! The settings of a configuration are read key by key, and the first key whose value is of the
wrong kind is reported. -/

namespace SoapWrap

def Settings.keys : List (String × Expected) := [
  ("soapgen.package.suffix", .text), ("soapgen.request.suffix", .text),
  ("soapgen.response.suffix", .text), ("soapgen.adapter.suffix", .text),
  ("soapgen.factory.suffix", .text), ("soapgen.fault.suffix", .text),
  ("soapgen.companion.name", .text), ("soapgen.classification.strict", .bool)]

def truthWords : List String := ["true", "1", "yes", "false", "0", "no"]

inductive Expected.Accepts : Expected → Option ConfigValue → Prop
  | absent {e : Expected} : Accepts e none
  | text {v : ConfigValue} : (∀ items, v ≠ .list items) → Accepts .text (some v)
  | bool {b : Bool} : Accepts .bool (some (.bool b))
  | word {s w : String} : w ∈ truthWords → Text.eqIgnoreAsciiCase s w = true →
      Accepts .bool (some (.text s))

inductive TextOf (default : String) : Option ConfigValue → String → Prop
  | absent : TextOf default none default
  | text (s : String) : TextOf default (some (.text s)) s
  | int (i : Int) : TextOf default (some (.int i)) (toString i)
  | float (bits : UInt64) : TextOf default (some (.float bits)) (.ofList (Binary64.plainText bits))
  | bool (b : Bool) : TextOf default (some (.bool b)) (if b then "true" else "false")
  | null : TextOf default (some .null) ""

inductive TruthOf : Option ConfigValue → Bool → Prop
  | absent : TruthOf none false
  | bool (b : Bool) : TruthOf (some (.bool b)) b
  | yes {s w : String} (hw : w ∈ ["true", "1", "yes"]) (h : Text.eqIgnoreAsciiCase s w = true) :
    TruthOf (some (.text s)) true
  | no {s w : String} (hw : w ∈ ["false", "0", "no"]) (h : Text.eqIgnoreAsciiCase s w = true) :
    TruthOf (some (.text s)) false

structure Settings.ReadFrom (value : String → Option ConfigValue) (s : Settings) : Prop where
  packageSuffix : TextOf "jaxws_asm" (value "soapgen.package.suffix") s.packageSuffix
  requestSuffix : TextOf "" (value "soapgen.request.suffix") s.requestSuffix
  responseSuffix : TextOf "Response" (value "soapgen.response.suffix") s.responseSuffix
  adapterSuffix : TextOf "_Adapter" (value "soapgen.adapter.suffix") s.adapterSuffix
  factorySuffix : TextOf "Factory" (value "soapgen.factory.suffix") s.factorySuffix
  faultSuffix : TextOf "_Exception" (value "soapgen.fault.suffix") s.faultSuffix
  companionName : TextOf "ObjectFactory" (value "soapgen.companion.name") s.companionName
  strict : TruthOf (value "soapgen.classification.strict") s.strict

inductive Settles {α : Type} (value : String → Option ConfigValue) (keys : List (String × Expected))
    (P : α → Prop) : Except ConfigError α → Prop
  | ok {a : α} : (∀ k ∈ keys, k.2.Accepts (value k.1)) → P a → Settles value keys P (.ok a)
  | error {k : String × Expected} : FirstWithout (fun k => k.2.Accepts (value k.1)) keys k →
      Settles value keys P (.error (.typeMismatch k.1 k.2))

namespace Settles

variable {α β : Type} {value : String → Option ConfigValue} {keys : List (String × Expected)}
  {k : String × Expected} {P : α → Prop} {Q : β → Prop} {r : Except ConfigError α}

lemma exists_ok_iff (h : Settles value keys P r) :
    (∃ a, r = .ok a) ↔ ∀ k ∈ keys, k.2.Accepts (value k.1) := by
  cases h with
  | ok hall => simpa using hall
  | error hk => simpa using ⟨_, _, hk.mem, hk.not_holds⟩

lemma of_ok {a : α} (h : Settles value keys P r) (hr : r = .ok a) : P a := by
  cases h with
  | ok _ ha => exact Except.ok.inj hr ▸ ha
  | error => cases hr

lemma eq_error_iff (h : Settles value keys P r) (e : ConfigError) :
    r = .error e ↔ ∃ k, FirstWithout (fun k => k.2.Accepts (value k.1)) keys k ∧
      e = .typeMismatch k.1 k.2 := by
  cases h with
  | ok hall =>
    constructor
    · intro h
      cases h
    · rintro ⟨k, hk, -⟩
      exact absurd (hall k hk.mem) hk.not_holds
  | error hk =>
    constructor
    · intro he
      exact ⟨_, hk, (Except.error.inj he).symm⟩
    · rintro ⟨k', hk', rfl⟩
      rw [hk.unique hk']

lemma bind {read : Except ConfigError α} {next : α → Except ConfigError β}
    (hread : Settles value [k] P read) (hnext : ∀ a, P a → Settles value keys Q (next a)) :
    Settles value (k :: keys) Q (read >>= next) := by
  cases hread with
  | @ok a hk ha =>
    have hk : k.2.Accepts (value k.1) := hk k List.mem_cons_self
    change Settles value (k :: keys) Q (next a)
    have hrest := hnext a ha
    generalize next a = r at hrest ⊢
    cases hrest with
    | ok hall hb => exact .ok (List.forall_mem_cons.mpr ⟨hk, hall⟩) hb
    | error hfirst => exact .error (.later hk hfirst)
  | error hfirst =>
    obtain rfl := List.mem_singleton.mp hfirst.mem
    exact .error (.here hfirst.not_holds)

lemma map {f : α → β} (h : Settles value keys (fun a => Q (f a)) r) :
    Settles value keys Q (r.map f) := by
  cases h with
  | ok hall ha => exact .ok hall ha
  | error hk => exact .error hk

end Settles

lemma ConfigValue.truth?_eq_none_iff {s : String} :
    truth? s = none ↔ Text.lowerString s ∉ truthWords := by
  rw [truth?]
  simp only [truthWords, List.mem_cons, List.not_mem_nil, or_false]
  split_ifs <;> grind

lemma lowerString_eq_truthWord_iff {s w : String} (hw : w ∈ truthWords) :
    Text.lowerString s = w ↔ Text.eqIgnoreAsciiCase s w = true := by
  have hfirm : (w.toList.all fun d => Text.Firm d) = true ∧ Text.asciiLowerString w = w := by
    revert w
    decide
  exact Text.lowerString_eq_iff
    (fun d hd => of_decide_eq_true (List.all_eq_true.mp hfirm.1 d hd)) hfirm.2

lemma lowerString_mem_truthWords_iff {s : String} :
    Text.lowerString s ∈ truthWords ↔ ∃ w ∈ truthWords, Text.eqIgnoreAsciiCase s w = true := by
  constructor
  · intro h
    exact ⟨_, h, (lowerString_eq_truthWord_iff h).mp rfl⟩
  · rintro ⟨w, hw, h⟩
    rwa [(lowerString_eq_truthWord_iff hw).mpr h]

lemma Expected.accepts_text_iff {s : String} :
    bool.Accepts (some (.text s)) ↔ ConfigValue.truth? s ≠ none := by
  rw [Ne, ConfigValue.truth?_eq_none_iff, not_not, lowerString_mem_truthWords_iff]
  constructor
  · intro h
    cases h with
    | word hw hs => exact ⟨_, hw, hs⟩
  · rintro ⟨w, hw, hs⟩
    exact .word hw hs

lemma Datum.ofList_intText (i : Int) : String.ofList (intText i) = toString i := by
  cases i with
  | ofNat n => rfl
  | negSucc n =>
    rw [intText, if_pos (Int.negSucc_lt_zero n), Int.natAbs_negSucc]
    change String.ofList (['-'] ++ Nat.toDigits 10 (n + 1)) = _
    rw [String.ofList_append]
    rfl

namespace ConfigValue

variable {key : String} {v : ConfigValue}

lemma textOf_readText {s : String} (h : readText v key = .ok s) (default : String) :
    Expected.text.Accepts (some v) ∧ TextOf default (some v) s := by
  cases v with
  | text s =>
    cases h
    exact ⟨.text (by rintro _ ⟨⟩), .text s⟩
  | int i =>
    cases h
    exact ⟨.text (by rintro _ ⟨⟩), Datum.ofList_intText i ▸ .int i⟩
  | float bits =>
    cases h
    exact ⟨.text (by rintro _ ⟨⟩), .float bits⟩
  | bool b =>
    cases h
    refine ⟨.text (by rintro _ ⟨⟩), ?_⟩
    cases b <;> exact .bool _
  | null =>
    cases h
    exact ⟨.text (by rintro _ ⟨⟩), .null⟩
  | list => cases h

lemma readText_eq_error {e : ConfigError} (h : readText v key = .error e) :
    e = .typeMismatch key .text ∧ ¬ Expected.text.Accepts (some v) := by
  cases v with
  | list items =>
    refine ⟨(Except.error.inj h).symm, ?_⟩
    intro haccepts
    cases haccepts with
    | text hlist => exact hlist items rfl
  | text | int | float | bool | null => cases h

lemma truthOf_of_truth? {s : String} {b : Bool} (h : truth? s = some b) :
    TruthOf (some (.text s)) b := by
  rw [truth?] at h
  split at h
  · next hyes =>
    cases h
    have hw : Text.lowerString s ∈ ["true", "1", "yes"] := by simpa using hyes
    have hmem : Text.lowerString s ∈ truthWords := List.mem_append_left ["false", "0", "no"] hw
    exact .yes hw ((lowerString_eq_truthWord_iff hmem).mp rfl)
  · split at h
    · next hno =>
      cases h
      have hw : Text.lowerString s ∈ ["false", "0", "no"] := by simpa using hno
      have hmem : Text.lowerString s ∈ truthWords := List.mem_append_right ["true", "1", "yes"] hw
      exact .no hw ((lowerString_eq_truthWord_iff hmem).mp rfl)
    · cases h

lemma truthOf_readBool {b : Bool} (h : readBool v key = .ok b) :
    Expected.bool.Accepts (some v) ∧ TruthOf (some v) b := by
  cases v with
  | bool b =>
    cases h
    exact ⟨.bool, .bool b⟩
  | text s =>
    rw [readBool] at h
    split at h
    · next b htruth =>
      cases h
      refine ⟨Expected.accepts_text_iff.mpr ?_, truthOf_of_truth? htruth⟩
      rw [htruth]
      exact Option.some_ne_none b
    · cases h
  | int | float | null | list => cases h

lemma readBool_eq_error {e : ConfigError} (h : readBool v key = .error e) :
    e = .typeMismatch key .bool ∧ ¬ Expected.bool.Accepts (some v) := by
  cases v with
  | bool b => cases h
  | text s =>
    rw [Expected.accepts_text_iff, not_not]
    rw [readBool] at h
    split at h
    · cases h
    · next hnone => exact ⟨(Except.error.inj h).symm, hnone⟩
  | int | float | null | list =>
    refine ⟨(Except.error.inj h).symm, ?_⟩
    rintro ⟨⟩

end ConfigValue

namespace Config

variable {α : Type} {c : Config} {key : String}

lemma get?_settles {read : ConfigValue.Reading α} {e : Expected}
    {P : Option ConfigValue → Option α → Prop} (habsent : P none none)
    (hok : ∀ v a, read v key = .ok a → e.Accepts (some v) ∧ P (some v) (some a))
    (herror : ∀ v e', read v key = .error e' → e' = .typeMismatch key e ∧ ¬ e.Accepts (some v)) :
    Settles c.values.get? [(key, e)] (P (c.values.get? key)) (c.get? read key) := by
  rw [get?, get]
  cases hv : c.values.get? key with
  | none =>
    refine .ok (List.forall_mem_singleton.mpr ?_) habsent
    rw [hv]
    exact .absent
  | some v =>
    dsimp only
    cases hread : read v key with
    | ok a =>
      refine .ok (List.forall_mem_singleton.mpr ?_) (hok v a hread).2
      rw [hv]
      exact (hok v a hread).1
    | error e' =>
      obtain ⟨rfl, hnot⟩ := herror v e' hread
      rw [← hv] at hnot
      exact .error (k := (key, e)) (.here hnot)

variable (c) in
lemma getText_settles (key default : String) :
    Settles c.values.get? [(key, .text)] (TextOf default (c.values.get? key))
      (c.getText key default) :=
  .map (get?_settles (P := fun v s => TextOf default v (s.getD default)) .absent
    (fun _ _ h => ConfigValue.textOf_readText h default) fun _ _ => ConfigValue.readText_eq_error)

variable (c) in
lemma get?_readBool_settles (key : String) :
    Settles c.values.get? [(key, .bool)] (fun b => TruthOf (c.values.get? key) (b.getD false))
      (c.get? ConfigValue.readBool key) :=
  get?_settles (P := fun v b => TruthOf v (b.getD false)) .absent
    (fun _ _ => ConfigValue.truthOf_readBool) fun _ _ => ConfigValue.readBool_eq_error

end Config

lemma Settings.ofConfig_settles (c : Config) :
    Settles c.values.get? keys (fun s => s.ReadFrom c.values.get?) (ofConfig c) := by
  refine .bind (c.getText_settles _ _) fun _ hpackage => ?_
  refine .bind (c.getText_settles _ _) fun _ hrequest => ?_
  refine .bind (c.getText_settles _ _) fun _ hresponse => ?_
  refine .bind (c.getText_settles _ _) fun _ hadapter => ?_
  refine .bind (c.getText_settles _ _) fun _ hfactory => ?_
  refine .bind (c.getText_settles _ _) fun _ hfault => ?_
  refine .bind (c.getText_settles _ _) fun _ hcompanion => ?_
  refine .bind (c.get?_readBool_settles _) fun _ hstrict => ?_
  exact .ok (List.forall_mem_nil _)
    ⟨hpackage, hrequest, hresponse, hadapter, hfactory, hfault, hcompanion, hstrict⟩

namespace Config

theorem load_is_layered {σ : Type} {files : FileAccess (StateM σ)} {store : σ} {env : Environment}
    {directory : String} {asked : Option String} {profileDoc baseDoc : Option Datum}
    (hfiles : Stores files store directory (activeProfile env asked) profileDoc baseDoc)
    (hprofile : ∀ d ∈ profileDoc, d.namesKeys = true) (hbase : ∀ d ∈ baseDoc, d.namesKeys = true)
    (henv : ((boundIn env).map (·.1)).Nodup) :
    ∃ c, load files env directory asked store = (.ok c, store) ∧
      (∀ key, Layered env profileDoc baseDoc key (c.values.get? key)) ∧
      ((∃ s, Settings.ofConfig c = .ok s) ↔
        ∀ k ∈ Settings.keys, k.2.Accepts (c.values.get? k.1)) ∧
      (∀ s, Settings.ofConfig c = .ok s → s.ReadFrom c.values.get?) ∧
      ∀ e, Settings.ofConfig c = .error e ↔
        ∃ k, FirstWithout (fun k => k.2.Accepts (c.values.get? k.1)) Settings.keys k ∧
          e = .typeMismatch k.1 k.2 := by
  obtain ⟨c, hload, hvalues⟩ := load_layered hfiles hprofile hbase henv
  have hsettles := Settings.ofConfig_settles c
  exact ⟨c, hload, hvalues, hsettles.exists_ok_iff, fun _ => hsettles.of_ok,
    hsettles.eq_error_iff⟩

end Config

/-! The document of a profile spells a key in another way than the base document, and the two give
leaves of every kind. -/

namespace Nightly

def baseText : String := "soapgen:\n  package.suffix: base\n  factory:\n    suffix: 7\n" ++
  "  response: \x7bsuffix: ~\x7d\n  aliases: [plain, 7, true, ~, !kind tagged]\n" ++
  "  classification:\n    strict: Yes\n"

def profileText : String := "soapgen:\n  package:\n    suffix: true\n"

def files : FileAccess (StateM (List (String × String))) where
  read path := fun store => ((store.lookup path).elim .absent .text, store)
  makeDirectory _ := pure true
  write path text := fun store => (true, (path, text) :: store)

def store : List (String × String) :=
  [("conf/soapgen.yaml", baseText), ("conf/soapgen-ci.yaml", profileText)]

def env : Environment := [("SOAPGEN_FAULT_SUFFIX", "Trouble"), ("SOAPGEN_PROFILE", "ci")]

def settings : Settings :=
  { packageSuffix := "true", factorySuffix := "7", responseSuffix := "", faultSuffix := "Trouble",
    strict := true }

def aliases : List String :=
  ["plain", "7", "true", "",
    "TaggedValue \x7b tag: !kind, value: String(" ++ "\"tagged\"" ++ ") \x7d"]

def readAliases (c : Config) : Except ConfigError (List String) :=
  c.get (ConfigValue.readList ConfigValue.readText) "soapgen.aliases"

theorem loads : ∃ profileDoc baseDoc c, Datum.parse profileText = some profileDoc ∧
    Datum.parse baseText = some baseDoc ∧
    Config.load files env "conf" none store = (.ok c, store) ∧
    (∀ key, Config.Layered env (some profileDoc) (some baseDoc) key (c.values.get? key)) ∧
    (∀ k ∈ Settings.keys, k.2.Accepts (c.values.get? k.1)) ∧
    Settings.ofConfig c = .ok settings ∧ settings.ReadFrom c.values.get? ∧
    readAliases c = .ok aliases := by
  obtain ⟨profileDoc, hprofile, hprofileNames⟩ :=
    (Option.any_eq_true (·.namesKeys) (Datum.parse profileText)).mp (by decide +kernel)
  obtain ⟨baseDoc, hbase, hbaseNames⟩ :=
    (Option.any_eq_true (·.namesKeys) (Datum.parse baseText)).mp (by decide +kernel)
  have hstores : Config.Stores files store "conf" (Config.activeProfile env none)
      (some profileDoc) (some baseDoc) :=
    { base := ⟨_, rfl, .document hbase⟩
      overlay := ⟨_, rfl, .document hprofile⟩
      noVariables := rfl
      noProfileVariables := rfl }
  obtain ⟨c, hload, hvalues, hok, hread, -⟩ := Config.load_is_layered hstores
    (fun _ hd => Option.some.inj hd ▸ hprofileNames) (fun _ hd => Option.some.inj hd ▸ hbaseNames)
    (by decide +kernel)
  have hreads : (Config.load files env "conf" none store).1.bind Settings.ofConfig = .ok settings ∧
      (Config.load files env "conf" none store).1.bind readAliases = .ok aliases := by
    decide +kernel
  rw [hload] at hreads
  obtain ⟨hsettings, haliases⟩ := hreads
  exact ⟨profileDoc, baseDoc, c, hprofile, hbase, hload, hvalues, hok.mp ⟨_, hsettings⟩, hsettings,
    hread _ hsettings, haliases⟩

end Nightly

end SoapWrap
