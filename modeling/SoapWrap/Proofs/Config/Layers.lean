import SoapWrap.Config.Load
import SoapWrap.Proofs.Dict
import SoapWrap.Proofs.Sequence

/-! The values of a loaded configuration: each key has that of the highest layer that gives it one.
A document gives its leaves, under the keys on the way to them. -/

namespace SoapWrap

def Config.dotted (path : List String) : String := ".".intercalate path

namespace Datum

mutual
def leaves : Datum → List (List String × Datum)
  | .mapping entries => entryLeaves entries
  | leaf => [([], leaf)]
def entryLeaves : List (Datum × Datum) → List (List String × Datum)
  | [] => []
  | (.text name, v) :: rest =>
    v.leaves.map (fun (path, leaf) => (name :: path, leaf)) ++ entryLeaves rest
  | _ :: rest => entryLeaves rest
end

mutual
def namesKeys : Datum → Bool
  | .mapping entries => namesEntries entries
  | _ => true
def namesEntries : List (Datum × Datum) → Bool
  | [] => true
  | (.text name, v) :: rest => name != "" && v.namesKeys && namesEntries rest
  | _ :: _ => false
end

/-- The leaves that a document has under a key, in order; a document that is a leaf has none. -/
def leavesAt (d : Datum) (key : String) : List Datum :=
  (d.leaves.filter fun (path, _) => path ≠ [] ∧ Config.dotted path = key).map (·.2)

/-- The value that a leaf stands for: itself, item by item, unless it is a number beyond 64 bits with
a sign, or has no value of its own and is shown. -/
inductive Stands : Datum → ConfigValue → Prop
  | null : Stands .null .null
  | bool (b : Bool) : Stands (.bool b) (.bool b)
  | int {i : Int} (hi : -0x8000000000000000 ≤ i ∧ i < 0x8000000000000000) : Stands (.int i) (.int i)
  | wide {i : Int} (hi : ¬ (-0x8000000000000000 ≤ i ∧ i < 0x8000000000000000)) :
    Stands (.int i) (.float (Binary64.ofNat i.toNat))
  | float (bits : UInt64) : Stands (.float bits) (.float bits)
  | text (s : String) : Stands (.text s) (.text s)
  | sequence {items : List Datum} {values : List ConfigValue}
    (h : List.Forall₂ Stands items values) : Stands (.sequence items) (.list values)
  | mapping (entries : List (Datum × Datum)) :
    Stands (.mapping entries) (.text (.ofList (shown (.mapping entries))))
  | tagged (tag : String) (d : Datum) :
    Stands (.tagged tag d) (.text (.ofList (shown (.tagged tag d))))

lemma fitsSigned_iff {i : Int} :
    fitsSigned i = true ↔ -0x8000000000000000 ≤ i ∧ i < 0x8000000000000000 := by
  simp [fitsSigned]

mutual
lemma stands_ofDatum : (d : Datum) → d.Stands (.ofDatum d)
  | .null => .null
  | .bool b => .bool b
  | .int i => by
    rw [ConfigValue.ofDatum]
    split
    · next hi => exact .int (fitsSigned_iff.mp hi)
    · next hi => exact .wide (mt fitsSigned_iff.mpr hi)
  | .float bits => .float bits
  | .text s => .text s
  | .sequence items => .sequence (stands_ofData items)
  | .mapping entries => .mapping entries
  | .tagged tag d => .tagged tag d
lemma stands_ofData : (ds : List Datum) → List.Forall₂ Stands ds (ConfigValue.ofData ds)
  | [] => .nil
  | d :: rest => .cons (stands_ofDatum d) (stands_ofData rest)
end

end Datum

inductive FileText.Holds : FileText → Option Datum → Prop
  | absent : Holds .absent none
  | document {s : String} {d : Datum} : Datum.parse s = some d → Holds (.text s) (some d)

namespace Config

def bindsKey (name : String) : Bool :=
  "SOAPGEN_".toList <+: name.toList ∧ name ≠ "SOAPGEN_PROFILE"

def boundKey (name : String) : String :=
  .ofList ((Text.lowerString name).toList.map fun c => if c = '_' then '.' else c)

def boundIn (env : Environment) : List (String × String) :=
  (env.filter fun b => bindsKey b.1).map fun b => (boundKey b.1, b.2)

def lastLeaf? (profileDoc baseDoc : Option Datum) (key : String) : Option Datum :=
  (profileDoc.bind fun d => (d.leavesAt key).getLast?).or
    (baseDoc.bind fun d => (d.leavesAt key).getLast?)

inductive Layered (env : Environment) (profileDoc baseDoc : Option Datum) (key : String) :
    Option ConfigValue → Prop
  | variable {s : String} (hs : (boundIn env).lookup key = some s) :
    Layered env profileDoc baseDoc key (some (.text s))
  | leaf {d : Datum} {v : ConfigValue} (henv : (boundIn env).lookup key = none)
    (hd : lastLeaf? profileDoc baseDoc key = some d) (hv : d.Stands v) :
    Layered env profileDoc baseDoc key (some v)
  | absent (henv : (boundIn env).lookup key = none)
    (hd : lastLeaf? profileDoc baseDoc key = none) : Layered env profileDoc baseDoc key none

structure Stores {σ : Type} (files : FileAccess (StateM σ)) (store : σ) (directory profile : String)
    (profileDoc baseDoc : Option Datum) : Prop where
  base : ∃ file, files.read (joinPath directory "soapgen.yaml") store = (file, store) ∧
    file.Holds baseDoc
  overlay : ∃ file, files.read (joinPath directory ("soapgen-" ++ profile ++ ".yaml")) store =
    (file, store) ∧ file.Holds profileDoc
  noVariables : files.read (joinPath directory ".env") store = (.absent, store)
  noProfileVariables : files.read (joinPath directory (".env." ++ profile)) store = (.absent, store)

section Bindings

variable {key : String} {path : List String} {d : Datum}

/-- A key as the front part of a path, where the empty key stands for none. -/
def frontOf (key : String) : List String := if key = "" then [] else [key]

lemma dotted_childKey (key part : String) (path : List String) :
    dotted (childKey key part :: path) = dotted (frontOf key ++ part :: path) := by
  rw [childKey, frontOf]
  split
  · rfl
  · rw [List.singleton_append, dotted, dotted, String.intercalate_cons_append,
      String.intercalate_cons_cons]

lemma childKey_ne_empty {part : String} (hpart : part ≠ "") (key : String) :
    childKey key part ≠ "" := by
  rw [childKey]
  split
  · exact hpart
  · simp

lemma frontOf_childKey {part : String} (hpart : part ≠ "") (key : String) :
    frontOf (childKey key part) = [childKey key part] :=
  if_neg (childKey_ne_empty hpart key)

def boundBelow (key : String) (leaf : List String × Datum) : String × ConfigValue :=
  (dotted (frontOf key ++ leaf.1), .ofDatum leaf.2)

lemma boundBelow_childKey {part : String} (hpart : part ≠ "") (key : String)
    (leaf : List String × Datum) :
    boundBelow (childKey key part) leaf = boundBelow key (part :: leaf.1, leaf.2) := by
  rw [boundBelow, boundBelow, frontOf_childKey hpart, List.singleton_append, dotted_childKey]

mutual
lemma bindings_eq : (key : String) → (d : Datum) → key ≠ "" → d.namesKeys = true →
    bindings key d = d.leaves.map (boundBelow key)
  | key, .mapping entries, _, hd => by
    rw [bindings, Datum.leaves]
    exact entryBindings_eq key entries hd
  | key, .null, hkey, _ | key, .bool _, hkey, _ | key, .int _, hkey, _ | key, .float _, hkey, _
  | key, .text _, hkey, _ | key, .sequence _, hkey, _ | key, .tagged _ _, hkey, _ => by
    simp [bindings, Datum.leaves, boundBelow, frontOf, dotted, hkey]
lemma entryBindings_eq : (key : String) → (entries : List (Datum × Datum)) →
    Datum.namesEntries entries = true →
    entryBindings key entries = (Datum.entryLeaves entries).map (boundBelow key)
  | key, [], _ => rfl
  | key, (.text name, v) :: rest, h => by
    rw [Datum.namesEntries, Bool.and_eq_true, Bool.and_eq_true, bne_iff_ne] at h
    obtain ⟨⟨hname, hv⟩, hrest⟩ := h
    rw [entryBindings, keyPart, bindings_eq _ v (childKey_ne_empty hname key) hv,
      entryBindings_eq key rest hrest, Datum.entryLeaves, List.map_append, List.map_map]
    congr 1
    exact List.map_congr_left fun leaf _ => boundBelow_childKey hname key leaf
  | key, (.null, _) :: _, h | key, (.bool _, _) :: _, h | key, (.int _, _) :: _, h
  | key, (.float _, _) :: _, h | key, (.sequence _, _) :: _, h | key, (.mapping _, _) :: _, h
  | key, (.tagged _ _, _) :: _, h => by
    cases h
end

lemma path_ne_nil (entries : List (Datum × Datum)) :
    ∀ leaf ∈ Datum.entryLeaves entries, leaf.1 ≠ [] := by
  induction entries with
  | nil => exact List.forall_mem_nil _
  | cons entry rest ih =>
    obtain ⟨k, v⟩ := entry
    cases k with
    | text name =>
      rw [Datum.entryLeaves, List.forall_mem_append]
      exact ⟨List.forall_mem_map.mpr fun _ _ => List.cons_ne_nil _ _, ih⟩
    | null | bool | int | float | sequence | mapping | tagged => exact ih

lemma bindings_top (hd : d.namesKeys = true) :
    bindings "" d = (d.leaves.filter fun leaf => leaf.1 ≠ []).map (boundBelow "") := by
  cases d with
  | mapping entries =>
    rw [bindings, Datum.leaves, entryBindings_eq "" entries hd, List.filter_eq_self.mpr]
    simpa using path_ne_nil entries
  | null | bool | int | float | text | sequence | tagged => simp [bindings, Datum.leaves]

lemma bindings_filter (hd : d.namesKeys = true) (key : String) :
    ((bindings "" d).filter fun b => b.1 = key).map (·.2) = (d.leavesAt key).map .ofDatum := by
  rw [bindings_top hd, List.filter_map, List.filter_filter, List.map_map, Datum.leavesAt,
    List.map_map]
  congr 1
  refine List.filter_congr fun leaf _ => ?_
  simp [boundBelow, frontOf, Bool.and_comm]

end Bindings

section Insertions

variable {key : String} {bs : List (String × ConfigValue)} {values : Dict ConfigValue}

lemma get?_insertAll (values : Dict ConfigValue) (bs : List (String × ConfigValue)) (key : String) :
    (insertAll values bs).get? key =
      ((bs.filter fun b => b.1 = key).map (·.2)).getLast?.or (values.get? key) := by
  induction bs generalizing values with
  | nil => rfl
  | cons b rest ih =>
    have hstep : insertAll values (b :: rest) = insertAll (values.insert b.1 b.2) rest := rfl
    rw [hstep, ih]
    by_cases hb : b.1 = key
    · rw [List.filter_cons_of_pos (by simpa using hb), List.map_cons, List.getLast?_cons, ← hb,
        Dict.get?_insert_self]
      cases ((rest.filter fun c => c.1 = b.1).map (·.2)).getLast? <;> rfl
    · rw [List.filter_cons_of_neg (by simpa using hb), Dict.get?_insert_of_ne _ (Ne.symm hb)]

lemma lookup_map_snd {α β : Type} (f : α → β) (bs : List (String × α)) (key : String) :
    (bs.map fun b => (b.1, f b.2)).lookup key = (bs.lookup key).map f := by
  induction bs with
  | nil => rfl
  | cons b rest ih =>
    rw [List.map_cons, lookup_cons_eq_ite, lookup_cons_eq_ite, ih]
    split <;> rfl

lemma getLast?_filter_eq_lookup (h : (bs.map (·.1)).Nodup) (key : String) :
    ((bs.filter fun b => b.1 = key).map (·.2)).getLast? = bs.lookup key := by
  induction bs with
  | nil => rfl
  | cons b rest ih =>
    rw [List.map_cons, List.nodup_cons] at h
    rw [lookup_cons_eq_ite]
    by_cases hb : b.1 = key
    · have hrest : rest.filter (fun c => c.1 = key) = [] := by
        refine List.filter_eq_nil_iff.mpr fun c hc hk => h.1 ?_
        rw [hb, ← of_decide_eq_true hk]
        exact List.mem_map_of_mem hc
      rw [List.filter_cons_of_pos (by simpa using hb), hrest, if_pos hb.symm]
      rfl
    · rw [List.filter_cons_of_neg (by simpa using hb), ih h.2, if_neg (Ne.symm hb)]

end Insertions

section Load

variable {σ : Type} {files : FileAccess (StateM σ)} {store : σ} {env : Environment}
  {directory : String} {asked : Option String} {profileDoc baseDoc : Option Datum}

lemma overlayFile_of_holds {file : FileText} {doc : Option Datum} (hfile : file.Holds doc)
    (hdoc : ∀ d ∈ doc, d.namesKeys = true) (values : Dict ConfigValue) :
    ∃ values', overlayFile values file = .ok values' ∧
      ∀ key, values'.get? key =
        ((doc.bind fun d => (d.leavesAt key).getLast?).map .ofDatum).or (values.get? key) := by
  cases hfile with
  | absent => exact ⟨values, rfl, fun key => rfl⟩
  | document hparse =>
    refine ⟨_, by rw [overlayFile, overlay, hparse], fun key => ?_⟩
    rw [get?_insertAll, bindings_filter (hdoc _ rfl), List.getLast?_map]
    rfl

lemma bind_of_eq {α β : Type} {x : StateM σ α} {f : α → StateM σ β} {a : α}
    (h : x store = (a, store)) : (x >>= f) store = f a store := by
  change (fun p : α × σ => f p.1 p.2) (x store) = f a store
  rw [h]

lemma load_eq (layers : Layers)
    (hbase : files.read (joinPath directory "soapgen.yaml") store = (layers.base, store))
    (hprofile : files.read
      (joinPath directory ("soapgen-" ++ activeProfile env asked ++ ".yaml")) store =
        (layers.profile, store))
    (hvariables : files.read (joinPath directory ".env") store = (layers.baseVariables, store))
    (hprofileVariables : files.read
      (joinPath directory (".env." ++ activeProfile env asked)) store =
        (layers.profileVariables, store)) :
    load files env directory asked store =
      (ofLayers layers env (activeProfile env asked), store) := by
  rw [load, bind_of_eq hbase, bind_of_eq hprofile, bind_of_eq hvariables,
    bind_of_eq hprofileVariables]
  rfl

lemma variableKey?_eq (name : String) :
    variableKey? name = if bindsKey name then some (boundKey name) else none := by
  simp only [variableKey?, bindsKey, boundKey, Text.lowerString, String.toList_ofList,
    List.isPrefixOf_iff_prefix, decide_eq_true_eq, variablePrefix, profileVariable]

lemma variableBindings_eq (env : Environment) :
    variableBindings env = (boundIn env).map fun b => (b.1, .text b.2) := by
  induction env with
  | nil => rfl
  | cons b rest ih =>
    obtain ⟨name, value⟩ := b
    simp only [variableBindings, boundIn, variableKey?_eq] at ih ⊢
    rw [List.filterMap_cons, List.filter_cons, ih]
    cases bindsKey name <;> rfl

lemma load_layered
    (hfiles : Stores files store directory (activeProfile env asked) profileDoc baseDoc)
    (hprofile : ∀ d ∈ profileDoc, d.namesKeys = true) (hbase : ∀ d ∈ baseDoc, d.namesKeys = true)
    (henv : ((boundIn env).map (·.1)).Nodup) :
    ∃ c, load files env directory asked store = (.ok c, store) ∧
      ∀ key, Layered env profileDoc baseDoc key (c.values.get? key) := by
  obtain ⟨file, hread, hholds⟩ := hfiles.base
  obtain ⟨file', hread', hholds'⟩ := hfiles.overlay
  obtain ⟨low, hlow, hlows⟩ := overlayFile_of_holds hholds hbase .empty
  obtain ⟨high, hhigh, hhighs⟩ := overlayFile_of_holds hholds' hprofile low
  refine ⟨⟨insertAll high (variableBindings env), activeProfile env asked⟩, ?_, fun key => ?_⟩
  · rw [load_eq ⟨file, file', .absent, .absent⟩ hread hread' hfiles.noVariables
      hfiles.noProfileVariables]
    simp only [ofLayers, hlow, hhigh, bind, Except.bind, pure, Except.pure, addVariables]
  · have hdoc : high.get? key = (lastLeaf? profileDoc baseDoc key).map .ofDatum := by
      rw [hhighs, hlows, Dict.get?_empty, Option.or_none, lastLeaf?, Option.map_or]
    have hbound : ((variableBindings env).map (·.1)).Nodup := by
      rwa [variableBindings_eq, List.map_map]
    rw [get?_insertAll, getLast?_filter_eq_lookup hbound, variableBindings_eq, lookup_map_snd, hdoc]
    cases hvariable : (boundIn env).lookup key with
    | some s => exact .variable hvariable
    | none =>
      cases hleaf : lastLeaf? profileDoc baseDoc key with
      | some d => exact .leaf hvariable hleaf d.stands_ofDatum
      | none => exact .absent hvariable hleaf

end Load

end Config

end SoapWrap
