import Mathlib.Data.List.TakeWhile
import Mathlib.Tactic.Lemma
import SoapWrap.Proofs.Sequence
import SoapWrap.TypeExpr.Parser

/-! The grammar of type expressions: reading a text gives an expression just where the text spells
it and it is nested no deeper than the limit. -/

namespace SoapWrap

namespace Text

def blankCodes : List Nat :=
  List.range' 9 5 ++ List.range' 0x2000 11 ++
    [32, 0x85, 0xA0, 0x1680, 0x2028, 0x2029, 0x202F, 0x205F, 0x3000]

lemma mem_blankCodes {c : Char} (h : isBlank c = true) : c.toNat ∈ blankCodes := by
  simp only [isBlank, Bool.or_eq_true, Bool.and_eq_true, decide_eq_true_eq, beq_iff_eq] at h
  simp only [blankCodes, List.mem_append, List.mem_range'_1, List.mem_cons, List.not_mem_nil,
    or_false]
  omega

lemma isAlnum_eq_false_of_isBlank {c : Char} (h : isBlank c = true) : isAlnum c = false := by
  have hall : ∀ n ∈ blankCodes, isAlnum (Char.ofNat n) = false := by decide +kernel
  have hc := hall _ (mem_blankCodes h)
  rwa [Char.ofNat_toNat] at hc

end Text

namespace TypeExpr

def Blank (s : List Char) : Prop := ∀ c ∈ s, Text.isBlank c = true

def NameChar (c : Char) : Prop := Text.isAlnum c = true ∨ c ∈ ['_', '.', '$', '(', ')']

def IsName (s : List Char) : Prop := s ≠ [] ∧ ∀ c ∈ s, NameChar c

mutual
inductive Spells : List Char → TypeExpr → Prop
  | plain {before name after : List Char} : Blank before → IsName name → Blank after →
      Spells (before ++ name ++ after) ⟨.ofList name, []⟩
  | applied {before name between inner after : List Char} {args : List TypeExpr} :
      Blank before → IsName name → Blank between → SpellsArgs inner args → Blank after →
      Spells (before ++ name ++ between ++ '<' :: inner ++ '>' :: after) ⟨.ofList name, args⟩
inductive SpellsArgs : List Char → List TypeExpr → Prop
  | last {s : List Char} {t : TypeExpr} : Spells s t → SpellsArgs s [t]
  | more {s rest : List Char} {t : TypeExpr} {ts : List TypeExpr} :
      Spells s t → SpellsArgs rest ts → SpellsArgs (s ++ ',' :: rest) (t :: ts)
end

lemma isNameChar_iff {c : Char} : isNameChar c = true ↔ NameChar c := by
  simp [isNameChar, NameChar, or_assoc]

lemma isNameChar_eq_false_of_isBlank {c : Char} (h : Text.isBlank c = true) :
    isNameChar c = false := by
  have hsigns : ['_', '.', '$', '(', ')'].all (!Text.isBlank ·) = true := by decide
  rw [← Bool.not_eq_true, isNameChar_iff]
  rintro (halnum | hsign)
  · rw [Text.isAlnum_eq_false_of_isBlank h] at halnum
    cases halnum
  · have hc := List.all_eq_true.mp hsigns c hsign
    rw [h] at hc
    cases hc

variable {s rest : List Char} {t : TypeExpr} {ts : List TypeExpr} {fuel room : Nat}

lemma Blank.append {a b : List Char} (ha : Blank a) (hb : Blank b) : Blank (a ++ b) :=
  List.forall_mem_append.mpr ⟨ha, hb⟩

lemma Spells.trailing {b : List Char} (h : Spells s t) (hb : Blank b) : Spells (s ++ b) t := by
  cases h with
  | plain hbefore hname hafter =>
    rw [List.append_assoc]
    exact .plain hbefore hname (hafter.append hb)
  | applied hbefore hname hbetween hargs hafter =>
    rw [List.append_assoc, List.cons_append]
    exact .applied hbefore hname hbetween hargs (hafter.append hb)

lemma Spells.leading {b : List Char} (h : Spells s t) (hb : Blank b) : Spells (b ++ s) t := by
  cases h with
  | plain hbefore hname hafter =>
    simp only [← List.append_assoc]
    exact .plain (hb.append hbefore) hname hafter
  | applied hbefore hname hbetween hargs hafter =>
    simp only [← List.append_assoc]
    exact .applied (hb.append hbefore) hname hbetween hargs hafter

lemma eq_append_skipBlanks (s : List Char) : ∃ b, Blank b ∧ s = b ++ skipBlanks s :=
  ⟨s.takeWhile Text.isBlank, fun _ h => List.mem_takeWhile_imp h,
    List.takeWhile_append_dropWhile.symm⟩

def Delimited (s : List Char) : Prop :=
  ∀ c ∈ s.head?, Text.isBlank c = false ∧ isNameChar c = false

def Ends (s : List Char) : Prop := ∀ c ∈ s.head?, c = ',' ∨ c = '>'

lemma Ends.delimited (h : Ends s) : Delimited s := by
  intro c hc
  rcases h c hc with rfl | rfl <;> decide

lemma Ends.head_ne_bracket (h : Ends s) : s.head? ≠ some '<' := by
  intro hs
  rcases h '<' hs with hc | hc <;> cases hc

lemma delimited_bracket (s : List Char) : Delimited ('<' :: s) := by
  intro c hc
  obtain rfl := Option.some.inj hc
  decide

lemma ends_of_head {c : Char} (h : c = ',' ∨ c = '>') : Ends (c :: s) :=
  fun _ hc => Option.some.inj hc ▸ h

lemma Delimited.skipBlanks (h : Delimited s) : skipBlanks s = s :=
  (scan_of_head fun c hc => (h c hc).1).2

lemma skipBlanks_append {b : List Char} (hb : Blank b) (hd : Delimited s) :
    skipBlanks (b ++ s) = s :=
  (List.dropWhile_append_of_pos hb).trans hd.skipBlanks

lemma IsName.head_not_blank {name : List Char} (h : IsName name) (s : List Char) :
    ∀ c ∈ (name ++ s).head?, Text.isBlank c = false := by
  intro c hc
  obtain ⟨first, rest, rfl⟩ := List.exists_cons_of_ne_nil h.1
  obtain rfl := Option.some.inj hc
  rw [← Bool.not_eq_true]
  intro hblank
  have hname := isNameChar_eq_false_of_isBlank hblank
  rw [isNameChar_iff.mpr (h.2 first List.mem_cons_self)] at hname
  cases hname

def Parts (between s : List Char) : Prop :=
  (∀ c ∈ (between ++ s).head?, isNameChar c = false) ∧ ∀ c ∈ s.head?, Text.isBlank c = false

lemma Delimited.parts {between : List Char} (hd : Delimited s) (hbetween : Blank between) :
    Parts between s := by
  refine ⟨?_, fun c hc => (hd c hc).1⟩
  cases between with
  | nil => exact fun c hc => (hd c hc).2
  | cons b rest =>
    intro c hc
    obtain rfl := Option.some.inj hc
    exact isNameChar_eq_false_of_isBlank (hbetween b List.mem_cons_self)

inductive Opens : List Char → Prop
  | nameless {before rest : List Char} : Blank before → Delimited rest → Opens (before ++ rest)
  | plain {before name between rest : List Char} : Blank before → IsName name → Blank between →
      Parts between rest → rest.head? ≠ some '<' → Opens (before ++ name ++ between ++ rest)
  | applied {before name between inner : List Char} : Blank before → IsName name →
      Blank between → Opens (before ++ name ++ between ++ '<' :: inner)

lemma opens (s : List Char) : Opens s := by
  obtain ⟨before, hbefore, hs⟩ := eq_append_skipBlanks s
  obtain ⟨between, hbetween, hr⟩ := eq_append_skipBlanks ((skipBlanks s).dropWhile isNameChar)
  have hsplit := List.takeWhile_append_dropWhile (p := isNameChar) (l := skipBlanks s)
  have hstop := head_dropWhile (p := isNameChar) (skipBlanks s)
  by_cases hempty : (skipBlanks s).takeWhile isNameChar = []
  · rw [hempty, List.nil_append] at hsplit
    rw [hsplit] at hstop
    rw [hs]
    exact .nameless hbefore fun c hc => ⟨head_dropWhile s c hc, hstop c hc⟩
  · have hname : IsName ((skipBlanks s).takeWhile isNameChar) :=
      ⟨hempty, fun _ hc => isNameChar_iff.mp (List.mem_takeWhile_imp hc)⟩
    rw [hr] at hstop
    rw [hs, ← hsplit, hr, ← List.append_assoc, ← List.append_assoc]
    by_cases hbracket : (skipBlanks ((skipBlanks s).dropWhile isNameChar)).head? = some '<'
    · obtain ⟨inner, hinner⟩ := List.head?_eq_some_iff.mp hbracket
      rw [hinner]
      exact .applied hbefore hname hbetween
    · exact .plain hbefore hname hbetween ⟨hstop, head_dropWhile _⟩ hbracket

lemma readType_nameless {before : List Char} (hbefore : Blank before) (hs : Delimited s) :
    readType (fuel + 1) room (before ++ s) = .error ⟨.expectedName, s⟩ := by
  have hname : s.takeWhile isNameChar = [] := (scan_of_head fun c hc => (hs c hc).2).1
  rw [readType, skipBlanks_append hbefore hs, hname]
  rfl

section Name

variable {before name between : List Char}
variable (hbefore : Blank before) (hname : IsName name) (hbetween : Blank between)
include hbefore hname hbetween

lemma scan_name (hs : Parts between s) :
    (skipBlanks (before ++ name ++ between ++ s)).takeWhile isNameChar = name ∧
      skipBlanks ((skipBlanks (before ++ name ++ between ++ s)).dropWhile isNameChar) = s := by
  have hskip : skipBlanks (before ++ name ++ between ++ s) = name ++ (between ++ s) := by
    rw [List.append_assoc, List.append_assoc]
    exact (List.dropWhile_append_of_pos hbefore).trans (scan_of_head (hname.head_not_blank _)).2
  have hall : ∀ c ∈ name, isNameChar c = true := fun c hc => isNameChar_iff.mpr (hname.2 c hc)
  obtain ⟨htake, hdrop⟩ := scan_of_head hs.1
  rw [hskip, List.takeWhile_append_of_pos hall, List.dropWhile_append_of_pos hall, htake, hdrop,
    List.append_nil]
  exact ⟨rfl, (List.dropWhile_append_of_pos hbetween).trans (scan_of_head hs.2).2⟩

lemma readType_plain (hs : Parts between s) (hbracket : s.head? ≠ some '<') :
    readType (fuel + 1) room (before ++ name ++ between ++ s) = .ok (⟨.ofList name, []⟩, s) := by
  obtain ⟨htake, hskip⟩ := scan_name hbefore hname hbetween hs
  have hne : ¬ name.isEmpty = true := by simpa using hname.1
  rw [readType, htake, hskip]
  rw [if_neg hne]
  split
  · exact absurd rfl hbracket
  · rfl

lemma readType_bracket (inner : List Char) :
    readType (fuel + 1) room (before ++ name ++ between ++ '<' :: inner) =
      match room with
      | 0 => .error ⟨.tooDeep, '<' :: inner⟩
      | room + 1 =>
        match readArgs fuel room inner with
        | .ok (args, rest) => .ok (⟨.ofList name, args⟩, rest)
        | .error e => .error e := by
  obtain ⟨htake, hskip⟩ :=
    scan_name hbefore hname hbetween ((delimited_bracket inner).parts hbetween)
  have hne : ¬ name.isEmpty = true := by simpa using hname.1
  rw [readType, htake, hskip]
  rw [if_neg hne]
  rfl

lemma readType_applied {inner : List Char} {args : List TypeExpr}
    (hargs : readArgs fuel room inner = .ok (args, rest)) :
    readType (fuel + 1) (room + 1) (before ++ name ++ between ++ '<' :: inner) =
      .ok (⟨.ofList name, args⟩, rest) := by
  rw [readType_bracket hbefore hname hbetween]
  simp only [hargs]

end Name

mutual
lemma spells_of_readType {fuel room : Nat} {s rest : List Char} {t : TypeExpr}
    (h : readType fuel room s = .ok (t, rest)) :
    ∃ spelling, s = spelling ++ rest ∧ Spells spelling t ∧ t.depth ≤ room := by
  cases fuel with
  | zero => simp [readType] at h
  | succ fuel =>
    cases opens s with
    | nameless hbefore hrest =>
      rw [readType_nameless hbefore hrest] at h
      cases h
    | plain hbefore hname hbetween hparts hbracket =>
      rw [readType_plain hbefore hname hbetween hparts hbracket] at h
      obtain ⟨rfl, rfl⟩ := Prod.mk.inj (Except.ok.inj h)
      exact ⟨_, rfl, .plain hbefore hname hbetween, Nat.zero_le room⟩
    | applied hbefore hname hbetween =>
      rw [readType_bracket hbefore hname hbetween] at h
      cases room with
      | zero => cases h
      | succ room =>
        dsimp only at h
        split at h
        · next args after hargs =>
          obtain ⟨rfl, rfl⟩ := Prod.mk.inj (Except.ok.inj h)
          obtain ⟨spelling, rfl, hspells, hdepth⟩ := spellsArgs_of_readArgs hargs
          have hnil : Blank [] := List.forall_mem_nil _
          exact ⟨_, by simp, .applied hbefore hname hbetween hspells hnil, hdepth⟩
        · cases h
lemma spellsArgs_of_readArgs {fuel room : Nat} {s rest : List Char} {ts : List TypeExpr}
    (h : readArgs fuel room s = .ok (ts, rest)) :
    ∃ spelling, s = spelling ++ '>' :: rest ∧ SpellsArgs spelling ts ∧ depthArgs ts ≤ room + 1 := by
  cases fuel with
  | zero => simp [readArgs] at h
  | succ fuel =>
    rw [readArgs] at h
    split at h
    · simp at h
    · next arg after harg =>
      obtain ⟨spelling, rfl, hspells, hdepth⟩ := spells_of_readType harg
      obtain ⟨blanks, hblanks, hafter⟩ := eq_append_skipBlanks after
      have hspells := hspells.trailing hblanks
      split at h
      · next more hmore =>
        rw [hmore] at hafter
        split at h
        · next args last hargs =>
          obtain ⟨rfl, rfl⟩ := Prod.mk.inj (Except.ok.inj h)
          obtain ⟨others, rfl, hothers, hdepths⟩ := spellsArgs_of_readArgs hargs
          refine ⟨_, by rw [hafter]; simp, .more hspells hothers, ?_⟩
          rw [depthArgs]
          omega
        · simp at h
      · next more hmore =>
        rw [hmore] at hafter
        obtain ⟨rfl, rfl⟩ := Prod.mk.inj (Except.ok.inj h)
        refine ⟨_, by rw [hafter]; simp, .last hspells, ?_⟩
        simp only [depthArgs]
        omega
      · simp at h
end

lemma SpellsArgs.depth_pos (h : SpellsArgs s ts) : 0 < depthArgs ts := by
  cases h <;> exact Nat.lt_of_lt_of_le (Nat.succ_pos _) (Nat.le_max_left _ _)

mutual
lemma readType_of_spells {fuel room : Nat} {s rest : List Char} {t : TypeExpr} (h : Spells s t)
    (hroom : t.depth ≤ room) (hfuel : 2 * s.length < fuel) (hrest : Ends rest) :
    ∃ after, readType fuel room (s ++ rest) = .ok (t, after) ∧ skipBlanks after = rest := by
  obtain ⟨fuel, rfl⟩ := Nat.exists_eq_add_one_of_ne_zero (Nat.ne_zero_of_lt hfuel)
  cases h with
  | plain hbefore hname hafter =>
    have hparts := hrest.delimited.parts hafter
    exact ⟨rest, readType_plain hbefore hname hafter hparts hrest.head_ne_bracket,
      hrest.delimited.skipBlanks⟩
  | @applied before name between inner after args hbefore hname hbetween hargs hafter =>
    obtain ⟨room, rfl⟩ :=
      Nat.exists_eq_add_one_of_ne_zero (Nat.ne_zero_of_lt (hargs.depth_pos.trans_le hroom))
    have hlength : 2 * inner.length + 1 < fuel := by
      simp only [List.length_append, List.length_cons] at hfuel
      omega
    have hinner := readArgs_of_spellsArgs hargs hroom hlength (after ++ rest)
    refine ⟨after ++ rest, ?_, skipBlanks_append hafter hrest.delimited⟩
    simpa using readType_applied hbefore hname hbetween hinner
lemma readArgs_of_spellsArgs {fuel room : Nat} {s : List Char} {ts : List TypeExpr}
    (h : SpellsArgs s ts) (hroom : depthArgs ts ≤ room + 1) (hfuel : 2 * s.length + 1 < fuel)
    (rest : List Char) : readArgs fuel room (s ++ '>' :: rest) = .ok (ts, rest) := by
  obtain ⟨fuel, rfl⟩ := Nat.exists_eq_add_one_of_ne_zero (Nat.ne_zero_of_lt hfuel)
  cases h with
  | @last _ t ht =>
    have hdepth : t.depth ≤ room := Nat.le_of_succ_le_succ ((Nat.le_max_left _ _).trans hroom)
    obtain ⟨after, hread, hskip⟩ := readType_of_spells ht hdepth (Nat.lt_of_succ_lt_succ hfuel)
      (ends_of_head (s := rest) (.inr rfl))
    rw [readArgs, hread]
    simp only [hskip]
  | @more s others t ts ht hts =>
    have hdepth : t.depth ≤ room := Nat.le_of_succ_le_succ ((Nat.le_max_left _ _).trans hroom)
    have hdepths : depthArgs ts ≤ room + 1 := (Nat.le_max_right _ _).trans hroom
    simp only [List.length_append, List.length_cons] at hfuel
    have hlength : 2 * s.length < fuel := by omega
    have hlengths : 2 * others.length + 1 < fuel := by omega
    obtain ⟨after, hread, hskip⟩ := readType_of_spells ht hdepth hlength
      (ends_of_head (s := others ++ '>' :: rest) (.inl rfl))
    have hothers := readArgs_of_spellsArgs hts hdepths hlengths rest
    rw [List.append_assoc, List.cons_append, readArgs, hread]
    simp only [hskip, hothers]
end

lemma read_eq_ok_iff : read s = .ok t ↔ Spells s t ∧ t.depth ≤ maxDepth := by
  rw [read]
  constructor
  · intro h
    split at h
    · simp at h
    · next after hread =>
      obtain ⟨spelling, rfl, hspells, hdepth⟩ := spells_of_readType hread
      split at h
      · next hafter =>
        obtain rfl := Except.ok.inj h
        obtain ⟨blanks, hblanks, hs⟩ := eq_append_skipBlanks after
        rw [hafter, List.append_nil] at hs
        exact ⟨hs ▸ hspells.trailing hblanks, hdepth⟩
      · simp at h
  · rintro ⟨hspells, hdepth⟩
    have hends : Ends [] := by simp [Ends]
    obtain ⟨after, hread, hskip⟩ := readType_of_spells hspells hdepth
      (Nat.lt_add_of_pos_right Nat.two_pos) hends
    rw [List.append_nil] at hread
    rw [hread]
    simp only [hskip]

lemma parse_eq_ok_iff {input : String} : parse input = .ok t ↔ read input.toList = .ok t := by
  rw [parse]
  split
  · next h => rw [h, Except.ok.injEq, Except.ok.injEq]
  · next h => simp [h]

theorem parse_accepts_spellings (input : String) (t : TypeExpr) :
    parse input = .ok t ↔ Spells input.toList t ∧ t.depth ≤ 64 := by
  rw [parse_eq_ok_iff]
  exact read_eq_ok_iff

end TypeExpr

end SoapWrap
