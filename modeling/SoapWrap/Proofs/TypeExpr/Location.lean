import Mathlib.Tactic.Lemma
import SoapWrap.Proofs.TypeExpr.Grammar

/-! Where a text that is no type expression is at fault: what stands before that place can still be
completed to an expression, and with the next character it cannot. -/

namespace SoapWrap

namespace Text

lemma utf8Length_append (a b : List Char) : utf8Length (a ++ b) = utf8Length a + utf8Length b := by
  induction a with
  | nil => rw [List.nil_append, utf8Length, Nat.zero_add]
  | cons c rest ih => rw [List.cons_append, utf8Length, utf8Length, ih, Nat.add_assoc]

lemma utf8ByteSize_ofList_eq (cs : List Char) :
    (String.ofList cs).utf8ByteSize = utf8Length cs := by
  induction cs with
  | nil => rfl
  | cons c rest ih =>
    rw [← List.singleton_append, String.ofList_append, String.utf8ByteSize_append, ih,
      ← String.singleton_eq_ofList, String.utf8ByteSize_singleton, List.singleton_append,
      utf8Length]

end Text

namespace TypeExpr

variable {s rest before : List Char} {t : TypeExpr} {fuel room : Nat} {c : Char} {e : Fault}

def StopsAt (room : Nat) (s : List Char) (t : TypeExpr) (c : Char) : Prop :=
  ∀ more fuel, 2 * s.length < fuel →
    ∃ after, readType fuel room (s ++ c :: more) = .ok (t, after) ∧ skipBlanks after = c :: more

lemma Spells.stopsAt (h : Spells s t) (hroom : t.depth ≤ room) (hc : c = ',' ∨ c = '>') :
    StopsAt room s t c :=
  fun _ _ hfuel => readType_of_spells h hroom hfuel (ends_of_head hc)

lemma Parts.cons_congr {between more : List Char} (h : Parts between (c :: rest)) :
    Parts between (c :: more) := by
  refine ⟨?_, h.2⟩
  have hstop := h.1
  cases between with
  | nil => exact hstop
  | cons => exact hstop

lemma stopsAt_plain {before name between : List Char} (hbefore : Blank before) (hname : IsName name)
    (hbetween : Blank between) (hparts : Parts between (c :: rest)) (hc : c ≠ '<') :
    StopsAt room (before ++ name ++ between) ⟨.ofList name, []⟩ c := by
  intro more fuel hfuel
  obtain ⟨fuel, rfl⟩ := Nat.exists_eq_add_one_of_ne_zero (Nat.ne_zero_of_lt hfuel)
  have hhead : (c :: more).head? ≠ some '<' := by simpa using hc
  have hparts : Parts between (c :: more) := hparts.cons_congr
  exact ⟨c :: more, readType_plain hbefore hname hbetween hparts hhead, (scan_of_head hparts.2).2⟩

lemma stopsAt_applied {before name between inner after : List Char} {args : List TypeExpr}
    (hbefore : Blank before) (hname : IsName name) (hbetween : Blank between)
    (hargs : SpellsArgs inner args) (hdepth : depthArgs args ≤ room) (hafter : Blank after)
    (hc : Text.isBlank c = false) :
    StopsAt room (before ++ name ++ between ++ '<' :: inner ++ '>' :: after)
      ⟨.ofList name, args⟩ c := by
  intro more fuel hfuel
  obtain ⟨fuel, rfl⟩ := Nat.exists_eq_add_one_of_ne_zero (Nat.ne_zero_of_lt hfuel)
  obtain ⟨room, rfl⟩ :=
    Nat.exists_eq_add_one_of_ne_zero (Nat.ne_zero_of_lt (hargs.depth_pos.trans_le hdepth))
  have hlength : 2 * inner.length + 1 < fuel := by
    simp only [List.length_append, List.length_cons] at hfuel
    omega
  have hinner := readArgs_of_spellsArgs hargs hdepth hlength (after ++ c :: more)
  have hhead : ∀ d ∈ (c :: more).head?, Text.isBlank d = false := by simpa using hc
  refine ⟨after ++ c :: more, ?_,
    (List.dropWhile_append_of_pos hafter).trans (scan_of_head hhead).2⟩
  simpa using readType_applied hbefore hname hbetween hinner

lemma stopsAt_of_readType (h : readType fuel room s = .ok (t, rest)) :
    ∃ spelling, s = spelling ++ skipBlanks rest ∧ Spells spelling t ∧ t.depth ≤ room ∧
      ∀ c ∈ (skipBlanks rest).head?, StopsAt room spelling t c := by
  cases fuel with
  | zero => simp [readType] at h
  | succ fuel =>
    cases opens s with
    | nameless hbefore hrest =>
      rw [readType_nameless hbefore hrest] at h
      cases h
    | @plain before name between after hbefore hname hbetween hparts hbracket =>
      rw [readType_plain hbefore hname hbetween hparts hbracket] at h
      obtain ⟨rfl, rfl⟩ := Prod.mk.inj (Except.ok.inj h)
      have hskip : skipBlanks after = after := (scan_of_head hparts.2).2
      rw [hskip]
      refine ⟨_, rfl, .plain hbefore hname hbetween, Nat.zero_le room, fun c hc => ?_⟩
      obtain ⟨more, rfl⟩ := List.head?_eq_some_iff.mp hc
      exact stopsAt_plain hbefore hname hbetween hparts (by simpa using hbracket)
    | applied hbefore hname hbetween =>
      rw [readType_bracket hbefore hname hbetween] at h
      cases room with
      | zero => cases h
      | succ room =>
        dsimp only at h
        split at h
        · next args after hargs =>
          obtain ⟨rfl, rfl⟩ := Prod.mk.inj (Except.ok.inj h)
          obtain ⟨inner, rfl, hspells, hdepth⟩ := spellsArgs_of_readArgs hargs
          obtain ⟨blanks, hblanks, hafter⟩ := eq_append_skipBlanks after
          refine ⟨_, ?_, .applied hbefore hname hbetween hspells hblanks, hdepth, fun c hc =>
            stopsAt_applied hbefore hname hbetween hspells hdepth hblanks
              (head_dropWhile after c hc)⟩
          conv_lhs => rw [hafter]
          simp
        · cases h

mutual
inductive Halts : Nat → List Char → Fault → Prop
  | name {room : Nat} {before rest : List Char} : Blank before → Delimited rest →
      Halts room before ⟨.expectedName, rest⟩
  | deep {before name between inner : List Char} : Blank before → IsName name → Blank between →
      Halts 0 (before ++ name ++ between) ⟨.tooDeep, '<' :: inner⟩
  | inside {room : Nat} {before name between inner : List Char} {e : Fault} :
      Blank before → IsName name → Blank between → HaltsArgs room inner e →
      Halts (room + 1) (before ++ name ++ between ++ '<' :: inner) e
inductive HaltsArgs : Nat → List Char → Fault → Prop
  | arg {room : Nat} {s : List Char} {e : Fault} : Halts room s e → HaltsArgs room s e
  | separator {room : Nat} {s rest : List Char} {t : TypeExpr} : Spells s t → t.depth ≤ room →
      (∀ c ∈ rest.head?, StopsAt room s t c) → (∀ c ∈ rest.head?, c ≠ ',' ∧ c ≠ '>') →
      HaltsArgs room s ⟨.expectedSeparator, rest⟩
  | later {room : Nat} {s others : List Char} {t : TypeExpr} {e : Fault} : Spells s t →
      t.depth ≤ room → HaltsArgs room others e → HaltsArgs room (s ++ ',' :: others) e
end

mutual
lemma halts_of_readType {fuel room : Nat} {s : List Char} {e : Fault}
    (h : readType fuel room s = .error e) (hfuel : 2 * s.length < fuel) :
    ∃ before, s = before ++ e.rest ∧ Halts room before e := by
  cases fuel with
  | zero => omega
  | succ fuel =>
    cases opens s with
    | nameless hbefore hrest =>
      rw [readType_nameless hbefore hrest] at h
      obtain rfl := Except.error.inj h
      exact ⟨_, rfl, .name hbefore hrest⟩
    | plain hbefore hname hbetween hparts hbracket =>
      rw [readType_plain hbefore hname hbetween hparts hbracket] at h
      cases h
    | @applied before name between inner hbefore hname hbetween =>
      rw [readType_bracket hbefore hname hbetween] at h
      cases room with
      | zero =>
        obtain rfl := Except.error.inj h
        exact ⟨_, rfl, .deep hbefore hname hbetween⟩
      | succ room =>
        dsimp only at h
        split at h
        · cases h
        · next hargs =>
          obtain rfl := Except.error.inj h
          have hlength : 2 * inner.length + 1 < fuel := by
            simp only [List.length_append, List.length_cons] at hfuel
            have hpos := List.length_pos_of_ne_nil hname.1
            omega
          obtain ⟨read, hread, hhalts⟩ := haltsArgs_of_readArgs hargs hlength
          refine ⟨_, ?_, .inside hbefore hname hbetween hhalts⟩
          conv_lhs => rw [hread]
          simp
lemma haltsArgs_of_readArgs {fuel room : Nat} {s : List Char} {e : Fault}
    (h : readArgs fuel room s = .error e) (hfuel : 2 * s.length + 1 < fuel) :
    ∃ before, s = before ++ e.rest ∧ HaltsArgs room before e := by
  cases fuel with
  | zero => omega
  | succ fuel =>
    rw [readArgs] at h
    split at h
    · next harg =>
      obtain rfl := Except.error.inj h
      obtain ⟨before, hs, hhalts⟩ := halts_of_readType harg (by omega)
      exact ⟨before, hs, .arg hhalts⟩
    · next arg after harg =>
      obtain ⟨spelling, hs, hspells, hdepth, hstops⟩ := stopsAt_of_readType harg
      split at h
      · next more hmore =>
        split at h
        · cases h
        · next hargs =>
          obtain rfl := Except.error.inj h
          rw [hmore] at hs
          have hlength : 2 * more.length + 1 < fuel := by
            rw [hs, List.length_append, List.length_cons] at hfuel
            omega
          obtain ⟨others, hothers, hhalts⟩ := haltsArgs_of_readArgs hargs hlength
          refine ⟨_, ?_, .later hspells hdepth hhalts⟩
          rw [hs, hothers]
          simp
      · cases h
      · next hcomma hclose =>
        obtain rfl := Except.error.inj h
        refine ⟨spelling, hs, .separator hspells hdepth hstops fun c hc => ?_⟩
        obtain ⟨more, hmore⟩ := List.head?_eq_some_iff.mp hc
        exact ⟨fun hc => hcomma more (hc ▸ hmore), fun hc => hclose more (hc ▸ hmore)⟩
end

lemma isName_a : IsName ['a'] := by
  refine ⟨List.cons_ne_nil _ _, List.forall_mem_singleton.mpr (.inl (by decide))⟩

mutual
lemma Halts.completes {room : Nat} {before : List Char} {e : Fault} :
    Halts room before e → ∃ more t, Spells (before ++ more) t ∧ t.depth ≤ room
  | .name hbefore _ => by
    refine ⟨['a'], ⟨.ofList ['a'], []⟩, ?_, Nat.zero_le room⟩
    simpa using Spells.plain hbefore isName_a (List.forall_mem_nil _)
  | @Halts.deep _ name _ _ hbefore hname hbetween => by
    refine ⟨[], ⟨.ofList name, []⟩, ?_, Nat.le_refl 0⟩
    rw [List.append_nil]
    exact .plain hbefore hname hbetween
  | @Halts.inside _ _ name _ _ _ hbefore hname hbetween hargs => by
    obtain ⟨more, args, hspells, hdepth⟩ := hargs.completes
    refine ⟨more ++ ['>'], ⟨.ofList name, args⟩, ?_, hdepth⟩
    simpa using Spells.applied hbefore hname hbetween hspells (List.forall_mem_nil _)
lemma HaltsArgs.completes {room : Nat} {before : List Char} {e : Fault} :
    HaltsArgs room before e →
      ∃ more ts, SpellsArgs (before ++ more) ts ∧ depthArgs ts ≤ room + 1
  | .arg h => by
    obtain ⟨more, t, hspells, hdepth⟩ := h.completes
    exact ⟨more, [t], .last hspells, by simpa [depthArgs] using hdepth⟩
  | @HaltsArgs.separator _ _ _ t hspells hdepth _ _ => by
    refine ⟨[], [t], ?_, by simpa [depthArgs] using hdepth⟩
    rw [List.append_nil]
    exact .last hspells
  | @HaltsArgs.later _ _ _ t _ hspells hdepth hothers => by
    obtain ⟨more, ts, hmore, hdepths⟩ := hothers.completes
    refine ⟨more, t :: ts, ?_, Nat.max_le.mpr ⟨Nat.succ_le_succ hdepth, hdepths⟩⟩
    simpa using SpellsArgs.more hspells hmore
end

mutual
lemma Halts.stuck {fuel room : Nat} {before : List Char} {e : Fault} {c : Char}
    (h : Halts room before e) (hc : e.rest.head? = some c) (more : List Char)
    (hfuel : 2 * (before ++ c :: more).length < fuel) :
    ∃ e', readType fuel room (before ++ c :: more) = .error e' := by
  obtain ⟨fuel, rfl⟩ := Nat.exists_eq_add_one_of_ne_zero (Nat.ne_zero_of_lt hfuel)
  cases h with
  | name hbefore hrest =>
    have hdelimited : Delimited (c :: more) := fun d hd => hrest d (hc.trans hd)
    exact ⟨_, readType_nameless hbefore hdelimited⟩
  | deep hbefore hname hbetween =>
    obtain rfl := Option.some.inj hc
    exact ⟨_, readType_bracket hbefore hname hbetween more⟩
  | @inside _ before name between inner _ hbefore hname hbetween hargs =>
    have hlength : 2 * (inner ++ c :: more).length + 1 < fuel := by
      simp only [List.length_append, List.length_cons] at hfuel ⊢
      have hpos := List.length_pos_of_ne_nil hname.1
      omega
    obtain ⟨e', he'⟩ := hargs.stuck hc more hlength
    refine ⟨e', ?_⟩
    rw [List.append_assoc, List.cons_append, readType_bracket hbefore hname hbetween]
    simp only [he']
lemma HaltsArgs.stuck {fuel room : Nat} {before : List Char} {e : Fault} {c : Char}
    (h : HaltsArgs room before e) (hc : e.rest.head? = some c) (more : List Char)
    (hfuel : 2 * (before ++ c :: more).length + 1 < fuel) :
    ∃ e', readArgs fuel room (before ++ c :: more) = .error e' := by
  obtain ⟨fuel, rfl⟩ := Nat.exists_eq_add_one_of_ne_zero (Nat.ne_zero_of_lt hfuel)
  cases h with
  | arg h =>
    obtain ⟨e', he'⟩ := h.stuck hc more (Nat.lt_of_succ_lt_succ hfuel)
    exact ⟨e', by rw [readArgs, he']⟩
  | separator hspells hdepth hstops hother =>
    have hlength : 2 * before.length < fuel := by
      rw [List.length_append] at hfuel
      omega
    obtain ⟨after, hread, hskip⟩ := hstops c hc more fuel hlength
    obtain ⟨hcomma, hclose⟩ := hother c hc
    refine ⟨⟨.expectedSeparator, c :: more⟩, ?_⟩
    rw [readArgs, hread]
    simp only [hskip]
    split
    · next heq => exact absurd (List.cons.inj heq).1 hcomma
    · next heq => exact absurd (List.cons.inj heq).1 hclose
    · rfl
  | @later _ s others _ _ hspells hdepth hothers =>
    simp only [List.length_append, List.length_cons] at hfuel
    have hlength : 2 * s.length < fuel := by omega
    have hlengths : 2 * (others ++ c :: more).length + 1 < fuel := by
      rw [List.length_append, List.length_cons]
      omega
    obtain ⟨after, hread, hskip⟩ :=
      hspells.stopsAt hdepth (.inl rfl) (others ++ c :: more) fuel hlength
    obtain ⟨e', he'⟩ := hothers.stuck hc more hlengths
    rw [List.append_assoc, List.cons_append, readArgs, hread]
    simp only [hskip, he']
    exact ⟨e', rfl⟩
end

lemma read_error_located (h : read s = .error e) :
    ∃ before, s = before ++ e.rest ∧ (∃ more t, read (before ++ more) = .ok t) ∧
      ∀ c ∈ e.rest.head?, ∀ more, ∃ e', read (before ++ c :: more) = .error e' := by
  rw [read] at h
  split at h
  · next hread =>
    obtain rfl := Except.error.inj h
    obtain ⟨before, hs, hhalts⟩ := halts_of_readType hread (Nat.lt_add_of_pos_right Nat.two_pos)
    obtain ⟨more, t, hspells, hdepth⟩ := hhalts.completes
    refine ⟨before, hs, ⟨more, t, read_eq_ok_iff.mpr ⟨hspells, hdepth⟩⟩, fun c hc more => ?_⟩
    obtain ⟨e', he'⟩ := hhalts.stuck hc more (Nat.lt_add_of_pos_right Nat.two_pos)
    exact ⟨e', by rw [read, he']⟩
  · next t after hread =>
    obtain ⟨spelling, hs, hspells, hdepth, hstops⟩ := stopsAt_of_readType hread
    split at h
    · cases h
    · obtain rfl := Except.error.inj h
      refine ⟨spelling, hs, ⟨[], t, ?_⟩, fun c hc more => ?_⟩
      · rw [List.append_nil]
        exact read_eq_ok_iff.mpr ⟨hspells, hdepth⟩
      · have hlength : 2 * spelling.length < 2 * (spelling ++ c :: more).length + 2 := by
          rw [List.length_append]
          omega
        obtain ⟨after, hagain, hskip⟩ := hstops c hc more _ hlength
        exact ⟨⟨.trailing, c :: more⟩, by rw [read, hagain]; simp only [hskip]⟩

/-- An offset in bytes, between two characters of the text, up to which it can be completed to an
expression, while no expression starts with that and the character behind it. -/
def FaultyAt (input : String) (offset : Nat) : Prop :=
  ∃ before after : String, input = before ++ after ∧ before.utf8ByteSize = offset ∧
    (∃ more t, parse (before ++ more) = .ok t) ∧
    ∀ c ∈ after.toList.head?, ∀ other : String, before.toList ++ [c] <+: other.toList →
      ∀ t, parse other ≠ .ok t

theorem parse_error_located (input : String) (e : Invalid) (h : parse input = .error e) :
    e.offset ≤ input.utf8ByteSize ∧ FaultyAt input e.offset := by
  rw [parse] at h
  split at h
  · cases h
  · next fault hread =>
    obtain rfl := Except.error.inj h
    obtain ⟨before, hs, ⟨more, t, hmore⟩, hstuck⟩ := read_error_located hread
    have hinput : input = .ofList before ++ .ofList fault.rest := by
      rw [← String.ofList_append, ← hs, String.ofList_toList]
    have hoffset : Text.utf8Length input.toList - Text.utf8Length fault.rest =
        (String.ofList before).utf8ByteSize := by
      rw [hs, Text.utf8Length_append, Nat.add_sub_cancel, Text.utf8ByteSize_ofList_eq]
    dsimp only
    rw [hoffset]
    refine ⟨?_, _, _, hinput, rfl, ⟨.ofList more, t, ?_⟩, ?_⟩
    · rw [hinput, String.utf8ByteSize_append]
      exact Nat.le_add_right _ _
    · rw [parse_eq_ok_iff, ← String.ofList_append, String.toList_ofList]
      exact hmore
    · intro c hc other hother t hparse
      rw [String.toList_ofList] at hc hother
      obtain ⟨later, hlater⟩ := hother
      rw [parse_eq_ok_iff, ← hlater, List.append_assoc, List.singleton_append] at hparse
      obtain ⟨e', he'⟩ := hstuck c hc later
      rw [he'] at hparse
      cases hparse

theorem parse_error_located_inner :
    parse "map<größe, list<日本 x>>" =
        .error ⟨"map<größe, list<日本 x>>", .expectedSeparator, 25⟩ ∧
      25 ≤ "map<größe, list<日本 x>>".utf8ByteSize ∧ FaultyAt "map<größe, list<日本 x>>" 25 := by
  have h : parse "map<größe, list<日本 x>>" =
      .error ⟨"map<größe, list<日本 x>>", .expectedSeparator, 25⟩ := by decide +kernel
  exact ⟨h, parse_error_located _ _ h⟩

end TypeExpr

end SoapWrap
