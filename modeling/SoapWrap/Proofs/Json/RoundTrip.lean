import SoapWrap.Proofs.Json.Number
import SoapWrap.Proofs.Json.Quoted

namespace SoapWrap.Json

inductive Whole : Json → Prop
  | null : Whole null
  | bool (b : Bool) : Whole (bool b)
  | int (i : Int) : Whole (int i)
  | str (s : String) : Whole (str s)
  | arr {items : List Json} : (∀ j ∈ items, Whole j) → Whole (arr items)
  | obj {members : List (String × Json)} : (∀ m ∈ members, Whole m.2) → Whole (obj members)

structure Spacing where
  indent : Nat → List Char
  colon : List Char
  blank_indent : ∀ level, ∀ c ∈ indent level, isSpace c = true
  blank_colon : ∀ c ∈ colon, isSpace c = true

namespace Spacing

mutual
def chars (sp : Spacing) (level : Nat) : Json → List Char
  | arr (a :: rest) =>
    '[' :: (sp.indent (level + 1) ++ (sp.chars (level + 1) a ++ sp.items level rest))
  | obj ((k, a) :: rest) =>
    '{' :: (sp.indent (level + 1) ++ (quote k ++ ':' :: (sp.colon ++
      (sp.chars (level + 1) a ++ sp.members level rest))))
  | j => leafText j
def items (sp : Spacing) (level : Nat) : List Json → List Char
  | [] => sp.indent level ++ [']']
  | a :: rest =>
    ',' :: (sp.indent (level + 1) ++ (sp.chars (level + 1) a ++ sp.items level rest))
def members (sp : Spacing) (level : Nat) : List (String × Json) → List Char
  | [] => sp.indent level ++ ['}']
  | (k, a) :: rest =>
    ',' :: (sp.indent (level + 1) ++ (quote k ++ ':' :: (sp.colon ++
      (sp.chars (level + 1) a ++ sp.members level rest))))
end

def indented : Spacing where
  indent := newline
  colon := [' ']
  blank_indent level c hc := by
    rcases List.mem_cons.mp hc with rfl | hc
    · decide
    · rw [List.eq_of_mem_replicate hc]
      decide
  blank_colon c hc := by
    rw [List.mem_singleton.mp hc]
    decide

def onOneLine : Spacing where
  indent _ := []
  colon := []
  blank_indent _ _ hc := by cases hc
  blank_colon _ hc := by cases hc

mutual
lemma chars_indented (level : Nat) : (j : Json) → indented.chars level j = prettyChars level j
  | .arr (a :: rest) => by
    rw [chars, chars_indented, items_indented, prettyChars, List.append_assoc]
    rfl
  | .obj ((k, a) :: rest) => by
    rw [chars, chars_indented, members_indented, prettyChars, List.append_assoc]
    rfl
  | .arr [] => rfl
  | .obj [] => rfl
  | .null => rfl
  | .bool _ => rfl
  | .int _ => rfl
  | .real _ => rfl
  | .str _ => rfl
  | .unreadable => rfl
lemma items_indented (level : Nat) :
    (items : List Json) → indented.items level items = prettyItems level items
  | [] => rfl
  | a :: rest => by
    rw [items, chars_indented, items_indented, prettyItems, List.append_assoc]
    rfl
lemma members_indented (level : Nat) : (members : List (String × Json)) →
    indented.members level members = prettyMembers level members
  | [] => rfl
  | (k, a) :: rest => by
    rw [members, chars_indented, members_indented, prettyMembers, List.append_assoc]
    rfl
end

mutual
lemma chars_onOneLine (level : Nat) : (j : Json) → onOneLine.chars level j = compactChars j
  | .arr (a :: rest) => by
    rw [chars, chars_onOneLine, items_onOneLine, compactChars]
    rfl
  | .obj ((k, a) :: rest) => by
    rw [chars, chars_onOneLine, members_onOneLine, compactChars]
    rfl
  | .arr [] => rfl
  | .obj [] => rfl
  | .null => rfl
  | .bool _ => rfl
  | .int _ => rfl
  | .real _ => rfl
  | .str _ => rfl
  | .unreadable => rfl
lemma items_onOneLine (level : Nat) :
    (items : List Json) → onOneLine.items level items = compactItems items
  | [] => rfl
  | a :: rest => by
    rw [items, chars_onOneLine, items_onOneLine, compactItems]
    rfl
lemma members_onOneLine (level : Nat) : (members : List (String × Json)) →
    onOneLine.members level members = compactMembers members
  | [] => rfl
  | (k, a) :: rest => by
    rw [members, chars_onOneLine, members_onOneLine, compactMembers]
    rfl
end

end Spacing

variable {s : List Char} {fuel : Nat}

lemma readText_quoted (t : String) (s : List Char) :
    readText (t.toList.flatMap escapeChar ++ '"' :: s) = some (some t, s) := by
  rw [readText, unescape_escaped]
  simp only [Option.bind_eq_bind, Option.bind_some, decodePoints_toNat, Option.map_some,
    String.ofList_toList, Option.pure_def]

section Space

variable {blanks : List Char}

lemma skipSpace_blanks (h : ∀ c ∈ blanks, isSpace c = true) (s : List Char) :
    skipSpace (blanks ++ s) = skipSpace s :=
  List.dropWhile_append_of_pos h

def Opens (s : List Char) : Prop :=
  ∃ c cs, s = c :: cs ∧ isSpace c = false ∧ c ≠ ']' ∧ c ≠ '}'

lemma Opens.append (h : Opens s) (t : List Char) : Opens (s ++ t) := by
  obtain ⟨c, cs, rfl, hc⟩ := h
  exact ⟨c, cs ++ t, rfl, hc⟩

lemma Opens.skipSpace (h : Opens s) : skipSpace s = s := by
  obtain ⟨c, cs, rfl, hc, -⟩ := h
  exact List.dropWhile_cons_of_neg (Bool.eq_false_iff.mp hc)

lemma opens_quote (t : String) : Opens (quote t) :=
  ⟨_, _, rfl, by decide, by decide, by decide⟩

lemma length_quote_pos (t : String) : 0 < (quote t).length :=
  List.length_pos_of_mem List.mem_cons_self

lemma skipSpace_ends {c : Char} (h : ∀ c ∈ blanks, isSpace c = true) (hc : isSpace c = false)
    (s : List Char) : skipSpace (blanks ++ c :: s) = c :: s := by
  rw [skipSpace_blanks h]
  exact List.dropWhile_cons_of_neg (Bool.eq_false_iff.mp hc)

lemma ends_blanks {c : Char} (h : ∀ c ∈ blanks, isSpace c = true) (hc : isEnd c = true) :
    Ends (blanks ++ c :: s) := by
  cases blanks with
  | nil => exact ends_cons hc
  | cons b rest =>
    refine ends_cons ?_
    rw [isEnd, h b List.mem_cons_self]
    rfl

end Space

lemma ofMembers_some (members : List (String × Json)) :
    ofMembers (members.map fun m => (some m.1, m.2)) = obj members := by
  rw [ofMembers, mapM_map_some]
  exact fun _ _ => rfl

namespace Spacing

variable (sp : Spacing)

lemma opens_chars {j : Json} (h : j.Whole) (level : Nat) : Opens (sp.chars level j) := by
  cases h with
  | null => exact ⟨_, _, rfl, by decide, by decide, by decide⟩
  | bool b => cases b <;> exact ⟨_, _, rfl, by decide, by decide, by decide⟩
  | int i =>
    obtain ⟨c, cs, hi, hc⟩ := intText_cons i
    have hne := ne_of_mem_marks hc
    simp only [marks, List.forall_mem_cons] at hne
    refine ⟨c, cs, hi, ?_, hne.2.2.1, hne.2.2.2.2.1⟩
    simp [isSpace, hne]
  | str t => exact opens_quote t
  | @arr items _ => cases items <;> exact ⟨_, _, rfl, by decide, by decide, by decide⟩
  | @obj members _ => cases members <;> exact ⟨_, _, rfl, by decide, by decide, by decide⟩

lemma ends_items (level : Nat) (items : List Json) (s : List Char) :
    Ends (sp.items level items ++ s) := by
  cases items with
  | nil =>
    rw [items, List.append_assoc]
    exact ends_blanks (sp.blank_indent level) (by decide)
  | cons j rest => exact ends_cons (by decide)

lemma ends_members (level : Nat) (members : List (String × Json)) (s : List Char) :
    Ends (sp.members level members ++ s) := by
  cases members with
  | nil =>
    rw [Spacing.members, List.append_assoc]
    exact ends_blanks (sp.blank_indent level) (by decide)
  | cons m rest => exact ends_cons (by decide)

end Spacing

section Steps

variable {sp : Spacing} {t rest : List Char} {v : Json} {k : String} (level : Nat)

lemma readValue_bracket (ht : Opens t) :
    readValue (fuel + 1) ('[' :: (sp.indent level ++ t)) =
      (readItems fuel t).map fun p => (arr p.1, p.2) := by
  rw [readValue, skipSpace_blanks (sp.blank_indent level), ht.skipSpace]
  obtain ⟨c, cs, rfl, -, hclose, -⟩ := ht
  split
  · next he => exact absurd (List.cons.inj he).1 hclose
  · rfl

lemma readValue_brace (ht : Opens t) :
    readValue (fuel + 1) ('{' :: (sp.indent level ++ t)) =
      (readMembers fuel t).map fun p => (ofMembers p.1, p.2) := by
  rw [readValue, skipSpace_blanks (sp.blank_indent level), ht.skipSpace]
  obtain ⟨c, cs, rfl, -, -, hclose⟩ := ht
  split
  · next he => exact absurd (List.cons.inj he).1 hclose
  · rfl

lemma readItems_last (hv : readValue fuel t = some (v, sp.indent level ++ ']' :: rest)) :
    readItems (fuel + 1) t = some ([v], rest) := by
  rw [readItems, hv]
  simp only [skipSpace_ends (c := ']') (sp.blank_indent level) (by decide)]

lemma readItems_more {s : List Char} (hs : Opens s)
    (hv : readValue fuel t = some (v, ',' :: (sp.indent level ++ s))) :
    readItems (fuel + 1) t = (readItems fuel s).map fun p => (v :: p.1, p.2) := by
  have hcomma : skipSpace (',' :: (sp.indent level ++ s)) = ',' :: (sp.indent level ++ s) :=
    List.dropWhile_cons_of_neg (by decide)
  rw [readItems, hv]
  simp only [hcomma, skipSpace_blanks (sp.blank_indent level), hs.skipSpace]

def readMembersAfter (fuel : Nat) (k : String) (v : Json) :
    List Char → Option (List (Option String × Json) × List Char)
  | '}' :: rest => some ([(some k, v)], rest)
  | ',' :: rest => (readMembers fuel (skipSpace rest)).map fun p => ((some k, v) :: p.1, p.2)
  | _ => none

variable (sp) in
lemma readMembers_key (ht : Opens t) (hv : readValue fuel t = some (v, rest)) :
    readMembers (fuel + 1) (quote k ++ ':' :: (sp.colon ++ t)) =
      readMembersAfter fuel k v (skipSpace rest) := by
  have hcolon : skipSpace (':' :: (sp.colon ++ t)) = ':' :: (sp.colon ++ t) :=
    List.dropWhile_cons_of_neg (by decide)
  have hblank : skipSpace (sp.colon ++ t) = t :=
    (skipSpace_blanks sp.blank_colon t).trans ht.skipSpace
  rw [quote, List.cons_append, List.append_assoc, List.singleton_append, readMembers]
  simp only [readText_quoted, hcolon, hblank, hv]
  rfl

lemma readMembers_last (ht : Opens t)
    (hv : readValue fuel t = some (v, sp.indent level ++ '}' :: rest)) :
    readMembers (fuel + 1) (quote k ++ ':' :: (sp.colon ++ t)) = some ([(some k, v)], rest) := by
  rw [readMembers_key sp ht hv, skipSpace_ends (sp.blank_indent level) (by decide)]
  rfl

lemma readMembers_more {s : List Char} (ht : Opens t) (hs : Opens s)
    (hv : readValue fuel t = some (v, ',' :: (sp.indent level ++ s))) :
    readMembers (fuel + 1) (quote k ++ ':' :: (sp.colon ++ t)) =
      (readMembers fuel s).map fun p => ((some k, v) :: p.1, p.2) := by
  have hcomma : skipSpace (',' :: (sp.indent level ++ s)) = ',' :: (sp.indent level ++ s) :=
    List.dropWhile_cons_of_neg (by decide)
  rw [readMembers_key sp ht hv, hcomma, readMembersAfter, skipSpace_blanks (sp.blank_indent level),
    hs.skipSpace]

end Steps

structure ReadsBack (sp : Spacing) (fuel : Nat) : Prop where
  value {j : Json} {n : Nat} {s : List Char} : j.Whole →
    2 * (sp.chars n j).length ≤ fuel → Ends s →
    readValue fuel (sp.chars n j ++ s) = some (j, s)
  items {a : Json} {rest : List Json} {n : Nat} (s : List Char) : a.Whole →
    (∀ j ∈ rest, j.Whole) →
    2 * ((sp.chars (n + 1) a).length + (sp.items n rest).length) ≤ fuel →
    readItems fuel (sp.chars (n + 1) a ++ (sp.items n rest ++ s)) =
      some (a :: rest, s)
  members {k : String} {a : Json} {rest : List (String × Json)} {n : Nat} (s : List Char) :
    a.Whole → (∀ m ∈ rest, m.2.Whole) →
    2 * ((quote k).length + (sp.chars (n + 1) a).length +
      (sp.members n rest).length) ≤ fuel →
    readMembers fuel (quote k ++ ':' :: (sp.colon ++
      (sp.chars (n + 1) a ++ (sp.members n rest ++ s)))) =
      some (((k, a) :: rest).map fun m => (some m.1, m.2), s)

namespace ReadsBack

variable {sp : Spacing} {j a : Json} {k : String} {level : Nat}

lemma readValue_arr {items : List Json} (h : ReadsBack sp fuel) (hj : ∀ j ∈ items, j.Whole)
    (hfuel : 2 * (sp.chars level (arr items)).length ≤ fuel + 1) :
    readValue (fuel + 1) (sp.chars level (arr items) ++ s) = some (arr items, s) := by
  cases items with
  | nil => rfl
  | cons a rest =>
    rw [List.forall_mem_cons] at hj
    simp only [Spacing.chars, List.length_cons, List.length_append] at hfuel
    have hopens := (sp.opens_chars hj.1 (level + 1)).append (sp.items level rest ++ s)
    rw [Spacing.chars, List.cons_append, List.append_assoc, List.append_assoc,
      readValue_bracket (level + 1) hopens, h.items s hj.1 hj.2 (by omega), Option.map_some]

lemma readValue_obj {members : List (String × Json)} (h : ReadsBack sp fuel)
    (hj : ∀ m ∈ members, m.2.Whole)
    (hfuel : 2 * (sp.chars level (obj members)).length ≤ fuel + 1) :
    readValue (fuel + 1) (sp.chars level (obj members) ++ s) = some (obj members, s) := by
  cases members with
  | nil => rfl
  | cons m rest =>
    obtain ⟨k, a⟩ := m
    rw [List.forall_mem_cons] at hj
    simp only [Spacing.chars, List.length_cons, List.length_append] at hfuel
    have hopens := (opens_quote k).append
      (':' :: (sp.colon ++ (sp.chars (level + 1) a ++ (sp.members level rest ++ s))))
    have hread := h.members (k := k) (a := a) (n := level) s hj.1 hj.2 (by omega)
    simp only [Spacing.chars, List.cons_append, List.append_assoc]
    rw [readValue_brace (level + 1) hopens, hread, Option.map_some, ofMembers_some]

lemma readValue_succ (h : ReadsBack sp fuel) (hj : j.Whole)
    (hfuel : 2 * (sp.chars level j).length ≤ fuel + 1) (hs : Ends s) :
    readValue (fuel + 1) (sp.chars level j ++ s) = some (j, s) := by
  cases hj with
  | null => rfl
  | bool b => cases b <;> rfl
  | int i =>
    obtain ⟨c, cs, hi, hc⟩ := intText_cons i
    have hread := readNumber_intText hs i
    rw [hi] at hread
    simp only [Spacing.chars, leafText, hi, List.cons_append]
    rw [readValue_number hc]
    exact hread
  | str t =>
    simp only [Spacing.chars, leafText, quote, List.cons_append, List.append_assoc, readValue,
      List.nil_append, readText_quoted, Option.map_some, Option.getD_some]
  | arr hj => exact h.readValue_arr hj hfuel
  | obj hj => exact h.readValue_obj hj hfuel

lemma readItems_succ {rest : List Json} (h : ReadsBack sp fuel) (ha : a.Whole)
    (hrest : ∀ j ∈ rest, j.Whole)
    (hfuel : 2 * ((sp.chars (level + 1) a).length + (sp.items level rest).length) ≤ fuel + 1) :
    readItems (fuel + 1) (sp.chars (level + 1) a ++ (sp.items level rest ++ s)) =
      some (a :: rest, s) := by
  cases rest with
  | nil =>
    rw [Spacing.items, List.length_append, List.length_singleton] at hfuel
    have hvalue := h.value (n := level + 1) ha (by omega) (sp.ends_items level [] s)
    rw [Spacing.items, List.append_assoc] at hvalue ⊢
    exact readItems_last level hvalue
  | cons b rest =>
    rw [List.forall_mem_cons] at hrest
    simp only [Spacing.items, List.length_cons, List.length_append] at hfuel
    have hvalue := h.value (n := level + 1) ha (by omega) (sp.ends_items level (b :: rest) s)
    have hopens := (sp.opens_chars hrest.1 (level + 1)).append (sp.items level rest ++ s)
    rw [Spacing.items, List.cons_append, List.append_assoc, List.append_assoc] at hvalue ⊢
    rw [readItems_more (level + 1) hopens hvalue, h.items s hrest.1 hrest.2 (by omega),
      Option.map_some]

lemma readMembers_succ {rest : List (String × Json)} (h : ReadsBack sp fuel) (ha : a.Whole)
    (hrest : ∀ m ∈ rest, m.2.Whole)
    (hfuel : 2 * ((quote k).length + (sp.chars (level + 1) a).length +
      (sp.members level rest).length) ≤ fuel + 1) :
    readMembers (fuel + 1) (quote k ++ ':' :: (sp.colon ++
      (sp.chars (level + 1) a ++ (sp.members level rest ++ s)))) =
      some (((k, a) :: rest).map fun m => (some m.1, m.2), s) := by
  have hopens := (sp.opens_chars ha (level + 1)).append (sp.members level rest ++ s)
  have hquote := length_quote_pos k
  have hvalue := h.value (n := level + 1) ha (by omega) (sp.ends_members level rest s)
  cases rest with
  | nil =>
    rw [Spacing.members, List.append_assoc] at hvalue hopens ⊢
    exact readMembers_last level hopens hvalue
  | cons m rest =>
    obtain ⟨l, b⟩ := m
    rw [List.forall_mem_cons] at hrest
    simp only [Spacing.members, List.length_cons, List.length_append] at hfuel
    have hnext := (opens_quote l).append
      (':' :: (sp.colon ++ (sp.chars (level + 1) b ++ (sp.members level rest ++ s))))
    have hmore := h.members (k := l) (a := b) (n := level) s hrest.1 hrest.2 (by omega)
    simp only [Spacing.members, List.cons_append, List.append_assoc] at hvalue hopens ⊢
    rw [readMembers_more (level + 1) hopens hnext hvalue, hmore, Option.map_some]
    rfl

end ReadsBack

lemma readsBack (sp : Spacing) (fuel : Nat) : ReadsBack sp fuel := by
  induction fuel with
  | zero =>
    constructor
    · intro j level s hj hfuel hs
      obtain ⟨c, cs, hc, -⟩ := sp.opens_chars hj level
      simp [hc] at hfuel
    · intro a rest level s ha hrest hfuel
      obtain ⟨c, cs, hc, -⟩ := sp.opens_chars ha (level + 1)
      rw [hc, List.length_cons] at hfuel
      omega
    · intro k a rest level s ha hrest hfuel
      have hquote := length_quote_pos k
      omega
  | succ fuel ih =>
    exact ⟨ih.readValue_succ, fun _ => ih.readItems_succ, fun _ => ih.readMembers_succ⟩

lemma read_chars (sp : Spacing) {j : Json} (h : j.Whole) : read (sp.chars 0 j) = some j := by
  have hends : Ends [] := fun _ hc => by cases hc
  have hread := (readsBack sp _).value (n := 0) h (Nat.le_add_right _ 2) hends
  rw [List.append_nil] at hread
  rw [read, (sp.opens_chars h 0).skipSpace, hread]
  rfl

theorem parse_pretty {j : Json} (h : j.Whole) : parse j.pretty = some j := by
  rw [parse, pretty, String.toList_ofList, ← Spacing.chars_indented, read_chars _ h]

theorem parse_compact {j : Json} (h : j.Whole) : parse j.compact = some j := by
  rw [parse, compact, String.toList_ofList, ← Spacing.chars_onOneLine 0, read_chars _ h]

end SoapWrap.Json
