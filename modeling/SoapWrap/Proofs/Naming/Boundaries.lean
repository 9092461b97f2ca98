import Mathlib.Logic.ExistsUnique
import SoapWrap.Proofs.Naming.Words

/-! Where words end: which letters of a name, its alphanumeric characters, the same word holds, and
that the character in front of a capital is there whenever it decides over a word. -/

namespace SoapWrap.Naming

variable {name current before rest : List Char} {ws : List (List Char)} {i j k n p : Nat}
variable {a b c : Char}

section Positions

def LetterAt (name : List Char) (i : Nat) (c : Char) : Prop :=
  name[i]? = some c ∧ Text.isAlnum c = true

def lettersBefore (name : List Char) (i : Nat) : Nat := (name.take i).countP Text.isAlnum

def wordStart (ws : List (List Char)) (j : Nat) : Nat := (ws.take j).flatten.length

/-- The word holds the letter at the position: in front of it there are as many characters in the words
as there are letters in the name. -/
def Holds (name : List Char) (ws : List (List Char)) (j i : Nat) : Prop :=
  ∃ c front back, LetterAt name i c ∧ ws[j]? = some (front ++ c :: back) ∧
    wordStart ws j + front.length = lettersBefore name i

structure CutAtBoundaries (name : List Char) (ws : List (List Char)) : Prop where
  ne_nil : ∀ word ∈ ws, word ≠ []
  flatten_eq : ws.flatten = name.filter Text.isAlnum
  existsUnique_holds : ∀ i c, LetterAt name i c → ∃! j, Holds name ws j i
  adjacent : ∀ i a b j k, LetterAt name i a → LetterAt name (i + 1) b → Holds name ws j i →
    Holds name ws k (i + 1) → (j ≠ k ↔ Text.isUpper b = true ∧
      (Text.isUpper a = false ∨ ∃ c, name[i + 2]? = some c ∧ Text.isLower c = true))
  separated : ∀ i m n c j k, i < m → m < n → name[m]? = some c → Text.isAlnum c = false →
    Holds name ws j i → Holds name ws k n → j ≠ k

lemma lettersBefore_mono (name : List Char) (h : i ≤ k) :
    lettersBefore name i ≤ lettersBefore name k :=
  ((List.take_prefix_take_left h).sublist).countP_le

lemma lettersBefore_succ (h : LetterAt name i c) :
    lettersBefore name (i + 1) = lettersBefore name i + 1 := by
  rw [lettersBefore, List.take_add_one, h.1, Option.toList_some, List.countP_append,
    List.countP_singleton, if_pos h.2, lettersBefore]

lemma wordStart_mono (ws : List (List Char)) (h : j ≤ k) : wordStart ws j ≤ wordStart ws k := by
  obtain ⟨more, hmore⟩ := List.take_prefix_take_left (l := ws) h
  rw [wordStart, wordStart, ← hmore, List.flatten_append, List.length_append]
  exact Nat.le_add_right _ _

lemma wordStart_succ {word : List Char} (h : ws[j]? = some word) :
    wordStart ws (j + 1) = wordStart ws j + word.length := by
  rw [wordStart, List.take_add_one, h, Option.toList_some, List.flatten_append, List.length_append,
    List.flatten_singleton, wordStart]

lemma Holds.between (h : Holds name ws j i) :
    wordStart ws j ≤ lettersBefore name i ∧ lettersBefore name i < wordStart ws (j + 1) := by
  obtain ⟨c, front, back, -, hword, hstart⟩ := h
  rw [wordStart_succ hword, List.length_append, List.length_cons]
  omega

lemma Holds.le (hj : Holds name ws j i) (hk : Holds name ws k i) : j ≤ k := by
  refine Nat.le_of_not_lt fun h => ?_
  have hmono : wordStart ws (k + 1) ≤ wordStart ws j := wordStart_mono ws h
  have hfrom := hj.between.1
  have hto := hk.between.2
  omega

lemma Holds.unique (hj : Holds name ws j i) (hk : Holds name ws k i) : j = k :=
  Nat.le_antisymm (hj.le hk) (hk.le hj)

lemma Holds.lt_iff (h : Holds name ws j i) (hcut : wordStart ws n = lettersBefore name p) :
    j < n ↔ i < p := by
  obtain ⟨hfrom, hto⟩ := h.between
  obtain ⟨c, -, -, hletter, -⟩ := h
  have hsucc := lettersBefore_succ hletter
  constructor
  · intro hj
    have hwords : wordStart ws (j + 1) ≤ wordStart ws n := wordStart_mono ws hj
    refine Nat.lt_of_not_le fun hp => ?_
    have hletters := lettersBefore_mono name hp
    omega
  · intro hi
    have hletters : lettersBefore name (i + 1) ≤ lettersBefore name p := lettersBefore_mono name hi
    refine Nat.lt_of_not_le fun hn => ?_
    have hwords := wordStart_mono ws hn
    omega

lemma Holds.ne_of_cut (hj : Holds name ws j i) (hk : Holds name ws k n)
    {m : Nat} (hcut : wordStart ws m = lettersBefore name p) (hi : i < p) (hn : p ≤ n) : j ≠ k := by
  have hjm := (hj.lt_iff hcut).mpr hi
  have hkm := mt (hk.lt_iff hcut).mp (Nat.not_lt.mpr hn)
  omega

end Positions

section Run

lemma exists_wordsFrom_cons (current : List Char) (c : Char) (rest : List Char) :
    ∃ ws next, wordsFrom current (c :: rest) = ws ++ wordsFrom next rest ∧
      ws.flatten ++ next = current ++ [c].filter Text.isAlnum ∧
      next.getLast? = ([c].filter Text.isAlnum).getLast? := by
  rw [wordsFrom]
  split
  · next hc =>
    rw [List.filter_cons_of_pos hc, List.filter_nil]
    cases hlast : current.getLast? with
    | none =>
      rw [List.getLast?_eq_none_iff.mp hlast]
      exact ⟨[], [c], rfl, rfl, rfl⟩
    | some prev =>
      dsimp only
      split
      · exact ⟨[current], [c], rfl, by simp, rfl⟩
      · exact ⟨[], current ++ [c], rfl, by simp, by simp⟩
  · next hc =>
    rw [List.filter_cons_of_neg hc, List.filter_nil]
    split
    · next hnil => exact ⟨[], [], rfl, by simp [List.isEmpty_iff.mp hnil], rfl⟩
    · exact ⟨[current], [], rfl, by simp, rfl⟩

lemma exists_wordsFrom_append (current before : List Char) (c : Char) (rest : List Char) :
    ∃ ws next, wordsFrom current (before ++ c :: rest) = ws ++ wordsFrom next rest ∧
      ws.flatten ++ next = current ++ (before ++ [c]).filter Text.isAlnum ∧
      next.getLast? = ([c].filter Text.isAlnum).getLast? := by
  induction before generalizing current with
  | nil => exact exists_wordsFrom_cons current c rest
  | cons d more ih =>
    obtain ⟨ws, under, hwords, hflat, -⟩ := exists_wordsFrom_cons current d (more ++ c :: rest)
    obtain ⟨ws', next, hwords', hflat', hlast⟩ := ih under
    refine ⟨ws ++ ws', next, ?_, ?_, hlast⟩
    · rw [List.cons_append, hwords, hwords', List.append_assoc]
    · rw [List.flatten_append, List.append_assoc, hflat', ← List.append_assoc, hflat,
        List.append_assoc, ← List.filter_append]
      rfl

lemma exists_wordsFrom_eq_cons (hcurrent : current ≠ []) (rest : List Char) :
    ∃ more ws, wordsFrom current rest = (current ++ more) :: ws := by
  induction rest generalizing current with
  | nil =>
    have hne : ¬ current.isEmpty = true := mt List.isEmpty_iff.mp hcurrent
    exact ⟨[], [], by rw [wordsFrom, if_neg hne, List.append_nil]⟩
  | cons c tail ih =>
    rw [wordsFrom, List.getLast?_eq_some_getLast hcurrent]
    dsimp only
    split
    · split
      · exact ⟨[], _, by rw [List.append_nil]⟩
      · obtain ⟨more, ws, hwords⟩ := ih (List.concat_ne_nil c current)
        exact ⟨c :: more, ws, by rw [hwords, List.append_assoc, List.singleton_append]⟩
    · rw [if_neg (mt List.isEmpty_iff.mp hcurrent)]
      exact ⟨[], _, by rw [List.append_nil]⟩

lemma exists_words_at (h : name[i]? = some c) :
    ∃ ws next, words name = ws ++ wordsFrom next (name.drop (i + 1)) ∧
      ws.flatten.length + next.length = lettersBefore name (i + 1) ∧
      next.getLast? = ([c].filter Text.isAlnum).getLast? := by
  obtain ⟨hi, rfl⟩ := List.getElem?_eq_some_iff.mp h
  have hsplit : name.take i ++ name[i] :: name.drop (i + 1) = name := by
    rw [← List.drop_eq_getElem_cons hi, List.take_append_drop]
  have htake : name.take i ++ [name[i]] = name.take (i + 1) := List.take_append_getElem hi
  obtain ⟨ws, next, hwords, hflat, hlast⟩ :=
    exists_wordsFrom_append [] (name.take i) name[i] (name.drop (i + 1))
  rw [hsplit] at hwords
  rw [htake, List.nil_append] at hflat
  refine ⟨ws, next, hwords, ?_, hlast⟩
  rw [lettersBefore, List.countP_eq_length_filter, ← hflat, List.length_append]

lemma exists_words_at_letter (h : LetterAt name i c) :
    ∃ ws front, words name = ws ++ wordsFrom (front ++ [c]) (name.drop (i + 1)) ∧
      ws.flatten.length + front.length = lettersBefore name i := by
  obtain ⟨ws, next, hwords, hlength, hlast⟩ := exists_words_at h.1
  rw [List.filter_cons_of_pos h.2, List.filter_nil] at hlast
  obtain ⟨front, rfl⟩ := List.getLast?_eq_some_iff.mp hlast
  rw [lettersBefore_succ h, List.length_append, List.length_singleton] at hlength
  exact ⟨ws, front, hwords, by omega⟩

lemma exists_words_at_sign (h : name[i]? = some c) (hc : Text.isAlnum c = false) :
    ∃ ws, words name = ws ++ wordsFrom [] (name.drop (i + 1)) ∧
      ws.flatten.length = lettersBefore name (i + 1) := by
  obtain ⟨ws, next, hwords, hlength, hlast⟩ := exists_words_at h
  rw [List.filter_cons_of_neg (Bool.eq_false_iff.mp hc), List.filter_nil] at hlast
  obtain rfl := List.getLast?_eq_none_iff.mp hlast
  exact ⟨ws, hwords, hlength⟩

lemma wordStart_append (ws rest : List (List Char)) :
    wordStart (ws ++ rest) ws.length = ws.flatten.length := by
  rw [wordStart, List.take_left]

lemma holds_append {back : List Char} {rest : List (List Char)} (h : LetterAt name i c)
    (hstart : ws.flatten.length + current.length = lettersBefore name i) :
    Holds name (ws ++ (current ++ c :: back) :: rest) ws.length i :=
  ⟨c, current, back, h, by simp, by rw [wordStart_append, hstart]⟩

lemma exists_holds (h : LetterAt name i c) : ∃ j, Holds name (words name) j i := by
  obtain ⟨ws, front, hwords, hstart⟩ := exists_words_at_letter h
  obtain ⟨more, rest, hrest⟩ :=
    exists_wordsFrom_eq_cons (List.concat_ne_nil c front) (name.drop (i + 1))
  rw [hrest, List.append_assoc, List.singleton_append] at hwords
  exact ⟨ws.length, hwords ▸ holds_append h hstart⟩

lemma startsWord_iff (next : Option Char) : startsWord a b next = true ↔
    Text.isUpper b = true ∧ (Text.isUpper a = false ∨ ∃ c, next = some c ∧ Text.isLower c = true) := by
  simp [startsWord, Option.any_eq_true]

lemma holds_adjacent (ha : LetterAt name i a) (hb : LetterAt name (i + 1) b)
    (hj : Holds name (words name) j i) (hk : Holds name (words name) k (i + 1)) :
    j ≠ k ↔ startsWord a b name[i + 2]? = true := by
  obtain ⟨ws, front, hwords, hstart⟩ := exists_words_at_letter ha
  obtain ⟨hlength, hget⟩ := List.getElem?_eq_some_iff.mp hb.1
  rw [List.drop_eq_getElem_cons hlength, hget, wordsFrom, if_pos hb.2, List.getLast?_concat] at hwords
  dsimp only at hwords
  rw [List.head?_drop] at hwords
  cases hstarts : startsWord a b name[i + 2]? with
  | true =>
    rw [hstarts, if_pos rfl, ← List.singleton_append, ← List.append_assoc] at hwords
    have hcut : wordStart (words name) (ws ++ [front ++ [a]]).length = lettersBefore name (i + 1) := by
      rw [hwords, wordStart_append, lettersBefore_succ ha, ← hstart]
      simp [Nat.add_assoc]
    exact iff_of_true (hj.ne_of_cut hk hcut (Nat.lt_succ_self i) (Nat.le_refl _)) rfl
  | false =>
    rw [hstarts, if_neg Bool.false_ne_true] at hwords
    obtain ⟨more, rest, hrest⟩ :=
      exists_wordsFrom_eq_cons (List.concat_ne_nil b (front ++ [a])) (name.drop (i + 1 + 1))
    rw [hrest] at hwords
    have hholds : Holds name (words name) ws.length i := by
      rw [hwords, List.append_assoc, List.append_assoc, List.singleton_append]
      exact holds_append ha hstart
    have hholds' : Holds name (words name) ws.length (i + 1) := by
      rw [hwords, List.append_assoc, List.singleton_append]
      refine holds_append hb ?_
      rw [lettersBefore_succ ha, ← hstart, List.length_append, List.length_singleton, Nat.add_assoc]
    rw [hj.unique hholds, hk.unique hholds']
    exact iff_of_false (fun h => h rfl) Bool.false_ne_true

lemma holds_separated {m : Nat} (hi : i < m) (hn : m < n) (hm : name[m]? = some c)
    (hc : Text.isAlnum c = false) (hj : Holds name (words name) j i)
    (hk : Holds name (words name) k n) : j ≠ k := by
  obtain ⟨ws, hwords, hlength⟩ := exists_words_at_sign hm hc
  have hcut : wordStart (words name) ws.length = lettersBefore name (m + 1) := by
    rw [hwords, wordStart_append, hlength]
  exact hj.ne_of_cut hk hcut (Nat.lt_succ_of_lt hi) hn

lemma words_cutAtBoundaries (name : List Char) : CutAtBoundaries name (words name) where
  ne_nil := ne_nil_of_mem_wordsFrom [] name
  flatten_eq := flatten_words name
  existsUnique_holds i c h := by
    obtain ⟨j, hj⟩ := exists_holds h
    exact ⟨j, hj, fun k hk => hk.unique hj⟩
  adjacent i a b j k ha hb hj hk := by rw [holds_adjacent ha hb hj hk, startsWord_iff]
  separated i m n c j k hi hn hm hc hj hk := holds_separated hi hn hm hc hj hk

end Run

section Lookup

def charBefore? (name : List Char) : Nat → Option Char
  | 0 => none
  | i + 1 => name[i]?

/-- The words of the rest of a name from a position on. At a capital the characters around it are looked
up by their positions; there are no words if one in front of it is looked up that is not there. -/
def wordsAt? (name : List Char) (i : Nat) (current : List Char) :
    List Char → Option (List (List Char))
  | [] => some (if current.isEmpty then [] else [current])
  | c :: rest =>
    if Text.isAlnum c then
      if Text.isUpper c && !current.isEmpty then
        (charBefore? name i).bind fun prev =>
          if !Text.isUpper prev || name[i + 1]?.any Text.isLower then
            (wordsAt? name (i + 1) [c] rest).map (current :: ·)
          else wordsAt? name (i + 1) (current ++ [c]) rest
      else wordsAt? name (i + 1) (current ++ [c]) rest
    else
      (wordsAt? name (i + 1) [] rest).map ((if current.isEmpty then [] else [current]) ++ ·)

lemma charBefore?_append (front : List Char) (b : Char) (rest : List Char) :
    charBefore? (front ++ [b] ++ rest) (front ++ [b]).length = some b := by
  rw [List.length_append, List.length_singleton, charBefore?, List.append_assoc]
  simp

lemma wordsAt?_eq (before : List Char) (hname : name = before ++ rest)
    (hcurrent : current ≠ [] → before.getLast? = current.getLast?) :
    wordsAt? name before.length current rest = some (wordsFrom current rest) := by
  induction rest generalizing before current with
  | nil => rw [wordsAt?, wordsFrom]
  | cons c rest ih =>
    have hrest : ∀ next : List Char, (next ≠ [] → some c = next.getLast?) →
        wordsAt? name (before.length + 1) next rest = some (wordsFrom next rest) := by
      intro next hnext
      rw [← @List.length_singleton _ c, ← List.length_append]
      refine ih (before ++ [c]) (by rw [hname, List.append_assoc, List.singleton_append]) fun hne => ?_
      rw [List.getLast?_concat, hnext hne]
    have hone := hrest [c] fun _ => rfl
    have hgoes := hrest (current ++ [c]) fun _ => by rw [List.getLast?_concat]
    have hnone := hrest [] fun h => absurd rfl h
    have hahead : name[before.length + 1]? = rest.head? := by
      rw [hname, List.getElem?_append_right (Nat.le_succ _), List.head?_eq_getElem?]
      simp
    rw [wordsAt?, wordsFrom]
    split
    · cases hlast : current.getLast? with
      | none =>
        obtain rfl := List.getLast?_eq_none_iff.mp hlast
        simpa using hone
      | some prev =>
        have hne : current ≠ [] := by
          rintro rfl
          cases hlast
        obtain ⟨front, rfl⟩ := List.getLast?_eq_some_iff.mp ((hcurrent hne).trans hlast)
        have hprev : charBefore? name (front ++ [prev]).length = some prev := by
          rw [hname, charBefore?_append]
        cases hupper : Text.isUpper c with
        | true =>
          have hunder : (!current.isEmpty) = true := by simp [hne]
          simp only [hprev, hahead, startsWord, hupper, hunder, Bool.true_and, if_true,
            Option.bind_some]
          split
          · rw [hone, Option.map_some]
          · exact hgoes
        | false =>
          simp only [startsWord, hupper, Bool.false_and, Bool.false_eq_true, if_false]
          exact hgoes
    · rw [hnone, Option.map_some]
      split <;> rfl

end Lookup

theorem splitWords_cuts_at_boundaries (s : String) :
    wordsAt? s.toList 0 [] s.toList = some ((splitWords s).map String.toList) ∧
      CutAtBoundaries s.toList ((splitWords s).map String.toList) := by
  have hwords : (splitWords s).map String.toList = words s.toList := by
    simp [splitWords]
  rw [hwords]
  exact ⟨wordsAt?_eq [] rfl fun h => absurd rfl h, words_cutAtBoundaries s.toList⟩

example : splitWords "XMLParser2nd_URLId" = ["XML", "Parser2nd", "URL", "Id"] := by decide +kernel

end SoapWrap.Naming
