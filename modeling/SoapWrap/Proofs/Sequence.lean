import Mathlib.Data.List.Forall2
import Mathlib.Data.List.Nodup
import Mathlib.Tactic.Lemma
import SoapWrap.Sequence

namespace SoapWrap

variable {α β ε : Type}

section Except

variable {x : Except ε α}

lemma bind_eq_ok_iff {f : α → Except ε β} {b : β} :
    (x >>= f) = .ok b ↔ ∃ a, x = .ok a ∧ f a = .ok b := by
  cases x <;> simp [bind, Except.bind]

lemma map_eq_ok_iff {f : α → β} {b : β} : x.map f = .ok b ↔ ∃ a, x = .ok a ∧ f a = b := by
  cases x <;> simp [Except.map]

lemma pure_eq_ok_iff {a b : α} : (pure a : Except ε α) = .ok b ↔ a = b :=
  Iff.of_eq (Except.ok.injEq a b)

end Except

lemma mapM_map_some {f : β → Option α} {g : α → β} {as : List α}
    (h : ∀ a ∈ as, f (g a) = some a) : (as.map g).mapM f = some as := by
  induction as with
  | nil => rfl
  | cons a rest ih =>
    rw [List.forall_mem_cons] at h
    rw [List.map_cons, List.mapM_cons, h.1, ih h.2]
    rfl

lemma mapAll_cons_ok_iff {f : α → Except ε β} {a : α} {as : List α} {bs : List β} :
    mapAll f (a :: as) = .ok bs ↔ ∃ c cs, f a = .ok c ∧ mapAll f as = .ok cs ∧ bs = c :: cs := by
  rw [mapAll]
  cases f a with
  | error e => simp
  | ok c =>
    cases mapAll f as with
    | error e => simp
    | ok cs => simp [eq_comm]

lemma mapAll_eq_ok_iff {f : α → Except ε β} {as : List α} {bs : List β} :
    mapAll f as = .ok bs ↔ as.map f = bs.map .ok := by
  induction as generalizing bs with
  | nil => cases bs <;> simp [mapAll]
  | cons a rest ih =>
    rw [mapAll_cons_ok_iff]
    cases bs with
    | nil => simp
    | cons b bs => simp [ih]

lemma mapAll_ok {f : α → Except ε β} {as : List α} {bs : List β} (h : mapAll f as = .ok bs) :
    as.map f = bs.map .ok :=
  mapAll_eq_ok_iff.mp h

lemma mapAll_eq_ok_iff_forall₂ {f : α → Except ε β} {as : List α} {bs : List β} :
    mapAll f as = .ok bs ↔ List.Forall₂ (fun a b => f a = .ok b) as bs := by
  rw [mapAll_eq_ok_iff, ← List.forall₂_eq_eq_eq, List.forall₂_map_left_iff,
    List.forall₂_map_right_iff]

lemma forall₂_iff_forall_mem {R Q : α → β → Prop} {p : α → Prop} {as : List α} {bs : List β}
    (h : List.Forall₂ R as bs) (hq : ∀ a b, R a b → (Q a b ↔ p a)) :
    List.Forall₂ Q as bs ↔ ∀ a ∈ as, p a := by
  induction h with
  | nil => simp
  | cons hab _ ih => rw [List.forall₂_cons, List.forall_mem_cons, hq _ _ hab, ih]

lemma forall_mem_iff_of_forall₂ {R : α → β → Prop} {p : α → Prop} {q : β → Prop} {as : List α}
    {bs : List β} (h : List.Forall₂ R as bs) (hpq : ∀ a b, R a b → (p a ↔ q b)) :
    (∀ a ∈ as, p a) ↔ ∀ b ∈ bs, q b := by
  induction h with
  | nil => simp
  | cons hab _ ih => rw [List.forall_mem_cons, List.forall_mem_cons, hpq _ _ hab, ih]

lemma exists_mapAll_ok_iff {f : α → Except ε β} {as : List α} :
    (∃ bs, mapAll f as = .ok bs) ↔ ∀ a ∈ as, ∃ b, f a = .ok b := by
  induction as with
  | nil => exact ⟨fun _ => List.forall_mem_nil _, fun _ => ⟨[], rfl⟩⟩
  | cons a rest ih =>
    rw [List.forall_mem_cons, ← ih]
    constructor
    · rintro ⟨bs, h⟩
      obtain ⟨b, cs, hb, hcs, -⟩ := mapAll_cons_ok_iff.mp h
      exact ⟨⟨b, hb⟩, cs, hcs⟩
    · rintro ⟨⟨b, hb⟩, cs, hcs⟩
      exact ⟨b :: cs, mapAll_cons_ok_iff.mpr ⟨b, cs, hb, hcs, rfl⟩⟩

lemma mem_of_mapAll {f : α → Except ε β} {as : List α} {bs : List β} (h : mapAll f as = .ok bs)
    {b : β} (hb : b ∈ bs) : ∃ a ∈ as, f a = .ok b := by
  have hm : Except.ok b ∈ as.map f := by
    rw [mapAll_ok h]
    exact List.mem_map_of_mem hb
  exact List.mem_map.mp hm

lemma map_eq_of_mapAll {γ : Type} {f : α → Except ε β} {g : β → γ} {k : α → γ} {as : List α}
    {bs : List β} (h : mapAll f as = .ok bs) (hg : ∀ a b, f a = .ok b → g b = k a) :
    bs.map g = as.map k := by
  induction as generalizing bs with
  | nil =>
    rw [mapAll, Except.ok.injEq] at h
    rw [← h, List.map_nil, List.map_nil]
  | cons a rest ih =>
    obtain ⟨b, bs, hb, hbs, rfl⟩ := mapAll_cons_ok_iff.mp h
    rw [List.map_cons, List.map_cons, hg a b hb, ih hbs]

lemma mapAll_doubted {f g : α → Except ε β} (doubted : α → Bool) (error : α → ε) {as : List α}
    {bs : List β} (hg : ∀ a ∈ as, ∀ b, f a = .ok b →
      g a = if doubted a then .error (error a) else .ok b) (h : mapAll f as = .ok bs) :
    mapAll g as = (as.find? doubted).elim (.ok bs) fun a => .error (error a) := by
  induction as generalizing bs with
  | nil => exact h
  | cons a rest ih =>
    obtain ⟨b, bs, hb, hbs, rfl⟩ := mapAll_cons_ok_iff.mp h
    rw [List.forall_mem_cons] at hg
    rw [mapAll, hg.1 b hb]
    cases hd : doubted a with
    | true =>
      rw [List.find?_cons_of_pos hd]
      rfl
    | false =>
      rw [List.find?_cons_of_neg (Bool.eq_false_iff.mp hd)]
      simp only [Bool.false_eq_true, if_false, ih hg.2 hbs]
      cases rest.find? doubted <;> rfl

lemma mapAll_mono {f g : α → Except ε β} {as : List α} {bs : List β}
    (hg : ∀ a ∈ as, ∀ {b}, f a = .ok b → g a = .ok b) (h : mapAll f as = .ok bs) :
    mapAll g as = .ok bs := by
  induction as generalizing bs with
  | nil => exact h
  | cons a rest ih =>
    obtain ⟨b, bs, hb, hbs, rfl⟩ := mapAll_cons_ok_iff.mp h
    rw [List.forall_mem_cons] at hg
    exact mapAll_cons_ok_iff.mpr ⟨b, bs, hg.1 hb, ih (fun a ha _ => hg.2 a ha) hbs, rfl⟩

lemma mapAll_perm {f : α → Except ε β} {as as' : List α} (hp : as.Perm as') {bs : List β}
    (h : mapAll f as = .ok bs) : ∃ bs', mapAll f as' = .ok bs' ∧ bs.Perm bs' := by
  induction hp generalizing bs with
  | nil => exact ⟨bs, h, .refl bs⟩
  | cons a _ ih =>
    obtain ⟨b, bs, hb, hbs, rfl⟩ := mapAll_cons_ok_iff.mp h
    obtain ⟨bs', hbs', hperm⟩ := ih hbs
    exact ⟨b :: bs', mapAll_cons_ok_iff.mpr ⟨b, bs', hb, hbs', rfl⟩, hperm.cons b⟩
  | swap a c rest =>
    obtain ⟨d, _, hd, hds, rfl⟩ := mapAll_cons_ok_iff.mp h
    obtain ⟨b, bs, hb, hbs, rfl⟩ := mapAll_cons_ok_iff.mp hds
    have hrest := mapAll_cons_ok_iff.mpr ⟨d, bs, hd, hbs, rfl⟩
    exact ⟨b :: d :: bs, mapAll_cons_ok_iff.mpr ⟨b, d :: bs, hb, hrest, rfl⟩, .swap b d bs⟩
  | trans _ _ ih ih' =>
    obtain ⟨bs', hbs', hperm⟩ := ih h
    obtain ⟨bs'', hbs'', hperm'⟩ := ih' hbs'
    exact ⟨bs'', hbs'', hperm.trans hperm'⟩

lemma mapAll_error {f : α → Except ε β} {as : List α} {e : ε} (h : mapAll f as = .error e) :
    ∃ a ∈ as, f a = .error e := by
  induction as with
  | nil => simp [mapAll] at h
  | cons a rest ih =>
    rw [mapAll] at h
    split at h
    · next ha => exact ⟨a, by simp, Except.error.inj h ▸ ha⟩
    · split at h
      · next hr =>
        obtain ⟨b, hb, hf⟩ := ih (Except.error.inj h ▸ hr)
        exact ⟨b, List.mem_cons_of_mem a hb, hf⟩
      · simp at h

inductive FirstWithout (p : α → Prop) : List α → α → Prop
  | here {a : α} {rest : List α} : ¬ p a → FirstWithout p (a :: rest) a
  | later {a b : α} {rest : List α} : p b → FirstWithout p rest a → FirstWithout p (b :: rest) a

lemma firstWithout_cons_iff {p : α → Prop} {as : List α} {a b : α} :
    FirstWithout p (b :: as) a ↔ (¬ p b ∧ a = b) ∨ (p b ∧ FirstWithout p as a) := by
  constructor
  · intro h
    cases h with
    | here hb => exact .inl ⟨hb, rfl⟩
    | later hb hrest => exact .inr ⟨hb, hrest⟩
  · rintro (⟨hb, rfl⟩ | ⟨hb, hrest⟩)
    · exact .here hb
    · exact .later hb hrest

lemma FirstWithout.not_holds {p : α → Prop} {as : List α} {a : α} (h : FirstWithout p as a) :
    ¬ p a := by
  induction h with
  | here ha => exact ha
  | later _ _ ih => exact ih

lemma FirstWithout.mem {p : α → Prop} {as : List α} {a : α} (h : FirstWithout p as a) : a ∈ as := by
  induction h with
  | here => exact List.mem_cons_self
  | later _ _ ih => exact List.mem_cons_of_mem _ ih

lemma FirstWithout.unique {p : α → Prop} {as : List α} {a b : α} (ha : FirstWithout p as a)
    (hb : FirstWithout p as b) : a = b := by
  induction ha with
  | here hna =>
    cases hb with
    | here => rfl
    | later hp => exact absurd hp hna
  | later hp _ ih =>
    cases hb with
    | here hnp => exact absurd hp hnp
    | later _ hb => exact ih hb

lemma firstWithout_map_iff {f : α → β} {p : β → Prop} {as : List α} {b : β} :
    FirstWithout p (as.map f) b ↔ ∃ a, FirstWithout (fun a => p (f a)) as a ∧ f a = b := by
  induction as with
  | nil =>
    constructor
    · intro h
      cases h
    · rintro ⟨a, h, -⟩
      cases h
  | cons c rest ih =>
    simp only [List.map_cons, firstWithout_cons_iff, ih]
    constructor
    · rintro (⟨hc, rfl⟩ | ⟨hc, a, ha, rfl⟩)
      · exact ⟨c, .inl ⟨hc, rfl⟩, rfl⟩
      · exact ⟨a, .inr ⟨hc, ha⟩, rfl⟩
    · rintro ⟨a, ⟨hc, rfl⟩ | ⟨hc, ha⟩, rfl⟩
      · exact .inl ⟨hc, rfl⟩
      · exact .inr ⟨hc, a, ha, rfl⟩

lemma firstWithout_congr {p q : α → Prop} {as : List α} {a : α} (h : ∀ b ∈ as, p b ↔ q b) :
    FirstWithout p as a ↔ FirstWithout q as a := by
  induction as with
  | nil =>
    constructor <;> intro h <;> cases h
  | cons b rest ih =>
    rw [List.forall_mem_cons] at h
    rw [firstWithout_cons_iff, firstWithout_cons_iff, h.1, ih h.2]

lemma firstWithout_filter_iff {p : α → Prop} {q : α → Bool} {as : List α} {a : α}
    (hq : ∀ b ∈ as, q b = false → p b) :
    FirstWithout p (as.filter q) a ↔ FirstWithout p as a := by
  induction as with
  | nil => rfl
  | cons b rest ih =>
    rw [List.forall_mem_cons] at hq
    cases hb : q b with
    | true =>
      rw [List.filter_cons_of_pos hb, firstWithout_cons_iff, firstWithout_cons_iff, ih hq.2]
    | false =>
      rw [List.filter_cons_of_neg (by simp [hb]), ih hq.2, firstWithout_cons_iff]
      simp only [hq.1 hb, not_true_eq_false, false_and, true_and, false_or]

lemma mapAll_eq_error_iff {f : α → Except ε β} {as : List α} {e : ε} :
    mapAll f as = .error e ↔
      ∃ a, FirstWithout (fun b => ∃ c, f b = .ok c) as a ∧ f a = .error e := by
  induction as with
  | nil =>
    constructor
    · intro h
      cases h
    · rintro ⟨a, h, -⟩
      cases h
  | cons b rest ih =>
    simp only [firstWithout_cons_iff]
    rw [mapAll]
    cases hb : f b with
    | error e' => simp [hb]
    | ok c =>
      cases hr : mapAll f rest with
      | error e' =>
        rw [hr] at ih
        simp [ih]
      | ok cs =>
        rw [hr] at ih
        simpa using ih

lemma nodup_of_firstRepeated [DecidableEq α] {seen as : List α}
    (h : firstRepeated seen as = none) : as.Nodup ∧ ∀ a ∈ as, a ∉ seen := by
  induction as generalizing seen with
  | nil => simp
  | cons a rest ih =>
    unfold firstRepeated at h
    split at h
    · simp at h
    · next ha =>
      obtain ⟨hd, hs⟩ := ih h
      refine ⟨List.nodup_cons.2 ⟨fun hm => hs a hm (by simp), hd⟩, fun b hb => ?_⟩
      rcases List.mem_cons.1 hb with rfl | hb
      · exact ha
      · exact fun hbs => hs b hb (by simp [hbs])

lemma firstRepeated_eq_none_iff [DecidableEq α] {seen as : List α} :
    firstRepeated seen as = none ↔ as.Nodup ∧ ∀ a ∈ as, a ∉ seen := by
  refine ⟨nodup_of_firstRepeated, fun h => ?_⟩
  induction as generalizing seen with
  | nil => rfl
  | cons a rest ih =>
    obtain ⟨hd, hs⟩ := h
    rw [List.nodup_cons] at hd
    rw [firstRepeated]
    rw [if_neg (hs a (by simp))]
    refine ih ⟨hd.2, fun b hb hm => ?_⟩
    rcases List.mem_cons.mp hm with rfl | hm
    · exact hd.1 hb
    · exact hs b (List.mem_cons_of_mem a hb) hm

lemma mem_of_firstRepeated [DecidableEq α] {seen as : List α} {a : α}
    (h : firstRepeated seen as = some a) : a ∈ as := by
  induction as generalizing seen with
  | nil => simp [firstRepeated] at h
  | cons b rest ih =>
    rw [firstRepeated] at h
    split at h
    · simp [Option.some.inj h]
    · exact List.mem_cons_of_mem b (ih h)

lemma split_of_firstRepeated [DecidableEq α] {seen as : List α} {a : α}
    (h : firstRepeated seen as = some a) :
    ∃ before after, as = before ++ a :: after ∧ firstRepeated seen before = none ∧
      (a ∈ seen ∨ a ∈ before) := by
  induction as generalizing seen with
  | nil => cases h
  | cons b rest ih =>
    rw [firstRepeated] at h
    split at h
    · next hb =>
      obtain rfl := Option.some.inj h
      exact ⟨[], rest, rfl, rfl, .inl hb⟩
    · next hb =>
      obtain ⟨before, after, rfl, hnone, ha⟩ := ih h
      refine ⟨b :: before, after, rfl, (if_neg hb).trans hnone, ?_⟩
      rw [List.mem_cons] at ha ⊢
      rcases ha with (ha | ha) | ha
      · exact .inr (.inl ha)
      · exact .inl ha
      · exact .inr (.inr ha)

lemma mem_firstOccurrences [DecidableEq α] {as : List α} {a : α} :
    a ∈ firstOccurrences as ↔ a ∈ as := by
  induction as with
  | nil => rfl
  | cons b rest ih =>
    simp only [firstOccurrences, List.mem_cons, List.mem_filter, ih, decide_eq_true_eq]
    by_cases h : a = b
    · simp [h]
    · simp [h]

lemma filter_firstOccurrences [DecidableEq α] (q : α → Bool) (as : List α) :
    (firstOccurrences as).filter q = firstOccurrences (as.filter q) := by
  induction as with
  | nil => rfl
  | cons a rest ih =>
    rw [firstOccurrences]
    cases ha : q a with
    | true =>
      rw [List.filter_cons_of_pos ha, List.filter_cons_of_pos ha, firstOccurrences, ← ih,
        List.filter_comm]
    | false =>
      rw [List.filter_cons_of_neg (by simp [ha]), List.filter_cons_of_neg (by simp [ha]), ← ih,
        List.filter_comm]
      -- What is left has not been dropped by `q`, which drops `a`.
      refine List.filter_eq_self.mpr fun b hb => decide_eq_true ?_
      rintro rfl
      rw [(List.mem_filter.mp hb).2] at ha
      cases ha

lemma firstOccurrences_eq_eraseDups [DecidableEq α] :
    ∀ as : List α, firstOccurrences as = as.eraseDups
  | [] => rfl
  | a :: rest => by
    have hne : (fun b => decide (b ≠ a)) = fun b => !b == a := by
      funext b
      rw [decide_not]
      rfl
    rw [firstOccurrences, filter_firstOccurrences, List.eraseDups_cons,
      firstOccurrences_eq_eraseDups, hne]
termination_by as => as.length
decreasing_by exact Nat.lt_succ_of_le (List.length_filter_le _ rest)

lemma firstOccurrences_append_singleton [DecidableEq α] (as : List α) (a : α) :
    firstOccurrences (as ++ [a]) =
      if a ∈ as then firstOccurrences as else firstOccurrences as ++ [a] := by
  rw [firstOccurrences_eq_eraseDups, firstOccurrences_eq_eraseDups, List.eraseDups_append]
  split
  · next ha => simp [List.removeAll, ha]
  · next ha => simp [List.removeAll, ha, List.eraseDups_cons]

lemma nodup_firstOccurrences [DecidableEq α] (as : List α) : (firstOccurrences as).Nodup := by
  induction as with
  | nil => exact .nil
  | cons a rest ih =>
    rw [firstOccurrences, List.nodup_cons]
    exact ⟨by simp, ih.filter _⟩

lemma firstWithout_firstOccurrences_iff [DecidableEq α] {p : α → Prop} {as : List α} {a : α} :
    FirstWithout p (firstOccurrences as) a ↔ FirstWithout p as a := by
  induction as with
  | nil => rfl
  | cons b rest ih =>
    rw [firstOccurrences, firstWithout_cons_iff, firstWithout_cons_iff]
    refine or_congr_right (and_congr_right fun hb => ?_)
    rw [firstWithout_filter_iff fun c _ hc => ?_, ih]
    obtain rfl : c = b := by simpa using hc
    exact hb

lemma find?_eq_some_of_unique {p : α → Bool} {xs : List α} {a : α} (ha : a ∈ xs)
    (hp : p a = true) (hu : ∀ b ∈ xs, p b = true → b = a) : xs.find? p = some a := by
  cases hf : xs.find? p with
  | none => exact absurd hp (by simpa using List.find?_eq_none.mp hf a ha)
  | some b => rw [hu b (List.mem_of_find?_eq_some hf) (List.find?_some hf)]

section Lookup

variable [BEq α] [LawfulBEq α] {entries : List (α × β)}

lemma lookup_of_mem (h : (entries.map (·.1)).Nodup) :
    ∀ e ∈ entries, entries.lookup e.1 = some e.2 := by
  induction entries with
  | nil => exact List.forall_mem_nil _
  | cons e rest ih =>
    rw [List.map_cons, List.nodup_cons] at h
    refine List.forall_mem_cons.mpr ⟨List.lookup_cons_self, fun e' he' => ?_⟩
    have hne : e'.1 ≠ e.1 := fun he => h.1 (he ▸ List.mem_map_of_mem he')
    rw [List.lookup_cons, beq_eq_false_iff_ne.mpr hne]
    exact ih h.2 e' he'

lemma lookup_cons_eq_ite [DecidableEq α] {a a' : α} {b : β} :
    ((a', b) :: entries).lookup a = if a = a' then some b else entries.lookup a := by
  rw [List.lookup_cons]
  split
  · next h => rw [if_pos (beq_iff_eq.mp h)]
  · next h => rw [if_neg (beq_eq_false_iff_ne.mp h)]

lemma mem_of_lookup {a : α} {b : β} (h : entries.lookup a = some b) : (a, b) ∈ entries := by
  obtain ⟨before, after, rfl, -⟩ := List.lookup_eq_some_iff.mp h
  exact List.mem_append_right before List.mem_cons_self

lemma lookup_eq_some_iff_mem (h : (entries.map (·.1)).Nodup) {a : α} {b : β} :
    entries.lookup a = some b ↔ (a, b) ∈ entries :=
  ⟨mem_of_lookup, lookup_of_mem h (a, b)⟩

end Lookup

lemma forall_mem_pair {p : α → Prop} {a b : α} : (∀ x ∈ [a, b], p x) ↔ p a ∧ p b := by
  rw [List.forall_mem_cons, List.forall_mem_singleton]

lemma append_cons_inj {a b s r : List α} {sep : α} (ha : sep ∉ a) (hb : sep ∉ b) :
    a ++ sep :: s = b ++ sep :: r ↔ a = b ∧ s = r := by
  induction a generalizing b with
  | nil =>
    cases b with
    | nil => simp
    | cons y b => simp [List.ne_of_not_mem_cons hb]
  | cons x a ih =>
    cases b with
    | nil => simp [(List.ne_of_not_mem_cons ha).symm]
    | cons y b =>
      have ht := ih (List.not_mem_of_not_mem_cons ha) (List.not_mem_of_not_mem_cons hb)
      simp [ht, and_assoc]

lemma scan_of_head {p : α → Bool} {s : List α} (h : ∀ c ∈ s.head?, p c = false) :
    s.takeWhile p = [] ∧ s.dropWhile p = s := by
  cases s with
  | nil => exact ⟨rfl, rfl⟩
  | cons c rest =>
    have hc : ¬ p c = true := by simp [h c rfl]
    exact ⟨List.takeWhile_cons_of_neg hc, List.dropWhile_cons_of_neg hc⟩

lemma head_dropWhile {p : α → Bool} (s : List α) : ∀ c ∈ (s.dropWhile p).head?, p c = false := by
  intro c hc
  have h := List.head?_dropWhile_not p s
  rwa [hc] at h

lemma drop_eq_cons {as rest : List α} {a : α} {k : Nat} (h : as.drop k = a :: rest) :
    as[k]? = some a ∧ as.drop (k + 1) = rest := by
  have hd := congrArg List.head? h
  have ht := congrArg List.tail h
  simp only [List.head?_drop, List.head?_cons] at hd
  simp only [List.tail_drop, List.tail_cons] at ht
  exact ⟨hd, ht⟩

end SoapWrap
