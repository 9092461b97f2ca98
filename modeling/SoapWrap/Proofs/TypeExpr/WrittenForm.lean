import SoapWrap.Proofs.TypeExpr.Grammar

namespace SoapWrap.TypeExpr

mutual
lemma Spells.isName {s : List Char} {t : TypeExpr} (h : Spells s t) :
    ∀ u ∈ t.walk, IsName u.base.toList := by
  cases h with
  | plain _ hname _ =>
    simp only [walk, walkAll, List.forall_mem_singleton, base, String.toList_ofList]
    exact hname
  | applied _ hname _ hargs _ =>
    rw [walk, List.forall_mem_cons]
    exact ⟨by simpa only [base, String.toList_ofList] using hname, hargs.isName⟩
lemma SpellsArgs.isName {s : List Char} {ts : List TypeExpr} (h : SpellsArgs s ts) :
    ∀ u ∈ walkAll ts, IsName u.base.toList := by
  cases h with
  | last ht =>
    rw [walkAll, walkAll, List.append_nil]
    exact ht.isName
  | more ht hts =>
    rw [walkAll, List.forall_mem_append]
    exact ⟨ht.isName, hts.isName⟩
end

mutual
lemma spells_render {t : TypeExpr} (h : ∀ u ∈ t.walk, IsName u.base.toList) :
    Spells t.render t := by
  obtain ⟨name, args⟩ := t
  have hnil : Blank [] := List.forall_mem_nil _
  rw [walk, List.forall_mem_cons] at h
  have hname : IsName name.toList := h.1
  have hargs := h.2
  cases args with
  | nil =>
    simpa only [render, renderArgs, List.nil_append, String.ofList_toList] using
      Spells.plain hnil hname hnil
  | cons arg rest =>
    rw [walkAll, List.forall_mem_append] at hargs
    obtain ⟨spelling, hrest, hspells⟩ := spellsArgs_renderRest hargs.2 (spells_render hargs.1)
    rw [render, renderArgs, hrest]
    simpa using Spells.applied hnil hname hnil hspells hnil
lemma spellsArgs_renderRest {ts : List TypeExpr} (h : ∀ u ∈ walkAll ts, IsName u.base.toList)
    {s : List Char} {t : TypeExpr} (hs : Spells s t) :
    ∃ spelling, s ++ renderRest ts = spelling ++ ['>'] ∧ SpellsArgs spelling (t :: ts) := by
  cases ts with
  | nil => exact ⟨s, rfl, .last hs⟩
  | cons arg rest =>
    rw [walkAll, List.forall_mem_append] at h
    have hblank : Blank [' '] := by simp [Blank, Text.isBlank]
    have hspaced := (spells_render h.1).leading hblank
    obtain ⟨spelling, hrest, hspells⟩ := spellsArgs_renderRest h.2 hspaced
    refine ⟨s ++ ',' :: spelling, ?_, .more hs hspells⟩
    rw [List.append_assoc, List.cons_append, ← hrest]
    rfl
end

lemma spells_render_iff {t : TypeExpr} :
    Spells t.render t ↔ ∀ u ∈ t.walk, IsName u.base.toList :=
  ⟨Spells.isName, spells_render⟩

theorem parse_text_iff (t : TypeExpr) :
    parse t.text = .ok t ↔ (∀ u ∈ t.walk, IsName u.base.toList) ∧ t.depth ≤ 64 := by
  rw [parse_eq_ok_iff, text, String.toList_ofList, read_eq_ok_iff, spells_render_iff]
  rfl

def Parsed (t : TypeExpr) : Prop := ∃ input, parse input = .ok t

lemma Parsed.isName {t : TypeExpr} (h : t.Parsed) : ∀ u ∈ t.walk, IsName u.base.toList := by
  obtain ⟨input, hinput⟩ := h
  rw [parse_eq_ok_iff, read_eq_ok_iff] at hinput
  exact hinput.1.isName

lemma Parsed.depth_le {t : TypeExpr} (h : t.Parsed) : t.depth ≤ maxDepth := by
  obtain ⟨input, hinput⟩ := h
  rw [parse_eq_ok_iff, read_eq_ok_iff] at hinput
  exact hinput.2

lemma parse_text_of_names {t : TypeExpr} (hnames : ∀ u ∈ t.walk, IsName u.base.toList)
    (hdepth : t.depth ≤ maxDepth) : parse t.text = .ok t := by
  rw [parse_eq_ok_iff, text, String.toList_ofList, read_eq_ok_iff]
  exact ⟨spells_render hnames, hdepth⟩

lemma Parsed.parse_text {t : TypeExpr} (h : t.Parsed) : parse t.text = .ok t :=
  parse_text_of_names h.isName h.depth_le

lemma parsed_named_iff {base : String} : (named base).Parsed ↔ IsName base.toList := by
  have hwalk : (named base).walk = [named base] := by simp only [named, walk, walkAll]
  constructor
  · intro h
    exact h.isName (named base) (by rw [hwalk]; exact List.mem_singleton_self _)
  · intro hbase
    refine ⟨(named base).text, parse_text_of_names ?_ (Nat.zero_le _)⟩
    rw [hwalk]
    exact List.forall_mem_singleton.mpr hbase

end SoapWrap.TypeExpr
