import FormScaffold.Text.Basic
import Mathlib.Data.List.Infix

/-!
# Cutting a text at its bytes

A text that is put together from others is cut where they meet, and of two texts
that it begins with the one with fewer bytes begins the other.
-/

namespace FormScaffold.Text

theorem cutAt?_append (a b : Text) :
    cutAt? a.byteSize (a ++ b) = some (a, b) := by
  induction a with
  | nil =>
      rw [byteSize_nil, List.nil_append]
      unfold cutAt?
      rfl
  | cons c a ih =>
      have hpos := c.utf8Size_pos
      obtain ⟨n, hn⟩ : ∃ n, byteSize (c :: a) = n + 1 :=
        Nat.exists_eq_succ_of_ne_zero (by rw [byteSize_cons]; omega)
      have hrest : n + 1 - c.utf8Size = byteSize a := by
        rw [byteSize_cons] at hn
        omega
      have hfirst : c.utf8Size ≤ n + 1 := by
        rw [byteSize_cons] at hn
        omega
      rw [hn, List.cons_append, cutAt?, if_pos hfirst, hrest, ih]
      rfl

theorem slice?_append (a b c : Text) :
    slice? a.byteSize (byteSize (a ++ b)) (a ++ b ++ c) = some b := by
  have hle : a.byteSize ≤ byteSize (a ++ b) := by
    rw [byteSize_append]
    omega
  unfold slice?
  simp only [cutAt?_append, Option.bind_eq_bind, Option.bind_some, guard,
    if_pos hle]
  rfl

theorem sliceFrom?_append (a b : Text) :
    sliceFrom? a.byteSize (a ++ b) = some b := by
  unfold sliceFrom?
  rw [cutAt?_append]
  rfl

theorem eq_nil_of_byteSize {s : Text} (hs : s.byteSize = 0) : s = [] := by
  cases s with
  | nil => rfl
  | cons c s =>
      have hpos := c.utf8Size_pos
      rw [byteSize_cons] at hs
      omega

theorem byteSize_pos {s : Text} (hs : s ≠ []) : 0 < s.byteSize := by
  rw [Nat.pos_iff_ne_zero]
  intro hzero
  exact hs (eq_nil_of_byteSize hzero)

theorem isPrefixOf_eq_false {lead s : Text} (h : ∀ rest, s ≠ lead ++ rest) :
    lead.isPrefixOf s = false := by
  rw [Bool.eq_false_iff, Ne, List.isPrefixOf_iff_prefix]
  rintro ⟨rest, rfl⟩
  exact h rest rfl

theorem prefix_of_byteSize_le {a b s : Text} (ha : a <+: s) (hb : b <+: s)
    (hle : a.byteSize ≤ b.byteSize) : a <+: b := by
  rcases List.prefix_or_prefix_of_prefix ha hb with hin | ⟨rest, hrest⟩
  · exact hin
  · rw [← hrest, byteSize_append] at hle
    have hnil : rest = [] := eq_nil_of_byteSize (by omega)
    rw [← hrest, hnil, List.append_nil]

theorem byteSize_le_of_prefix {a b : Text} (hab : a <+: b) :
    a.byteSize ≤ b.byteSize := by
  obtain ⟨rest, rfl⟩ := hab
  rw [byteSize_append]
  exact Nat.le_add_right _ _

theorem splitOnce?_eq_some_iff {mark : Char} {s a b : Text} :
    splitOnce? mark s = some (a, b) ↔ s = a ++ mark :: b ∧ mark ∉ a := by
  induction s generalizing a with
  | nil => simp [splitOnce?]
  | cons c s ih =>
      by_cases hc : c = mark
      · subst hc
        rw [splitOnce?, if_pos rfl]
        cases a with
        | nil => simp
        | cons d a =>
            simp only [Option.some.injEq, Prod.mk.injEq, List.cons_append,
              List.cons.injEq, List.mem_cons, not_or]
            constructor
            · rintro ⟨h, -⟩
              cases h
            · rintro ⟨⟨hcd, -⟩, hne, -⟩
              exact absurd hcd hne
      · rw [splitOnce?, if_neg hc]
        cases a with
        | nil => simp [hc]
        | cons d a =>
            simp only [Option.map_eq_some_iff, Prod.exists, Prod.mk.injEq,
              List.cons.injEq, List.cons_append, List.mem_cons, not_or]
            constructor
            · rintro ⟨a', b', hsplit, ⟨rfl, rfl⟩, rfl⟩
              obtain ⟨hs, hfirst⟩ := ih.mp hsplit
              exact ⟨⟨rfl, hs⟩, Ne.symm hc, hfirst⟩
            · rintro ⟨⟨rfl, hs⟩, -, hfirst⟩
              exact ⟨a, b, ih.mpr ⟨hs, hfirst⟩, ⟨rfl, rfl⟩, rfl⟩

theorem splitOnce?_eq_none_iff {mark : Char} {s : Text} :
    splitOnce? mark s = none ↔ mark ∉ s := by
  induction s with
  | nil => simp [splitOnce?]
  | cons c s ih =>
      rw [splitOnce?]
      by_cases hc : c = mark
      · simp [hc]
      · rw [if_neg hc, Option.map_eq_none_iff, ih, List.mem_cons, not_or]
        exact ⟨fun hs => ⟨Ne.symm hc, hs⟩, And.right⟩

end FormScaffold.Text
