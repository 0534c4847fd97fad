import FormScaffold.Template.Directive
import FormScaffold.Proofs.Text.LineReader
import FormScaffold.Proofs.Text.PatternWalk
import Mathlib.Data.List.DropRight

/-!
# Directive lines among lines

Removing directive lines is a walk over the lines of a text with one flag: a
directive line goes and turns the flag on, a blank line goes while the flag is
on, and every other line stays and turns it off.  So no directive line is left,
what is left is a selection of the lines, and writing the directive at the top
is undone by removing it again but for blank lines.
-/

namespace FormScaffold.Directive

open Text

/-- The line is a directive line, its line break included. -/
def IsDirectiveLine (line : Text) : Prop := afterLine? line = some []

instance : DecidablePred IsDirectiveLine :=
  fun line => inferInstanceAs (Decidable (afterLine? line = some []))

/-- The lines that stay.  Behind a directive line blank lines go, too. -/
def keptLines : Bool → List Text → List Text
  | _, [] => []
  | behind, line :: rest =>
    if IsDirectiveLine line ∨ (behind = true ∧ IsBlankLine line) then
      keptLines true rest
    else line :: keptLines false rest

/-! ## Reading a directive line -/

def quotes : Text := "\"'".toList

theorem eq_of_mem_quotes {quote : Char} (hquote : quote ∈ quotes) :
    quote = '"' ∨ quote = '\'' := by
  simpa [quotes] using hquote

theorem afterQuote?_eq_some_iff {s rest : Text} :
    afterQuote? s = some rest ↔ ∃ quote ∈ quotes, s = quote :: rest := by
  constructor
  · intro hread
    unfold afterQuote? at hread
    split at hread
    next s => exact ⟨'"', by decide, by rw [Option.some.inj hread]⟩
    next s => exact ⟨'\'', by decide, by rw [Option.some.inj hread]⟩
    next => cases hread
  · rintro ⟨quote, hquote, rfl⟩
    rcases eq_of_mem_quotes hquote with rfl | rfl <;> rfl

theorem exists_semicolon (s : Text) :
    ∃ semicolon, (semicolon = [] ∨ semicolon = [';']) ∧
      s = semicolon ++ skipSemicolon s := by
  unfold skipSemicolon
  split
  next s => exact ⟨[';'], Or.inr rfl, rfl⟩
  next s => exact ⟨[], Or.inl rfl, rfl⟩

theorem staysInLine_afterQuote? : StaysInLine afterQuote? := by
  refine ⟨?_, ?_⟩
  · intro s hs t
    cases s with
    | nil => simp at hs
    | cons c s =>
        unfold afterQuote?
        split <;> simp_all
  · intro s rest hs hread
    rcases afterQuote?_eq_some_iff.mp hread with ⟨quote, hquote, rfl⟩
    have hfeed : quote ≠ '\n' := by
      rcases eq_of_mem_quotes hquote with rfl | rfl <;> decide
    exact getLast?_of_cons_of_ne hs hfeed

theorem staysInLine_skipSemicolon :
    StaysInLine fun s => some (skipSemicolon s) := by
  refine ⟨?_, ?_⟩
  · intro s hs t
    cases s with
    | nil => simp at hs
    | cons c s =>
        by_cases hc : c = ';'
        · subst hc
          rfl
        · simp [skipSemicolon, hc]
  · intro s rest hs hskip
    obtain rfl := Option.some.inj hskip
    rcases exists_semicolon s with ⟨read, hsemicolon, hsplit⟩
    have hread : '\n' ∉ read := by
      rcases hsemicolon with rfl | rfl <;> decide
    generalize skipSemicolon s = rest at hsplit
    subst hsplit
    cases rest with
    | nil =>
        rw [List.append_nil] at hs
        exact absurd (List.mem_of_getLast? hs) hread
    | cons c rest => simpa [List.getLast?_append] using hs

theorem passesOn_afterLine? : PassesOn afterLine? := by
  have hwords : '\n' ∉ words := by decide
  exact staysInLine_skipBlanks.bind_passesOn
    (staysInLine_afterQuote?.bind_passesOn
      ((staysInLine_after? hwords).bind_passesOn
        (staysInLine_afterQuote?.bind_passesOn
          (staysInLine_skipSemicolon.bind_passesOn passesOn_afterLineEnd?))))

theorem exists_of_afterLine? {s rest : Text}
    (hread : afterLine? s = some rest) :
    ∃ read, (rest ≠ [] → read.getLast? = some '\n') ∧ s = read ++ rest := by
  unfold afterLine? at hread
  rcases Option.bind_eq_some_iff.mp hread with ⟨quoted, hopen, hread⟩
  rcases Option.bind_eq_some_iff.mp hread with ⟨closed, hwords, hread⟩
  rcases Option.bind_eq_some_iff.mp hread with ⟨ended, hclose, hend⟩
  rcases afterQuote?_eq_some_iff.mp hopen with ⟨first, -, hfirst⟩
  rcases afterQuote?_eq_some_iff.mp hclose with ⟨second, -, hsecond⟩
  rcases exists_semicolon ended with ⟨semicolon, -, hsemicolon⟩
  rcases exists_of_afterLineEnd? hend with ⟨ending, -, hlast, hending⟩
  rcases exists_blanks s with ⟨blanks, -, hs⟩
  refine ⟨blanks ++ first :: (words ++ second :: (semicolon ++ ending)), ?_, ?_⟩
  · intro hne
    simp [List.getLast?_append, List.getLast?_cons, hlast hne]
  · calc
      s = blanks ++ skipBlanks s := hs
      _ = blanks ++ first :: (words ++ second :: ended) := by
        rw [hfirst, eq_append_of_after? hwords, hsecond]
      _ = _ := by
        rw [hsemicolon, hending]
        simp

theorem readsLine_afterLine? : ReadsLine afterLine? where
  passesOn := passesOn_afterLine?
  whole := by
    intro line rest hline hread
    rcases exists_of_afterLine? hread with ⟨read, hlast, rfl⟩
    exact eq_nil_of_lines_append hline hlast

/-! ## The walk over lines -/

theorem keptLines_true (ls : List Text) :
    keptLines true ls =
      keptLines false (ls.dropWhile fun line => IsBlankLine line) := by
  induction ls with
  | nil => rfl
  | cons line rest ih =>
      by_cases hblank : IsBlankLine line
      · rw [List.dropWhile_cons_of_pos (by simpa using hblank), ← ih]
        simp [keptLines, hblank]
      · rw [List.dropWhile_cons_of_neg (by simpa using hblank)]
        simp [keptLines, hblank]

theorem pattern_false (s : Text) : pattern false s = none := rfl

theorem pattern_true_of_directive {line : Text} {rest : List Text}
    (hcut : IsCut (line :: rest)) (hline : IsDirectiveLine line) :
    pattern true (line ++ rest.flatten) =
      some (rest.dropWhile fun line => IsBlankLine line).flatten := by
  have hread := (hcut.read_cons readsLine_afterLine?).trans (if_pos hline)
  cases hcut with
  | cons _ _ hrest => simp [pattern, hread, hrest.dropBlankLines_flatten]

theorem pattern_true_of_not_directive {line : Text} {rest : List Text}
    (hcut : IsCut (line :: rest)) (hline : ¬ IsDirectiveLine line) :
    pattern true (line ++ rest.flatten) = none := by
  have hread := (hcut.read_cons readsLine_afterLine?).trans (if_neg hline)
  simp [pattern, hread]

theorem remove_eq_replaceFrom (s : Text) :
    remove s = Pattern.replaceFrom pattern (fun _ => []) true s := rfl

/-- A directive line goes with the blank lines behind it, and the walk goes on
where a line begins. -/
theorem remove_cons_of_directive {line : Text} {rest : List Text}
    (hcut : IsCut (line :: rest)) (hline : IsDirectiveLine line) :
    remove (line ++ rest.flatten) =
      remove (rest.dropWhile fun line => IsBlankLine line).flatten := by
  have hsome := pattern_true_of_directive hcut hline
  have hsplit : line :: rest =
      (line :: rest.takeWhile fun line => IsBlankLine line) ++
        rest.dropWhile fun line => IsBlankLine line := by
    rw [List.cons_append, List.takeWhile_append_dropWhile]
  generalize (rest.dropWhile fun line => IsBlankLine line) = left
    at hsome hsplit ⊢
  have hflat : line ++ rest.flatten =
      (line :: rest.takeWhile fun line => IsBlankLine line).flatten ++
        left.flatten := by
    rw [← List.flatten_append, ← hsplit, List.flatten_cons]
  have hne : (line :: rest.takeWhile fun line => IsBlankLine line).flatten ≠
      [] := by
    cases hcut with
    | cons hsingle _ _ =>
        rintro hnil
        rw [List.flatten_cons, List.append_eq_nil_iff] at hnil
        simp [hnil.1, lines] at hsingle
  rw [hflat] at hsome ⊢
  rw [remove_eq_replaceFrom, remove_eq_replaceFrom,
    Pattern.replaceFrom_append_of_some hne hsome, List.nil_append]
  rcases eq_or_ne left [] with rfl | hleft
  · simp
  · rw [hsplit] at hcut
    have hlast := (hcut.lineAligned_flatten hleft).resolve_left hne
    rw [hlast]
    rfl

theorem remove_cons_of_not_directive {line : Text} {rest : List Text}
    (hcut : IsCut (line :: rest)) (hline : ¬ IsDirectiveLine line) :
    remove (line ++ rest.flatten) = line ++ remove rest.flatten := by
  have hnone := pattern_true_of_not_directive hcut hline
  cases hcut with
  | cons hsingle haligned _ =>
      refine Pattern.replaceFrom_append_of_line pattern_false hsingle ?_ _ hnone
      intro hne
      refine haligned ?_
      rintro rfl
      simp at hne

theorem remove_flatten {ls : List Text} (hcut : IsCut ls) :
    remove ls.flatten = (keptLines false ls).flatten := by
  induction hlength :
    ls.length using Nat.strong_induction_on generalizing ls with
  | _ n ih =>
    cases ls with
    | nil => simp [remove_eq_replaceFrom, keptLines]
    | cons line rest =>
        rw [List.length_cons] at hlength
        by_cases hline : IsDirectiveLine line
        · have hsuffix := List.dropWhile_suffix
            (fun line => decide (IsBlankLine line)) (l := rest)
          have hleft : IsCut (rest.dropWhile fun line => IsBlankLine line) :=
            hcut.sublist (hsuffix.sublist.cons line)
          have hshorter := hsuffix.length_le
          rw [List.flatten_cons, remove_cons_of_directive hcut hline,
            ih _ (by omega) hleft rfl, ← keptLines_true]
          simp [keptLines, hline]
        · have hrest : IsCut rest :=
            hcut.sublist (List.sublist_cons_self line rest)
          rw [List.flatten_cons, remove_cons_of_not_directive hcut hline,
            ih _ (by omega) hrest rfl]
          simp [keptLines, hline]

theorem remove_eq_flatten_keptLines (s : Text) :
    remove s = (keptLines false (lines s)).flatten := by
  have hflat := remove_flatten (isCut_lines s)
  rwa [flatten_lines] at hflat

/-! ## The lines that stay -/

theorem keptLines_sublist (behind : Bool) (ls : List Text) :
    (keptLines behind ls).Sublist ls := by
  induction ls generalizing behind with
  | nil => simp [keptLines]
  | cons line rest ih =>
      rw [keptLines]
      split
      · exact (ih true).cons line
      · exact (ih false).cons_cons line

theorem not_isDirectiveLine_of_mem_keptLines {behind : Bool} {ls : List Text}
    {line : Text} (hline : line ∈ keptLines behind ls) :
    ¬ IsDirectiveLine line := by
  induction ls generalizing behind with
  | nil => simp [keptLines] at hline
  | cons first rest ih =>
      rw [keptLines] at hline
      split at hline
      next => exact ih hline
      next hstays =>
        rcases List.mem_cons.mp hline with rfl | hrest
        · exact fun hdirective => hstays (Or.inl hdirective)
        · exact ih hrest

theorem keptLines_of_forall_not {ls : List Text}
    (hls : ∀ line ∈ ls, ¬ IsDirectiveLine line) : keptLines false ls = ls := by
  induction ls with
  | nil => rfl
  | cons line rest ih =>
      rw [List.forall_mem_cons] at hls
      simp [keptLines, hls.1, ih hls.2]

theorem lines_remove (s : Text) :
    lines (remove s) = keptLines false (lines s) := by
  rw [remove_eq_flatten_keptLines]
  exact ((isCut_lines s).sublist (keptLines_sublist false _)).lines_flatten

theorem remove_eq_self {s : Text}
    (hs : ∀ line ∈ lines s, ¬ IsDirectiveLine line) : remove s = s := by
  rw [remove_eq_flatten_keptLines, keptLines_of_forall_not hs, flatten_lines]

theorem not_isDirectiveLine_of_mem_lines_remove {s line : Text}
    (hline : line ∈ lines (remove s)) : ¬ IsDirectiveLine line := by
  rw [lines_remove] at hline
  exact not_isDirectiveLine_of_mem_keptLines hline

/-! ## The policy -/

theorem dropBlankLines_eq_flatten (s : Text) :
    dropBlankLines s =
      ((lines s).dropWhile fun line => IsBlankLine line).flatten := by
  have hdrop := (isCut_lines s).dropBlankLines_flatten
  rwa [flatten_lines] at hdrop

theorem lines_dropBlankLines (s : Text) :
    lines (dropBlankLines s) =
      (lines s).dropWhile fun line => IsBlankLine line := by
  rw [dropBlankLines_eq_flatten]
  exact ((isCut_lines s).sublist
    (List.dropWhile_suffix _).sublist).lines_flatten

theorem dropBlankLines_dropBlankLines (s : Text) :
    dropBlankLines (dropBlankLines s) = dropBlankLines s := by
  rw [← flatten_lines (dropBlankLines (dropBlankLines s)),
    lines_dropBlankLines, lines_dropBlankLines, List.dropWhile_idempotent,
    ← lines_dropBlankLines, flatten_lines]

theorem lines_apply_true (s : Text) :
    lines (apply true s) =
      (line ++ ['\n']) :: ['\n'] :: lines (dropBlankLines (remove s)) := by
  have haligned : LineAligned (line ++ "\n\n".toList) := Or.inr rfl
  have htop : lines (line ++ "\n\n".toList) =
      [line ++ ['\n'], ['\n']] := by decide
  unfold apply
  rw [if_pos rfl, lines_append haligned, htop]
  rfl

theorem remove_apply_true (s : Text) :
    remove (apply true s) = dropBlankLines (remove s) := by
  have hline : IsDirectiveLine (line ++ ['\n']) := by decide
  have hblank : IsBlankLine ['\n'] := by decide
  have hkept : ∀ line ∈ lines (dropBlankLines (remove s)),
      ¬ IsDirectiveLine line := by
    intro line hmem
    rw [lines_dropBlankLines] at hmem
    exact not_isDirectiveLine_of_mem_lines_remove
      ((List.dropWhile_suffix _).subset hmem)
  rw [remove_eq_flatten_keptLines, lines_apply_true]
  simp only [keptLines, hline, hblank, true_or, and_self, or_true, if_true]
  rw [keptLines_true, ← lines_dropBlankLines, dropBlankLines_dropBlankLines,
    keptLines_of_forall_not hkept, flatten_lines]

theorem remove_remove (s : Text) : remove (remove s) = remove s :=
  remove_eq_self fun _ => not_isDirectiveLine_of_mem_lines_remove

theorem apply_apply (wanted : Bool) (s : Text) :
    apply wanted (apply wanted s) = apply wanted s := by
  cases wanted with
  | false => exact remove_remove s
  | true =>
      have hremove := remove_apply_true s
      unfold apply at hremove ⊢
      simp only [if_true] at hremove ⊢
      rw [hremove, dropBlankLines_dropBlankLines]

end FormScaffold.Directive
