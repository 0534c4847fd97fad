import FormScaffold.Proofs.Template.DirectiveLines

/-!
# How directive lines are written

The walk over the lines of a text asks of each whether it is a directive line or
a blank line.  Here both are said by what is written in them, without the
readers that find them: a directive line is blanks, the words of the directive
between quotes of either style, perhaps a semicolon, and blanks up to the end of
the line; a blank line is blanks up to a line feed.  With this the directive
policy is a filter on lines.
-/

namespace FormScaffold

namespace Text

/-- A blank line is blanks and a line break. -/
theorem isBlankLine_iff {s : Text} : IsBlankLine s ↔ BlanksTo lineBreaks s := by
  unfold IsBlankLine
  rw [afterBlankLine?_eq_some_iff]
  simp

end Text

namespace Directive

open Text

/-- The parts of a directive line, from its first blanks to its end. -/
structure LineForm where
  lead : Text
  opening : Char
  closing : Char
  semicolon : Text
  behind : Text
  lead_blank : ∀ c ∈ lead, isBlank c = true
  opening_mem : opening ∈ quotes
  closing_mem : closing ∈ quotes
  semicolon_mem : semicolon = [] ∨ semicolon = [';']
  behind_blank : BlanksTo (lineBreaks ++ textEnds) behind

/-- The line with these parts. -/
def LineForm.text (form : LineForm) : Text :=
  form.lead ++ form.opening ::
    (words ++ form.closing :: (form.semicolon ++ form.behind))

/-- No ending of a line begins with a semicolon, so only the one that stands
there is skipped. -/
theorem skipSemicolon_append {semicolon behind : Text}
    (hsemicolon : semicolon = [] ∨ semicolon = [';'])
    (hbehind : BlanksTo (lineBreaks ++ textEnds) behind) :
    skipSemicolon (semicolon ++ behind) = behind := by
  rcases hsemicolon with rfl | rfl
  · unfold skipSemicolon
    split
    next s heq =>
      have hhead : afterLineEnd? (';' :: s) = none := by
        simp [afterLineEnd?, isBlank]
      rw [List.nil_append] at heq
      rw [← afterLineEnd?_eq_nil_iff, heq, hhead] at hbehind
      cases hbehind
    next => rfl
  · rfl

theorem LineForm.afterLine?_text (form : LineForm) :
    afterLine? form.text = some [] := by
  have hopening : isBlank form.opening = false := by
    rcases eq_of_mem_quotes form.opening_mem with heq | heq <;> rw [heq] <;> rfl
  have hopen : skipBlanks form.text =
      form.opening :: (words ++ form.closing ::
        (form.semicolon ++ form.behind)) := by
    unfold LineForm.text
    rw [skipBlanks_append form.lead_blank]
    exact skipBlanks_cons_of_not_isBlank hopening _
  have hfirst := afterQuote?_eq_some_iff.mpr
    ⟨form.opening, form.opening_mem, hopen⟩
  have hsecond : afterQuote? (form.closing :: (form.semicolon ++ form.behind)) =
      some (form.semicolon ++ form.behind) :=
    afterQuote?_eq_some_iff.mpr ⟨form.closing, form.closing_mem, rfl⟩
  have hend : afterLineEnd? (skipSemicolon (form.semicolon ++ form.behind)) =
      some [] := by
    rw [skipSemicolon_append form.semicolon_mem form.behind_blank]
    exact afterLineEnd?_eq_nil_iff.mpr form.behind_blank
  simp [afterLine?, hfirst, hsecond, hend]

/-- A directive line is one with the parts of a directive line. -/
theorem isDirectiveLine_iff {line : Text} :
    IsDirectiveLine line ↔ ∃ form : LineForm, form.text = line := by
  constructor
  · intro hread
    unfold IsDirectiveLine afterLine? at hread
    rcases Option.bind_eq_some_iff.mp hread with ⟨quoted, hopen, hread⟩
    rcases Option.bind_eq_some_iff.mp hread with ⟨closed, hwords, hread⟩
    rcases Option.bind_eq_some_iff.mp hread with ⟨ended, hclose, hend⟩
    rcases afterQuote?_eq_some_iff.mp hopen with ⟨opening, hopening, hfirst⟩
    rcases afterQuote?_eq_some_iff.mp hclose with ⟨closing, hclosing, hsecond⟩
    rcases exists_semicolon ended with ⟨semicolon, hsemicolon, hsplit⟩
    have hbehind := afterLineEnd?_eq_nil_iff.mp hend
    rcases exists_blanks line with ⟨lead, hblank, hlead⟩
    refine ⟨⟨lead, opening, closing, semicolon, skipSemicolon ended, hblank,
      hopening, hclosing, hsemicolon, hbehind⟩, ?_⟩
    unfold LineForm.text
    rw [← hsplit, ← hsecond, ← eq_append_of_after? hwords, ← hfirst, ← hlead]
  · rintro ⟨form, rfl⟩
    exact form.afterLine?_text

/-- The policy is a filter on lines.  Directive lines go, and behind one of them
blank lines go, too, up to the first line of another kind; all other lines stay
as they are.  Where the directive is wanted, it is written in front of that text
without the blank lines at its beginning. -/
theorem apply_eq_line_filter (source : Text) :
    (∀ line, IsDirectiveLine line ↔ ∃ form : LineForm, form.text = line) ∧
    (∀ line, IsBlankLine line ↔ BlanksTo lineBreaks line) ∧
    apply false source = (keptLines false (lines source)).flatten ∧
    apply true source = "\"use client\";\n\n".toList ++
      ((lines (apply false source)).dropWhile fun line =>
        IsBlankLine line).flatten := by
  refine ⟨fun _ => isDirectiveLine_iff, fun _ => isBlankLine_iff,
    remove_eq_flatten_keptLines source, ?_⟩
  have happly : apply true source =
      "\"use client\";\n\n".toList ++ dropBlankLines (apply false source) := rfl
  rw [happly, ← lines_dropBlankLines, flatten_lines]

/-- A blank line goes only behind a directive line, and the last line lacks its
line feed. -/
example : apply false
    " \n'use client\";\r\n\t\r\n\n \"use client\" \n\na\n\n\"use client\"\r".toList =
      " \na\n\n".toList := by
  decide +kernel

end Directive

end FormScaffold
