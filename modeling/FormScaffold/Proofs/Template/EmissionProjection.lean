import FormScaffold.Template.Emission
import FormScaffold.Proofs.Template.AliasLines
import FormScaffold.Proofs.Template.CommentLines
import FormScaffold.Proofs.Template.DirectiveLines
import FormScaffold.Proofs.Template.SectionFilter

/-!
# Emitting twice

What is emitted for a project with the template's own aliases is emitted again
as it is.  Every rewriting leaves a text alone that the others have brought into
its final form: without comments there is no marker, so the filter drops
nothing; the directive policy takes and adds whole lines, so it makes no
comment; and it finds at the top what it would write there.
-/

namespace FormScaffold

open Text

namespace Section

theorem filter_eq_self_of_unmarked {source : Text}
    (hsource : ∀ line ∈ lines source, Marker.id? line = none)
    (chosen : List FieldKind) : filter chosen source = source := by
  have hsplit : split source = toList ⟨.body, source⟩ := by
    have hwalk := extend_append_of_unmarked ⟨.body, []⟩ hsource []
    rw [List.append_nil, flatten_lines] at hwalk
    exact hwalk
  have hstays := staysWithout_tagOf chosen none source
  have hkeeps : Keeps chosen none := by simp [Keeps]
  rw [filter_eq_join_filter, hsplit, join_filter_toList]
  simp only [tagOf, hkeeps, decide_true] at hstays
  rw [if_pos hstays]

end Section

namespace Directive

theorem plain_remove {s : Text} (hplain : Comment.Plain s) :
    Comment.Plain (remove s) := by
  apply hplain.of_lines_sublist
  rw [lines_remove]
  exact keptLines_sublist false (lines s)

theorem plain_apply {s : Text} (hplain : Comment.Plain s) (wanted : Bool) :
    Comment.Plain (apply wanted s) := by
  cases wanted with
  | false => exact plain_remove hplain
  | true =>
      have hkept : Comment.Plain (dropBlankLines (remove s)) := by
        apply (plain_remove hplain).of_lines_sublist
        rw [lines_dropBlankLines]
        exact (List.dropWhile_suffix _).sublist
      have htop : '/' ∉ line ++ "\n\n".toList := by decide
      exact hkept.append_of_not_mem htop

end Directive

namespace TemplateFile

/-- The text that the directive policy is given. -/
def selected (file : TemplateFile) (kinds : List FieldKind) (source : Text) :
    Text :=
  if file.hasSections then Comment.strip (Section.filter kinds source)
  else source

theorem emit_eq_apply_selected {choices : Choices}
    (hcomponents : choices.components = Alias.defaultComponents)
    (hutils : choices.utils = Alias.defaultUtils)
    (file : TemplateFile) (source : Text) :
    file.emit choices source =
      Directive.apply (choices.directive && file.isClient)
        (file.selected choices.kinds source) := by
  unfold emit selected
  rw [hcomponents, hutils, Alias.replace_defaults]

theorem plain_selected {file : TemplateFile} (hfile : file.hasSections = true)
    (kinds : List FieldKind) (source : Text) :
    Comment.Plain (file.selected kinds source) := by
  unfold selected
  rw [if_pos hfile, Comment.strip_eq_stripFrom]
  exact Comment.plain_stripFrom true _

theorem selected_eq_self {file : TemplateFile} {s : Text}
    (hplain : file.hasSections = true → Comment.Plain s)
    (kinds : List FieldKind) : file.selected kinds s = s := by
  unfold selected
  split
  next hfile =>
    have hs := hplain hfile
    rw [Section.filter_eq_self_of_unmarked fun _ => hs.id?_eq_none,
      Comment.strip_eq_stripFrom, hs.stripFrom_eq]
  next => rfl

/-- With the template's own aliases, emitting what was emitted changes nothing.
What is emitted for a file with sections holds no comment, and no line of it is
a marker. -/
theorem emit_emit_of_default_aliases (choices : Choices)
    (hcomponents : choices.components = Alias.defaultComponents)
    (hutils : choices.utils = Alias.defaultUtils)
    (file : TemplateFile) (source : Text) :
    file.emit choices (file.emit choices source) = file.emit choices source ∧
      (file.hasSections = true →
        ¬ Comment.Occurs (file.emit choices source) ∧
          ∀ line ∈ lines (file.emit choices source),
            Marker.id? line = none) := by
  have hemit := emit_eq_apply_selected hcomponents hutils file
  have hplain : file.hasSections = true →
      Comment.Plain (file.emit choices source) := by
    intro hfile
    rw [hemit]
    exact Directive.plain_apply (plain_selected hfile _ _) _
  refine ⟨?_, ?_⟩
  · rw [hemit (file.emit choices source), selected_eq_self hplain, hemit,
      Directive.apply_apply]
  · intro hfile
    exact ⟨Comment.plain_iff_not_occurs.mp (hplain hfile),
      fun _ => (hplain hfile).id?_eq_none⟩

/-- A directive that a comment hides, between other sections, is written at the
top once and found there again. -/
theorem emit_emit_hidden_directive :
    let file : TemplateFile := ⟨"form.tsx".toList, true, true⟩
    let source :=
      "//split//text\n'use client' /* a */ // b\nx(/* c */ 1);\n".toList
    let emitted := "\"use client\";\n\nx( 1);\n".toList
    file.emit .default source = emitted ∧ file.emit .default emitted = emitted ∧
      ¬ Comment.Occurs emitted := by
  intro file source emitted
  have hemitted : file.emit .default source = emitted := by decide +kernel
  have hagain := emit_emit_of_default_aliases .default rfl rfl file source
  rw [hemitted] at hagain
  exact ⟨hemitted, hagain.1, (hagain.2 rfl).1⟩

end TemplateFile

end FormScaffold
