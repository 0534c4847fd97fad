import FormScaffold.Proofs.Template.DirectiveForm

/-!
# The directive as a switch

A setting of the policy does not depend on what was set before, but for one
thing: once the directive has been on, the blank lines at the top of the text
are gone.  So after any settings the text is in one of three forms, and the last
setting, with the question whether the directive was on earlier, tells in which.
-/

namespace FormScaffold.Directive

open Text

/-- The text after the policy was applied with each of these settings, one after
the other. -/
def applyEach (settings : List Bool) (source : Text) : Text :=
  settings.foldl (fun s wanted => apply wanted s) source

theorem applyEach_cons (wanted : Bool) (settings : List Bool) (source : Text) :
    applyEach (wanted :: settings) source =
      applyEach settings (apply wanted source) :=
  rfl

theorem applyEach_concat (settings : List Bool) (wanted : Bool)
    (source : Text) :
    applyEach (settings ++ [wanted]) source =
      apply wanted (applyEach settings source) := by
  unfold applyEach
  rw [List.foldl_append]
  rfl

/-! ## One setting after another -/

/-- To switch the directive on forgets how it was set before. -/
theorem apply_true_apply (wanted : Bool) (s : Text) :
    apply true (apply wanted s) = apply true s := by
  cases wanted with
  | true => exact apply_apply true s
  | false =>
      have hremove : remove (apply false s) = remove s := remove_remove s
      unfold apply at hremove ⊢
      simp only [if_true] at hremove ⊢
      rw [hremove]

theorem apply_false_apply_true (s : Text) :
    apply false (apply true s) = dropBlankLines (apply false s) :=
  remove_apply_true s

/-- Taking the directive away again takes the very lines that were written. -/
theorem apply_true_eq_append (s : Text) :
    apply true s = "\"use client\";\n\n".toList ++
      apply false (apply true s) := by
  rw [apply_false_apply_true]
  rfl

/-! ## Any settings -/

theorem apply_true_applyEach (settings : List Bool) (s : Text) :
    apply true (applyEach settings s) = apply true s := by
  induction settings generalizing s with
  | nil => rfl
  | cons wanted settings ih => rw [applyEach_cons, ih, apply_true_apply]

theorem apply_false_applyEach (settings : List Bool) (s : Text) :
    apply false (applyEach settings s) =
      if true ∈ settings then apply false (apply true s)
        else apply false s := by
  induction settings generalizing s with
  | nil => rfl
  | cons wanted settings ih =>
      rw [applyEach_cons, ih, apply_true_apply]
      cases wanted with
      | true => simp
      | false => simp [apply_apply]

/-- The policy is a switch with two positions.  Setting it on gives the same
text whatever was set before, setting it off twice changes nothing more, and
setting it on and off takes away the directive just as it was written, so that
of the text without the directive only blank lines at the top are lost.  After
any settings the last one decides, and, if that is off, whether the directive
has ever been on. -/
theorem apply_switches (source : Text) :
    (∀ wanted, apply true (apply wanted source) = apply true source) ∧
    apply false (apply false source) = apply false source ∧
    apply false (apply true source) =
      ((lines (apply false source)).dropWhile fun line =>
        IsBlankLine line).flatten ∧
    (∀ line, IsBlankLine line ↔ BlanksTo lineBreaks line) ∧
    apply true source =
      "\"use client\";\n\n".toList ++ apply false (apply true source) ∧
    ∀ settings last, applyEach (settings ++ [last]) source =
      if last = false ∧ true ∈ settings then apply false (apply true source)
      else apply last source := by
  refine ⟨fun wanted => apply_true_apply wanted source,
    apply_apply false source, ?_,
    fun _ => isBlankLine_iff, apply_true_eq_append source, ?_⟩
  · rw [apply_false_apply_true, dropBlankLines_eq_flatten]
  · intro settings last
    rw [applyEach_concat]
    cases last with
    | true => simp [apply_true_applyEach]
    | false => simp [apply_false_applyEach]

/-- The body begins with a carriage return of its own, which is no blank line,
and the last line is blank but has no line feed. -/
example : applyEach [true, false] " \n\r\n\rx\n\"use client\"\n\n \t".toList =
    "\rx\n \t".toList := by
  decide +kernel

end FormScaffold.Directive
