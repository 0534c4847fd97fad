import FormScaffold.Proofs.Path.FileName
import FormScaffold.Proofs.Tsconfig.Inheritance

/-!
# The configuration that a relative name leads to

A relative name may mean the file of that very name, or the one whose name ends
in `.json` besides.  Which of the two is looked for is settled by the name
alone: the first if the name has an extension, the second if it has none.  So a
file is passed over if it has no extension, and so is one whose name goes on
after a dot before the ending is added.
-/

namespace FormScaffold.Tsconfig

variable {w : Workspace} {config : Path} {options : Options} {parent n : Text}

def plainName (directory : Path) (parent : Text) : Path :=
  directory.join ⟨parent⟩

/-- The name with the ending of configurations behind it. -/
def endedName (directory : Path) (parent : Text) : Path :=
  directory.join ⟨parent ++ ".json".toList⟩

/-! ## Relative names -/

theorem head?_of_relative
    (hrelative : "./".toList <+: parent ∨ "../".toList <+: parent) :
    parent.head? = some '.' := by
  rcases hrelative with ⟨rest, rfl⟩ | ⟨rest, rfl⟩ <;> rfl

theorem isAbsolute_of_head? (hhead : parent.head? = some '.') :
    Path.isAbsolute ⟨parent⟩ = false := by
  simp [Path.isAbsolute, hhead]

theorem endedName_eq (directory : Path) (hhead : parent.head? = some '.') :
    endedName directory parent =
      ⟨(plainName directory parent).text ++ ".json".toList⟩ := by
  have hne : parent ≠ [] := by
    rintro rfl
    simp at hhead
  exact Path.join_append directory (isAbsolute_of_head? hhead) hne _

theorem namedConfig?_of_extension (directory : Path)
    (hhead : parent.head? = some '.')
    (hname : (Path.steps ⟨parent⟩).getLast? = some (.name n))
    (hdot : '.' ∈ n.drop 1) :
    namedConfig? directory parent = some (plainName directory parent) := by
  have hlast := Path.getLast?_steps_join directory (isAbsolute_of_head? hhead)
    hname
  unfold namedConfig? plainName
  rw [if_pos hhead]
  simp only [(Path.hasExtension_iff hlast).mpr hdot, if_true]

theorem namedConfig?_of_no_extension (directory : Path)
    (hhead : parent.head? = some '.')
    (hname : (Path.steps ⟨parent⟩).getLast? = some (.name n))
    (hdot : '.' ∉ n.drop 1) :
    namedConfig? directory parent =
      some ((plainName directory parent).addExtension "json".toList) := by
  have hlast := Path.getLast?_steps_join directory (isAbsolute_of_head? hhead)
    hname
  have hnone : ¬ (plainName directory parent).hasExtension = true :=
    fun h => hdot ((Path.hasExtension_iff hlast).mp h)
  unfold namedConfig? plainName at *
  rw [if_pos hhead]
  simp only [hnone, Bool.false_eq_true, if_false]

/-- The name with its ending is looked for if nothing follows the name. -/
theorem addExtension_eq_endedName_iff (directory : Path)
    (hhead : parent.head? = some '.')
    (hname : (Path.steps ⟨parent⟩).getLast? = some (.name n)) :
    (plainName directory parent).addExtension "json".toList =
        endedName directory parent ↔
      (Path.segments ⟨parent⟩).getLast? = some n := by
  have hrelative := isAbsolute_of_head? hhead
  have hlast := Path.getLast?_steps_join directory hrelative hname
  rw [endedName_eq directory hhead,
    ← Path.getLast?_segments_join directory hrelative]
  exact Path.addExtension_eq_iff hlast "json".toList

/-! ## What is read next -/

theorem extended?_of_parent (hread : readConfig w config = .ok options)
    (hlast : options.parents.getLast? = some parent) :
    extended? w config =
      (namedConfig? (directoryOf config) parent).filter w.isFile := by
  rw [extended?_of_ok hread, hlast]
  rfl

theorem filter_some_eq_some_iff {α : Type} {p : α → Bool} {a b : α} :
    (some a).filter p = some b ↔ a = b ∧ p b = true := by
  rw [Option.filter_eq_some_iff, Option.some.injEq]

section

variable (hread : readConfig w config = .ok options)
  (hlast : options.parents.getLast? = some parent)
  (hhead : parent.head? = some '.')
  (hsteps : (Path.steps ⟨parent⟩).getLast? = some (.name n))
include hread hlast hhead hsteps

theorem extended?_of_extension (hdot : '.' ∈ n.drop 1) :
    extended? w config = (some (plainName (directoryOf config) parent)).filter
      w.isFile := by
  rw [extended?_of_parent hread hlast,
    namedConfig?_of_extension _ hhead hsteps hdot]

theorem extended?_of_no_extension (hdot : '.' ∉ n.drop 1) :
    extended? w config =
      (some ((plainName (directoryOf config) parent).addExtension
      "json".toList)).filter w.isFile := by
  rw [extended?_of_parent hread hlast,
    namedConfig?_of_no_extension _ hhead hsteps hdot]

theorem extended?_eq_plainName_iff
    (hplain : w.isFile (plainName (directoryOf config) parent) = true) :
    extended? w config = some (plainName (directoryOf config) parent) ↔
      '.' ∈ n.drop 1 := by
  constructor
  · intro heq
    by_contra hdot
    rw [extended?_of_no_extension hread hlast hhead hsteps hdot,
      filter_some_eq_some_iff] at heq
    have hplainSteps := Path.getLast?_steps_join (directoryOf config)
      (isAbsolute_of_head? hhead) hsteps
    exact Path.addExtension_ne hplainSteps _ heq.1
  · intro hdot
    rw [extended?_of_extension hread hlast hhead hsteps hdot,
      filter_some_eq_some_iff]
    exact ⟨rfl, hplain⟩

theorem extended?_eq_endedName_iff
    (hplain : w.isFile (plainName (directoryOf config) parent) = false)
    (hended : w.isFile (endedName (directoryOf config) parent) = true) :
    extended? w config = some (endedName (directoryOf config) parent) ↔
      '.' ∉ n.drop 1 ∧ (Path.segments ⟨parent⟩).getLast? = some n := by
  have hname := addExtension_eq_endedName_iff (directoryOf config) hhead hsteps
  constructor
  · intro heq
    by_cases hdot : '.' ∈ n.drop 1
    · rw [extended?_of_extension hread hlast hhead hsteps hdot,
        Option.filter_some, hplain] at heq
      simp at heq
    · rw [extended?_of_no_extension hread hlast hhead hsteps hdot,
        filter_some_eq_some_iff] at heq
      exact ⟨hdot, hname.mp heq.1⟩
  · rintro ⟨hdot, hend⟩
    rw [extended?_of_no_extension hread hlast hhead hsteps hdot, hname.mpr hend,
      filter_some_eq_some_iff]
    exact ⟨rfl, hended⟩

end

/-- A configuration extends the one that it names last.  If a relative name ends
in a name with an extension, the file of that name is read next, if there is
one; if it ends in a name without, the file with `.json` behind it is.  So a
file of the very name is read next just if its name has an extension, and one
with `.json` behind the name, where only that is there, just if the name has
none and nothing follows it. -/
theorem extended?_of_relative (hread : readConfig w config = .ok options)
    (hlast : options.parents.getLast? = some parent)
    (hrelative : "./".toList <+: parent ∨ "../".toList <+: parent)
    (hname : (Path.components ⟨parent⟩).getLast? = some (.name n)) :
    let plain := plainName (directoryOf config) parent
    let ended := endedName (directoryOf config) parent
    ('.' ∈ n.drop 1 → extended? w config = (some plain).filter w.isFile) ∧
    ('.' ∉ n.drop 1 → (Path.segments ⟨parent⟩).getLast? = some n →
      extended? w config = (some ended).filter w.isFile) ∧
    (w.isFile plain = true →
      (extended? w config = some plain ↔ '.' ∈ n.drop 1)) ∧
    (w.isFile plain = false → w.isFile ended = true →
      (extended? w config = some ended ↔
        '.' ∉ n.drop 1 ∧ (Path.segments ⟨parent⟩).getLast? = some n)) ∧
    ∀ fuel, chain w (fuel + 1) config =
      match extended? w config with
      | some next =>
          (chain w fuel next).map ((directoryOf config, options) :: ·)
      | none => .ok [(directoryOf config, options)] := by
  intro plain ended
  have hhead := head?_of_relative hrelative
  have hsteps := Path.getLast?_steps_of_components hname
  refine ⟨extended?_of_extension hread hlast hhead hsteps, ?_,
    extended?_eq_plainName_iff hread hlast hhead hsteps,
    extended?_eq_endedName_iff hread hlast hhead hsteps,
    fun fuel => by rw [chain_succ, hread]; rfl⟩
  intro hdot hend
  rw [extended?_of_no_extension hread hlast hhead hsteps hdot,
    (addExtension_eq_endedName_iff (directoryOf config) hhead hsteps).mpr hend]

/-- A project in `app` that holds these files. -/
def holding (files : List (String × String)) : Workspace where
  tree := ⟨(["app".toList], .directory) :: files.map fun file =>
    (["app".toList, file.1.toList], .file (.text file.2.toList))⟩
  current := []

/-- The dot that a name begins with is no extension. -/
theorem extended?_hidden :
    let w := holding [("tsconfig.json", "\x7b\"extends\": \"./.base\"\x7d"),
      (".base.json",
        "\x7b\"compilerOptions\": \x7b\"baseUrl\": \"src\"\x7d\x7d")]
    let config : Path := ⟨"app/tsconfig.json".toList⟩
    readConfig w config = .ok ⟨["./.base".toList], none, none⟩ ∧
      extended? w config = some ⟨"app/./.base.json".toList⟩ := by
  intro w config
  have hread : readConfig w config = .ok ⟨["./.base".toList], none, none⟩ := by
    decide +kernel
  have hended : endedName (directoryOf config) "./.base".toList =
      ⟨"app/./.base.json".toList⟩ := by decide +kernel
  have hnext := extended?_of_relative hread rfl (n := ".base".toList)
    (Or.inl (by decide)) (by decide)
  have hfollowed := hnext.2.2.2.1 (by decide +kernel) (by decide +kernel)
  rw [← hended]
  exact ⟨hread, hfollowed.mpr ⟨by decide, by decide⟩⟩

/-- A name that goes on after a dot is not given its ending, and a file without
an extension is passed over, so nothing is inherited from either. -/
theorem extended?_passes_over :
    let config : Path := ⟨"app/tsconfig.json".toList⟩
    let dotted :=
      holding [("tsconfig.json", "\x7b\"extends\": \"./tsconfig.base\"\x7d"),
      ("tsconfig.base.json",
        "\x7b\"compilerOptions\": \x7b\"baseUrl\": \"src\"\x7d\x7d")]
    let bare := holding [("tsconfig.json", "\x7b\"extends\": \"./base\"\x7d"),
      ("base", "\x7b\"compilerOptions\": \x7b\"baseUrl\": \"src\"\x7d\x7d")]
    (dotted.isFile (plainName (directoryOf config) "./tsconfig.base".toList) =
      false ∧ ¬ ".json".toList <:+ "./tsconfig.base".toList ∧
      dotted.isFile (endedName (directoryOf config) "./tsconfig.base".toList) =
        true ∧
      extended? dotted config = none) ∧
    (bare.isFile (plainName (directoryOf config) "./base".toList) = true ∧
      extended? bare config = none) ∧
    Mapping.load dotted ⟨"app".toList⟩ =
      .ok ⟨config, none, ⟨"app".toList⟩, []⟩ := by
  decide +kernel

end FormScaffold.Tsconfig
