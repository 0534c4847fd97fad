import FormScaffold.Installation

/-!
# What an installation looks at

An installation reads only a few places: the project, the configurations it
extends, the templates, and the places it writes to.  They are listed here as
far as a workspace tells, so a workspace that holds little can be filled round
by round until the list grows no more; each round finds at least the next
configuration of the chain.
-/

namespace FormScaffold

namespace Tsconfig

/-- The configuration files that a chain looks at, there or not. -/
def footprint (w : Workspace) : Nat → Path → List Path
  | 0, _ => []
  | fuel + 1, config =>
    config ::
      match readConfig w config with
      | .error _ => []
      | .ok options =>
        match options.parents.getLast? >>=
          namedConfig? (config.parent?.getD Path.empty) with
        | some parent => footprint w fuel parent
        | none => []

/-- A chain looks at no more files than it may read. -/
theorem length_footprint_le (w : Workspace) (fuel : Nat) (config : Path) :
    (footprint w fuel config).length ≤ fuel := by
  induction fuel generalizing config with
  | zero => simp [footprint]
  | succ fuel ih =>
    rw [footprint, List.length_cons]
    split
    · simp
    · split
      · exact Nat.succ_le_succ (ih _)
      · simp

end Tsconfig

namespace TemplateSource

/-- The files that a source is read from, besides those of its manifest. -/
def footprint : TemplateSource → List Path
  | remote _ => []
  | directory d => [d, d.join manifestName]

/-- The file that a template is read from. -/
def fileFootprint (source : TemplateSource) (file : TemplateFile) : List Path :=
  match source with
  | remote _ => []
  | directory d => [d.join ⟨file.name⟩]

end TemplateSource

namespace Installation

/-- The places that carrying out a plan looks at. -/
def planFootprint (plan : Generation × Manifest) : List Path :=
  plan.1.output ::
    plan.2.files.flatMap (fun f => plan.1.target f ::
      plan.1.source.fileFootprint f)

/-- The places that an installation looks at, as far as a workspace tells. -/
def footprint (i : Installation) (w : Workspace) : List Path :=
  i.project ::
    Tsconfig.footprint w Tsconfig.maxChain (i.project.join Tsconfig.fileName) ++
    (match i.source with
      | .ok source => source.footprint
      | .error _ => []) ++
    (match i.plan w with
      | .ok plan => planFootprint plan
      | .error _ => [])

/-- How many rounds of filling a workspace find all that an installation looks
at: one for each configuration, one for the manifest and one for its files. -/
def rounds : Nat := Tsconfig.maxChain + 2

end Installation
end FormScaffold
