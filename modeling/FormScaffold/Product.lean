import FormScaffold.Manifest
import FormScaffold.Path.Basic

/-!
# The product

What is installed, under which names, from where, and where to.
-/

namespace FormScaffold

/-- A set of components that can be put into a project. -/
structure Product where
  /-- What the command and the agent that fetches templates are called. -/
  name : Text
  version : Text
  /-- The name for people. -/
  displayName : Text
  /-- Where templates come from, unless something else is asked for. -/
  templateUrl : Text
  /-- The environment variable that asks for another place. -/
  templateUrlVariable : Text
  /-- The directory that is made among the project's components. -/
  directory : Path
  documentation : Text
  /-- The files of a template that brings no manifest of its own. -/
  manifest : Manifest
  deriving DecidableEq, Repr

namespace Product

/-- The name under which templates are fetched. -/
def agent (p : Product) : Text := p.name

/-- The form builder for React. -/
def formBuilder : Product where
  name := "form-builder".toList
  version := "0.1.0".toList
  displayName := "React Form Builder".toList
  templateUrl :=
    ("https://raw.githubusercontent.com/seifmegahed/form-builder/main/" ++
      "apps/example/src/components/form-builder/").toList
  templateUrlVariable := "FORM_BUILDER_TEMPLATE_URL".toList
  directory := ⟨"form-builder".toList⟩
  documentation := "https://github.com/seifmegahed/form-builder".toList
  manifest := ⟨[
    ⟨"field-selector.tsx".toList, true, true⟩,
    ⟨"field-wrapper.tsx".toList, false, true⟩,
    ⟨"generator.tsx".toList, false, true⟩,
    ⟨"index.ts".toList, false, false⟩,
    ⟨"types.ts".toList, false, false⟩,
    ⟨"utils.ts".toList, false, false⟩]⟩

end Product
end FormScaffold
