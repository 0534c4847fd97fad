import FormScaffold.Template.Section
import FormScaffold.Template.Comment
import FormScaffold.Template.Directive
import FormScaffold.Template.Alias

/-!
# From template text to emitted text

The choices of a project decide what becomes of a template file.  A file with
sections is filtered and loses its comments; every file gets the directive
policy and the project's aliases, in this order.
-/

namespace FormScaffold

/-- What a project chose. -/
structure Choices where
  /-- The project's alias for components. -/
  components : Text
  /-- The project's alias for utilities. -/
  utils : Text
  /-- Whether client modules carry the runtime directive. -/
  directive : Bool
  /-- The field kinds that the project wants. -/
  kinds : List FieldKind
  deriving DecidableEq, Repr

/-- The choices of a project that leaves everything open. -/
def Choices.default : Choices where
  components := Alias.defaultComponents
  utils := Alias.defaultUtils
  directive := true
  kinds := [.text]

/-- A file of a template. -/
structure TemplateFile where
  /-- Where it stands, relative to the templates and to the output. -/
  name : Text
  /-- Whether it is cut into sections for field kinds. -/
  hasSections : Bool
  /-- Whether it is a client module, which may carry the directive. -/
  isClient : Bool
  deriving DecidableEq, Repr

/-- The text that is written for a template file whose text is `source`. -/
def TemplateFile.emit (file : TemplateFile) (choices : Choices)
    (source : Text) : Text :=
  let selected :=
    if file.hasSections then Comment.strip (Section.filter choices.kinds source)
      else source
  Alias.replace choices.components choices.utils
    (Directive.apply (choices.directive && file.isClient) selected)

inductive Edit where
  | filter (kinds : List FieldKind)
  | stripComments
  | directive (wanted : Bool)
  | aliases (components utils : Text)
  deriving DecidableEq, Repr

def Edit.run : Edit → Text → Text
  | filter kinds, s => Section.filter kinds s
  | stripComments, s => Comment.strip s
  | directive wanted, s => Directive.apply wanted s
  | aliases components utils, s => Alias.replace components utils s

/-- The texts after each of several rewritings, made one on the other. -/
def Edit.states : List Edit → Text → List Text
  | [], _ => []
  | e :: rest, s => e.run s :: states rest (e.run s)

end FormScaffold
