import FormScaffold.Manifest
import FormScaffold.Url.Parser
import FormScaffold.FileTree.Access

/-!
# Where templates come from

Templates are files in a directory, or documents below a URL.  A directory may
bring its own manifest.  Of a document below a URL the address is worked out
here; what the address answers, the workspace tells.
-/

namespace FormScaffold

/-- Where templates come from. -/
inductive TemplateSource where
  | remote (base : Url)
  | directory (path : Path)
  deriving DecidableEq, Repr

/-- Why a document was not had. -/
inductive Refusal where
  /-- The request failed, or the reading of its answer. -/
  | failed (cause : Text)
  /-- The answer was no success. -/
  | status (code : Nat) (reason : Text)
  deriving DecidableEq, Repr

def Refusal.message : Refusal → Text
  | failed cause => cause
  | status code reason =>
      "HTTP ".toList ++ (toString code).toList ++ [' '] ++ reason

inductive SourceError where
  | unreadable (path : Path) (cause : IoError)
  | unreached (url : Text) {refusal : Refusal}
  | noSegments (file : Text) (base : Url)
  deriving DecidableEq, Repr

namespace SourceError

def message : SourceError → Text
  | unreadable p e =>
      "Failed to read ".toList ++ p.text ++ ": ".toList ++ e.message
  | @unreached url r =>
      "Failed to fetch ".toList ++ url ++ ": ".toList ++ r.message
  | noSegments file base =>
    "Invalid template URL for '".toList ++ file ++
      "': URL cannot have path segments: ".toList ++ base.toText

end SourceError

inductive ManifestError where
  | unreadable (path : Path) (cause : IoError)
  | malformed (path : Path)
  deriving DecidableEq, Repr

namespace TemplateSource

def manifestName : Path := ⟨"template.yaml".toList⟩

/-- The document at an address. -/
def download (w : Workspace) (url : Text) : Except SourceError Text :=
  match w.web.answer url with
  | .error cause => .error (@SourceError.unreached url (.failed cause))
  | .ok r =>
    if r.isSuccess then
      match r.text with
      | .ok s => .ok s
      | .error cause => .error (@SourceError.unreached url (.failed cause))
    else .error (@SourceError.unreached url (.status r.status r.reason))

def fetch (w : Workspace) (source : TemplateSource) (file : Text) :
    Except SourceError Text :=
  match source with
  | directory path =>
    let full := path.join ⟨file⟩
    match w.readText full with
    | .ok s => .ok s
    | .error e => .error (.unreadable full e)
  | remote base =>
    match base.append? file with
    | some url => download w url.toText
    | none => .error (.noSegments file base)

/-- The manifest of a source, or else the given one. -/
def manifest (w : Workspace) (source : TemplateSource) (otherwise : Manifest) :
    Except ManifestError Manifest :=
  match source with
  | remote _ => .ok otherwise
  | directory path =>
    let full := path.join manifestName
    if w.exists? full then
      match w.readText full with
      | .error e => .error (.unreadable full e)
      | .ok s =>
        match Manifest.parse? s with
        | some m => .ok m
        | none => .error (.malformed full)
    else .ok otherwise

end TemplateSource
end FormScaffold
