import Cohort.Artifact.Shape
import Cohort.Definition.Document
import Cohort.Json.Reader
import Cohort.Wording

/-! # Loading artifacts

An artifact is read from the text of a file: the text must be a document, the document must have the
shape of an artifact, and it must then be readable as one. A file that cannot be read comes with the
message that says why. -/

namespace Cohort

/-- Why the content of a file is no artifact. -/
inductive ArtifactFault where
  /-- What is wrong with the shape of the document. -/
  | badShape (errors : List String)
  | badTypes (detail : String)
  /-- The artifact was read, but what prepares it for use refuses it. -/
  | refused (message : String)
deriving Repr, DecidableEq

/-- The message of a fault. -/
def ArtifactFault.message : ArtifactFault → String
  | .badShape errors =>
      "Artifact validation failed:\n" ++ Json.separated "\n" (errors.map ("Error: " ++ ·))
  | .badTypes detail => "Failed to deserialize test matrix: " ++ detail
  | .refused message => message

/-- Why no artifact was loaded. -/
inductive LoadError where
  | artifact (file : String) (fault : ArtifactFault)
  | unreadable (detail : String)
  | notJson (detail : String)
deriving Repr, DecidableEq

/-- The message of an error. -/
def LoadError.message : LoadError → String
  | .artifact file fault => "Artifact error in " ++ file ++ ": " ++ fault.message
  | .unreadable detail => "Failed to read file: " ++ detail
  | .notJson detail => "Failed to parse JSON: " ++ detail

namespace Artifact

/-- The artifact of a document; `source` only labels errors. -/
def ofDocument (w : Wording) (source : String) (v : Json) : Except LoadError Artifact :=
  if !Shape.artifact.accepts v then .error (.artifact source (.badShape (w.shape v)))
  else match Artifact.ofJson? v with
    | none => .error (.artifact source (.badTypes (w.artifact v)))
    | some a => .ok a

/-- The artifact of a text. -/
def ofText (w : Wording) (source text : String) : Except LoadError Artifact :=
  match Json.parse? text with
  | none => .error (.notJson (w.notJson text))
  | some v => ofDocument w source v

/-- The artifact of a file, which may not be there. -/
def ofFile (w : Wording) (path : String) (content : Except String String) :
    Except LoadError Artifact :=
  match content with
  | .error detail => .error (.unreadable detail)
  | .ok text => ofText w path text

end Artifact

end Cohort
