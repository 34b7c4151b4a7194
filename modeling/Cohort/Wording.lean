import Cohort.Yaml

/-! # Wordings

What a library says about a text or a document that it refuses. Errors quote such messages, and
nothing else depends on them: whether something is refused is decided here, and only the words come
from the library. -/

namespace Cohort

/-- The messages of the libraries that read documents. -/
structure Wording where
  /-- Of a text that is no document. -/
  notJson : String → String
  /-- Of a document that has not the shape of an artifact, one for each fault. -/
  shape : Json → List String
  /-- Of a document that has the shape of an artifact and is none. -/
  artifact : Json → String
  /-- Of a document that is no definition. -/
  definition : Json → String
  /-- Of a text that is no specification. -/
  specification : String → String
  /-- Of a YAML document with a key that has no text. -/
  keys : Yaml → String

/-- The messages of the project's own readers. -/
def Wording.plain : Wording where
  notJson _ := "the text is no document"
  shape _ := ["the document has not the shape of an artifact"]
  artifact _ := "a value is out of its range"
  definition _ := "a field is missing or has a value of another kind"
  specification _ := "the text is no specification"
  keys _ := "a key has no text"

end Cohort
