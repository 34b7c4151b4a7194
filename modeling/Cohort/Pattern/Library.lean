/-! # Pattern libraries

Name patterns are compiled by a library. All that is asked of it is what it makes of a text: a test
of texts, which some part of a text has to pass, or a refusal with a message of its own. A pattern
for names has to match the whole of a name, and so its text is compiled between anchors. -/

namespace Cohort

/-- What compiles patterns. -/
structure PatternLibrary where
  /-- The compiled pattern of a text, as the test whether it is found in another text; or the
  library's message about the text. -/
  compile : String → Except String (String → Bool)

/-- Compiles a text that has to match from the first character of a text to the last. -/
def PatternLibrary.compileWhole (r : PatternLibrary) (text : String) :
    Except String (String → Bool) :=
  r.compile ("^(?:" ++ text ++ ")$")

end Cohort
