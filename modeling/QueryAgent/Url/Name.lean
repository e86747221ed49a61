import QueryAgent.Text.Split
import QueryAgent.Url.Label

namespace QueryAgent.Url

/-!
# Names of hosts

A name is kept in one form: its characters replaced by what stands for them,
composed, and each label written in ASCII.  Once one label runs from right to
left, every label has to run one way only.
-/

/-- The labels of a name, none when the characters are no name. -/
def nameLabels?
    (name : List Char) : Option (List Label) := do
  let replaced ← name.mapM nameForm?
  let composed := Text.composedForm replaced.flatten
  if composed.any isForbiddenInName then
    none
  else
    let labels ← (Text.splitAll (· == '.') composed).mapM Label.ofChars?
    if labels.any Label.hasRightToLeft && !labels.all Label.runsOneWay then
      none
    else
      some labels

/-- The form in which a name is kept, none when the characters are no name. -/
def canonicalName?
    (name : List Char) : Option (List Char) :=
  (nameLabels? name).map fun labels => ['.'].intercalate (labels.map Label.written)

end QueryAgent.Url
