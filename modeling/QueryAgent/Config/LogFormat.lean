import QueryAgent.Json.Decode
import QueryAgent.Text.LowerCase

namespace QueryAgent

/-!
# Log formats

The forms in which log lines are written.
-/

/-- The form of a log line. -/
inductive LogFormat where
  | compact
  | json
deriving Repr, DecidableEq

namespace LogFormat

/-- The name of a format. -/
def name : LogFormat → String
  | .compact => "compact"
  | .json => "json"

/-- The format of a name in any case, or the words that refuse the name. -/
def ofName
    (name : String) : Except String LogFormat :=
  match Text.lowerCase name with
  | "compact" => .ok .compact
  | "text" => .ok .compact
  | "json" => .ok .json
  | "jsonl" => .ok .json
  | other => .error ("unknown log format '" ++ other ++ "'")

/-- Decodes the name of a format in a document. -/
def decode : Json.Decoder LogFormat :=
  Json.decodeVariant [(name .compact, .compact), (name .json, .json)]

end LogFormat

end QueryAgent
