import Molly.Acquisition.Resplit

/-! What a reader finds in a sanitized URL, and when no secret is in it. -/
namespace Molly
namespace Urls

/-! ### What is found in a URL -/

/-- The percent-decoded segments of a path. -/
def segments (path : PyText) : List PyText := (path.splitOn 47).map unquote

/-- The secrets do not occur in the text. -/
def Free (secrets : List PyText) (text : PyText) : Prop := ∀ secret ∈ secrets, ¬secret <:+: text

/-- The decoded segments of a URL's path, and its decoded query fields. -/
structure Contents where
  segments : List PyText
  fields : List (PyText × PyText)

namespace Contents

def texts (c : Contents) : List PyText := c.segments ++ (c.fields.map Prod.fst ++ c.fields.map Prod.snd)

end Contents

section
variable [CaseText] [CompatText]

end
end Urls

namespace Sample
open Urls

attribute [local instance] asciiCase asciiCompat

end Sample
end Molly
