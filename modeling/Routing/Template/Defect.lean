/-!
# Defects of templates

What can be wrong with the brackets of a route template. Offsets count the bytes of the template in
UTF-8.
-/

namespace Routing

/-- A reason for which a template has no meaning. -/
inductive TemplateDefect where
  /-- No `]` follows a `[`. -/
  | unclosed (offset : Nat)
  /-- Another `[` follows before the next `]`; the offset is that of the outer one. -/
  | nested (offset : Nat)
  /-- A `]` stands outside of any placeholder. -/
  | unbalanced (offset : Nat)
  /-- More than one `:` stands in a placeholder. -/
  | repeatedColon (body : String)
  /-- The brackets are in order but a fragment makes no regular expression. -/
  | badExpression
  deriving Repr, DecidableEq

namespace TemplateDefect

/-- The defect in words. -/
def message : TemplateDefect → String
  | unclosed offset => "unclosed '[' at offset " ++ toString offset
  | nested offset => "nested '[' at offset " ++ toString offset
  | unbalanced offset => "unbalanced ']' at offset " ++ toString offset
  | repeatedColon body => "placeholder '[" ++ body ++ "]' has more than one ':'"
  | badExpression => "not a regular expression"

end TemplateDefect

end Routing
