namespace Annex

/-! Text columns that hold JSON. What the program writes is the encoding of a
value. Anything else may stand there too: JSON of another shape, which does not
decode to the value, or no JSON at all. -/

inductive JsonText (α : Type) where
  | encoded (value : α)
  | foreign (json : String)
  | malformed (text : String)
deriving DecidableEq, Repr

namespace JsonText

variable {α : Type}

/-- `serde_json::from_str` into the type of the column. -/
def decode : JsonText α → Option α
  | encoded value => some value
  | foreign _ => none
  | malformed _ => none

/-- `decode`, with the text the parser reports a failure with. -/
def parse (errorText : String → String) : JsonText α → Except String α
  | encoded value => .ok value
  | foreign json => .error (errorText json)
  | malformed text => .error (errorText text)

/-- `serde_json::from_str` into any JSON value. -/
def isJson : JsonText α → Bool
  | encoded _ => true
  | foreign _ => true
  | malformed _ => false

@[simp] theorem decode_encoded (value : α) : (encoded value).decode = some value := rfl

@[simp] theorem decode_foreign (json : String) :
    (foreign json : JsonText α).decode = none := rfl

@[simp] theorem decode_malformed (text : String) :
    (malformed text : JsonText α).decode = none := rfl

end JsonText

end Annex
