import SaveManifest.Yaml.Style

/-!
# Tokens of YAML

What a stream is made of, block structure included: indentation shows as the tokens that begin
and end a block. Where a key may turn out to begin, the stream holds a numbered slot; when the
colon behind the key is met the slot is filled, so that tokens are only ever added at the end.
`resolveSlots` puts the fillings in their places.
-/

namespace SaveManifest.Yaml

/-- A token of a stream. -/
inductive Token where
  | version (major minor : Nat)
  | tagDirective (handle stem : String)
  | documentStart
  | documentEnd
  | blockSequence
  | blockMapping
  | blockEnd
  | flowSequence
  | flowSequenceEnd
  | flowMapping
  | flowMappingEnd
  | blockEntry
  | flowEntry
  | key
  | value
  | alias (name : String)
  | anchor (name : String)
  | tag (handle suffix : String)
  | scalar (style : Style) (text : String)
deriving DecidableEq, Repr

/-- A token, or a place where a key may begin. -/
inductive Item where
  | token (token : Token)
  | slot (number : Nat)
deriving DecidableEq, Repr

/-- The tokens of a stream with each slot replaced by what it was filled with. -/
def resolveSlots (fillings : List (Nat × List Token)) (items : List Item) : List Token :=
  items.flatMap fun
    | .token token => [token]
    | .slot number => (fillings.lookup number).getD []

end SaveManifest.Yaml
