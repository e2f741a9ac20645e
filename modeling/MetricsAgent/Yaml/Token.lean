import MetricsAgent.Yaml.Error

/-!
# Tokens

The smallest parts of a document: punctuation, scalars, and the indentation that opens and closes
collections.
-/

namespace MetricsAgent.Yaml

/-- How a scalar is written. -/
inductive ScalarStyle
  | plain
  | single
  | double
  | literal
  | folded
  deriving DecidableEq, Repr

/-- A directive line. -/
inductive Directive
  | version (major minor : Nat)
  | tagHandle (handle stem : String)
  | unknown (name : String)
  deriving DecidableEq, Repr

/-- A kind of token, with its content. -/
inductive Token.Kind
  | directive (d : Directive)
  | documentStart
  | documentEnd
  | streamStart
  | streamEnd
  | blockSequenceStart
  | blockMappingStart
  | blockEnd
  | flowSequenceStart
  | flowMappingStart
  | flowSequenceEnd
  | flowMappingEnd
  | key
  | value
  | blockEntry
  | flowEntry
  | alias (name : String)
  | anchor (name : String)
  | tag (handle : Option String) (suffix : String)
  | scalar (text : String) (style : ScalarStyle)
  deriving DecidableEq, Repr

instance : Inhabited Token.Kind := ⟨.streamEnd⟩

/-- The name of a kind in messages. -/
def Token.Kind.name : Token.Kind → String
  | .directive _ => "<directive>"
  | .documentStart => "<document start>"
  | .documentEnd => "<document end>"
  | .streamStart => "<stream start>"
  | .streamEnd => "<stream end>"
  | .blockSequenceStart => "<block sequence start>"
  | .blockMappingStart => "<block mapping start>"
  | .blockEnd => "<block end>"
  | .flowSequenceStart => "["
  | .flowMappingStart => "\x7b"
  | .flowSequenceEnd => "]"
  | .flowMappingEnd => "\x7d"
  | .key => "?"
  | .value => ":"
  | .blockEntry => "-"
  | .flowEntry => ","
  | .alias _ => "<alias>"
  | .anchor _ => "<anchor>"
  | .tag .. => "<tag>"
  | .scalar .. => "<scalar>"

/-- A token and the stretch of text it covers. -/
structure Token where
  kind : Token.Kind
  first : Mark
  last : Mark
  deriving DecidableEq, Repr, Inhabited

end MetricsAgent.Yaml
