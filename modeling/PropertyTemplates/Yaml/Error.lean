namespace PropertyTemplates.Yaml

-- Why a text is not a YAML document.
inductive YamlError where
  | unprintable (c : Char)
  | badStart (c : Char)
  | tabIndentation
  | documentMark
  | unclosedQuote
  | badEscape
  | badBlockHeader
  | unexpectedColon
  | badAnchor
  | badTag
  | badDirective
  | misplacedEntry
  | misplacedKey
  | misplacedValue
  | missingColon
  | unexpectedToken
  | missingNode
  | undefinedTagHandle (handle : String)
  | unknownAnchor (name : String)
  | moreThanOneDocument
deriving DecidableEq, Repr

def YamlError.message : YamlError → String
  | .unprintable _ => "control characters are not allowed"
  | .badStart c => "found character '" ++ String.singleton c ++ "' that cannot start any token"
  | .tabIndentation => "found a tab character that violates indentation"
  | .documentMark => "found unexpected document indicator"
  | .unclosedQuote => "found unexpected end of stream in a quoted scalar"
  | .badEscape => "found unknown escape sequence in a quoted scalar"
  | .badBlockHeader => "did not find expected comment or line break after a block scalar header"
  | .unexpectedColon => "found unexpected ':' in a plain scalar"
  | .badAnchor => "did not find expected alphabetic or numeric character in an anchor"
  | .badTag => "did not find expected tag"
  | .badDirective => "found an invalid directive"
  | .misplacedEntry => "block sequence entries are not allowed in this context"
  | .misplacedKey => "mapping keys are not allowed in this context"
  | .misplacedValue => "mapping values are not allowed in this context"
  | .missingColon => "could not find expected ':'"
  | .unexpectedToken => "did not find expected token"
  | .missingNode => "did not find expected node content"
  | .undefinedTagHandle handle => "found undefined tag handle '" ++ handle ++ "'"
  | .unknownAnchor name => "unknown anchor '" ++ name ++ "'"
  | .moreThanOneDocument => "deserializing from YAML containing more than one document"

end PropertyTemplates.Yaml
