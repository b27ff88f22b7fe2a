namespace PropertyTemplates.Pattern

-- Why a text is not a pattern.
inductive PatternError where
  | unclosedGroup
  | unopenedGroup
  | nothingToRepeat
  | badCount
  | unclosedClass
  | badRange
  | notInClass
  | unfinishedEscape
  | unknownEscape (c : Char)
  | badHex
  | unknownProperty (name : String)
  | lookaround
  | backreference
  | badGroupName
  | repeatedGroupName (name : String)
  | unfinishedFlags
  | badFlags
  -- Outside of Unicode mode a pattern may not describe a part of a character.
  | needsUnicode
  | tooNested
  | tooLarge
deriving DecidableEq, Repr

def PatternError.message : PatternError → String
  | .unclosedGroup => "unclosed group"
  | .unopenedGroup => "unopened group"
  | .nothingToRepeat => "repetition operator missing expression"
  | .badCount => "invalid repetition count"
  | .unclosedClass => "unclosed character class"
  | .badRange => "invalid character class range"
  | .notInClass => "invalid escape sequence found in character class"
  | .unfinishedEscape => "incomplete escape sequence"
  | .unknownEscape c => "unrecognized escape sequence '" ++ String.ofList ['\\', c] ++ "'"
  | .badHex => "invalid hexadecimal escape"
  | .unknownProperty name => "unknown Unicode property '" ++ name ++ "'"
  | .lookaround => "look-around is not supported"
  | .backreference => "backreferences are not supported"
  | .badGroupName => "invalid capture group name"
  | .repeatedGroupName name => "duplicate capture group name '" ++ name ++ "'"
  | .unfinishedFlags => "expected flag but got end of pattern"
  | .badFlags => "invalid flags"
  | .needsUnicode => "pattern can match invalid UTF-8"
  | .tooNested => "exceeded the maximum number of nested parentheses and brackets"
  | .tooLarge => "pattern exceeds the size limit"

end PropertyTemplates.Pattern
