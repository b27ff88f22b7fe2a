import PropertyTemplates.Pattern.Match

namespace PropertyTemplates.Pattern

-- Replaces every match in a text. After a match the search goes on at its end, where a match of
-- nothing does not count; after such a match it goes on one character later.
def replaceFrom (p : Pattern) (put : Match → List Char → List Char) (before : Option Char)
    (afterMatch : Bool) : List Char → List Char
  | [] =>
    match p.matchAt before [] with
    | some m => if afterMatch then [] else put m []
    | none => []
  | c :: cs =>
    match p.matchAt before (c :: cs) with
    | none => c :: replaceFrom p put (some c) false cs
    | some m =>
      match m.length with
      | 0 =>
        (if afterMatch then [] else put m (c :: cs)) ++ c :: replaceFrom p put (some c) false cs
      | n + 1 =>
        put m (c :: cs) ++ replaceFrom p put ((c :: cs)[n]?) true (cs.drop n)
termination_by cs => cs.length
decreasing_by all_goals simp only [List.length_cons, List.length_drop]; omega

-- Replaces every match in a text by what is put for it; that is made from the match and the text
-- from its start on.
def replaceAll (p : Pattern) (put : Match → List Char → List Char) (text : List Char) : List Char :=
  p.replaceFrom put none false text

end PropertyTemplates.Pattern
