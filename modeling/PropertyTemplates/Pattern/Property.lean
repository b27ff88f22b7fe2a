import PropertyTemplates.Pattern.CharSet

namespace PropertyTemplates.Pattern

open Text

-- Names of properties compare in small letters, without separators and without "is" in front;
-- characters beyond ASCII do not count.
def normalName (name : List Char) : String :=
  let counts c := c != ' ' && c != '_' && c != '-' && c.toNat < 128
  let kept := (name.filter counts).map Char.toLower
  match name.map Char.toLower, kept with
  | 'i' :: 's' :: _, 'i' :: 's' :: rest =>
    -- The name "isc" stays what it is.
    if rest = ['c'] then "isc" else String.ofList rest
  | _, _ => String.ofList kept

-- The names of the general categories, and of the groups of them.
def categoryNames : List (List String × List Category) :=
  [(["lu", "uppercaseletter"], [.uppercaseLetter]),
   (["ll", "lowercaseletter"], [.lowercaseLetter]),
   (["lt", "titlecaseletter"], [.titlecaseLetter]),
   (["lm", "modifierletter"], [.modifierLetter]),
   (["lo", "otherletter"], [.otherLetter]),
   (["lc", "casedletter"], [.uppercaseLetter, .lowercaseLetter, .titlecaseLetter]),
   (["l", "letter"],
    [.uppercaseLetter, .lowercaseLetter, .titlecaseLetter, .modifierLetter, .otherLetter]),
   (["mn", "nonspacingmark"], [.nonspacingMark]),
   (["mc", "spacingmark"], [.spacingMark]),
   (["me", "enclosingmark"], [.enclosingMark]),
   (["m", "mark", "combiningmark"], [.nonspacingMark, .spacingMark, .enclosingMark]),
   (["nd", "decimalnumber", "digit"], [.decimalNumber]),
   (["nl", "letternumber"], [.letterNumber]),
   (["no", "othernumber"], [.otherNumber]),
   (["n", "number"], [.decimalNumber, .letterNumber, .otherNumber]),
   (["pc", "connectorpunctuation"], [.connectorPunctuation]),
   (["pd", "dashpunctuation"], [.dashPunctuation]),
   (["ps", "openpunctuation"], [.openPunctuation]),
   (["pe", "closepunctuation"], [.closePunctuation]),
   (["pi", "initialpunctuation"], [.initialPunctuation]),
   (["pf", "finalpunctuation"], [.finalPunctuation]),
   (["po", "otherpunctuation"], [.otherPunctuation]),
   (["p", "punctuation", "punct"],
    [.connectorPunctuation, .dashPunctuation, .openPunctuation, .closePunctuation,
     .initialPunctuation, .finalPunctuation, .otherPunctuation]),
   (["sm", "mathsymbol"], [.mathSymbol]),
   (["sc", "currencysymbol"], [.currencySymbol]),
   (["sk", "modifiersymbol"], [.modifierSymbol]),
   (["so", "othersymbol"], [.otherSymbol]),
   (["s", "symbol"], [.mathSymbol, .currencySymbol, .modifierSymbol, .otherSymbol]),
   (["zs", "spaceseparator"], [.spaceSeparator]),
   (["zl", "lineseparator"], [.lineSeparator]),
   (["zp", "paragraphseparator"], [.paragraphSeparator]),
   (["z", "separator"], [.spaceSeparator, .lineSeparator, .paragraphSeparator]),
   (["cc", "control", "cntrl"], [.control]),
   (["cf", "format"], [.format]),
   (["cs", "surrogate"], [.surrogate]),
   (["co", "privateuse"], [.privateUse]),
   (["cn", "unassigned"], [.unassigned]),
   (["c", "other"], [.control, .format, .surrogate, .privateUse, .unassigned])]

def categorySet? (name : String) : Option CharSet :=
  match name with
  | "any" => some .all
  | "assigned" => some (.compl (.categories [.unassigned]))
  | "ascii" => some (.range 0 0x7f)
  | _ => (categoryNames.find? fun (names, _) => names.contains name).map fun (_, members) =>
      .categories members

def scriptSet? (name : String) : Option CharSet :=
  match name with
  | "qaai" => some (.scriptOf "Zinh")
  | "qaac" => some (.scriptOf "Copt")
  | "zzzz" | "unknown" => some (.scriptOf "Zzzz")
  | _ => (scriptNames.find? fun (code, long) =>
      normalName code.toList == name || normalName long.toList == name).map fun (code, _) =>
        .scriptOf code

-- Properties that have values; by themselves they describe no set of characters.
def valuedProperties : List String :=
  ["age", "bidiclass", "bc", "block", "blk", "canonicalcombiningclass", "ccc", "casefolding",
   "decompositionmapping", "dm", "decompositiontype", "dt", "eastasianwidth", "ea",
   "generalcategory", "gc", "graphemeclusterbreak", "gcb", "hangulsyllabletype", "hst",
   "indicpositionalcategory", "inpc", "indicsyllabiccategory", "insc", "joininggroup", "jg",
   "joiningtype", "jt", "linebreak", "lb", "lowercasemapping", "name", "na", "numerictype", "nt",
   "numericvalue", "nv", "script", "scriptextensions", "scx", "sentencebreak", "sb",
   "simplecasefolding", "scf", "simplelowercasemapping", "slc", "simpletitlecasemapping", "stc",
   "simpleuppercasemapping", "suc", "titlecasemapping", "tc", "uppercasemapping", "uc",
   "verticalorientation", "vo", "wordbreak", "wb"]

def binarySet? (name : String) : Option CharSet :=
  match (binaryProperties.find? fun (long, _) => normalName long.toList == name) with
  | some (long, _) => some (.binary long)
  | none => (binaryPropertyAliases.lookup name).map .binary

-- The set that a name alone describes: a binary property, a general category or a script. Three
-- short names stand for categories although properties share them.
def namedSet? (name : List Char) : Option CharSet :=
  let name := normalName name
  let asProperty := name != "cf" && name != "sc" && name != "lc"
  if asProperty && valuedProperties.contains name then none
  else match if asProperty then binarySet? name else none with
    | some set => some set
    | none => (categorySet? name).or (scriptSet? name)

-- The set of the characters for which a property has a value.
def valuedSet? (property value : List Char) : Option CharSet :=
  let value := normalName value
  match normalName property with
  | "gc" | "generalcategory" => categorySet? value
  | "sc" | "script" | "scx" | "scriptextensions" => scriptSet? value
  | _ => none

end PropertyTemplates.Pattern
