import SupervisedShell.Text.ClusterBreak
import SupervisedShell.Unicode.Age
import SupervisedShell.Unicode.Binary
import SupervisedShell.Unicode.Script

set_option autoImplicit false

namespace SupervisedShell.Unicode

inductive Query where
  | named (name : List Char)
  | valued (property value : List Char)
  deriving DecidableEq, Repr

inductive Unknown where
  | property
  | value
  deriving DecidableEq, Repr

/-- Properties with values for which there is no table, and properties with other names. -/
def untabled : List String :=
  ["bidiclass", "bc", "bidimirrored", "bidim", "bidimirroringglyph", "bmg", "bidipairedbracket",
    "bpb", "bidipairedbrackettype", "bpt", "block", "blk", "canonicalcombiningclass", "ccc",
    "casefolding", "cf", "changeswhennfkccasefolded", "cwkcf", "compositionexclusion", "ce",
    "decompositionmapping", "dm", "decompositiontype", "dt", "eastasianwidth", "ea",
    "equivalentunifiedideograph", "equideo", "expandsonnfc", "xonfc", "expandsonnfd", "xonfd",
    "expandsonnfkc", "xonfkc", "expandsonnfkd", "xonfkd", "fcnfkcclosure", "fcnfkc",
    "fullcompositionexclusion", "compex", "hangulsyllabletype", "hst", "indicconjunctbreak", "incb",
    "indicpositionalcategory", "inpc", "indicsyllabiccategory", "insc", "isc",
      "jamoshortname", "jsn",
    "joininggroup", "jg", "joiningtype", "jt", "linebreak", "lb", "lowercasemapping", "lc", "name",
    "na", "unicode1name", "na1", "namealias", "nfcquickcheck", "nfcqc", "nfdquickcheck", "nfdqc",
    "nfkccasefold", "nfkccf", "nfkcquickcheck", "nfkcqc", "nfkcsimplecasefold", "nfkcscf",
    "nfkdquickcheck", "nfkdqc", "numerictype", "nt", "numericvalue", "nv",
      "simplecasefolding", "scf",
    "sfc", "simplelowercasemapping", "slc", "simpletitlecasemapping", "stc",
    "simpleuppercasemapping", "suc", "titlecasemapping", "tc", "uppercasemapping", "uc",
    "verticalorientation", "vo", "unicoderadicalstroke", "urs", "krsunicode", "cjkrsunicode",
    "kaccountingnumeric", "cjkaccountingnumeric", "kcompatibilityvariant",
    "cjkcompatibilityvariant", "kiicore", "cjkiicore", "kothernumeric", "cjkothernumeric",
    "kprimarynumeric", "cjkprimarynumeric", "kirggsource", "cjkirggsource", "kirghsource",
    "cjkirghsource", "kirgjsource", "cjkirgjsource", "kirgkpsource", "cjkirgkpsource",
    "kirgksource", "cjkirgksource", "kirgmsource", "cjkirgmsource", "kirgssource",
    "cjkirgssource", "kirgtsource", "cjkirgtsource", "kirguksource", "cjkirguksource",
    "kirgusource", "cjkirgusource", "kirgvsource", "cjkirgvsource", "kehcat", "kehdesc", "kehfunc",
    "kehfval", "kehhg", "kehifao", "kehjsesh", "kehnomirror", "kehnorotate", "kehunik"]

/-- Letters become small; blanks, marks between words and an `is` in front are left out, and so is
whatever does not belong to ASCII. The short name `isc` stays whole. -/
def loose (name : List Char) : String :=
  let kept (cs : List Char) : List Char :=
    (cs.filter fun c => c.toNat ≤ 0x7F && c ≠ ' ' && c ≠ '_' && c ≠ '-').map Char.toLower
  match name with
  | a :: b :: rest =>
    if (a = 'i' ∨ a = 'I') ∧ (b = 's' ∨ b = 'S') then
      if kept rest = ['c'] then "isc" else String.ofList (kept rest)
    else String.ofList (kept name)
  | _ => String.ofList (kept name)

/-- Composed syllables of Hangul: in each group of 28 the first has no trailing consonant. -/
def openSyllables : CharSet := .ofTable "AC00-D788:1C"

/-- What belongs to the last version of the standard that properties are known for. -/
def old (rs : Ranges) : CharSet := (CharSet.ofRanges rs).difference Category.unassigned

def clusterClass? (name : String) : Option CharSet :=
  match name with
  | "cr" => some (.single '\r')
  | "lf" => some (.single '\n')
  | "cn" | "control" => some (.ofRanges Text.controls)
  | "ex" | "extend" =>
    some ((old (Text.extending ++ Text.skinTones)).difference (.ofTable "200D"))
  | "zwj" => some (.ofTable "200D")
  | "ri" | "regionalindicator" => some (.ofTable "1F1E6-1F1FF")
  | "pp" | "prepend" => some ((CharSet.ofRanges Text.prepended).union (.ofTable "11A3A"))
  | "sm" | "spacingmark" => some (old Text.spacingMarks)
  | "l" => some (.ofTable "1100-115F A960-A97C")
  | "v" => some (.ofRanges ([(0x1160, 0x11A7), (0xD7B0, 0xD7C6)] ++ Text.joiningVowels))
  | "t" => some (.ofTable "11A8-11FF D7CB-D7FB")
  | "lv" => some openSyllables
  | "lvt" => some ((CharSet.ofTable "AC00-D7A3").difference openSyllables)
  | _ => none

inductive Family where
  | category
  | script
  | scriptExtensions
  | age
  | clusterBreak
  | wordBreak
  | sentenceBreak
  deriving DecidableEq, Repr

def Family.ofName? : String → Option Family
  | "gc" | "generalcategory" => some .category
  | "sc" | "script" => some .script
  | "scx" | "scriptextensions" => some .scriptExtensions
  | "age" => some .age
  | "gcb" | "graphemeclusterbreak" => some .clusterBreak
  | "wb" | "wordbreak" => some .wordBreak
  | "sb" | "sentencebreak" => some .sentenceBreak
  | _ => none

def Family.value? (f : Family) (value : String) : Option CharSet :=
  match f with
  | .category => Category.ofName? value
  | .script => (Script.ofName? value).map Script.characters
  | .scriptExtensions => (Script.ofName? value).map Script.extended
  | .age => Age.ofName? value
  | .clusterBreak => clusterClass? value
  | .wordBreak => BreakClass.ofName? wordBreaks value
  | .sentenceBreak => BreakClass.ofName? sentenceBreaks value

/-- A category or a script, of which some have a name and no character to show for it. -/
def ofValue (name : String) : Except Unknown CharSet :=
  match Category.ofName? name, Script.ofName? name with
  | some s, _ => .ok s
  | none, some s => .ok s.characters
  | none, none =>
    .error (if name = "cs" ∨ name = "surrogate" ∨ Script.empties.contains name then .value
      else .property)

/-- Of the names that stand for a property and a category alike, the category has three. -/
def Query.characters (q : Query) : Except Unknown CharSet :=
  match q with
  | .named name =>
    let name := loose name
    if name = "cf" ∨ name = "sc" ∨ name = "lc" then ofValue name
    else
      match Binary.ofName? name with
      | some s => .ok s
      | none =>
        if untabled.contains name ∨ (Family.ofName? name).isSome then .error .property
        else ofValue name
  | .valued property value =>
    match Family.ofName? (loose property) with
    | some f => (f.value? (loose value)).elim (.error .value) .ok
    | none =>
      let known := untabled.contains (loose property) || (Binary.ofName? (loose property)).isSome
      .error (if known then .value else .property)

end SupervisedShell.Unicode
